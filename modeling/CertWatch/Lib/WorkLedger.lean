/-
# `CertWatch.Lib.WorkLedger` — who has which item of a shared queue, and how many are unfinished.

Producers put items, consumers take one at a time, begin with it and finish it.  The items are numbered by their puts,
so that equal ones are told apart.  The ledger remembers who has taken which number and who has begun with which; as
long as every operation meets its condition, no number is taken or begun with twice, and the unfinished ones are those
in the queue and those in somebody's hands.
-/
import Mathlib.Data.Finset.Card
import Mathlib.Data.Fintype.Basic
import Mathlib.Data.List.Nodup
import Mathlib.Data.List.Range
import Mathlib.Logic.Function.Basic

namespace CertWatch.Lib

namespace Ledger

/-- An item with the number of its put. -/
structure Numbered (α : Type) where
  number : Nat
  item : α

/-- What a consumer has taken, and whether it has begun with it. -/
structure Hand (α : Type) extends Numbered α where
  begun : Bool

end Ledger

/-- The queue, the count of its unfinished items, and what the consumers have in hand; `taken` and `starts` remember
every number that was taken or begun with. -/
structure Ledger (ι α : Type) where
  queue : List (Ledger.Numbered α) := []
  issued : Nat := 0
  unfinished : Nat := 0
  held : ι → Option (Ledger.Hand α) := fun _ => none
  taken : List (ι × Nat) := []
  starts : List (ι × Option Nat) := []

namespace Ledger

variable {ι α : Type}

/-! ## Operations -/

def put (L : Ledger ι α) (item : α) : Ledger ι α :=
  { L with queue := L.queue ++ [⟨L.issued, item⟩], issued := L.issued + 1, unfinished := L.unfinished + 1 }

section Hands

variable [DecidableEq ι]

def take (i : ι) (L : Ledger ι α) : Ledger ι α :=
  match L.queue with
  | [] => L
  | x :: queue =>
    { L with queue, held := Function.update L.held i (some ⟨x, false⟩), taken := L.taken ++ [(i, x.number)] }

def begin (i : ι) (L : Ledger ι α) : Ledger ι α :=
  { L with
    held := Function.update L.held i ((L.held i).map fun h => { h with begun := true })
    starts := L.starts ++ [(i, (L.held i).map fun h => h.number)] }

def finish (i : ι) (L : Ledger ι α) : Ledger ι α :=
  { L with unfinished := L.unfinished - 1, held := Function.update L.held i none }

variable {L : Ledger ι α} {i j : ι}

theorem held_take_self {x : Numbered α} {queue : List (Numbered α)} (h : L.queue = x :: queue) :
    (L.take i).held i = some ⟨x, false⟩ := by
  simp only [take, h, Function.update_self]

@[simp] theorem held_begin_self : (L.begin i).held i = (L.held i).map fun h => { h with begun := true } :=
  Function.update_self ..

@[simp] theorem held_finish_self : (L.finish i).held i = none := Function.update_self ..

theorem held_take_ne (h : j ≠ i) : (L.take i).held j = L.held j := by
  unfold take
  split
  · rfl
  · exact Function.update_of_ne h ..

theorem held_begin_ne (h : j ≠ i) : (L.begin i).held j = L.held j := Function.update_of_ne h ..

theorem held_finish_ne (h : j ≠ i) : (L.finish i).held j = L.held j := Function.update_of_ne h ..

/-- Nothing joins the queue when something is taken. -/
theorem mem_queue_of_take {x : Numbered α} (h : x ∈ (L.take i).queue) : x ∈ L.queue := by
  unfold take at h
  split at h
  · exact h
  · rename_i hqueue
    rw [hqueue]
    exact List.mem_cons_of_mem _ h

end Hands

/-! ## Counting the hands -/

section Busy

variable [Fintype ι]

/-- How many consumers have something in hand. -/
def busy (L : Ledger ι α) : Nat := (Finset.univ.filter fun i => (L.held i).isSome).card

variable [DecidableEq ι]

theorem filter_update_some {held : ι → Option (Hand α)} {i : ι} (h : Hand α) :
    (Finset.univ.filter fun j => (Function.update held i (some h) j).isSome) =
      insert i (Finset.univ.filter fun j => (held j).isSome) := by
  ext j
  by_cases hj : j = i
  · subst hj
    simp
  · simp [hj]

theorem filter_update_none {held : ι → Option (Hand α)} {i : ι} :
    (Finset.univ.filter fun j => (Function.update held i none j).isSome) =
      (Finset.univ.filter fun j => (held j).isSome).erase i := by
  ext j
  by_cases hj : j = i
  · subst hj
    simp
  · simp [hj]

theorem card_hands_take {held : ι → Option (Hand α)} {i : ι} (h : Hand α) (hi : held i = none) :
    (Finset.univ.filter fun j => (Function.update held i (some h) j).isSome).card =
      (Finset.univ.filter fun j => (held j).isSome).card + 1 := by
  rw [filter_update_some, Finset.card_insert_of_notMem]
  simp [hi]

theorem card_hands_keep {held : ι → Option (Hand α)} {i : ι} {h : Hand α} (h' : Hand α) (hi : held i = some h) :
    (Finset.univ.filter fun j => (Function.update held i (some h') j).isSome).card =
      (Finset.univ.filter fun j => (held j).isSome).card := by
  rw [filter_update_some, Finset.insert_eq_of_mem]
  simp [hi]

theorem card_hands_finish {held : ι → Option (Hand α)} {i : ι} {h : Hand α} (hi : held i = some h) :
    (Finset.univ.filter fun j => (Function.update held i none j).isSome).card + 1 =
      (Finset.univ.filter fun j => (held j).isSome).card := by
  rw [filter_update_none]
  exact Finset.card_erase_add_one (by simp [hi])

end Busy

/-! ## The books -/

variable [Fintype ι] {L : Ledger ι α} {i : ι}

/-- The books are in order. -/
structure Sound (L : Ledger ι α) : Prop where
  /-- What was taken and what is still queued are the numbers issued, in their order. -/
  numbers : L.taken.map Prod.snd ++ L.queue.map Numbered.number = List.range L.issued
  unfinished : L.unfinished = L.queue.length + L.busy
  hands : ∀ i h, L.held i = some h →
    (i, h.number) ∈ L.taken ∧ (h.begun = false → some h.number ∉ L.starts.map Prod.snd)
  starts_taken : ∀ i x, (i, x) ∈ L.starts → ∃ number, x = some number ∧ (i, number) ∈ L.taken
  starts_nodup : (L.starts.map Prod.snd).Nodup

theorem sound_empty : Sound ({} : Ledger ι α) where
  numbers := rfl
  unfinished := by simp [busy]
  hands := nofun
  starts_taken := nofun
  starts_nodup := List.nodup_nil

namespace Sound

/-- No number is taken twice. -/
theorem taken_nodup (h : L.Sound) : (L.taken.map Prod.snd).Nodup := by
  have hall := List.nodup_range (n := L.issued)
  rw [← h.numbers] at hall
  exact hall.of_append_left

/-- A number belongs to the consumer that has taken it. -/
theorem taken_unique (h : L.Sound) {i j : ι} {number : Nat} (hi : (i, number) ∈ L.taken) (hj : (j, number) ∈ L.taken) :
    i = j :=
  congrArg Prod.fst (List.inj_on_of_nodup_map h.taken_nodup hi hj rfl)

/-- What is queued was not taken. -/
theorem notMem_taken (h : L.Sound) {x : Numbered α} (hx : x ∈ L.queue) (i : ι) : (i, x.number) ∉ L.taken := by
  intro htaken
  have hall := List.nodup_range (n := L.issued)
  rw [← h.numbers] at hall
  exact (List.disjoint_of_nodup_append hall) (List.mem_map_of_mem htaken) (List.mem_map_of_mem hx)

/-- There is something to finish while somebody has an item in hand. -/
theorem unfinished_pos (h : L.Sound) {x : Hand α} (hi : L.held i = some x) : 0 < L.unfinished := by
  have hbusy : 0 < L.busy := Finset.card_pos.mpr ⟨i, by simp [hi]⟩
  have hcount := h.unfinished
  omega

theorem put (h : L.Sound) (item : α) : (L.put item).Sound where
  numbers := by
    show L.taken.map Prod.snd ++ (L.queue ++ [Numbered.mk L.issued item]).map Numbered.number =
      List.range (L.issued + 1)
    rw [List.map_append, ← List.append_assoc, h.numbers, List.range_succ]
    rfl
  unfinished := by
    show L.unfinished + 1 = (L.queue ++ [Numbered.mk L.issued item]).length + L.busy
    rw [h.unfinished, List.length_append, List.length_singleton]
    omega
  hands := h.hands
  starts_taken := h.starts_taken
  starts_nodup := h.starts_nodup

variable [DecidableEq ι]

/-- A consumer whose hands are empty may take the first item. -/
theorem take (h : L.Sound) (hi : L.held i = none) : (L.take i).Sound := by
  unfold Ledger.take
  split
  · exact h
  rename_i x queue hqueue
  have hx : x ∈ L.queue := hqueue ▸ List.mem_cons_self
  constructor
  · show (L.taken ++ [(i, x.number)]).map Prod.snd ++ queue.map Numbered.number = List.range L.issued
    rw [← h.numbers, hqueue, List.map_append, List.append_assoc]
    rfl
  · show L.unfinished = queue.length + (Finset.univ.filter fun j => (Function.update L.held i _ j).isSome).card
    rw [h.unfinished, hqueue, List.length_cons, card_hands_take ⟨x, false⟩ hi, busy]
    omega
  · intro j hand hj
    change Function.update L.held i (some ⟨x, false⟩) j = some hand at hj
    by_cases hji : j = i
    · subst hji
      rw [Function.update_self] at hj
      obtain rfl := Option.some.inj hj
      refine ⟨List.mem_append_right _ (List.mem_singleton_self _), fun _ hstarted => ?_⟩
      obtain ⟨⟨j', number⟩, hmem, hnumber⟩ := List.mem_map.mp hstarted
      obtain ⟨number', hsome, htaken⟩ := h.starts_taken j' number hmem
      obtain rfl : x.number = number' := Option.some.inj (hnumber.symm.trans hsome)
      exact h.notMem_taken hx j' htaken
    · rw [Function.update_of_ne hji] at hj
      obtain ⟨htaken, hfresh⟩ := h.hands j hand hj
      exact ⟨List.mem_append_left _ htaken, hfresh⟩
  · intro j number hmem
    obtain ⟨number', hsome, htaken⟩ := h.starts_taken j number hmem
    exact ⟨number', hsome, List.mem_append_left _ htaken⟩
  · exact h.starts_nodup

/-- A consumer may begin once with what it has in hand. -/
theorem begin (h : L.Sound) {hand : Hand α} (hi : L.held i = some hand) (hfresh : hand.begun = false) :
    (L.begin i).Sound := by
  obtain ⟨htaken, hnew⟩ := h.hands i hand hi
  have hstarts : (L.begin i).starts = L.starts ++ [(i, some hand.number)] := by
    simp only [Ledger.begin, hi, Option.map_some]
  have hheld : (L.begin i).held = Function.update L.held i (some { hand with begun := true }) := by
    simp only [Ledger.begin, hi, Option.map_some]
  constructor
  · exact h.numbers
  · show L.unfinished = L.queue.length + _
    rw [h.unfinished, busy, busy, hheld, card_hands_keep _ hi]
  · intro j hand' hj
    rw [hheld] at hj
    by_cases hji : j = i
    · subst hji
      rw [Function.update_self] at hj
      obtain rfl := Option.some.inj hj
      exact ⟨htaken, nofun⟩
    · rw [Function.update_of_ne hji] at hj
      obtain ⟨htaken', hnew'⟩ := h.hands j hand' hj
      refine ⟨htaken', fun hbegun hmem => ?_⟩
      rw [hstarts, List.map_append] at hmem
      rcases List.mem_append.mp hmem with hmem | hmem
      · exact hnew' hbegun hmem
      · obtain hnumber := Option.some.inj (List.mem_singleton.mp hmem)
        rw [hnumber] at htaken'
        exact hji (h.taken_unique htaken' htaken)
  · intro j number hmem
    rw [hstarts] at hmem
    rcases List.mem_append.mp hmem with hmem | hmem
    · exact h.starts_taken j number hmem
    · obtain ⟨rfl, rfl⟩ := Prod.mk.inj (List.mem_singleton.mp hmem)
      exact ⟨hand.number, rfl, htaken⟩
  · rw [hstarts, List.map_append]
    exact List.Nodup.append h.starts_nodup (List.nodup_singleton _)
      (List.disjoint_singleton.mpr (hnew hfresh))

/-- A consumer may finish what it has in hand. -/
theorem finish (h : L.Sound) {hand : Hand α} (hi : L.held i = some hand) : (L.finish i).Sound where
  numbers := h.numbers
  unfinished := by
    have hbusy : (L.finish i).busy + 1 = L.busy := card_hands_finish hi
    show L.unfinished - 1 = L.queue.length + (L.finish i).busy
    rw [h.unfinished, ← hbusy]
    rfl
  hands := by
    intro j hand' hj
    change Function.update L.held i none j = some hand' at hj
    by_cases hji : j = i
    · subst hji
      rw [Function.update_self] at hj
      cases hj
    · rw [Function.update_of_ne hji] at hj
      exact h.hands j hand' hj
  starts_taken := h.starts_taken
  starts_nodup := h.starts_nodup

end Sound

end Ledger

end CertWatch.Lib
