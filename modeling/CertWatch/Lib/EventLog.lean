/-
# `CertWatch.Lib.EventLog` — logs that only grow, and what can be read off them.

A run of several parties is recorded as one list of events.  Three readings carry the proofs about such
runs: which of two events came first, what the last event of a kind said, and what one party's own events
were.  Each has a rule for the one way in which a log changes, an event at its end.
-/
import Mathlib.Data.List.Induction

namespace CertWatch.Lib

variable {α β ι ε : Type}

/-! ## Order of events -/

/-- An occurrence of `a` comes before an occurrence of `b`. -/
def Precedes (l : List α) (a b : α) : Prop := [a, b].Sublist l

theorem precedes_concat_iff {l : List α} {a b c : α} :
    Precedes (l ++ [c]) a b ↔ Precedes l a b ∨ (a ∈ l ∧ b = c) := by
  constructor
  · intro h
    obtain ⟨l₁, l₂, heq, h₁, h₂⟩ := List.sublist_append_iff.mp h
    have hl₂ : l₂ = [] ∨ l₂ = [c] := by
      rcases List.sublist_cons_iff.mp h₂ with h₂ | ⟨r, rfl, hr⟩
      · exact Or.inl (List.sublist_nil.mp h₂)
      · exact Or.inr (by rw [List.sublist_nil.mp hr])
    rcases hl₂ with rfl | rfl
    · rw [List.append_nil] at heq
      rw [← heq] at h₁
      exact Or.inl h₁
    · obtain ⟨hl, hb⟩ := List.append_inj' (show [a] ++ [b] = l₁ ++ [c] from heq) rfl
      refine Or.inr ⟨?_, List.singleton_inj.mp hb⟩
      rw [← hl] at h₁
      exact List.singleton_sublist.mp h₁
  · rintro (h | ⟨ha, rfl⟩)
    · exact h.trans (List.sublist_append_left l [c])
    · exact (List.singleton_sublist.mpr ha).append (List.Sublist.refl [b])

theorem Precedes.mem_left {l : List α} {a b : α} (h : Precedes l a b) : a ∈ l :=
  h.subset List.mem_cons_self

theorem Precedes.concat {l : List α} {a b : α} (h : Precedes l a b) (c : α) : Precedes (l ++ [c]) a b :=
  precedes_concat_iff.mpr (Or.inl h)

/-- Events at two positions come in the order of their positions. -/
theorem precedes_of_getElem? {l : List α} {a b : α} {m n : Nat} (hm : l[m]? = some a) (hn : l[n]? = some b)
    (h : m < n) : Precedes l a b := by
  induction l using List.reverseRecOn with
  | nil => cases hm
  | append_singleton l c ih =>
    rw [List.getElem?_append] at hm hn
    split_ifs at hm hn with hml hnl
    · exact (ih hm hn).concat c
    · apply precedes_concat_iff.mpr
      right
      refine ⟨List.mem_of_getElem? hm, ?_⟩
      exact List.mem_singleton.mp (List.mem_of_getElem? hn)
    · omega
    · -- both at the end: the positions would be the same
      have hml' := (List.getElem?_eq_some_iff.mp hm).1
      have hnl' := (List.getElem?_eq_some_iff.mp hn).1
      rw [List.length_singleton] at hml' hnl'
      omega

/-- A log that ends in one event and is split at another has its end after the split. -/
theorem split_concat {pre post l : List α} {a b : α} (h : l ++ [b] = pre ++ a :: post) :
    (pre = l ∧ a = b ∧ post = []) ∨ ∃ post', post = post' ++ [b] ∧ l = pre ++ a :: post' := by
  rcases List.eq_nil_or_concat post with rfl | ⟨post', last, rfl⟩
  · obtain ⟨rfl, hlast⟩ := List.append_inj' h rfl
    exact .inl ⟨rfl, (List.singleton_inj.mp hlast).symm, rfl⟩
  · have hsplit : l ++ [b] = (pre ++ a :: post') ++ [last] := by
      rw [h, List.append_assoc, List.cons_append, List.concat_eq_append]
    obtain ⟨hl, hlast⟩ := List.append_inj' hsplit rfl
    rw [List.singleton_inj.mp hlast]
    exact .inr ⟨post', List.concat_eq_append, hl⟩

/-! ## The last event of a kind -/

/-- What the last event that `f` selects says. -/
def lastOf (f : α → Option β) (l : List α) : Option β := l.foldl (fun acc a => (f a).or acc) none

@[simp] theorem lastOf_nil (f : α → Option β) : lastOf f [] = none := rfl

theorem lastOf_concat (f : α → Option β) (l : List α) (a : α) :
    lastOf f (l ++ [a]) = (f a).or (lastOf f l) := by
  rw [lastOf, List.foldl_append]
  rfl

theorem lastOf_concat_some {f : α → Option β} {a : α} {b : β} (h : f a = some b) (l : List α) :
    lastOf f (l ++ [a]) = some b := by
  rw [lastOf_concat, h]
  rfl

theorem lastOf_concat_none {f : α → Option β} {a : α} (h : f a = none) (l : List α) :
    lastOf f (l ++ [a]) = lastOf f l := by
  rw [lastOf_concat, h]
  rfl

/-- The last event of its kind is in the log, and every other event of the kind comes before it. -/
theorem lastOf_spec {f : α → Option β} {l : List α} {b : β} (h : lastOf f l = some b) :
    ∃ a ∈ l, f a = some b ∧ ∀ a' ∈ l, (f a').isSome → a' = a ∨ Precedes l a' a := by
  induction l using List.reverseRecOn with
  | nil => cases h
  | append_singleton l c ih =>
    cases hc : f c with
    | some b' =>
      rw [lastOf_concat_some hc] at h
      obtain rfl := Option.some.inj h
      refine ⟨c, List.mem_append_right l List.mem_cons_self, hc, fun a' ha' _ => ?_⟩
      rcases List.mem_append.mp ha' with ha' | ha'
      · exact Or.inr (precedes_concat_iff.mpr (Or.inr ⟨ha', rfl⟩))
      · exact Or.inl (List.mem_singleton.mp ha')
    | none =>
      rw [lastOf_concat_none hc] at h
      obtain ⟨a, ha, hfa, hlast⟩ := ih h
      refine ⟨a, List.mem_append_left _ ha, hfa, fun a' ha' hs => ?_⟩
      rcases List.mem_append.mp ha' with ha' | ha'
      · exact (hlast a' ha' hs).imp id fun hp => hp.concat c
      · obtain rfl := List.mem_singleton.mp ha'
        rw [hc] at hs
        cases hs

theorem lastOf_isSome {f : α → Option β} {l : List α} {a : α} (ha : a ∈ l) (hs : (f a).isSome) :
    (lastOf f l).isSome := by
  induction l using List.reverseRecOn with
  | nil => cases ha
  | append_singleton l c ih =>
    rw [lastOf_concat, Option.isSome_or, Bool.or_eq_true]
    rcases List.mem_append.mp ha with ha | ha
    · exact Or.inr (ih ha)
    · obtain rfl := List.mem_singleton.mp ha
      exact Or.inl hs

/-! ## The events of a kind, in order -/

/-- The event of a kind in this place, and what comes before it. -/
theorem split_of_filterMap {f : α → Option β} {l : List α} {n : Nat} {b : β} (h : (l.filterMap f)[n]? = some b) :
    ∃ pre a post, l = pre ++ a :: post ∧ f a = some b ∧ (pre.filterMap f).length = n := by
  induction l generalizing n with
  | nil => simp at h
  | cons a l ih =>
    cases hfa : f a with
    | none =>
      rw [List.filterMap_cons_none hfa] at h
      obtain ⟨pre, a', post, rfl, ha', hn⟩ := ih h
      exact ⟨a :: pre, a', post, rfl, ha', by rw [List.filterMap_cons_none hfa, hn]⟩
    | some b' =>
      rw [List.filterMap_cons_some hfa] at h
      cases n with
      | zero => exact ⟨[], a, l, rfl, hfa.trans (by simpa using h), rfl⟩
      | succ n =>
        obtain ⟨pre, a', post, rfl, ha', hn⟩ := ih (by simpa using h)
        exact ⟨a :: pre, a', post, rfl, ha', by rw [List.filterMap_cons_some hfa, List.length_cons, hn]⟩

/-! ## One party's events -/

variable [DecidableEq ι]

/-- The events of party `i`, in order. -/
def ownEvents (i : ι) (l : List (ι × ε)) : List ε := l.filterMap fun e => if e.1 = i then some e.2 else none

theorem ownEvents_concat_self (i : ι) (l : List (ι × ε)) (e : ε) :
    ownEvents i (l ++ [(i, e)]) = ownEvents i l ++ [e] := by
  simp [ownEvents]

theorem ownEvents_concat_ne {i j : ι} (h : j ≠ i) (l : List (ι × ε)) (e : ε) :
    ownEvents i (l ++ [(j, e)]) = ownEvents i l := by
  simp [ownEvents, h]

theorem mem_ownEvents_iff {i : ι} {l : List (ι × ε)} {e : ε} : e ∈ ownEvents i l ↔ (i, e) ∈ l := by
  simp only [ownEvents, List.mem_filterMap]
  constructor
  · rintro ⟨⟨j, e'⟩, hmem, hsome⟩
    split_ifs at hsome with hj
    cases hj
    cases hsome
    exact hmem
  · intro hmem
    exact ⟨(i, e), hmem, if_pos rfl⟩

theorem ownEvents_append (i : ι) (l l' : List (ι × ε)) : ownEvents i (l ++ l') = ownEvents i l ++ ownEvents i l' :=
  List.filterMap_append

theorem ownEvents_cons_self (i : ι) (e : ε) (l : List (ι × ε)) : ownEvents i ((i, e) :: l) = e :: ownEvents i l := by
  simp [ownEvents]

/-- Where a party's events are cut, the log can be cut. -/
theorem split_of_ownEvents {i : ι} {l : List (ι × ε)} {own own' : List ε} {e : ε}
    (h : ownEvents i l = own ++ e :: own') :
    ∃ pre post, l = pre ++ (i, e) :: post ∧ ownEvents i pre = own ∧ ownEvents i post = own' := by
  induction l generalizing own with
  | nil => simp [ownEvents] at h
  | cons a l ih =>
    obtain ⟨j, e'⟩ := a
    by_cases hj : j = i
    · subst hj
      rw [ownEvents_cons_self] at h
      cases own with
      | nil =>
        obtain ⟨rfl, hpost⟩ := List.cons.inj h
        exact ⟨[], l, rfl, rfl, hpost⟩
      | cons e'' own =>
        obtain ⟨rfl, hrest⟩ := List.cons.inj h
        obtain ⟨pre, post, rfl, hpre, hpost⟩ := ih hrest
        refine ⟨(j, e') :: pre, post, rfl, ?_, hpost⟩
        rw [ownEvents_cons_self, hpre]
    · have hskip : ∀ l', ownEvents i ((j, e') :: l') = ownEvents i l' := fun l' => by simp [ownEvents, hj]
      rw [hskip] at h
      obtain ⟨pre, post, rfl, hpre, hpost⟩ := ih h
      exact ⟨(j, e') :: pre, post, rfl, (hskip pre).trans hpre, hpost⟩

/-- A party's events keep their order. -/
theorem Precedes.own {i : ι} {l : List (ι × ε)} {e e' : ε} (h : Precedes l (i, e) (i, e')) :
    Precedes (ownEvents i l) e e' := by
  have hf := List.Sublist.filterMap (fun p : ι × ε => if p.1 = i then some p.2 else none) h
  have hpair : List.filterMap (fun p : ι × ε => if p.1 = i then some p.2 else none) [(i, e), (i, e')] =
      [e, e'] := by
    simp
  rw [hpair] at hf
  exact hf

end CertWatch.Lib
