/-
# `CertWatch.Lib.Settlement` — what one event settles, and whether anything goes wrong with it.

Among the events of a transaction some settle it.  It is clean when such an event is sound itself and no event after
it fails.  Three phases follow both from event to event.
-/
import Mathlib.Data.List.Induction

namespace CertWatch.Lib

/-- Which events settle a transaction, which of these are sound, and which events fail. -/
structure Settlement (κ : Type) where
  settles : κ → Bool
  sound : κ → Bool
  fails : κ → Bool

namespace Settlement

/-- How far a transaction is. -/
inductive Phase where
  | pending
  | settled
  | spoilt
  deriving DecidableEq

variable {κ : Type} (T : Settlement κ)

/-- One of the events settles the transaction. -/
def Settled (cs : List κ) : Prop := ∃ c ∈ cs, T.settles c = true

/-- An event that settles the transaction is sound, and nothing fails after it. -/
def Clean (cs : List κ) : Prop :=
  ∀ pre c post, cs = pre ++ c :: post → T.settles c = true → T.sound c = true ∧ ∀ d ∈ post, T.fails d = false

/-- What an event does to the phase. -/
def next : Phase → κ → Phase
  | .pending, c => if T.settles c then if T.sound c then .settled else .spoilt else .pending
  | .settled, c =>
    if T.fails c then .spoilt else if T.settles c then if T.sound c then .settled else .spoilt else .settled
  | .spoilt, _ => .spoilt

/-- The phase after these events. -/
def after (cs : List κ) : Phase := cs.foldl T.next .pending

variable {T} {cs : List κ} {c : κ}

theorem after_concat : T.after (cs ++ [c]) = T.next (T.after cs) c := by
  rw [after, List.foldl_append]
  rfl

theorem settled_concat : T.Settled (cs ++ [c]) ↔ T.Settled cs ∨ T.settles c = true := by
  simp [Settled, or_and_right, exists_or]

theorem clean_concat : T.Clean (cs ++ [c]) ↔
    T.Clean cs ∧ (T.Settled cs → T.fails c = false) ∧ (T.settles c = true → T.sound c = true) := by
  constructor
  · intro h
    refine ⟨fun pre d post hcs hd => ?_, fun hsettled => ?_, fun hc => (h cs c [] rfl hc).1⟩
    · obtain ⟨hsound, hpost⟩ := h pre d (post ++ [c]) (by rw [hcs, List.append_assoc, List.cons_append]) hd
      exact ⟨hsound, fun d' hd' => hpost d' (List.mem_append_left _ hd')⟩
    · obtain ⟨d, hmem, hd⟩ := hsettled
      obtain ⟨pre, post, rfl⟩ := List.append_of_mem hmem
      have hlast := h pre d (post ++ [c]) (by rw [List.append_assoc, List.cons_append]) hd
      exact hlast.2 c (List.mem_append_right _ List.mem_cons_self)
  · rintro ⟨hclean, hfails, hsound⟩ pre d post hcs hd
    rcases List.eq_nil_or_concat post with rfl | ⟨post', c', rfl⟩
    · obtain ⟨rfl, hc⟩ := List.append_inj' hcs rfl
      obtain rfl := List.singleton_inj.mp hc
      exact ⟨hsound hd, nofun⟩
    · rw [List.concat_eq_append, ← List.cons_append, ← List.append_assoc] at hcs
      obtain ⟨rfl, hc⟩ := List.append_inj' hcs rfl
      obtain rfl := List.singleton_inj.mp hc
      obtain ⟨hsound', hpost⟩ := hclean pre d post' rfl hd
      refine ⟨hsound', fun d' hd' => ?_⟩
      rw [List.concat_eq_append] at hd'
      rcases List.mem_append.mp hd' with hd' | hd'
      · exact hpost d' hd'
      · obtain rfl := List.mem_singleton.mp hd'
        exact hfails ⟨d, List.mem_append_right _ List.mem_cons_self, hd⟩

theorem next_ne_pending_iff {q : Phase} : T.next q c ≠ .pending ↔ q ≠ .pending ∨ T.settles c = true := by
  cases q <;> cases hsettles : T.settles c <;> cases hsound : T.sound c <;> cases hfails : T.fails c <;>
    simp [next, hsettles, hsound, hfails]

theorem next_ne_spoilt_iff {q : Phase} : T.next q c ≠ .spoilt ↔
    q ≠ .spoilt ∧ (q ≠ .pending → T.fails c = false) ∧ (T.settles c = true → T.sound c = true) := by
  cases q <;> cases hsettles : T.settles c <;> cases hsound : T.sound c <;> cases hfails : T.fails c <;>
    simp [next, hsettles, hsound, hfails]

/-- **What the phase says**: whether the transaction is settled, and whether something went wrong with that. -/
theorem after_spec (cs : List κ) : (T.after cs ≠ .pending ↔ T.Settled cs) ∧ (T.after cs ≠ .spoilt ↔ T.Clean cs) := by
  induction cs using List.reverseRecOn with
  | nil => exact ⟨iff_of_false (fun h => h rfl) (by rintro ⟨c, hc, -⟩; cases hc), iff_of_true nofun (by simp [Clean])⟩
  | append_singleton cs c ih =>
    obtain ⟨hsettled, hclean⟩ := ih
    rw [after_concat, settled_concat, clean_concat, ← hsettled, ← hclean]
    exact ⟨next_ne_pending_iff, next_ne_spoilt_iff⟩

end Settlement

end CertWatch.Lib
