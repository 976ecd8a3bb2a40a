/-
# `CertWatch.Lib.Inevitable` — what a system comes to on every run that does not stop on its own.

A system makes moves, and its surroundings change the world in between, as often as they like.  A goal is inevitable
when the system can always move until it is reached, and cannot move forever without reaching it.  The rule asks for
an invariant, for a measure that every move lowers, and that no state of the invariant is stuck.
-/
import CertWatch.Lib.Prog
import Mathlib.Order.WellFounded

namespace CertWatch.Lib

variable {σ μ : Type}

/-- Whatever the surroundings do before each move, there is a move, and every sequence of moves comes to `Q`. -/
inductive Inevitable (move world : σ → σ → Prop) (Q : σ → Prop) : σ → Prop where
  | reached {s : σ} : Q s → Inevitable move world Q s
  | onward {s : σ} (hmove : ∀ s₁, Relation.ReflTransGen world s s₁ → ∃ s₂, move s₁ s₂)
      (hnext : ∀ s₁ s₂, Relation.ReflTransGen world s s₁ → move s₁ s₂ → Inevitable move world Q s₂) :
      Inevitable move world Q s

section

variable {move world : σ → σ → Prop} {Q I : σ → Prop}

/-- **Measure rule.**  An invariant that is never stuck before the goal, and a measure that the moves lower. -/
theorem inevitable_of_measure {r : μ → μ → Prop} (hr : WellFounded r) (m : σ → μ)
    (hmoves : ∀ s s', I s → move s s' → I s' ∧ r (m s') (m s))
    (hworld : ∀ s s', I s → world s s' → I s' ∧ m s' = m s) (hgoal : ∀ s s', world s s' → Q s' → Q s)
    (hprogress : ∀ s, I s → ¬ Q s → ∃ s', move s s') {s : σ} (hs : I s) : Inevitable move world Q s := by
  induction hm : m s using hr.induction generalizing s with
  | h x ih =>
    subst hm
    by_cases hQ : Q s
    · exact .reached hQ
    -- the surroundings keep the invariant, the measure and that the goal is still to come
    have hkept : ∀ s₁, Relation.ReflTransGen world s s₁ → I s₁ ∧ m s₁ = m s ∧ ¬ Q s₁ := by
      intro s₁ hs₁
      induction hs₁ with
      | refl => exact ⟨hs, rfl, hQ⟩
      | tail _ hstep ih =>
        obtain ⟨hI, hm, hnot⟩ := ih
        obtain ⟨hI', hm'⟩ := hworld _ _ hI hstep
        exact ⟨hI', hm'.trans hm, fun hQ' => hnot (hgoal _ _ hstep hQ')⟩
    apply Inevitable.onward
    · intro s₁ hs₁
      obtain ⟨hI, -, hnot⟩ := hkept s₁ hs₁
      exact hprogress s₁ hI hnot
    · intro s₁ s₂ hs₁ hstep
      obtain ⟨hI, hm, -⟩ := hkept s₁ hs₁
      obtain ⟨hI', hlower⟩ := hmoves s₁ s₂ hI hstep
      rw [hm] at hlower
      exact ih (m s₂) hlower hI' rfl

end

/-! ## Programs as a measure -/

namespace Prog

variable {S : Sig} {ε α : Type}

/-- The program after one call. -/
def Child (p' p : Prog S ε α) : Prop := ∃ o k r, p = .call o k ∧ p' = k r

theorem child_call {o : S.Op} {k : Except ε (S.Ret o) → Prog S ε α} (r : Except ε (S.Ret o)) :
    Child (k r) (.call o k) := ⟨o, k, r, rfl, rfl⟩

/-- No program makes calls forever. -/
theorem child_wellFounded : WellFounded (Child (S := S) (ε := ε) (α := α)) := by
  constructor
  intro p
  induction p with
  | ret | raise | hang =>
    constructor
    rintro p' ⟨o, k, r, hp, -⟩
    cases hp
  | call o k ih =>
    constructor
    rintro p' ⟨o', k', r, hp, rfl⟩
    cases hp
    exact ih r

end Prog

end CertWatch.Lib
