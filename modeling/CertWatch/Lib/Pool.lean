/-
# `CertWatch.Lib.Pool` — threads over one shared world, and the rely/guarantee rule.

A pool is a family of programs indexed by thread name over one shared world.  Threads interleave call
by call: any thread that has a call to make may make the next one.  The rule below turns per-thread
weakest preconditions into a statement about every interleaving: if what each thread guarantees is
within what each other thread relies on, every step of the pool is one of the guaranteed steps.
-/
import CertWatch.Lib.Prog
import Mathlib.Logic.Function.Basic

namespace CertWatch.Lib

/-- Threads (absent, running or ended) and the world they share. -/
structure Pool (ι : Type) (S : Sig) (ε α σ : Type) where
  threads : ι → Option (Prog S ε α)
  shared : σ

namespace Pool

variable {ι : Type} [DecidableEq ι] {S : Sig} {ε α σ : Type}
variable (exec : ι → (o : S.Op) → σ → Except ε (S.Ret o) → σ → Prop)

/-- Thread `i` makes its next call. -/
inductive Step (i : ι) : Pool ι S ε α σ → Pool ι S ε α σ → Prop where
  | call {P : Pool ι S ε α σ} {o : S.Op} {k : Except ε (S.Ret o) → Prog S ε α}
      {r : Except ε (S.Ret o)} {s' : σ} :
      P.threads i = some (.call o k) → exec i o P.shared r s' →
      Step i P ⟨Function.update P.threads i (some (k r)), s'⟩

/-- A new thread joins the pool under an unused name. -/
def spawn (P : Pool ι S ε α σ) (i : ι) (p : Prog S ε α) : Pool ι S ε α σ :=
  { P with threads := Function.update P.threads i (some p) }

/-- Every thread stands at a program whose weakest precondition holds of the shared world. -/
def Ok (R G : ι → σ → σ → Prop) (Q : ι → Except ε α → σ → Prop) (P : Pool ι S ε α σ) : Prop :=
  ∀ i p, P.threads i = some p → p.wp (exec i) (R i) (G i) (Q i) P.shared

/-- A run of one thread's program is a run of the pool in which only that thread makes calls. -/
theorem steps_of_thread {exec : ι → (o : S.Op) → σ → Except ε (S.Ret o) → σ → Prop} {i : ι}
    {P : Pool ι S ε α σ} {p : Prog S ε α} {c : Prog S ε α × σ} (hi : P.threads i = some p)
    (hs : Prog.Steps (exec i) (p, P.shared) c) :
    Relation.ReflTransGen (Step exec i) P ⟨Function.update P.threads i (some c.1), c.2⟩ := by
  induction hs with
  | refl =>
    rw [Function.update_eq_self_iff.mpr hi.symm]
  | @tail c c' _ hstep ih =>
    obtain ⟨q, s⟩ := c
    cases hstep with
    | @call o k _ _ r hex =>
      have hcall : Step exec i ⟨Function.update P.threads i (some (.call o k)), s⟩ _ :=
        .call (Function.update_self ..) hex
      rw [Function.update_idem] at hcall
      exact ih.tail hcall

/-- A name that is unused after a call was unused before it, and is not the caller's. -/
theorem Step.unused {exec : ι → (o : S.Op) → σ → Except ε (S.Ret o) → σ → Prop} {i j : ι}
    {P P' : Pool ι S ε α σ} (h : Step exec i P P')
    (hj : P'.threads j = none) : j ≠ i ∧ P.threads j = none := by
  cases h with
  | call hi _ =>
    have hne : j ≠ i := by
      rintro rfl
      simp only [Function.update_self, reduceCtorEq] at hj
    simp only [Function.update_of_ne hne] at hj
    exact ⟨hne, hj⟩

variable {exec} {R G : ι → σ → σ → Prop} {Q : ι → Except ε α → σ → Prop}

theorem ok_spawn {P : Pool ι S ε α σ} {i : ι} {p : Prog S ε α} (h : Ok exec R G Q P)
    (hp : p.wp (exec i) (R i) (G i) (Q i) P.shared) : Ok exec R G Q (P.spawn i p) := by
  intro j q hj
  by_cases hji : j = i
  · subst hji
    simp only [spawn, Function.update_self, Option.some.injEq] at hj
    subst hj
    exact hp
  · simp only [spawn, Function.update_of_ne hji] at hj
    exact h j q hj

omit [DecidableEq ι] in
/-- The shared world may move within everybody's rely without disturbing any thread. -/
theorem ok_rely {P : Pool ι S ε α σ} {s' : σ}
    (htrans : ∀ i a b c, R i a b → R i b c → R i a c)
    (hQ : ∀ i x a b, Q i x a → R i a b → Q i x b)
    (hR : ∀ i, R i P.shared s') (h : Ok exec R G Q P) : Ok exec R G Q { P with shared := s' } :=
  fun i p hi => Prog.wp_rely (htrans i) (hQ i) (hR i) (h i p hi)

/-- **Rely/guarantee.** When every thread's guarantee is within every other thread's rely, each step
of any interleaving lies within the guarantee of the thread that made it, and all threads stay ok. -/
theorem ok_step {P P' : Pool ι S ε α σ} {i : ι}
    (hrefl : ∀ i a, R i a a) (htrans : ∀ i a b c, R i a b → R i b c → R i a c)
    (hQ : ∀ i x a b, Q i x a → R i a b → Q i x b)
    (hGR : ∀ i j, i ≠ j → ∀ a b, G i a b → R j a b)
    (h : Ok exec R G Q P) (hstep : Step exec i P P') :
    G i P.shared P'.shared ∧ Ok exec R G Q P' := by
  cases hstep with
  | @call o k r s' hi hex =>
    obtain ⟨hg, hk⟩ := h i _ hi _ (hrefl i _) _ _ hex
    refine ⟨hg, ?_⟩
    intro j q hj
    by_cases hji : j = i
    · subst hji
      simp only [Function.update_self, Option.some.injEq] at hj
      subst hj
      exact hk
    · simp only [Function.update_of_ne hji] at hj
      exact Prog.wp_rely (htrans j) (hQ j) (hGR i j (Ne.symm hji) _ _ hg) (h j q hj)

end Pool

end CertWatch.Lib
