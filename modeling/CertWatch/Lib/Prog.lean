/-
# `CertWatch.Lib.Prog` — programs over an interface of calls, and the rules for their crash states.

A program is a finite tree of calls: every node names one operation on the outside world (a file
operation, a request, a clock reading) and has one branch for every way that operation can end, with
a value or with an exception.  The source language's `raise` and `try ... except` are constructors and
combinators of the tree, so a function is transcribed statement by statement, and the points at which
a process can be killed are exactly the nodes.

Three semantics share the one tree:

* `run` drives it by a deterministic handler (a scripted environment) and is computable;
* `Step` performs one call against a relation that says which outcomes a call may have;
* `wp` is the weakest precondition that also speaks about every intermediate state: with a rely `R`
  (what the surroundings may do between two calls) and a guarantee `G` (what each call of the program
  itself does to the shared state).

Loops without a bound are written with a fuel argument; running out of fuel is `hang`, a program that
makes no further call and returns nothing.  An observer cannot tell it from a thread that is never
scheduled again, so for safety statements quantified over all fuels nothing is lost or added.
-/
import Mathlib.Logic.Relation

namespace CertWatch.Lib

/-- An interface: its operations, and the type of value each of them returns when it does not raise. -/
structure Sig where
  Op : Type
  Ret : Op → Type

/-- A program over the interface `S` that returns an `α` or raises an `ε`. -/
inductive Prog (S : Sig) (ε α : Type) : Type where
  | ret (a : α)
  | raise (e : ε)
  | hang
  | call (o : S.Op) (k : Except ε (S.Ret o) → Prog S ε α)

namespace Prog

variable {S : Sig} {ε α β γ σ : Type}

/-! ## Sequencing, exceptions and calls -/

/-- Sequencing: an exception or a hang of the first part is that of the whole. -/
def bind : Prog S ε α → (α → Prog S ε β) → Prog S ε β
  | .ret a, f => f a
  | .raise e, _ => .raise e
  | .hang, _ => .hang
  | .call o k, f => .call o fun r => (k r).bind f

instance : Monad (Prog S ε) where
  pure := .ret
  bind := bind

/-- `try p except e: h e`. -/
def tryCatch : Prog S ε α → (ε → Prog S ε α) → Prog S ε α
  | .ret a, _ => .ret a
  | .raise e, h => h e
  | .hang, _ => .hang
  | .call o k, h => .call o fun r => (k r).tryCatch h

/-- The program that ends as the given result does. -/
def ofExcept : Except ε α → Prog S ε α
  | .ok a => .ret a
  | .error e => .raise e

/-- Perform one operation. -/
def perform (o : S.Op) : Prog S ε (S.Ret o) := .call o ofExcept

/-- Run `p` and hand its result over as a value, so that the caller's `except` clauses can look at the
exception without catching what they raise themselves. -/
def attempt : Prog S ε α → Prog S ε (Except ε α)
  | .ret a => .ret (.ok a)
  | .raise e => .ret (.error e)
  | .hang => .hang
  | .call o k => .call o fun r => (k r).attempt

/-- The program neither returned nor raised yet. -/
def Running : Prog S ε α → Prop
  | .call _ _ => True
  | .hang => True
  | _ => False

@[simp] theorem pure_eq (a : α) : (pure a : Prog S ε α) = .ret a := rfl

@[simp] theorem bind_eq (p : Prog S ε α) (f : α → Prog S ε β) : (p >>= f) = p.bind f := rfl

@[simp] theorem map_eq (f : α → β) (p : Prog S ε α) : (f <$> p) = p.bind fun a => .ret (f a) := rfl

@[simp] theorem ret_bind (a : α) (f : α → Prog S ε β) : (ret a : Prog S ε α).bind f = f a := rfl

@[simp] theorem raise_bind (e : ε) (f : α → Prog S ε β) :
    (raise e : Prog S ε α).bind f = .raise e := rfl

@[simp] theorem hang_bind (f : α → Prog S ε β) : (hang : Prog S ε α).bind f = .hang := rfl

@[simp] theorem call_bind (o : S.Op) (k : Except ε (S.Ret o) → Prog S ε α) (f : α → Prog S ε β) :
    (call o k).bind f = .call o fun r => (k r).bind f := rfl

@[simp] theorem ofExcept_ok (a : α) : (ofExcept (.ok a) : Prog S ε α) = .ret a := rfl

@[simp] theorem ofExcept_error (e : ε) : (ofExcept (.error e) : Prog S ε α) = .raise e := rfl

theorem bind_assoc (p : Prog S ε α) (f : α → Prog S ε β) (g : β → Prog S ε γ) :
    (p.bind f).bind g = p.bind fun a => (f a).bind g := by
  induction p with
  | call o k ih => exact congrArg (Prog.call o) (funext fun r => ih r)
  | _ => rfl

theorem attempt_eq_ret {p : Prog S ε α} {x : Except ε α} : p.attempt = .ret x ↔ p = ofExcept x := by
  constructor
  · intro h
    cases p with
    | ret a => exact Prog.ret.inj h ▸ rfl
    | raise e => exact Prog.ret.inj h ▸ rfl
    | hang => cases h
    | call o k => cases h
  · rintro rfl
    cases x <;> rfl

theorem bind_ret (p : Prog S ε α) : p.bind .ret = p := by
  induction p with
  | call o k ih => exact congrArg (Prog.call o) (funext fun r => ih r)
  | _ => rfl

/-- Looking at an outcome and passing it on. -/
theorem attempt_bind_ofExcept (p : Prog S ε α) : p.attempt.bind ofExcept = p := by
  induction p with
  | call o k ih => exact congrArg (Prog.call o) (funext fun r => ih r)
  | _ => rfl

/-- A part whose exceptions are looked at raises nothing itself. -/
theorem attempt_attempt_bind (p : Prog S ε α) (f : Except ε α → Prog S ε β) :
    (p.attempt.bind f).attempt = p.attempt.bind fun x => (f x).attempt := by
  induction p with
  | call o k ih => exact congrArg (Prog.call o) (funext fun r => ih r)
  | _ => rfl

/-! ## Deterministic runs -/

/-- Run a program against a handler; `none` says that it hangs. -/
def run (h : (o : S.Op) → σ → Except ε (S.Ret o) × σ) : Prog S ε α → σ → Option (Except ε α) × σ
  | .ret a, s => (some (.ok a), s)
  | .raise e, s => (some (.error e), s)
  | .hang, s => (none, s)
  | .call o k, s => (k (h o s).1).run h (h o s).2

section Run

variable (h : (o : S.Op) → σ → Except ε (S.Ret o) × σ)

@[simp] theorem run_ret (a : α) (s : σ) :
    (ret a : Prog S ε α).run h s = (some (.ok a), s) := rfl

@[simp] theorem run_raise (e : ε) (s : σ) :
    (raise e : Prog S ε α).run h s = (some (.error e), s) := rfl

@[simp] theorem run_hang (s : σ) : (hang : Prog S ε α).run h s = (none, s) := rfl

/-- What a program's continuation makes of the first part's outcome. -/
def andThen (f : α → Prog S ε β) : Option (Except ε α) × σ → Option (Except ε β) × σ
  | (some (.ok a), s) => (f a).run h s
  | (some (.error e), s) => (some (.error e), s)
  | (none, s) => (none, s)

@[simp] theorem andThen_ok (f : α → Prog S ε β) (a : α) (s : σ) :
    andThen h f (some (.ok a), s) = (f a).run h s := rfl

@[simp] theorem andThen_error (f : α → Prog S ε β) (e : ε) (s : σ) :
    andThen h f (some (.error e), s) = (some (.error e), s) := rfl

@[simp] theorem andThen_none (f : α → Prog S ε β) (s : σ) :
    andThen h f (none, s) = (none, s) := rfl

theorem run_bind (p : Prog S ε α) (f : α → Prog S ε β) (s : σ) :
    (p.bind f).run h s = andThen h f (p.run h s) := by
  induction p generalizing s with
  | ret a => rfl
  | raise e => rfl
  | hang => rfl
  | call o k ih => exact ih _ _

@[simp] theorem run_perform (o : S.Op) (s : σ) :
    (perform o : Prog S ε (S.Ret o)).run h s = (some (h o s).1, (h o s).2) := by
  unfold perform run
  cases (h o s).1 <;> rfl

@[simp] theorem run_ofExcept (x : Except ε α) (s : σ) :
    (ofExcept x : Prog S ε α).run h s = (some x, s) := by
  cases x <;> rfl

/-- `attempt` never raises: the exception became the value. -/
theorem run_attempt (p : Prog S ε α) (s : σ) :
    p.attempt.run h s = ((p.run h s).1.map .ok, (p.run h s).2) := by
  induction p generalizing s with
  | ret a => rfl
  | raise e => rfl
  | hang => rfl
  | call o k ih => exact ih _ _

/-- What an exception handler makes of the guarded part's outcome. -/
def orElse (f : ε → Prog S ε α) : Option (Except ε α) × σ → Option (Except ε α) × σ
  | (some (.error e), s) => (f e).run h s
  | r => r

@[simp] theorem orElse_error (f : ε → Prog S ε α) (e : ε) (s : σ) :
    orElse h f (some (.error e), s) = (f e).run h s := rfl

@[simp] theorem orElse_ok (f : ε → Prog S ε α) (a : α) (s : σ) :
    orElse h f (some (.ok a), s) = (some (.ok a), s) := rfl

@[simp] theorem orElse_none (f : ε → Prog S ε α) (s : σ) :
    orElse h f (none, s) = (none, s) := rfl

theorem run_tryCatch (p : Prog S ε α) (f : ε → Prog S ε α) (s : σ) :
    (p.tryCatch f).run h s = orElse h f (p.run h s) := by
  induction p generalizing s with
  | ret a => rfl
  | raise e => rfl
  | hang => rfl
  | call o k ih => exact ih _ _

end Run

/-! ## Small steps -/

/-- One call: the world moves as `exec` allows and the program continues with the answer. -/
inductive Step (exec : (o : S.Op) → σ → Except ε (S.Ret o) → σ → Prop) :
    Prog S ε α × σ → Prog S ε α × σ → Prop where
  | call {o : S.Op} {k : Except ε (S.Ret o) → Prog S ε α} {s s' : σ} {r : Except ε (S.Ret o)} :
      exec o s r s' → Step exec (.call o k, s) (k r, s')

/-- Any number of calls. -/
abbrev Steps (exec : (o : S.Op) → σ → Except ε (S.Ret o) → σ → Prop) :
    Prog S ε α × σ → Prog S ε α × σ → Prop :=
  Relation.ReflTransGen (Step exec)

/-- The program that stands where a run ended. -/
def atEnd : Option (Except ε α) → Prog S ε α
  | some x => ofExcept x
  | none => .hang

/-- **Scripted runs are real runs**: a handler whose every answer the relation allows drives the
program through small steps, to the point where it returned, raised or hung. -/
theorem run_steps {exec : (o : S.Op) → σ → Except ε (S.Ret o) → σ → Prop}
    {h : (o : S.Op) → σ → Except ε (S.Ret o) × σ}
    (hh : ∀ o s, exec o s (h o s).1 (h o s).2) (p : Prog S ε α) (s : σ) :
    Steps exec (p, s) (atEnd (p.run h s).1, (p.run h s).2) := by
  induction p generalizing s with
  | ret a => exact .refl
  | raise e => exact .refl
  | hang => exact .refl
  | call o k ih => exact .head (.call (hh o s)) (ih _ _)

/-- The next calls of a program, as many as given, answered by a handler. -/
def advance (h : (o : S.Op) → σ → Except ε (S.Ret o) × σ) : Nat → Prog S ε α × σ → Prog S ε α × σ
  | n + 1, (.call o k, s) => advance h n (k (h o s).1, (h o s).2)
  | _, c => c

/-- The first calls of a scripted run are calls of a real one. -/
theorem advance_steps {exec : (o : S.Op) → σ → Except ε (S.Ret o) → σ → Prop}
    {h : (o : S.Op) → σ → Except ε (S.Ret o) × σ}
    (hh : ∀ o s, exec o s (h o s).1 (h o s).2) (n : Nat) (c : Prog S ε α × σ) :
    Steps exec c (advance h n c) := by
  induction n generalizing c with
  | zero => exact .refl
  | succ n ih =>
    obtain ⟨p, s⟩ := c
    cases p with
    | call o k => exact .head (.call (hh o s)) (ih _)
    | _ => exact .refl

/-! ## Weakest preconditions over every intermediate state -/

section Wp

variable (exec : (o : S.Op) → σ → Except ε (S.Ret o) → σ → Prop) (R G : σ → σ → Prop)

/-- From `s` on, whatever the surroundings do within `R` before each call, every call of the program
stays within `G`, and the program ends only as `Q` says. -/
def wp (Q : Except ε α → σ → Prop) : Prog S ε α → σ → Prop
  | .ret a, s => Q (.ok a) s
  | .raise e, s => Q (.error e) s
  | .hang, _ => True
  | .call o k, s => ∀ s₁, R s s₁ → ∀ r s₂, exec o s₁ r s₂ → G s₁ s₂ ∧ (k r).wp Q s₂

variable {exec R G}

@[simp] theorem wp_ret {Q : Except ε α → σ → Prop} {a : α} {s : σ} :
    (ret a : Prog S ε α).wp exec R G Q s ↔ Q (.ok a) s := Iff.rfl

@[simp] theorem wp_raise {Q : Except ε α → σ → Prop} {e : ε} {s : σ} :
    (raise e : Prog S ε α).wp exec R G Q s ↔ Q (.error e) s := Iff.rfl

@[simp] theorem wp_hang {Q : Except ε α → σ → Prop} {s : σ} :
    (hang : Prog S ε α).wp exec R G Q s ↔ True := Iff.rfl

theorem wp_call {Q : Except ε α → σ → Prop} {o : S.Op} {k : Except ε (S.Ret o) → Prog S ε α}
    {s : σ} : (call o k).wp exec R G Q s ↔
      ∀ s₁, R s s₁ → ∀ r s₂, exec o s₁ r s₂ → G s₁ s₂ ∧ (k r).wp exec R G Q s₂ := Iff.rfl

/-- What a continuation must be ready for. -/
def thenPost (exec : (o : S.Op) → σ → Except ε (S.Ret o) → σ → Prop) (R G : σ → σ → Prop)
    (f : α → Prog S ε β) (Q : Except ε β → σ → Prop) : Except ε α → σ → Prop
  | .ok a, s => (f a).wp exec R G Q s
  | .error e, s => Q (.error e) s

@[simp] theorem thenPost_ok {f : α → Prog S ε β} {Q : Except ε β → σ → Prop} {a : α} {s : σ} :
    thenPost exec R G f Q (.ok a) s ↔ (f a).wp exec R G Q s := Iff.rfl

@[simp] theorem thenPost_error {f : α → Prog S ε β} {Q : Except ε β → σ → Prop} {e : ε} {s : σ} :
    thenPost exec R G f Q (.error e) s ↔ Q (.error e) s := Iff.rfl

/-- Either outcome of the first part, taken one at a time. -/
theorem thenPost_intro {f : α → Prog S ε β} {Q : Except ε β → σ → Prop} {x : Except ε α} {s : σ}
    (hok : ∀ a, x = .ok a → (f a).wp exec R G Q s) (herror : ∀ e, x = .error e → Q (.error e) s) :
    thenPost exec R G f Q x s := by
  cases x with
  | ok a => exact hok a rfl
  | error e => exact herror e rfl

theorem wp_bind {p : Prog S ε α} {f : α → Prog S ε β} {Q : Except ε β → σ → Prop} {s : σ} :
    (p.bind f).wp exec R G Q s ↔ p.wp exec R G (thenPost exec R G f Q) s := by
  induction p generalizing s with
  | ret a => exact Iff.rfl
  | raise e => exact Iff.rfl
  | hang => exact Iff.rfl
  | call o k ih =>
    simp only [call_bind, wp_call]
    exact forall₅_congr fun _ _ r _ _ => and_congr_right fun _ => ih r

/-- What an exception handler must be ready for. -/
def catchPost (exec : (o : S.Op) → σ → Except ε (S.Ret o) → σ → Prop) (R G : σ → σ → Prop)
    (f : ε → Prog S ε α) (Q : Except ε α → σ → Prop) : Except ε α → σ → Prop
  | .ok a, s => Q (.ok a) s
  | .error e, s => (f e).wp exec R G Q s

@[simp] theorem catchPost_ok {f : ε → Prog S ε α} {Q : Except ε α → σ → Prop} {a : α} {s : σ} :
    catchPost exec R G f Q (.ok a) s ↔ Q (.ok a) s := Iff.rfl

@[simp] theorem catchPost_error {f : ε → Prog S ε α} {Q : Except ε α → σ → Prop} {e : ε} {s : σ} :
    catchPost exec R G f Q (.error e) s ↔ (f e).wp exec R G Q s := Iff.rfl

theorem wp_tryCatch {p : Prog S ε α} {f : ε → Prog S ε α} {Q : Except ε α → σ → Prop} {s : σ} :
    (p.tryCatch f).wp exec R G Q s ↔ p.wp exec R G (catchPost exec R G f Q) s := by
  induction p generalizing s with
  | ret a => exact Iff.rfl
  | raise e => exact Iff.rfl
  | hang => exact Iff.rfl
  | call o k ih =>
    simp only [tryCatch, wp_call]
    exact forall₅_congr fun _ _ r _ _ => and_congr_right fun _ => ih r

theorem wp_attempt {p : Prog S ε α} {Q : Except ε (Except ε α) → σ → Prop} {s : σ} :
    p.attempt.wp exec R G Q s ↔ p.wp exec R G (fun x => Q (.ok x)) s := by
  induction p generalizing s with
  | ret a => exact Iff.rfl
  | raise e => exact Iff.rfl
  | hang => exact Iff.rfl
  | call o k ih =>
    simp only [attempt, wp_call]
    exact forall₅_congr fun _ _ r _ _ => and_congr_right fun _ => ih r

@[simp] theorem wp_ofExcept {x : Except ε α} {Q : Except ε α → σ → Prop} {s : σ} :
    (ofExcept x : Prog S ε α).wp exec R G Q s ↔ Q x s := by
  cases x <;> exact Iff.rfl

theorem wp_perform {o : S.Op} {Q : Except ε (S.Ret o) → σ → Prop} {s : σ} :
    (perform o : Prog S ε (S.Ret o)).wp exec R G Q s ↔
      ∀ s₁, R s s₁ → ∀ r s₂, exec o s₁ r s₂ → G s₁ s₂ ∧ Q r s₂ := by
  simp only [perform, wp_call, wp_ofExcept]

/-- Consequence: a wider post-condition is easier. -/
theorem wp_mono {p : Prog S ε α} {Q Q' : Except ε α → σ → Prop} {s : σ}
    (hQ : ∀ x s', Q x s' → Q' x s') (h : p.wp exec R G Q s) : p.wp exec R G Q' s := by
  induction p generalizing s with
  | ret a => exact hQ _ _ h
  | raise e => exact hQ _ _ h
  | hang => trivial
  | call o k ih =>
    intro s₁ hR r s₂ hex
    exact ⟨(h s₁ hR r s₂ hex).1, ih r (h s₁ hR r s₂ hex).2⟩

/-- Consequence for the surroundings: fewer steps around the program and a weaker promise about its
own are easier. -/
theorem wp_weaken {p : Prog S ε α} {R' G' : σ → σ → Prop} {Q : Except ε α → σ → Prop} {s : σ}
    (hR : ∀ s s', R' s s' → R s s') (hG : ∀ s s', G s s' → G' s s') (h : p.wp exec R G Q s) :
    p.wp exec R' G' Q s := by
  induction p generalizing s with
  | ret a => exact h
  | raise e => exact h
  | hang => trivial
  | call o k ih =>
    intro s₁ hs r s₂ hex
    obtain ⟨hg, hk⟩ := h s₁ (hR _ _ hs) r s₂ hex
    exact ⟨hG _ _ hg, ih r hk⟩

/-- Two specifications of one program hold together. -/
theorem wp_and {p : Prog S ε α} {G' : σ → σ → Prop} {Q Q' : Except ε α → σ → Prop} {s : σ}
    (h : p.wp exec R G Q s) (h' : p.wp exec R G' Q' s) :
    p.wp exec R (fun s s' => G s s' ∧ G' s s') (fun x s' => Q x s' ∧ Q' x s') s := by
  induction p generalizing s with
  | ret a => exact ⟨h, h'⟩
  | raise e => exact ⟨h, h'⟩
  | hang => trivial
  | call o k ih =>
    intro s₁ hs r s₂ hex
    obtain ⟨hg, hk⟩ := h s₁ hs r s₂ hex
    obtain ⟨hg', hk'⟩ := h' s₁ hs r s₂ hex
    exact ⟨⟨hg, hg'⟩, ih r hk hk'⟩

/-- What every call preserves holds at the end of any program. -/
theorem wp_preserved {I : σ → Prop} (hR : ∀ s s', I s → R s s' → I s') (hexec : ∀ o s r s', I s → exec o s r s' → I s')
    (p : Prog S ε α) {s : σ} (h : I s) : p.wp exec R (fun _ s' => I s') (fun _ s' => I s') s := by
  induction p generalizing s with
  | ret a => exact h
  | raise e => exact h
  | hang => trivial
  | call o k ih =>
    intro s₁ hs r s₂ hex
    have h₂ := hexec o s₁ r s₂ (hR s s₁ h hs) hex
    exact ⟨h₂, ih r h₂⟩

/-- **Invariant rule.** What the surroundings and the program's own calls both preserve holds after
every call and at the end. -/
theorem wp_invariant {p : Prog S ε α} {Q : Except ε α → σ → Prop} {I : σ → Prop} {s : σ}
    (hIR : ∀ s s', I s → R s s' → I s') (hIG : ∀ s s', I s → G s s' → I s')
    (hI : I s) (h : p.wp exec R G Q s) :
    p.wp exec R (fun s s' => G s s' ∧ I s ∧ I s') (fun x s' => Q x s' ∧ I s') s := by
  induction p generalizing s with
  | ret a => exact ⟨h, hI⟩
  | raise e => exact ⟨h, hI⟩
  | hang => trivial
  | call o k ih =>
    intro s₁ hs r s₂ hex
    obtain ⟨hg, hk⟩ := h s₁ hs r s₂ hex
    have hI₁ : I s₁ := hIR _ _ hI hs
    exact ⟨⟨hg, hI₁, hIG _ _ hI₁ hg⟩, ih r (hIG _ _ hI₁ hg) hk⟩

/-- A weakest precondition survives what the surroundings may do. -/
theorem wp_rely {p : Prog S ε α} {Q : Except ε α → σ → Prop} {s s' : σ}
    (htrans : ∀ a b c, R a b → R b c → R a c) (hQ : ∀ x a b, Q x a → R a b → Q x b)
    (hs : R s s') (h : p.wp exec R G Q s) : p.wp exec R G Q s' := by
  cases p with
  | ret a => exact hQ _ _ _ h hs
  | raise e => exact hQ _ _ _ h hs
  | hang => trivial
  | call o k => exact fun s₁ h₁ r s₂ hex => h s₁ (htrans _ _ _ hs h₁) r s₂ hex

/-- **Soundness of `wp`.** Along any run in which the surroundings act within `R`, the residual
program keeps its weakest precondition, and every step of its own lies within `G`. -/
theorem wp_step {p p' : Prog S ε α} {Q : Except ε α → σ → Prop} {s s' : σ}
    (hrefl : ∀ a, R a a) (h : p.wp exec R G Q s) (hstep : Step exec (p, s) (p', s')) :
    G s s' ∧ p'.wp exec R G Q s' := by
  cases hstep with
  | call hex => exact h s (hrefl s) _ _ hex

/-- The same along any number of steps. -/
theorem wp_steps {p p' : Prog S ε α} {Q : Except ε α → σ → Prop} {s s' : σ} (hrefl : ∀ a, R a a)
    (h : p.wp exec R G Q s) (hsteps : Steps exec (p, s) (p', s')) :
    Relation.ReflTransGen G s s' ∧ p'.wp exec R G Q s' := by
  suffices hrun : ∀ c, Steps exec (p, s) c → Relation.ReflTransGen G s c.2 ∧ c.1.wp exec R G Q c.2 from
    hrun _ hsteps
  intro c hc
  induction hc with
  | refl => exact ⟨.refl, h⟩
  | tail _ hstep ih =>
    obtain ⟨hg, hw⟩ := wp_step hrefl ih.2 hstep
    exact ⟨ih.1.tail hg, hw⟩

/-- **A scripted run meets every specification**: it moves by guaranteed steps, and what it ends with is
within the post-condition. -/
theorem wp_run {h : (o : S.Op) → σ → Except ε (S.Ret o) × σ} (hh : ∀ o s, exec o s (h o s).1 (h o s).2)
    (hrefl : ∀ a, R a a) {Q : Except ε α → σ → Prop} (p : Prog S ε α) {s : σ} (hw : p.wp exec R G Q s) :
    Relation.ReflTransGen G s (p.run h s).2 ∧ ∀ x, (p.run h s).1 = some x → Q x (p.run h s).2 := by
  induction p generalizing s with
  | ret a =>
    refine ⟨.refl, fun x hx => ?_⟩
    obtain rfl := Option.some.inj hx
    exact hw
  | raise e =>
    refine ⟨.refl, fun x hx => ?_⟩
    obtain rfl := Option.some.inj hx
    exact hw
  | hang => exact ⟨.refl, nofun⟩
  | call o k ih =>
    obtain ⟨hg, hk⟩ := hw s (hrefl s) _ _ (hh o s)
    obtain ⟨hsteps, hpost⟩ := ih _ hk
    exact ⟨.head hg hsteps, hpost⟩

end Wp

end Prog

end CertWatch.Lib
