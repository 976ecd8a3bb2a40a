/-
# `CertWatch.Lib.Trace` — what a program has called, and parts of a larger interface.

A program is a tree, so the answers to its calls say where it stands.  `Trace` is that relation; a pool whose
world keeps a log of all calls has, at every moment, each thread where its own part of the log has taken it.
Facts about one program's calls then hold of every interleaving without being proved again.

An interface may contain others.  `embed` rewrites the calls of a program over a part as calls over the whole.
-/
import CertWatch.Lib.Pool
import CertWatch.Lib.EventLog
import CertWatch.Lib.Outcome
import Mathlib.Logic.Equiv.Defs

namespace CertWatch.Lib

variable {S T : Sig} {ε α β : Type}

/-! ## Traces -/

/-- A call that was made, with its answer. -/
structure Call (S : Sig) (ε : Type) where
  op : S.Op
  answer : Except ε (S.Ret op)

namespace Prog

/-- Where the answers to these calls take a program. -/
inductive Trace : Prog S ε α → List (Call S ε) → Prog S ε α → Prop where
  | nil (p : Prog S ε α) : Trace p [] p
  | concat {p : Prog S ε α} {o : S.Op} {k : Except ε (S.Ret o) → Prog S ε α} {cs : List (Call S ε)}
      (r : Except ε (S.Ret o)) : Trace p cs (.call o k) → Trace p (cs ++ [⟨o, r⟩]) (k r)

/-- The first call of a trace. -/
theorem Trace.cons {o : S.Op} {k : Except ε (S.Ret o) → Prog S ε α} {cs : List (Call S ε)} {p : Prog S ε α}
    (r : Except ε (S.Ret o)) (h : (k r).Trace cs p) : (Prog.call o k).Trace (⟨o, r⟩ :: cs) p := by
  induction h with
  | nil => exact Trace.concat r (.nil _)
  | concat r' _ ih => exact .concat r' ih

/-- A trace goes on where another one ends. -/
theorem Trace.append {p q q' : Prog S ε α} {cs cs' : List (Call S ε)} (h : p.Trace cs q) (h' : q.Trace cs' q') :
    p.Trace (cs ++ cs') q' := by
  induction h' with
  | nil =>
    rw [List.append_nil]
    exact h
  | concat r _ ih =>
    rw [← List.append_assoc]
    exact .concat r ih

theorem Trace.bind {p q : Prog S ε α} {cs : List (Call S ε)} (h : p.Trace cs q) (f : α → Prog S ε β) :
    (p.bind f).Trace cs (q.bind f) := by
  induction h with
  | nil => exact .nil _
  | concat r _ ih => exact .concat r ih

theorem Trace.attempt {p q : Prog S ε α} {cs : List (Call S ε)} (h : p.Trace cs q) :
    p.attempt.Trace cs q.attempt := by
  induction h with
  | nil => exact .nil _
  | concat r _ ih => exact .concat r ih

theorem Trace.tryCatch {p q : Prog S ε α} {cs : List (Call S ε)} (h : p.Trace cs q) (f : ε → Prog S ε α) :
    (p.tryCatch f).Trace cs (q.tryCatch f) := by
  induction h with
  | nil => exact .nil _
  | concat r _ ih => exact .concat r ih

/-- A program that makes no call stays where it is. -/
theorem trace_still {p q : Prog S ε α} {cs : List (Call S ε)} (hp : ∀ o k, p ≠ .call o k) (h : p.Trace cs q) :
    cs = [] ∧ q = p := by
  induction h with
  | nil => exact ⟨rfl, rfl⟩
  | concat r _ ih => exact absurd ih.2.symm (hp _ _)

/-- A single call is still to come, or has been answered. -/
theorem trace_perform {o : S.Op} {cs : List (Call S ε)} {q : Prog S ε (S.Ret o)}
    (h : (perform o : Prog S ε (S.Ret o)).Trace cs q) :
    (cs = [] ∧ q = perform o) ∨ ∃ r, cs = [⟨o, r⟩] ∧ q = ofExcept r := by
  induction h with
  | nil => exact .inl ⟨rfl, rfl⟩
  | @concat o' k cs r _ ih =>
    obtain ⟨rfl, hq⟩ | ⟨r', rfl, hq⟩ := ih
    · replace hq : Prog.call o' k = .call o ofExcept := hq
      cases hq
      exact .inr ⟨r, rfl, rfl⟩
    · cases r' <;> cases hq

/-- A trace of a sequence is still in its first part, or goes on with what that returned. -/
theorem trace_bind {p : Prog S ε α} {f : α → Prog S ε β} {cs : List (Call S ε)} {q : Prog S ε β}
    (h : (p.bind f).Trace cs q) : (∃ p', p.Trace cs p' ∧ q = p'.bind f) ∨
      ∃ a cs₁ cs₂, p.Trace cs₁ (.ret a) ∧ (f a).Trace cs₂ q ∧ cs = cs₁ ++ cs₂ := by
  generalize hp : p.bind f = whole at h
  induction h with
  | nil => exact .inl ⟨p, .nil p, hp.symm⟩
  | @concat o k cs r _ ih =>
    obtain ⟨p', htrace, hq⟩ | ⟨a, cs₁, cs₂, hfirst, hsecond, rfl⟩ := ih
    · cases p' with
      | ret a =>
        have hstart : f a = .call o k := hq.symm
        refine .inr ⟨a, cs, [⟨o, r⟩], htrace, ?_, rfl⟩
        rw [hstart]
        exact Trace.concat r (.nil _)
      | raise e => cases hq
      | hang => cases hq
      | call o' k' =>
        cases hq
        exact .inl ⟨k' r, .concat r htrace, rfl⟩
    · exact .inr ⟨a, cs₁, cs₂ ++ [⟨o, r⟩], hfirst, .concat r hsecond, List.append_assoc _ _ _⟩

/-- A sequence that begins with a call is still before it, or goes on with its answer. -/
theorem trace_perform_bind {o : S.Op} {f : S.Ret o → Prog S ε β} {cs : List (Call S ε)} {q : Prog S ε β}
    (h : ((perform o : Prog S ε (S.Ret o)).bind f).Trace cs q) : cs = [] ∧ q = (perform o).bind f ∨
      (∃ e, cs = [⟨o, .error e⟩] ∧ q = .raise e) ∨
        ∃ a rest, cs = ⟨o, .ok a⟩ :: rest ∧ (f a).Trace rest q := by
  obtain ⟨p', hcall, rfl⟩ | ⟨a, cs₁, cs₂, hcall, hrest, rfl⟩ := trace_bind h
  · obtain ⟨rfl, rfl⟩ | ⟨r, rfl, rfl⟩ := trace_perform hcall
    · exact .inl ⟨rfl, rfl⟩
    · cases r with
      | ok a => exact .inr (.inr ⟨a, [], rfl, .nil _⟩)
      | error e => exact .inr (.inl ⟨e, rfl, rfl⟩)
  · obtain ⟨-, hret⟩ | ⟨r, rfl, hret⟩ := trace_perform hcall
    · cases hret
    · cases r with
      | ok a' =>
        cases hret
        exact .inr (.inr ⟨a, cs₂, rfl, hrest⟩)
      | error e => cases hret

/-- A sequence that has come to its end has its first part at an end. -/
theorem trace_bind_ended {p : Prog S ε α} {f : α → Prog S ε β} {cs : List (Call S ε)} {x : Except ε β}
    (h : (p.bind f).Trace cs (.ofExcept x)) : (∃ e, x = .error e ∧ p.Trace cs (.raise e)) ∨
      ∃ a cs₁ cs₂, p.Trace cs₁ (.ret a) ∧ (f a).Trace cs₂ (.ofExcept x) ∧ cs = cs₁ ++ cs₂ := by
  obtain ⟨p', hfirst, hq⟩ | hsecond := trace_bind h
  · cases p' with
    | ret a =>
      refine .inr ⟨a, cs, [], hfirst, ?_, (List.append_nil cs).symm⟩
      rw [show f a = .ofExcept x from hq.symm]
      exact .nil _
    | raise e =>
      cases x with
      | ok b => cases hq
      | error e' =>
        cases hq
        exact .inl ⟨e, rfl, hfirst⟩
    | hang => cases x <;> cases hq
    | call o k => cases x <;> cases hq
  · exact .inr hsecond

theorem trace_attempt {p : Prog S ε α} {cs : List (Call S ε)} {q : Prog S ε (Except ε α)}
    (h : p.attempt.Trace cs q) : ∃ p', p.Trace cs p' ∧ q = p'.attempt := by
  generalize hp : p.attempt = whole at h
  induction h with
  | nil => exact ⟨p, .nil p, hp.symm⟩
  | @concat o k cs r _ ih =>
    obtain ⟨p', htrace, hq⟩ := ih
    cases p' with
    | call o' k' =>
      cases hq
      exact ⟨k' r, .concat r htrace, rfl⟩
    | _ => cases hq

/-- A trace of a guarded part is still in it, or goes on with the handler of what it raised. -/
theorem trace_tryCatch {p : Prog S ε α} {f : ε → Prog S ε α} {cs : List (Call S ε)} {q : Prog S ε α}
    (h : (p.tryCatch f).Trace cs q) : (∃ p', p.Trace cs p' ∧ q = p'.tryCatch f) ∨
      ∃ e cs₁ cs₂, p.Trace cs₁ (.raise e) ∧ (f e).Trace cs₂ q ∧ cs = cs₁ ++ cs₂ := by
  generalize hp : p.tryCatch f = whole at h
  induction h with
  | nil => exact .inl ⟨p, .nil p, hp.symm⟩
  | @concat o k cs r _ ih =>
    obtain ⟨p', htrace, hq⟩ | ⟨e, cs₁, cs₂, hfirst, hsecond, rfl⟩ := ih
    · cases p' with
      | raise e =>
        have hstart : f e = .call o k := hq.symm
        refine .inr ⟨e, cs, [⟨o, r⟩], htrace, ?_, rfl⟩
        rw [hstart]
        exact Trace.concat r (.nil _)
      | ret a => cases hq
      | hang => cases hq
      | call o' k' =>
        cases hq
        exact .inl ⟨k' r, .concat r htrace, rfl⟩
    · exact .inr ⟨e, cs₁, cs₂ ++ [⟨o, r⟩], hfirst, .concat r hsecond, List.append_assoc _ _ _⟩

/-- What a program does among surroundings that answer every call in one way. -/
theorem trace_made (h : (o : S.Op) → Except ε (S.Ret o)) (p : Prog S ε α) :
    p.Trace ((p.made h).map fun o => ⟨o, h o⟩) (atEnd (p.outcome h)) := by
  induction p with
  | ret a => exact .nil _
  | raise e => exact .nil _
  | hang => exact .nil _
  | call o k ih => exact Trace.cons (h o) (ih (h o))

/-- Answers that such surroundings give leave the outcome as it was. -/
theorem Trace.outcome {h : (o : S.Op) → Except ε (S.Ret o)} {p q : Prog S ε α} {cs : List (Call S ε)}
    (ht : p.Trace cs q) (hcs : ∀ c ∈ cs, c.answer = h c.op) : q.outcome h = p.outcome h := by
  induction ht with
  | nil => rfl
  | @concat o k cs r _ ih =>
    have hr : r = h o := hcs ⟨o, r⟩ (List.mem_append_right cs List.mem_cons_self)
    rw [← ih fun c hc => hcs c (List.mem_append_left _ hc), hr]
    rfl

/-- The program makes no other calls than these. -/
def Only (A : S.Op → Prop) : Prog S ε α → Prop
  | .ret _ => True
  | .raise _ => True
  | .hang => True
  | .call o k => A o ∧ ∀ r, (k r).Only A

section Only

variable {A : S.Op → Prop}

theorem only_perform {o : S.Op} (h : A o) : (perform o : Prog S ε (S.Ret o)).Only A := by
  refine ⟨h, fun r => ?_⟩
  cases r <;> trivial

theorem only_ofExcept (x : Except ε α) : (ofExcept x : Prog S ε α).Only A := by
  cases x <;> trivial

theorem only_true (p : Prog S ε α) : p.Only fun _ => True := by
  induction p with
  | ret | raise | hang => trivial
  | call o k ih => exact ⟨trivial, ih⟩

theorem Only.bind {p : Prog S ε α} {f : α → Prog S ε β} (hp : p.Only A) (hf : ∀ a, (f a).Only A) :
    (p.bind f).Only A := by
  induction p with
  | ret a => exact hf a
  | raise e => trivial
  | hang => trivial
  | call o k ih => exact ⟨hp.1, fun r => ih r (hp.2 r)⟩

theorem Only.attempt {p : Prog S ε α} (hp : p.Only A) : p.attempt.Only A := by
  induction p with
  | ret a => trivial
  | raise e => trivial
  | hang => trivial
  | call o k ih => exact ⟨hp.1, fun r => ih r (hp.2 r)⟩

theorem Only.tryCatch {p : Prog S ε α} {f : ε → Prog S ε α} (hp : p.Only A) (hf : ∀ e, (f e).Only A) :
    (p.tryCatch f).Only A := by
  induction p with
  | ret a => trivial
  | raise e => exact hf e
  | hang => trivial
  | call o k ih => exact ⟨hp.1, fun r => ih r (hp.2 r)⟩

theorem Only.mono {p : Prog S ε α} {A' : S.Op → Prop} (hp : p.Only A) (hA : ∀ o, A o → A' o) : p.Only A' := by
  induction p with
  | ret a => trivial
  | raise e => trivial
  | hang => trivial
  | call o k ih => exact ⟨hA o hp.1, fun r => ih r (hp.2 r)⟩

theorem Only.and {A B : S.Op → Prop} {p : Prog S ε α} (hA : p.Only A) (hB : p.Only B) :
    p.Only fun o => A o ∧ B o := by
  induction p with
  | call o k ih => exact ⟨⟨hA.1, hB.1⟩, fun r => ih r (hA.2 r) (hB.2 r)⟩
  | _ => trivial

/-- So does every trace of it. -/
theorem Only.trace {p p' : Prog S ε α} {cs : List (Call S ε)} (h : p.Only A) (ht : p.Trace cs p') :
    p'.Only A ∧ ∀ c ∈ cs, A c.op := by
  induction ht with
  | nil => exact ⟨h, nofun⟩
  | concat r _ ih =>
    obtain ⟨⟨ho, hk⟩, hcs⟩ := ih
    refine ⟨hk r, fun c hc => ?_⟩
    rcases List.mem_append.mp hc with hc | hc
    · exact hcs c hc
    · obtain rfl := List.mem_singleton.mp hc
      exact ho

end Only

/-- The program makes no other calls than these, and is never out of fuel. -/
def Finishes (A : S.Op → Prop) : Prog S ε α → Prop
  | .ret _ => True
  | .raise _ => True
  | .hang => False
  | .call o k => A o ∧ ∀ r, (k r).Finishes A

section Finishes

variable {A : S.Op → Prop}

theorem finishes_perform {o : S.Op} (h : A o) : (perform o : Prog S ε (S.Ret o)).Finishes A := by
  refine ⟨h, fun r => ?_⟩
  cases r <;> trivial

theorem finishes_ofExcept (x : Except ε α) : (ofExcept x : Prog S ε α).Finishes A := by
  cases x <;> trivial

theorem Finishes.only {p : Prog S ε α} (hp : p.Finishes A) : p.Only A := by
  induction p with
  | call o k ih => exact ⟨hp.1, fun r => ih r (hp.2 r)⟩
  | _ => trivial

theorem Finishes.mono {p : Prog S ε α} {A' : S.Op → Prop} (hp : p.Finishes A) (hA : ∀ o, A o → A' o) :
    p.Finishes A' := by
  induction p with
  | ret a => trivial
  | raise e => trivial
  | hang => exact hp
  | call o k ih => exact ⟨hA o hp.1, fun r => ih r (hp.2 r)⟩

theorem Finishes.bind {p : Prog S ε α} {f : α → Prog S ε β} (hp : p.Finishes A) (hf : ∀ a, (f a).Finishes A) :
    (p.bind f).Finishes A := by
  induction p with
  | ret a => exact hf a
  | raise e => trivial
  | hang => exact hp
  | call o k ih => exact ⟨hp.1, fun r => ih r (hp.2 r)⟩

theorem Finishes.attempt {p : Prog S ε α} (hp : p.Finishes A) : p.attempt.Finishes A := by
  induction p with
  | ret a => trivial
  | raise e => trivial
  | hang => exact hp
  | call o k ih => exact ⟨hp.1, fun r => ih r (hp.2 r)⟩

theorem Finishes.tryCatch {p : Prog S ε α} {f : ε → Prog S ε α} (hp : p.Finishes A) (hf : ∀ e, (f e).Finishes A) :
    (p.tryCatch f).Finishes A := by
  induction p with
  | ret a => trivial
  | raise e => exact hf e
  | hang => exact hp
  | call o k ih => exact ⟨hp.1, fun r => ih r (hp.2 r)⟩

end Finishes

/-- The program returned or raised. -/
def Ended : Prog S ε α → Prop
  | .ret _ => True
  | .raise _ => True
  | _ => False

end Prog

namespace Pool

variable {ι : Type} [DecidableEq ι] {σ : Type}

/-- Every thread stands where its own calls have taken a program that it may have been given. -/
def Traced (program : ι → Prog S ε α → Prop) (log : σ → List (ι × Call S ε)) (P : Pool ι S ε α σ) : Prop :=
  ∀ i, match P.threads i with
    | none => ownEvents i (log P.shared) = []
    | some p => ∃ p₀, program i p₀ ∧ p₀.Trace (ownEvents i (log P.shared)) p

variable {exec : ι → (o : S.Op) → σ → Except ε (S.Ret o) → σ → Prop} {program : ι → Prog S ε α → Prop}
  {log : σ → List (ι × Call S ε)} {P P' : Pool ι S ε α σ}

theorem Traced.of_some {i : ι} {p : Prog S ε α} (h : P.Traced program log) (hi : P.threads i = some p) :
    ∃ p₀, program i p₀ ∧ p₀.Trace (ownEvents i (log P.shared)) p := by
  have hw := h i
  rw [hi] at hw
  exact hw

theorem Traced.of_none {i : ι} (h : P.Traced program log) (hi : P.threads i = none) :
    ownEvents i (log P.shared) = [] := by
  have hw := h i
  rw [hi] at hw
  exact hw

/-- Calls keep every thread on its trace, when the log records each of them. -/
theorem Traced.step {i : ι} (hlog : ∀ i o s r s', exec i o s r s' → log s' = log s ++ [(i, ⟨o, r⟩)])
    (h : P.Traced program log) (hstep : Step exec i P P') : P'.Traced program log := by
  cases hstep with
  | @call o k r s' hi hex =>
    intro j
    show match Function.update P.threads i (some (k r)) j with
      | none => ownEvents j (log s') = []
      | some p => ∃ p₀, program j p₀ ∧ p₀.Trace (ownEvents j (log s')) p
    rw [hlog i o _ r s' hex]
    by_cases hji : j = i
    · subst hji
      obtain ⟨p₀, hp₀, htrace⟩ := h.of_some hi
      rw [Function.update_self, ownEvents_concat_self]
      exact ⟨p₀, hp₀, .concat r htrace⟩
    · rw [Function.update_of_ne hji, ownEvents_concat_ne (Ne.symm hji)]
      exact h j

/-- A thread that joins is at the start of its trace. -/
theorem Traced.spawn {i : ι} {p : Prog S ε α} (h : P.Traced program log) (hi : P.threads i = none)
    (hp : program i p) : (P.spawn i p).Traced program log := by
  intro j
  show match Function.update P.threads i (some p) j with
    | none => ownEvents j (log P.shared) = []
    | some p => ∃ p₀, program j p₀ ∧ p₀.Trace (ownEvents j (log P.shared)) p
  by_cases hji : j = i
  · subst hji
    rw [Function.update_self, h.of_none hi]
    exact ⟨p, hp, .nil p⟩
  · rw [Function.update_of_ne hji]
    exact h j

/-- What the surroundings do outside the log moves no thread. -/
theorem Traced.shared {s' : σ} (h : P.Traced program log) (hs : log s' = log P.shared) :
    Traced program log { P with shared := s' } := by
  intro i
  show match P.threads i with
    | none => ownEvents i (log s') = []
    | some p => ∃ p₀, program i p₀ ∧ p₀.Trace (ownEvents i (log s')) p
  rw [hs]
  exact h i

end Pool

/-! ## Parts of an interface -/

/-- The operations of `S` are among those of `T`. -/
structure Embedding (S T : Sig) where
  op : S.Op → T.Op
  ret : (o : S.Op) → S.Ret o ≃ T.Ret (op o)

theorem Embedding.map_symm_map (E : Embedding S T) (o : S.Op) (r : Except ε (T.Ret (E.op o))) :
    (r.map (E.ret o).symm).map (E.ret o) = r := by
  cases r with
  | error e => rfl
  | ok a => exact congrArg Except.ok ((E.ret o).apply_symm_apply a)

/-- A call of the part, as one of the whole. -/
def Embedding.call (E : Embedding S T) (c : Call S ε) : Call T ε := ⟨E.op c.op, c.answer.map (E.ret c.op)⟩

namespace Prog

/-- A program over a part of the interface. -/
def embed (E : Embedding S T) : Prog S ε α → Prog T ε α
  | .ret a => .ret a
  | .raise e => .raise e
  | .hang => .hang
  | .call o k => .call (E.op o) fun r => (k (r.map (E.ret o).symm)).embed E

variable (E : Embedding S T)

@[simp] theorem embed_ret (a : α) : (ret a : Prog S ε α).embed E = .ret a := rfl

@[simp] theorem embed_raise (e : ε) : (raise e : Prog S ε α).embed E = .raise e := rfl

@[simp] theorem embed_hang : (hang : Prog S ε α).embed E = .hang := rfl

@[simp] theorem embed_ofExcept (x : Except ε α) : (ofExcept x : Prog S ε α).embed E = .ofExcept x := by
  cases x <;> rfl

theorem embed_bind (p : Prog S ε α) (f : α → Prog S ε β) :
    (p.bind f).embed E = (p.embed E).bind fun a => (f a).embed E := by
  induction p with
  | call o k ih => exact congrArg (Prog.call (E.op o)) (funext fun r => ih _)
  | _ => rfl

theorem embed_tryCatch (p : Prog S ε α) (f : ε → Prog S ε α) :
    (p.tryCatch f).embed E = (p.embed E).tryCatch fun e => (f e).embed E := by
  induction p with
  | call o k ih => exact congrArg (Prog.call (E.op o)) (funext fun r => ih _)
  | _ => rfl

/-- The calls of a program over a part are those of the part. -/
theorem trace_embed {p : Prog S ε α} {cs : List (Call T ε)} {q : Prog T ε α} (h : (p.embed E).Trace cs q) :
    ∃ cs' p', p.Trace cs' p' ∧ q = p'.embed E ∧ cs = cs'.map E.call := by
  generalize hp : p.embed E = whole at h
  induction h with
  | nil => exact ⟨[], p, .nil p, hp.symm, rfl⟩
  | @concat o k cs r _ ih =>
    obtain ⟨cs', p', htrace, hq, rfl⟩ := ih
    cases p' with
    | call o' k' =>
      cases hq
      refine ⟨_, _, .concat (r.map (E.ret o').symm) htrace, rfl, ?_⟩
      rw [List.map_append, List.map_singleton, Embedding.call, E.map_symm_map]
    | _ => cases hq

/-- A program whose calls are programs over another interface. -/
def interpret (f : (o : S.Op) → Prog T ε (S.Ret o)) : Prog S ε α → Prog T ε α
  | .ret a => .ret a
  | .raise e => .raise e
  | .hang => .hang
  | .call o k => (f o).attempt.bind fun r => (k r).interpret f

section Interpret

variable (f : (o : S.Op) → Prog T ε (S.Ret o))

theorem interpret_ofExcept (x : Except ε α) : (ofExcept x : Prog S ε α).interpret f = .ofExcept x := by
  cases x <;> rfl

theorem interpret_perform (o : S.Op) : (perform o : Prog S ε (S.Ret o)).interpret f = f o := by
  show (f o).attempt.bind (fun r => (ofExcept r : Prog S ε (S.Ret o)).interpret f) = f o
  simp only [interpret_ofExcept]
  exact attempt_bind_ofExcept (f o)

theorem interpret_bind (p : Prog S ε α) (g : α → Prog S ε β) :
    (p.bind g).interpret f = (p.interpret f).bind fun a => (g a).interpret f := by
  induction p with
  | call o k ih =>
    show (f o).attempt.bind (fun r => ((k r).bind g).interpret f) = _
    simp only [ih]
    exact (bind_assoc _ _ _).symm
  | _ => rfl

theorem interpret_attempt (p : Prog S ε α) : p.attempt.interpret f = (p.interpret f).attempt := by
  induction p with
  | call o k ih =>
    show (f o).attempt.bind (fun r => (k r).attempt.interpret f) = _
    simp only [ih]
    exact (attempt_attempt_bind _ _).symm
  | _ => rfl

end Interpret

/-- A program over a part makes only calls of that part. -/
theorem only_embed {A : T.Op → Prop} (h : ∀ o, A (E.op o)) (p : Prog S ε α) : (p.embed E).Only A := by
  induction p with
  | ret a => trivial
  | raise e => trivial
  | hang => trivial
  | call o k ih => exact ⟨h o, fun r => ih _⟩

theorem Finishes.embed {A : T.Op → Prop} {p : Prog S ε α} (hp : p.Finishes fun o => A (E.op o)) :
    (p.embed E).Finishes A := by
  induction p with
  | ret a => trivial
  | raise e => trivial
  | hang => exact hp
  | call o k ih => exact ⟨hp.1, fun r => ih _ (hp.2 _)⟩

end Prog

end CertWatch.Lib
