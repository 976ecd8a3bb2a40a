/-
# `CertWatch.Lib.Monitor` — safety automata over the calls of a program.

A monitor reads a program's calls one by one: each of its states allows some operations, and the answer of a
call takes it to the next.  `Obeys` says that a program only ever makes calls that are allowed and ends only
as `F` says of the monitor's state.  It composes along the program as a weakest precondition does, but speaks
of no shared world: what it says of one program holds of every trace of that program, in any interleaving.
-/
import CertWatch.Lib.Trace

namespace CertWatch.Lib

variable {S T : Sig} {ε α β Q : Type}

/-- A safety automaton: the answers it reckons with, the operations each state allows, where an answer takes it,
and the states in which a loop may be out of fuel. -/
structure Monitor (S : Sig) (ε Q : Type) where
  possible : (o : S.Op) → Except ε (S.Ret o) → Prop
  allows : Q → S.Op → Prop
  next : Q → (o : S.Op) → Except ε (S.Ret o) → Q
  mayHang : Q → Prop := fun _ => True

namespace Prog

/-- Every call of the program is allowed, and it ends only as `F` says. -/
def Obeys (M : Monitor S ε Q) (F : Q → Except ε α → Prop) : Prog S ε α → Q → Prop
  | .ret a, q => F q (.ok a)
  | .raise e, q => F q (.error e)
  | .hang, q => M.mayHang q
  | .call o k, q => M.allows q o ∧ ∀ r, M.possible o r → (k r).Obeys M F (M.next q o r)

variable {M : Monitor S ε Q} {q : Q}

/-! ## Rules -/

@[simp] theorem obeys_ret {F : Q → Except ε α → Prop} {a : α} :
    (ret a : Prog S ε α).Obeys M F q ↔ F q (.ok a) := Iff.rfl

@[simp] theorem obeys_raise {F : Q → Except ε α → Prop} {e : ε} :
    (raise e : Prog S ε α).Obeys M F q ↔ F q (.error e) := Iff.rfl

@[simp] theorem obeys_hang {F : Q → Except ε α → Prop} : (hang : Prog S ε α).Obeys M F q ↔ M.mayHang q := Iff.rfl

theorem obeys_call {F : Q → Except ε α → Prop} {o : S.Op} {k : Except ε (S.Ret o) → Prog S ε α} :
    (call o k).Obeys M F q ↔ M.allows q o ∧ ∀ r, M.possible o r → (k r).Obeys M F (M.next q o r) := Iff.rfl

@[simp] theorem obeys_ofExcept {F : Q → Except ε α → Prop} {x : Except ε α} :
    (ofExcept x : Prog S ε α).Obeys M F q ↔ F q x := by
  cases x <;> exact Iff.rfl

theorem obeys_perform {o : S.Op} {F : Q → Except ε (S.Ret o) → Prop} :
    (perform o : Prog S ε (S.Ret o)).Obeys M F q ↔
      M.allows q o ∧ ∀ r, M.possible o r → F (M.next q o r) r := by
  simp only [perform, obeys_call, obeys_ofExcept]

/-- What follows an outcome, as a condition on that outcome. -/
def ThenObeys (M : Monitor S ε Q) (F : Q → Except ε β → Prop) (f : α → Prog S ε β) : Q → Except ε α → Prop
  | q, .ok a => (f a).Obeys M F q
  | q, .error e => F q (.error e)

@[simp] theorem thenObeys_ok {F : Q → Except ε β → Prop} {f : α → Prog S ε β} {a : α} :
    ThenObeys M F f q (.ok a) ↔ (f a).Obeys M F q := Iff.rfl

@[simp] theorem thenObeys_error {F : Q → Except ε β → Prop} {f : α → Prog S ε β} {e : ε} :
    ThenObeys M F f q (.error e) ↔ F q (.error e) := Iff.rfl

theorem obeys_bind {p : Prog S ε α} {f : α → Prog S ε β} {F : Q → Except ε β → Prop} :
    (p.bind f).Obeys M F q ↔ p.Obeys M (ThenObeys M F f) q := by
  induction p generalizing q with
  | ret a => exact Iff.rfl
  | raise e => exact Iff.rfl
  | hang => exact Iff.rfl
  | call o k ih =>
    simp only [call_bind, obeys_call]
    exact and_congr_right fun _ => forall₂_congr fun r _ => ih r

theorem obeys_attempt {p : Prog S ε α} {F : Q → Except ε (Except ε α) → Prop} :
    p.attempt.Obeys M F q ↔ p.Obeys M (fun q x => F q (.ok x)) q := by
  induction p generalizing q with
  | ret a => exact Iff.rfl
  | raise e => exact Iff.rfl
  | hang => exact Iff.rfl
  | call o k ih =>
    simp only [attempt, obeys_call]
    exact and_congr_right fun _ => forall₂_congr fun r _ => ih r

/-- What an exception handler makes of an outcome. -/
def CatchObeys (M : Monitor S ε Q) (F : Q → Except ε α → Prop) (f : ε → Prog S ε α) : Q → Except ε α → Prop
  | q, .ok a => F q (.ok a)
  | q, .error e => (f e).Obeys M F q

@[simp] theorem catchObeys_ok {F : Q → Except ε α → Prop} {f : ε → Prog S ε α} {a : α} :
    CatchObeys M F f q (.ok a) ↔ F q (.ok a) := Iff.rfl

@[simp] theorem catchObeys_error {F : Q → Except ε α → Prop} {f : ε → Prog S ε α} {e : ε} :
    CatchObeys M F f q (.error e) ↔ (f e).Obeys M F q := Iff.rfl

theorem obeys_tryCatch {p : Prog S ε α} {f : ε → Prog S ε α} {F : Q → Except ε α → Prop} :
    (p.tryCatch f).Obeys M F q ↔ p.Obeys M (CatchObeys M F f) q := by
  induction p generalizing q with
  | ret a => exact Iff.rfl
  | raise e => exact Iff.rfl
  | hang => exact Iff.rfl
  | call o k ih =>
    simp only [tryCatch, obeys_call]
    exact and_congr_right fun _ => forall₂_congr fun r _ => ih r

/-- Consequence. -/
theorem Obeys.mono {p : Prog S ε α} {F F' : Q → Except ε α → Prop} (h : p.Obeys M F q)
    (hF : ∀ q x, F q x → F' q x) : p.Obeys M F' q := by
  induction p generalizing q with
  | ret a => exact hF _ _ h
  | raise e => exact hF _ _ h
  | hang => exact h
  | call o k ih => exact ⟨h.1, fun r hr => ih r (h.2 r hr)⟩

theorem obeys_congr {p : Prog S ε α} {F F' : Q → Except ε α → Prop} (h : ∀ q x, F q x ↔ F' q x) :
    p.Obeys M F q ↔ p.Obeys M F' q :=
  ⟨fun hp => hp.mono fun q x => (h q x).mp, fun hp => hp.mono fun q x => (h q x).mpr⟩

/-- Sequencing, with what the first part ends in spelled out. -/
theorem Obeys.bind {p : Prog S ε α} {f : α → Prog S ε β} {F : Q → Except ε α → Prop}
    {F' : Q → Except ε β → Prop} (h : p.Obeys M F q) (hok : ∀ q a, F q (.ok a) → (f a).Obeys M F' q)
    (herr : ∀ q e, F q (.error e) → F' q (.error e)) : (p.bind f).Obeys M F' q := by
  rw [obeys_bind]
  refine h.mono fun q x hx => ?_
  cases x with
  | ok a => exact hok q a hx
  | error e => exact herr q e hx

/-- A part whose exceptions are looked at. -/
theorem Obeys.attempt_bind {p : Prog S ε α} {f : Except ε α → Prog S ε β} {F : Q → Except ε α → Prop}
    {F' : Q → Except ε β → Prop} (h : p.Obeys M F q) (hf : ∀ q x, F q x → (f x).Obeys M F' q) :
    (p.attempt.bind f).Obeys M F' q := by
  rw [obeys_bind, obeys_attempt]
  exact h.mono hf

/-- A value that is computed, or an exception. -/
theorem obeys_ofExcept_bind {x : Except ε α} {f : α → Prog S ε β} {F : Q → Except ε β → Prop}
    (hok : ∀ a, x = .ok a → (f a).Obeys M F q) (herror : ∀ e, x = .error e → F q (.error e)) :
    ((ofExcept x).bind f).Obeys M F q := by
  cases x with
  | ok a => exact hok a rfl
  | error e => exact herror e rfl

/-- A monitor that allows every call is obeyed by every program. -/
theorem obeys_true (hallows : ∀ q o, M.allows q o) (hhang : ∀ q, M.mayHang q) (p : Prog S ε α) (q : Q) :
    p.Obeys M (fun _ _ => True) q := by
  induction p generalizing q with
  | ret a => trivial
  | raise e => trivial
  | hang => exact hhang q
  | call o k ih => exact ⟨hallows q o, fun r _ => ih r _⟩

/-- A monitor stays in its state during a program that only makes calls which leave it there. -/
theorem Only.obeys {p : Prog S ε α} {A : S.Op → Prop} (h : p.Only A)
    (hcalls : ∀ o, A o → M.allows q o ∧ ∀ r, M.possible o r → M.next q o r = q) (hhang : M.mayHang q) :
    p.Obeys M (fun q' _ => q' = q) q := by
  induction p with
  | ret a => rfl
  | raise e => rfl
  | hang => exact hhang
  | call o k ih =>
    obtain ⟨ho, hk⟩ := h
    refine ⟨(hcalls o ho).1, fun r hr => ?_⟩
    rw [(hcalls o ho).2 r hr]
    exact ih r (hk r)

/-- A monitor keeps an invariant of its states during a program that only makes calls which keep it. -/
theorem Only.obeys_invariant {p : Prog S ε α} {A : S.Op → Prop} {I : Q → Prop} (h : p.Only A)
    (hcalls : ∀ q o, I q → A o → M.allows q o ∧ ∀ r, M.possible o r → I (M.next q o r))
    (hhang : ∀ q, I q → M.mayHang q) (hq : I q) : p.Obeys M (fun q' _ => I q') q := by
  induction p generalizing q with
  | ret a => exact hq
  | raise e => exact hq
  | hang => exact hhang q hq
  | call o k ih =>
    obtain ⟨ho, hk⟩ := h
    obtain ⟨hallows, hkeep⟩ := hcalls q o hq ho
    exact ⟨hallows, fun r hr => ih r (hk r) (hkeep r hr)⟩

/-- What one monitor says of the results holds under another one too. -/
theorem Obeys.and_results {Q' : Type} {M' : Monitor S ε Q'} {q' : Q'} {p : Prog S ε α} {F : Q → Except ε α → Prop}
    {F' : Q' → Except ε α → Prop} (h : p.Obeys M F q) (h' : p.Obeys M' F' q')
    (hpossible : ∀ o r, M.possible o r → M'.possible o r) :
    p.Obeys M (fun q x => F q x ∧ ∃ q', F' q' x) q := by
  induction p generalizing q q' with
  | ret a => exact ⟨h, q', h'⟩
  | raise e => exact ⟨h, q', h'⟩
  | hang => exact h
  | call o k ih => exact ⟨h.1, fun r hr => ih r (h.2 r hr) (h'.2 r (hpossible o r hr))⟩

/-! ## Traces of a program that obeys -/

end Prog

namespace Monitor

variable (M : Monitor S ε Q)

/-- Where these calls take the monitor. -/
def after (q : Q) (cs : List (Call S ε)) : Q := cs.foldl (fun q c => M.next q c.op c.answer) q

/-- Every one of these calls is allowed when it is made, and its answer is one the monitor reckons with. -/
def Lawful : Q → List (Call S ε) → Prop
  | _, [] => True
  | q, c :: cs => M.allows q c.op ∧ M.possible c.op c.answer ∧ Lawful (M.next q c.op c.answer) cs

@[simp] theorem after_nil (q : Q) : M.after q [] = q := rfl

theorem after_concat (q : Q) (cs : List (Call S ε)) (c : Call S ε) :
    M.after q (cs ++ [c]) = M.next (M.after q cs) c.op c.answer := by
  rw [after, List.foldl_append]
  rfl

/-- What comes later is lawful from where what comes first has taken the monitor. -/
theorem lawful_append {q : Q} {cs cs' : List (Call S ε)} :
    M.Lawful q (cs ++ cs') ↔ M.Lawful q cs ∧ M.Lawful (M.after q cs) cs' := by
  induction cs generalizing q with
  | nil => exact ⟨fun h => ⟨trivial, h⟩, And.right⟩
  | cons d cs ih =>
    show _ ∧ _ ∧ M.Lawful _ (cs ++ cs') ↔ (_ ∧ _ ∧ M.Lawful _ cs) ∧ _
    rw [ih]
    simp only [after, List.foldl_cons, and_assoc]

theorem lawful_concat {q : Q} {cs : List (Call S ε)} {c : Call S ε} :
    M.Lawful q (cs ++ [c]) ↔
      M.Lawful q cs ∧ M.allows (M.after q cs) c.op ∧ M.possible c.op c.answer := by
  rw [M.lawful_append]
  simp only [Lawful, and_true]

/-- Each call was allowed by what came before it, and what comes after it is lawful from there. -/
theorem lawful_at {q : Q} {pre post : List (Call S ε)} {c : Call S ε} :
    M.Lawful q (pre ++ c :: post) ↔ M.Lawful q pre ∧ M.allows (M.after q pre) c.op ∧ M.possible c.op c.answer ∧
      M.Lawful (M.after q (pre ++ [c])) post := by
  rw [M.lawful_append, M.after_concat]
  rfl

end Monitor

namespace Prog

variable {M : Monitor S ε Q} {q : Q}

/-- **Every trace of a program that obeys is lawful**, and what is left of the program obeys from where the
trace has taken the monitor. -/
theorem Obeys.trace {p p' : Prog S ε α} {F : Q → Except ε α → Prop} {cs : List (Call S ε)}
    (h : p.Obeys M F q) (hcs : ∀ c ∈ cs, M.possible c.op c.answer) (ht : p.Trace cs p') :
    M.Lawful q cs ∧ p'.Obeys M F (M.after q cs) := by
  induction ht with
  | nil => exact ⟨trivial, h⟩
  | @concat o k cs r _ ih =>
    obtain ⟨hlawful, hobeys⟩ := ih fun c hc => hcs c (List.mem_append_left _ hc)
    have hr : M.possible o r := hcs ⟨o, r⟩ (List.mem_append_right cs List.mem_cons_self)
    rw [M.lawful_concat, M.after_concat]
    exact ⟨⟨hlawful, hobeys.1, hr⟩, hobeys.2 r hr⟩

end Prog

/-! ## A monitor that remembers every call -/

/-- Its state is the calls so far, and each call is allowed by what came before it. -/
def Monitor.history (possible : (o : S.Op) → Except ε (S.Ret o) → Prop) (allows : List (Call S ε) → S.Op → Prop) :
    Monitor S ε (List (Call S ε)) where
  possible := possible
  allows := allows
  next cs o r := cs ++ [⟨o, r⟩]

section History

variable {possible : (o : S.Op) → Except ε (S.Ret o) → Prop} {allows : List (Call S ε) → S.Op → Prop}

theorem Monitor.after_history (cs cs' : List (Call S ε)) :
    (Monitor.history possible allows).after cs cs' = cs ++ cs' := by
  induction cs' using List.reverseRecOn with
  | nil => simp
  | append_singleton cs' c ih =>
    rw [Monitor.after_concat, ih]
    simp [Monitor.history]

/-- Each call of a lawful list was allowed by the calls before it. -/
theorem Monitor.Lawful.allowed {pre post : List (Call S ε)} {c : Call S ε}
    (h : (Monitor.history possible allows).Lawful [] (pre ++ c :: post)) : allows pre c.op := by
  have hat := ((Monitor.history possible allows).lawful_at.mp h).2.1
  rw [Monitor.after_history, List.nil_append] at hat
  exact hat

/-- Calls that keep an invariant of the past, which allows them. -/
theorem Prog.Only.obeys_history {p : Prog S ε α} {A : S.Op → Prop} {I : List (Call S ε) → Prop} (h : p.Only A)
    (hkeep : ∀ cs o r, I cs → A o → I (cs ++ [⟨o, r⟩])) (hallows : ∀ cs o, I cs → A o → allows cs o)
    {cs : List (Call S ε)} (hcs : I cs) : p.Obeys (.history possible allows) (fun cs' _ => I cs') cs := by
  induction p generalizing cs with
  | ret a => exact hcs
  | raise e => exact hcs
  | hang => trivial
  | call o k ih =>
    obtain ⟨ho, hk⟩ := h
    exact ⟨hallows cs o hcs ho, fun r _ => ih r (hk r) (hkeep cs o r hcs ho)⟩

end History

/-! ## Monitors of a part of the interface -/

/-- What a monitor of the whole interface sees of a part of it. -/
def Monitor.comap (M : Monitor T ε Q) (E : Embedding S T) : Monitor S ε Q where
  possible o r := M.possible (E.op o) (r.map (E.ret o))
  allows q o := M.allows q (E.op o)
  next q o r := M.next q (E.op o) (r.map (E.ret o))
  mayHang := M.mayHang

/-- A program over a part obeys a monitor of the whole when it obeys what that monitor sees of the part. -/
theorem Prog.Obeys.embed {E : Embedding S T} {M : Monitor T ε Q} {p : Prog S ε α}
    {F : Q → Except ε α → Prop} {q : Q} (h : p.Obeys (M.comap E) F q) : (p.embed E).Obeys M F q := by
  induction p generalizing q with
  | ret a => exact h
  | raise e => exact h
  | hang => exact h
  | call o k ih =>
    refine ⟨h.1, fun r hr => ih _ ?_⟩
    have hback := E.map_symm_map o r
    have hk := h.2 (r.map (E.ret o).symm) (by
      show M.possible (E.op o) ((r.map (E.ret o).symm).map (E.ret o))
      rw [hback]
      exact hr)
    change Obeys _ _ _ (M.next q (E.op o) ((r.map (E.ret o).symm).map (E.ret o))) at hk
    rw [hback] at hk
    exact hk

end CertWatch.Lib
