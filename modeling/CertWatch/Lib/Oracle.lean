/-
# `CertWatch.Lib.Oracle` — runs against answers that may depend on everything before.

An oracle answers each call from the calls before it, so it stands for any surroundings at all.  A run against it
is deterministic, and a monitor that the program obeys says how the run ends: the calls it has made are lawful, and
the monitor's state after them fits the result, or allows the program to be out of fuel.
-/
import CertWatch.Lib.Monitor

namespace CertWatch.Lib

variable {S : Sig} {ε α Q : Type}

/-! ## Oracles -/

/-- An answer to every call, whatever was called before. -/
abbrev Oracle (S : Sig) (ε : Type) : Type := List (Call S ε) → (o : S.Op) → Except ε (S.Ret o)

/-- The handler that answers as the oracle does, and keeps the calls. -/
def Oracle.handle (oracle : Oracle S ε) (o : S.Op) (cs : List (Call S ε)) :
    Except ε (S.Ret o) × List (Call S ε) :=
  (oracle cs o, cs ++ [⟨o, oracle cs o⟩])

/-- How a program that obeys may have ended. -/
def Prog.EndFits (M : Monitor S ε Q) (F : Q → Except ε α → Prop) (q : Q) : Option (Except ε α) → Prop
  | some x => F q x
  | none => M.mayHang q

namespace Prog

variable {M : Monitor S ε Q} {q : Q} {oracle : Oracle S ε}

/-- **Every run of a program that obeys** makes lawful calls and ends as the monitor says. -/
theorem Obeys.consult {p : Prog S ε α} {F : Q → Except ε α → Prop} (h : p.Obeys M F q)
    (hpossible : ∀ cs o, M.possible o (oracle cs o)) (cs : List (Call S ε)) :
    ∃ new, (p.run oracle.handle cs).2 = cs ++ new ∧ M.Lawful q new ∧
      EndFits M F (M.after q new) (p.run oracle.handle cs).1 := by
  induction p generalizing q cs with
  | ret a => exact ⟨[], (List.append_nil cs).symm, trivial, h⟩
  | raise e => exact ⟨[], (List.append_nil cs).symm, trivial, h⟩
  | hang => exact ⟨[], (List.append_nil cs).symm, trivial, h⟩
  | call o k ih =>
    obtain ⟨hallowed, hk⟩ := h
    have hanswer := hpossible cs o
    obtain ⟨new, hlog, hlawful, hends⟩ := ih _ (hk _ hanswer) (cs ++ [⟨o, oracle cs o⟩])
    refine ⟨⟨o, oracle cs o⟩ :: new, ?_, ⟨hallowed, hanswer, hlawful⟩, hends⟩
    show ((k (oracle cs o)).run oracle.handle (cs ++ [⟨o, oracle cs o⟩])).2 = _
    rw [hlog, List.append_assoc]
    rfl

/-! ## Programs that finish -/

variable {A : S.Op → Prop}

/-- **Invariant rule.**  What every call keeps holds when the program ends, and it does end. -/
theorem Finishes.obeys {p : Prog S ε α} {I : Q → Prop} (h : p.Finishes A) (hq : I q)
    (hcalls : ∀ q o, I q → A o → M.allows q o ∧ ∀ r, M.possible o r → I (M.next q o r)) :
    p.Obeys M (fun q' _ => I q') q := by
  induction p generalizing q with
  | ret a => exact hq
  | raise e => exact hq
  | hang => exact h.elim
  | call o k ih =>
    obtain ⟨ho, hk⟩ := h
    obtain ⟨hallowed, hnext⟩ := hcalls q o hq ho
    exact ⟨hallowed, fun r hr => ih r (hk r) (hnext r hr)⟩

end Prog

end CertWatch.Lib
