/-
# `CertWatch.Lib.Logged` — scripted runs that note their calls.

A handler answers each call from the world alone.  Here it is also told how many calls came before, so that a
script can let something happen at a given call, and every call is noted with the world that it found.  A part
of the program whose calls the count does not touch runs as it would without the notes.
-/
import CertWatch.Lib.Trace

namespace CertWatch.Lib

variable {S : Sig} {ε α β σ : Type}

/-- A world, and the calls that led to it, each with the world that it found. -/
structure Logged (S : Sig) (σ : Type) where
  world : σ
  calls : List (S.Op × σ)

namespace Prog

/-- Answer a call by its number, and note it. -/
def noting (h : Nat → (o : S.Op) → σ → Except ε (S.Ret o) × σ) (o : S.Op) (s : Logged S σ) :
    Except ε (S.Ret o) × Logged S σ :=
  ((h s.calls.length o s.world).1, ⟨(h s.calls.length o s.world).2, s.calls ++ [(o, s.world)]⟩)

/-- The calls of a scripted run, each with the world that it found. -/
def visited (h : (o : S.Op) → σ → Except ε (S.Ret o) × σ) : Prog S ε α → σ → List (S.Op × σ)
  | .call o k, s => (o, s) :: (k (h o s).1).visited h (h o s).2
  | _, _ => []

variable {h : Nat → (o : S.Op) → σ → Except ε (S.Ret o) × σ} {h' : (o : S.Op) → σ → Except ε (S.Ret o) × σ}
  {A : S.Op → Prop}

/-- A program makes no other calls than it can. -/
theorem Only.visited {p : Prog S ε α} (hp : p.Only A) (s : σ) : ∀ c ∈ p.visited h' s, A c.1 := by
  induction p generalizing s with
  | ret a => exact nofun
  | raise e => exact nofun
  | hang => exact nofun
  | call o k ih =>
    intro c hc
    rcases List.mem_cons.mp hc with rfl | hc
    · exact hp.1
    · exact ih _ (hp.2 _) _ c hc

/-- **Notes do not matter** to a program whose calls are answered without the count. -/
theorem run_noting {p : Prog S ε α} (hsame : ∀ n o s, A o → h n o s = h' o s) (hp : p.Only A)
    (s : Logged S σ) : p.run (noting h) s =
      ((p.run h' s.world).1, ⟨(p.run h' s.world).2, s.calls ++ p.visited h' s.world⟩) := by
  induction p generalizing s with
  | ret a => simp [visited]
  | raise e => simp [visited]
  | hang => simp [visited]
  | call o k ih =>
    have hcall : noting h o s = ((h' o s.world).1, ⟨(h' o s.world).2, s.calls ++ [(o, s.world)]⟩) := by
      simp only [noting, hsame _ o s.world hp.1]
    show (k (noting h o s).1).run (noting h) (noting h o s).2 = _
    rw [hcall, ih _ (hp.2 _)]
    simp only [run, visited, List.append_assoc, List.singleton_append]

/-- Notes are never taken back. -/
theorem calls_prefix (p : Prog S ε α) (s : Logged S σ) : s.calls <+: (p.run (noting h) s).2.calls := by
  induction p generalizing s with
  | ret a => exact List.prefix_refl _
  | raise e => exact List.prefix_refl _
  | hang => exact List.prefix_refl _
  | call o k ih => exact (List.prefix_append s.calls [(o, s.world)]).trans (ih _ (noting h o s).2)

/-- One call. -/
theorem run_noting_perform (o : S.Op) (s : Logged S σ) :
    (perform o : Prog S ε (S.Ret o)).run (noting h) s =
      (some (h s.calls.length o s.world).1,
        ⟨(h s.calls.length o s.world).2, s.calls ++ [(o, s.world)]⟩) :=
  run_perform (noting h) o s

end Prog

end CertWatch.Lib
