/-
# `CertWatch.Lib.Locked` — objects whose methods run under one lock.

The methods of an object are programs over accesses to its fields.  Any number of parties call them; a call waits for
the lock, makes its accesses one by one while the others go on, and lets the lock go before it returns.  If every
method, run alone, does what a specification says in one step, then the object does what the specification says: the
history holds a moment for each call, between the call and its return, and from moment to moment the answers are
those of the specification.
-/
import CertWatch.Lib.Trace
import Mathlib.Logic.Function.Basic

namespace CertWatch.Lib

variable {M S : Sig} {ε σ ι : Type}

/-- The methods, as programs over accesses to the state. -/
structure Guarded (M S : Sig) (ε σ : Type) where
  body : (m : M.Op) → Prog S ε (M.Ret m)
  access : (o : S.Op) → σ → Except ε (S.Ret o) × σ

/-- What a method does in one step. -/
abbrev AtomicSpec (M : Sig) (ε σ : Type) := (m : M.Op) → σ → Except ε (M.Ret m) × σ

/-- Every method, run alone, does what the specification says. -/
def Guarded.Implements (O : Guarded M S ε σ) (spec : AtomicSpec M ε σ) : Prop :=
  ∀ m s, (O.body m).run O.access s = (some (spec m s).1, (spec m s).2)

/-! ## Histories -/

/-- What a party does with the object: it calls a method, the call takes effect, and it returns. -/
inductive Stage (M : Sig) (ε : Type) where
  | called (m : M.Op)
  | effect (c : Call M ε)
  | returned (c : Call M ε)

/-- The calls that have taken effect, in order. -/
def effects (history : List (ι × Stage M ε)) : List (Call M ε) := history.filterMap fun e => match e.2 with
  | .effect c => some c
  | _ => none

theorem effects_concat_of_ne {history : List (ι × Stage M ε)} {i : ι} {stage : Stage M ε}
    (h : ∀ c, stage ≠ .effect c) : effects (history ++ [(i, stage)]) = effects history := by
  rw [effects, List.filterMap_append]
  cases stage with
  | effect c => exact absurd rfl (h c)
  | called m => exact List.append_nil _
  | returned c => exact List.append_nil _

theorem effects_concat_effect (history : List (ι × Stage M ε)) (i : ι) (c : Call M ε) :
    effects (history ++ [(i, .effect c)]) = effects history ++ [c] := List.filterMap_append

/-- The state after these calls. -/
def AtomicSpec.after (spec : AtomicSpec M ε σ) (s : σ) (cs : List (Call M ε)) : σ :=
  cs.foldl (fun s c => (spec c.op s).2) s

theorem AtomicSpec.after_concat (spec : AtomicSpec M ε σ) (s : σ) (cs : List (Call M ε)) (c : Call M ε) :
    spec.after s (cs ++ [c]) = (spec c.op (spec.after s cs)).2 := List.foldl_append

/-- The stages of calls that are over. -/
def completeStages (cs : List (Call M ε)) : List (Stage M ε) :=
  cs.flatMap fun c => [.called c.op, .effect c, .returned c]

theorem completeStages_concat (cs : List (Call M ε)) (c : Call M ε) :
    completeStages (cs ++ [c]) = completeStages cs ++ [.called c.op, .effect c, .returned c] := by
  rw [completeStages, List.flatMap_append, List.flatMap_singleton]
  rfl

/-! ## Runs -/

/-- Where a party is: outside of the object, at the lock, under it, or past it. -/
inductive Position (M S : Sig) (ε : Type) where
  | outside
  | waiting (m : M.Op)
  | inside (m : M.Op) (p : Prog S ε (M.Ret m))
  | leaving (c : Call M ε)

/-- The stages of the call that is not over. -/
def Position.stages : Position M S ε → List (Stage M ε)
  | .outside => []
  | .waiting m => [.called m]
  | .inside m _ => [.called m]
  | .leaving c => [.called c.op, .effect c]

/-- The object, its lock, its parties, and all that has happened. -/
structure LockedState (M S : Sig) (ε σ ι : Type) where
  state : σ
  holder : Option ι := none
  positions : ι → Position M S ε := fun _ => .outside
  history : List (ι × Stage M ε) := []

namespace LockedState

section

variable [DecidableEq ι]

/-- One party goes on. -/
inductive Step (O : Guarded M S ε σ) : LockedState M S ε σ ι → LockedState M S ε σ ι → Prop where
  | call {V : LockedState M S ε σ ι} {i : ι} (m : M.Op) (hi : V.positions i = .outside) : Step O V { V with
      positions := Function.update V.positions i (.waiting m)
      history := V.history ++ [(i, .called m)] }
  | acquire {V : LockedState M S ε σ ι} {i : ι} {m : M.Op} (hi : V.positions i = .waiting m)
      (hfree : V.holder = none) : Step O V { V with
      holder := some i
      positions := Function.update V.positions i (.inside m (O.body m)) }
  | access {V : LockedState M S ε σ ι} {i : ι} {m : M.Op} {o : S.Op} {k : Except ε (S.Ret o) → Prog S ε (M.Ret m)}
      (hi : V.positions i = .inside m (.call o k)) : Step O V { V with
      state := (O.access o V.state).2
      positions := Function.update V.positions i (.inside m (k (O.access o V.state).1)) }
  | release {V : LockedState M S ε σ ι} {i : ι} {m : M.Op} {x : Except ε (M.Ret m)}
      (hi : V.positions i = .inside m (.ofExcept x)) : Step O V { V with
      holder := none
      positions := Function.update V.positions i (.leaving ⟨m, x⟩)
      history := V.history ++ [(i, .effect ⟨m, x⟩)] }
  | leave {V : LockedState M S ε σ ι} {i : ι} {c : Call M ε} (hi : V.positions i = .leaving c) : Step O V { V with
      positions := Function.update V.positions i .outside
      history := V.history ++ [(i, .returned c)] }

/-- What a run comes to. -/
inductive Reachable (O : Guarded M S ε σ) (s₀ : σ) : LockedState M S ε σ ι → Prop where
  | initial : Reachable O s₀ { state := s₀ }
  | step {V V' : LockedState M S ε σ ι} (h : Reachable O s₀ V) (hstep : Step O V V') : Reachable O s₀ V'

end

variable {O : Guarded M S ε σ} {spec : AtomicSpec M ε σ} {s₀ : σ} {V V' : LockedState M S ε σ ι}

/-! ## One after the other -/

/-- The state is that after the calls that have taken effect, or on the way from there to the next one. -/
structure Consistent (O : Guarded M S ε σ) (spec : AtomicSpec M ε σ) (s₀ : σ) (V : LockedState M S ε σ ι) : Prop where
  free : V.holder = none → V.state = spec.after s₀ (effects V.history)
  held : ∀ i m p, V.positions i = .inside m p →
    (O.body m).run O.access (spec.after s₀ (effects V.history)) = p.run O.access V.state

/-- The call that takes effect does what the specification says. -/
theorem Consistent.effect (h : V.Consistent O spec s₀) (hspec : O.Implements spec) {i : ι} {m : M.Op}
    {x : Except ε (M.Ret m)} (hi : V.positions i = .inside m (.ofExcept x)) :
    spec m (spec.after s₀ (effects V.history)) = (x, V.state) := by
  have hrun := h.held i m _ hi
  rw [hspec, Prog.run_ofExcept] at hrun
  obtain ⟨hx, hs⟩ := Prod.mk.inj hrun
  exact Prod.ext (Option.some.inj hx) hs

variable [DecidableEq ι]

/-- Who is under the lock after one party has moved. -/
theorem inside_update {i j : ι} {position : Position M S ε} {m : M.Op} {p : Prog S ε (M.Ret m)}
    (h : Function.update V.positions i position j = .inside m p) :
    (j = i ∧ position = .inside m p) ∨ (j ≠ i ∧ V.positions j = .inside m p) := by
  by_cases hji : j = i
  · subst hji
    rw [Function.update_self] at h
    exact .inl ⟨rfl, h⟩
  · rw [Function.update_of_ne hji] at h
    exact .inr ⟨hji, h⟩

/-- **One at a time**: nobody but the holder is under the lock. -/
theorem Reachable.exclusive (h : Reachable O s₀ V) {i : ι} {m : M.Op} {p : Prog S ε (M.Ret m)}
    (hi : V.positions i = .inside m p) : V.holder = some i := by
  induction h generalizing i m with
  | initial => cases hi
  | @step V V' _ hstep ih =>
    cases hstep with
    | call _ _ | leave _ =>
      obtain ⟨-, hinside⟩ | ⟨-, hi⟩ := inside_update hi
      · cases hinside
      · exact ih hi
    | acquire _ hfree =>
      obtain ⟨rfl, -⟩ | ⟨-, hi⟩ := inside_update hi
      · rfl
      · rw [ih hi] at hfree
        cases hfree
    | access hj =>
      obtain ⟨rfl, -⟩ | ⟨-, hi⟩ := inside_update hi
      · exact ih hj
      · exact ih hi
    | release hj =>
      obtain ⟨-, hinside⟩ | ⟨hne, hi⟩ := inside_update hi
      · cases hinside
      · exact absurd (Option.some.inj ((ih hi).symm.trans (ih hj))) hne

/-- A party comes to the lock, or goes away from it. -/
theorem Consistent.quiet (h : V.Consistent O spec s₀) {i : ι} {position : Position M S ε} {stage : Stage M ε}
    (hposition : ∀ m p, position ≠ .inside m p) (hstage : ∀ c, stage ≠ .effect c) :
    Consistent O spec s₀ { V with
      positions := Function.update V.positions i position
      history := V.history ++ [(i, stage)] } where
  free hfree := by
    rw [effects_concat_of_ne hstage]
    exact h.free hfree
  held j m p hj := by
    rw [effects_concat_of_ne hstage]
    obtain ⟨-, hinside⟩ | ⟨-, hj⟩ := inside_update hj
    · exact absurd hinside (hposition m p)
    · exact h.held j m p hj

/-- **The state is always that of calls made one after the other**, up to the one that holds the lock. -/
theorem Reachable.consistent (h : Reachable O s₀ V) (hspec : O.Implements spec) : V.Consistent O spec s₀ := by
  induction h with
  | initial => exact ⟨fun _ => rfl, nofun⟩
  | @step V V' hreach hstep ih =>
    cases hstep with
    | call m hi => exact ih.quiet nofun nofun
    | leave hi => exact ih.quiet nofun nofun
    | acquire hi hfree =>
      refine ⟨nofun, fun j m' p hj => ?_⟩
      obtain ⟨-, hinside⟩ | ⟨-, hj⟩ := inside_update hj
      · -- the accesses begin where the last call has left the state
        cases hinside
        rw [← ih.free hfree]
      · rw [hreach.exclusive hj] at hfree
        cases hfree
    | access hi =>
      refine ⟨fun hfree => ?_, fun j m' p hj => ?_⟩
      · have hheld := (hreach.exclusive hi).symm.trans hfree
        cases hheld
      · obtain ⟨-, hinside⟩ | ⟨hne, hj⟩ := inside_update hj
        · cases hinside
          exact ih.held _ _ _ hi
        · exact absurd (Option.some.inj ((hreach.exclusive hj).symm.trans (hreach.exclusive hi))) hne
    | release hi =>
      refine ⟨fun _ => ?_, fun j m' p hj => ?_⟩
      · rw [effects_concat_effect, AtomicSpec.after_concat, ih.effect hspec hi]
      · obtain ⟨-, hinside⟩ | ⟨hne, hj⟩ := inside_update hj
        · cases hinside
        · exact absurd (Option.some.inj ((hreach.exclusive hj).symm.trans (hreach.exclusive hi))) hne

/-- **Each call answers what the specification says** after the calls that took effect before it. -/
theorem Reachable.answer_eq (h : Reachable O s₀ V) (hspec : O.Implements spec) {pre post : List (ι × Stage M ε)}
    {i : ι} {c : Call M ε} (hsplit : V.history = pre ++ (i, .effect c) :: post) :
    c.answer = (spec c.op (spec.after s₀ (effects pre))).1 := by
  induction h generalizing post with
  | initial => simp at hsplit
  | @step V V' hreach hstep ih =>
    cases hstep with
    | acquire | access => exact ih hsplit
    | call | leave =>
      obtain ⟨-, hlast, -⟩ | ⟨post', -, hsplit⟩ := split_concat hsplit
      · cases hlast
      · exact ih hsplit
    | release hi =>
      obtain ⟨rfl, hlast, -⟩ | ⟨post', -, hsplit⟩ := split_concat hsplit
      · cases hlast
        rw [(hreach.consistent hspec).effect hspec hi]
      · exact ih hsplit

/-- A party that has moved on under the lock has the stages that it had. -/
theorem stages_update {i : ι} {position : Position M S ε} (h : position.stages = (V.positions i).stages) (j : ι) :
    (Function.update V.positions i position j).stages = (V.positions j).stages := by
  by_cases hji : j = i
  · subst hji
    rw [Function.update_self, h]
  · rw [Function.update_of_ne hji]

/-- A party that has come to its next stage; the others have theirs. -/
theorem stages_concat {i j : ι} {position : Position M S ε} {stage : Stage M ε}
    (h : ∃ cs, ownEvents j V.history = completeStages cs ++ (V.positions j).stages)
    (hself : ∀ cs, ∃ cs', completeStages cs ++ (V.positions i).stages ++ [stage] =
      completeStages cs' ++ position.stages) :
    ∃ cs, ownEvents j (V.history ++ [(i, stage)]) =
      completeStages cs ++ (Function.update V.positions i position j).stages := by
  obtain ⟨cs, hcs⟩ := h
  by_cases hji : j = i
  · subst hji
    rw [ownEvents_concat_self, hcs, Function.update_self]
    exact hself cs
  · rw [ownEvents_concat_ne (Ne.symm hji), hcs, Function.update_of_ne hji]
    exact ⟨cs, rfl⟩

/-- **Each call takes effect between its call and its return.** -/
theorem Reachable.stages (h : Reachable O s₀ V) (j : ι) :
    ∃ cs, ownEvents j V.history = completeStages cs ++ (V.positions j).stages := by
  induction h with
  | initial => exact ⟨[], rfl⟩
  | @step V V' _ hstep ih =>
    cases hstep with
    | @call i m hi =>
      refine stages_concat ih fun cs => ⟨cs, ?_⟩
      rw [hi]
      exact List.append_assoc _ _ _
    | @acquire i m hi _ =>
      have hstages : (Position.inside m (O.body m)).stages = (V.positions i).stages := by
        rw [hi]
        rfl
      show ∃ cs, ownEvents j V.history = completeStages cs ++ (Function.update V.positions i _ j).stages
      rwa [stages_update hstages]
    | @access i m o k hi =>
      have hstages : (Position.inside m (k (O.access o V.state).1)).stages = (V.positions i).stages := by
        rw [hi]
        rfl
      show ∃ cs, ownEvents j V.history = completeStages cs ++ (Function.update V.positions i _ j).stages
      rwa [stages_update hstages]
    | @release i m x hi =>
      refine stages_concat ih fun cs => ⟨cs, ?_⟩
      rw [hi]
      exact List.append_assoc _ _ _
    | @leave i c hi =>
      refine stages_concat ih fun cs => ⟨cs ++ [c], ?_⟩
      rw [hi, completeStages_concat, List.append_assoc]
      exact (List.append_nil _).symm

end LockedState

end CertWatch.Lib
