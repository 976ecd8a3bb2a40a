/-
# `CertWatch.AgentHistory` — the log of a run read backwards: who set an event, and what a call found.

The events only ever go from unset to set, so each of them says whether the log holds a call that set it, and a
signal or a request from outside for the shutdown event.  Every call in the log was made in a reachable state,
namely the one whose log is what comes before it.
-/
import CertWatch.AgentSystem

namespace CertWatch

open CertWatch.Lib

variable {setup : Setup} {main_thread : Bool} {Meets : AgentLabel → AgentPool → Prop} {P P' : AgentPool}

/-! ## What one step does to the events -/

theorem isSet_set (s : AgentState) (event event' : AgentEvent) :
    (s.set event').isSet event = true ↔ s.isSet event = true ∨ event' = event := by
  cases event <;> cases event' <;> simp [AgentState.set, AgentState.isSet]

/-- An event is set after a call if it was set before it, or the call set it. -/
theorem isSet_effect (s : AgentState) (o : AgentOp) (r : Except PyExc o.Ret) (event : AgentEvent) :
    (effect s o r).isSet event = true ↔ s.isSet event = true ∨ o = .set event := by
  by_cases ho : ∃ event', o = .set event'
  · obtain ⟨event', rfl⟩ := ho
    show (s.set event').isSet event = true ↔ _
    rw [isSet_set]
    simp
  · have hno : o ≠ .set event := fun h => ho ⟨event, h⟩
    have hkeep : (effect s o r).isSet event = s.isSet event := by
      unfold effect
      split
      · exact absurd ⟨_, rfl⟩ ho
      all_goals rfl
    simp [hkeep, hno]

theorem isSet_record (s : AgentState) (i : ThreadId) (c : AgentCall) (event : AgentEvent) :
    (s.record i c).isSet event = s.isSet event := by
  cases event <;> rfl

theorem isSet_receive {s : AgentState} (signum : Signal) {event : AgentEvent} (h : s.isSet event = true) :
    (s.receive signum).isSet event = true := by
  unfold AgentState.receive
  split_ifs
  · cases event with
    | shutdown => rfl
    | _ => exact h
  · cases event <;> exact h

theorem isSet_request {s : AgentState} {event : AgentEvent} (h : s.isSet event = true) :
    s.request.isSet event = true := by
  cases event with
  | shutdown => rfl
  | _ => exact h

theorem signaled_effect (s : AgentState) (o : AgentOp) (r : Except PyExc o.Ret) :
    (effect s o r).signaled = s.signaled := by
  unfold effect
  split
  · rename_i event _
    cases event <;> rfl
  all_goals rfl

theorem requested_effect (s : AgentState) (o : AgentOp) (r : Except PyExc o.Ret) :
    (effect s o r).requested = s.requested := by
  unfold effect
  split
  · rename_i event _
    cases event <;> rfl
  all_goals rfl

/-- Shutdown was asked for from outside the agent. -/
def AgentState.AskedToStop (s : AgentState) : Prop := s.signaled = true ∨ s.requested = true

theorem handlers_effect (s : AgentState) (o : AgentOp) (r : Except PyExc o.Ret) :
    s.handlers <+: (effect s o r).handlers := by
  unfold effect
  split
  · rename_i event _
    cases event <;> exact List.prefix_rfl
  all_goals first | exact List.prefix_rfl | exact List.prefix_append _ _

theorem started_effect (s : AgentState) (o : AgentOp) (r : Except PyExc o.Ret) :
    s.started <+: (effect s o r).started := by
  unfold effect
  split
  · rename_i event _
    cases event <;> exact List.prefix_rfl
  all_goals first | exact List.prefix_rfl | exact List.prefix_append _ _

/-- What a step leaves in place: the log, the events that are set, requests from outside, handlers and threads. -/
structure Extends (s s' : AgentState) : Prop where
  log : s.log <+: s'.log
  isSet : ∀ event, s.isSet event = true → s'.isSet event = true
  asked : s.AskedToStop → s'.AskedToStop
  handlers : s.handlers <+: s'.handlers
  started : s.started <+: s'.started

theorem Extends.refl (s : AgentState) : Extends s s :=
  ⟨List.prefix_rfl, fun _ => id, id, List.prefix_rfl, List.prefix_rfl⟩

theorem Extends.trans {s s' s'' : AgentState} (h : Extends s s') (h' : Extends s' s'') : Extends s s'' :=
  ⟨h.log.trans h'.log, fun event hs => h'.isSet event (h.isSet event hs), fun ha => h'.asked (h.asked ha),
    h.handlers.trans h'.handlers, h.started.trans h'.started⟩

theorem extends_effect (i : ThreadId) (o : AgentOp) (s : AgentState) (r : Except PyExc o.Ret) :
    Extends s ((effect s o r).record i ⟨o, r⟩) := by
  refine ⟨?_, fun event hs => ?_, fun ha => ?_, handlers_effect s o r, started_effect s o r⟩
  · exact ⟨_, congrArg (· ++ [_]) (log_effect s o r).symm⟩
  · rw [isSet_record, isSet_effect]
    exact Or.inl hs
  · show (effect s o r).signaled = true ∨ (effect s o r).requested = true
    rwa [signaled_effect, requested_effect]

theorem extends_exec {i : ThreadId} {o : AgentOp} {s s' : AgentState} {r : Except PyExc o.Ret}
    (h : agentExec i o s r s') : Extends s s' := by
  obtain ⟨-, -, rfl⟩ := h
  exact extends_effect i o s r

theorem extends_receive (s : AgentState) (signum : Signal) : Extends s (s.receive signum) := by
  have hkept : s.handlers = (s.receive signum).handlers ∧ s.started = (s.receive signum).started := by
    unfold AgentState.receive
    split_ifs <;> exact ⟨rfl, rfl⟩
  refine ⟨(log_receive s signum).symm ▸ List.prefix_rfl, fun _ => isSet_receive signum, fun ha => ?_,
    hkept.1 ▸ List.prefix_rfl, hkept.2 ▸ List.prefix_rfl⟩
  unfold AgentState.receive
  split_ifs
  · exact Or.inl rfl
  · exact ha

theorem extends_request (s : AgentState) : Extends s s.request :=
  ⟨List.prefix_rfl, fun _ => isSet_request, fun _ => Or.inr rfl, List.prefix_rfl, List.prefix_rfl⟩

theorem AgentStep.extends {label : AgentLabel} (h : AgentStep setup label P P') : Extends P.shared P'.shared := by
  cases h with
  | call hcall =>
    cases hcall with
    | call _ hex => exact extends_exec hex
  | begins _ _ => exact .refl _
  | signal _ _ => exact extends_receive _ _
  | request => exact extends_request _

/-! ## The steps after a state -/

/-- Any number of steps that all meet a condition. -/
abbrev Continues (setup : Setup) (Meets : AgentLabel → AgentPool → Prop) : AgentPool → AgentPool → Prop :=
  Relation.ReflTransGen fun P P' => ∃ label, Meets label P ∧ AgentStep setup label P P'

theorem Continues.extends (h : Continues setup Meets P P') : Extends P.shared P'.shared := by
  induction h with
  | refl => exact .refl _
  | tail _ hstep ih =>
    obtain ⟨label, -, hstep⟩ := hstep
    exact ih.trans hstep.extends

theorem Continues.reachable (h : Continues setup Meets P P') (hP : ReachableBy setup main_thread Meets P) :
    ReachableBy setup main_thread Meets P' := by
  induction h with
  | refl => exact hP
  | tail _ hstep ih =>
    obtain ⟨label, hmeets, hstep⟩ := hstep
    exact .step ih hmeets hstep

/-- The pool after a call of thread `i`, whose program goes on with `p`. -/
def AgentPool.afterCall (P : AgentPool) (i : ThreadId) (c : AgentCall) (p : Agent (Option Int)) : AgentPool :=
  ⟨Function.update P.threads i (some p), (effect P.shared c.op c.answer).record i c⟩

/-- Thread `i` made the call `c` in a reachable state whose log was `pre`, and `P` came after it. -/
def MadeAfter (setup : Setup) (main_thread : Bool) (Meets : AgentLabel → AgentPool → Prop)
    (pre : List (ThreadId × AgentCall)) (i : ThreadId) (c : AgentCall) (P : AgentPool) : Prop :=
  ∃ P₀ k, ReachableBy setup main_thread Meets P₀ ∧ P₀.shared.log = pre ∧ Meets (.call i) P₀ ∧
    P₀.threads i = some (.call c.op k) ∧ answers P₀.shared c.op c.answer ∧
    Continues setup Meets (P₀.afterCall i c (k c.answer)) P

theorem MadeAfter.step {pre : List (ThreadId × AgentCall)} {i : ThreadId} {c : AgentCall} {label : AgentLabel}
    (h : MadeAfter setup main_thread Meets pre i c P) (hmeets : Meets label P) (hstep : AgentStep setup label P P') :
    MadeAfter setup main_thread Meets pre i c P' := by
  obtain ⟨P₀, k, hP₀, hpre, hm, hi, hanswer, hcont⟩ := h
  exact ⟨P₀, k, hP₀, hpre, hm, hi, hanswer, hcont.tail ⟨label, hmeets, hstep⟩⟩

/-- **Every call was made in a reachable state**, whose log is what comes before it. -/
theorem ReachableBy.before (h : ReachableBy setup main_thread Meets P) {i : ThreadId} {c : AgentCall}
    {pre post : List (ThreadId × AgentCall)} (hlog : P.shared.log = pre ++ (i, c) :: post) :
    MadeAfter setup main_thread Meets pre i c P := by
  induction h generalizing post with
  | initial => simp [AgentPool.initial] at hlog
  | @step label P P' hP hmeets hstep ih =>
    cases hstep with
    | begins hstarted hnone => exact (ih hlog).step hmeets (.begins hstarted hnone)
    | signal hkilled hmain => exact (ih ((log_receive _ _).symm.trans hlog)).step hmeets (.signal hkilled hmain)
    | request => exact (ih hlog).step hmeets .request
    | call hcall =>
      have hmade := hcall
      cases hcall with
      | @call o k r s' hi hex =>
        have hend := (log_agentExec _ _ _ _ _ hex).symm.trans hlog
        rcases List.eq_nil_or_concat post with rfl | ⟨post, last, rfl⟩
        · -- the call is the one that was just made
          obtain ⟨hpre, hlast⟩ := List.append_inj' hend rfl
          obtain ⟨rfl, rfl⟩ := Prod.mk.inj (List.singleton_inj.mp hlast)
          obtain ⟨-, hanswer, rfl⟩ := hex
          exact ⟨P, k, hP, hpre, hmeets, hi, hanswer, .refl⟩
        · have hsplit : P.shared.log ++ [_] = (pre ++ (i, c) :: post) ++ [last] := hend.trans (by simp)
          exact (ih (List.append_inj' hsplit rfl).1).step hmeets (.call hmade)

/-- The same for a call that is in the log. -/
theorem ReachableBy.made (h : ReachableBy setup main_thread Meets P) {i : ThreadId} {c : AgentCall}
    (hc : (i, c) ∈ P.shared.log) :
    ∃ P₀, ReachableBy setup main_thread Meets P₀ ∧ answers P₀.shared c.op c.answer ∧
      Extends ((effect P₀.shared c.op c.answer).record i c) P.shared := by
  obtain ⟨pre, post, hlog⟩ := List.append_of_mem hc
  obtain ⟨P₀, k, hP₀, -, -, -, hanswer, hcont⟩ := h.before hlog
  exact ⟨P₀, hP₀, hanswer, hcont.extends⟩

/-- What was so before a call in the log is so still. -/
theorem extends_afterCall (P : AgentPool) (i : ThreadId) (c : AgentCall) (p : Agent (Option Int)) :
    Extends P.shared (P.afterCall i c p).shared :=
  extends_effect i c.op P.shared c.answer

/-! ## Who set an event -/

theorem ReachableBy.isSet_of_set (h : ReachableBy setup main_thread Meets P) {i : ThreadId} {event : AgentEvent}
    {r : Except PyExc Unit} (hset : (i, ⟨.set event, r⟩) ∈ P.shared.log) : P.shared.isSet event = true := by
  obtain ⟨P₀, -, -, hext⟩ := h.made hset
  apply hext.isSet
  rw [isSet_record, isSet_effect]
  exact Or.inr rfl

theorem ReachableBy.shutdown_of_asked (h : ReachableBy setup main_thread Meets P) (hasked : P.shared.AskedToStop) :
    P.shared.shutdown = true := by
  induction h with
  | initial => simp [AgentPool.initial, AgentState.AskedToStop] at hasked
  | @step label P P' _ _ hstep ih =>
    cases hstep with
    | call hcall =>
      cases hcall with
      | @call o k r s' hi hex =>
        refine (extends_exec hex).isSet .shutdown (ih ?_)
        obtain ⟨-, -, rfl⟩ := hex
        change (effect P.shared o r).signaled = true ∨ (effect P.shared o r).requested = true at hasked
        rwa [signaled_effect, requested_effect] at hasked
    | begins _ _ => exact ih hasked
    | @signal signum _ _ _ =>
      change (P.shared.receive signum).AskedToStop at hasked
      show (P.shared.receive signum).shutdown = true
      unfold AgentState.receive at hasked ⊢
      split_ifs at hasked ⊢
      · rfl
      · exact ih hasked
    | request => rfl

/-- What a step sets was set by its call, or from outside. -/
theorem AgentStep.newly_set {label : AgentLabel} {event : AgentEvent} (h : AgentStep setup label P P')
    (hset : P'.shared.isSet event = true) :
    P.shared.isSet event = true ∨ (∃ i r, (i, ⟨.set event, r⟩) ∈ P'.shared.log) ∨
      (event = .shutdown ∧ P'.shared.AskedToStop) := by
  cases h with
  | @call i _ _ hcall =>
    cases hcall with
    | @call o k r s' hi hex =>
      obtain ⟨-, -, rfl⟩ := hex
      change ((effect P.shared o r).record i ⟨o, r⟩).isSet event = true at hset
      rw [isSet_record, isSet_effect] at hset
      rcases hset with hset | rfl
      · exact Or.inl hset
      · exact Or.inr (Or.inl ⟨i, r, List.mem_append_right _ (List.mem_singleton_self _)⟩)
  | begins _ _ => exact Or.inl hset
  | @signal signum _ _ _ =>
    change (P.shared.receive signum).isSet event = true at hset
    show _ ∨ _ ∨ (event = .shutdown ∧ (P.shared.receive signum).AskedToStop)
    unfold AgentState.receive at hset ⊢
    split_ifs at hset ⊢
    · cases event with
      | shutdown => exact Or.inr (Or.inr ⟨rfl, Or.inl rfl⟩)
      | _ => exact Or.inl hset
    · cases event <;> exact Or.inl hset
  | request =>
    cases event with
    | shutdown => exact Or.inr (Or.inr ⟨rfl, Or.inr rfl⟩)
    | _ => exact Or.inl hset

/-- **An event is set exactly when a call in the log set it**, or, for the shutdown event, when it was asked for
from outside. -/
theorem ReachableBy.isSet_iff (h : ReachableBy setup main_thread Meets P) (event : AgentEvent) :
    P.shared.isSet event = true ↔
      (∃ i r, (i, ⟨.set event, r⟩) ∈ P.shared.log) ∨ (event = .shutdown ∧ P.shared.AskedToStop) := by
  constructor
  · intro hset
    induction h with
    | initial => cases event <;> simp [AgentPool.initial, AgentState.isSet] at hset
    | step _ _ hstep ih =>
      rcases hstep.newly_set hset with hbefore | hnew
      · rcases ih hbefore with ⟨i, r, hmem⟩ | ⟨he, hasked⟩
        · exact Or.inl ⟨i, r, hstep.extends.log.subset hmem⟩
        · exact Or.inr ⟨he, hstep.extends.asked hasked⟩
      · exact hnew
  · rintro (⟨i, r, hmem⟩ | ⟨rfl, hasked⟩)
    · exact h.isSet_of_set hmem
    · exact h.shutdown_of_asked hasked

end CertWatch
