/-
# `CertWatch.ThreadExits` — no loop thread ends before the shutdown event is set.

Each of the three loops is left in several ways: a look at the event at its top, the wait at its bottom, a handler
of an authentication error, the catch-all.  A monitor notes whether the thread has seen the event set, or has set
it; every way out comes after that.
-/
import CertWatch.AuthHandling
import CertWatch.ScriptedAgent

namespace CertWatch

open CertWatch.Lib

variable {α β : Type}

/-! ## Having seen the event -/

/-- After this call the event is known to be set. -/
def sawShutdown : (o : AgentOp) → Except PyExc o.Ret → Bool
  | .set .shutdown, _ => true
  | .isSet .shutdown, .ok b => b
  | .wait .shutdown _, .ok b => b
  | .waitFor _, .ok b => b
  | _, _ => false

/-- Has the thread seen the event set? -/
def exitMonitor : Monitor agentSig PyExc Bool where
  possible := Possible
  allows _ _ := True
  next seen o r := seen || sawShutdown o r

/-- The program returns only after it has seen the event set. -/
def ReturnsStopped (p : Agent α) : Prop :=
  ∀ seen, p.Obeys exitMonitor (fun seen x => ∀ a, x = .ok a → seen = true) seen

/-- The program returns, and only after it has seen the event set. -/
def EndsStopped (p : Agent α) : Prop :=
  ∀ seen, p.Obeys exitMonitor (fun seen x => seen = true ∧ ∃ a, x = .ok a) seen

theorem EndsStopped.returns {p : Agent α} (h : EndsStopped p) : ReturnsStopped p :=
  fun seen => (h seen).mono fun _ _ hx _ _ => hx.1

theorem obeys_exit (p : Agent α) (seen : Bool) : p.Obeys exitMonitor (fun _ _ => True) seen :=
  Prog.obeys_true (fun _ _ => trivial) (fun _ => trivial) p seen

theorem returnsStopped_raise (e : PyExc) : ReturnsStopped (.raise e : Agent α) := fun _ _ h => by cases h

/-- What comes before does not matter. -/
theorem ReturnsStopped.after (p : Agent α) {f : α → Agent β} (h : ∀ a, ReturnsStopped (f a)) :
    ReturnsStopped (p.bind f) := fun seen =>
  (obeys_exit p seen).bind (fun seen a _ => h a seen) fun _ _ _ a ha => by cases ha

theorem ReturnsStopped.after_attempt (p : Agent α) {f : Except PyExc α → Agent β} (h : ∀ x, ReturnsStopped (f x)) :
    ReturnsStopped (p.attempt.bind f) := .after p.attempt h

theorem seen_of_look {seen : Bool} {r : Except PyExc Bool} (h : r = .ok true) :
    (seen || sawShutdown (.isSet .shutdown) r) = true := by
  rw [h]
  exact Bool.or_true seen

/-- The look at the top of a loop. -/
theorem ReturnsStopped.look {a : α} {body : Agent α} (h : ReturnsStopped body) :
    ReturnsStopped ((agentCall (.isSet .shutdown)).bind fun stopping => if stopping then .ret a else body) := by
  intro seen
  refine Prog.obeys_bind.mpr (Prog.obeys_perform.mpr ⟨trivial, fun r hr => ?_⟩)
  obtain ⟨s, rfl⟩ := hr
  rw [Prog.thenObeys_ok]
  split_ifs with hset
  · exact fun _ _ => seen_of_look (congrArg Except.ok hset)
  · exact h _

theorem obeys_waitInterval (rt : Runtime) (key : String) (seen : Bool) :
    (waitInterval rt key).Obeys exitMonitor (fun seen x => x = .ok true → seen = true) seen := by
  refine (obeys_exit (currentInterval rt key) seen).bind (fun seen interval _ => ?_) fun _ _ _ he => by cases he
  refine Prog.obeys_perform.mpr ⟨trivial, fun r _ hr => ?_⟩
  rw [hr]
  exact Bool.or_true seen

/-- The wait at its bottom. -/
theorem ReturnsStopped.wait {rt : Runtime} {key : String} {a : α} {body : Agent α} (h : ReturnsStopped body) :
    ReturnsStopped ((waitInterval rt key).bind fun woke_early => if woke_early then .ret a else body) := by
  intro seen
  refine (obeys_waitInterval rt key seen).bind (fun seen woke_early hwoke => ?_) fun _ _ _ a ha => by cases ha
  split_ifs with hset
  · exact fun _ _ => hwoke (congrArg Except.ok hset)
  · exact h seen

/-- A handler of an authentication error. -/
theorem endsStopped_signalAuthError : EndsStopped signalAuthError := by
  intro seen
  refine Prog.obeys_bind.mpr (Prog.obeys_perform.mpr ⟨trivial, fun r hr => ?_⟩)
  obtain ⟨s, rfl⟩ := hr
  refine Prog.obeys_perform.mpr ⟨trivial, fun r hr => ?_⟩
  obtain ⟨s, rfl⟩ := hr
  exact ⟨Bool.or_true _, (), rfl⟩

/-- **The catch-all**: whatever a loop raises, the thread ends with the event set. -/
theorem obeys_guardLoop_stopped {event : String} {loop : Agent Unit} {seen : Bool}
    (h : loop.Obeys exitMonitor (fun seen x => ∀ a, x = .ok a → seen = true) seen) :
    (guardLoop event loop).Obeys exitMonitor (fun seen x => seen = true ∧ ∃ a, x = .ok a) seen := by
  refine Prog.obeys_tryCatch.mpr (h.mono fun seen x hx => ?_)
  cases x with
  | ok u => exact ⟨hx u rfl, u, rfl⟩
  | error e =>
    refine Prog.obeys_bind.mpr (Prog.obeys_perform.mpr ⟨trivial, fun r hr => ?_⟩)
    obtain ⟨s, rfl⟩ := hr
    refine Prog.obeys_perform.mpr ⟨trivial, fun r hr => ?_⟩
    obtain ⟨s, rfl⟩ := hr
    exact ⟨Bool.or_true _, (), rfl⟩

theorem endsStopped_guardLoop {event : String} {loop : Agent Unit} (h : ReturnsStopped loop) :
    EndsStopped (guardLoop event loop) := fun seen => obeys_guardLoop_stopped (h seen)

/-! ## The heartbeat thread -/

/-- `_ShutdownRequested` is raised only with the event set. -/
def RequestsStopped (p : Agent α) : Prop :=
  ∀ seen, p.Obeys exitMonitor (fun seen x => x = .error shutdownRequested → seen = true) seen

theorem requestsStopped_ret (a : α) : RequestsStopped (.ret a : Agent α) := fun _ h => by cases h

theorem RequestsStopped.bind {p : Agent α} {f : α → Agent β} (hp : RequestsStopped p)
    (hf : ∀ a, RequestsStopped (f a)) : RequestsStopped (p.bind f) := fun seen =>
  (hp seen).bind (fun seen a _ => hf a seen) fun _ _ he hs => he (congrArg Except.error (Except.error.inj hs))

theorem Surfaced.not_requested {q : AuthPhase} {x : Except PyExc α} (h : Surfaced q x) :
    x ≠ .error shutdownRequested := by
  rcases h with ⟨-, hx⟩ | ⟨-, hx⟩
  · rintro rfl
    cases hx
  · exact hx.1

/-- A program that lets authentication errors surface does not raise it at all. -/
theorem Surfaces.requestsStopped {p : Agent α} (h : Surfaces authMonitor p) : RequestsStopped p := fun seen =>
  ((obeys_exit p seen).and_results h fun _ _ => id).mono fun _ _ hx hs => by
    obtain ⟨-, q, hq⟩ := hx
    exact absurd hs hq.not_requested

/-- What follows a request, when only the authentication error leads to the handler. -/
theorem requestsStopped_handle (e : DashboardError) :
    RequestsStopped (if e.kind = .auth then signalAuthError.bind fun _ => .raise shutdownRequested else .ret () :
      Agent Unit) := by
  intro seen
  split_ifs
  · exact (endsStopped_signalAuthError seen).bind (fun _ _ hx _ => hx.1) fun _ _ hx _ => hx.1
  · exact fun h => by cases h

theorem requestsStopped_refreshConfig (client : DashboardClient) : RequestsStopped (refreshConfig client) := by
  intro seen
  refine Prog.Obeys.attempt_bind ((obeys_exit _ seen).and_results (surfaces_getConfig client) fun _ _ => id)
    fun seen x hx => ?_
  obtain ⟨-, q, hq⟩ := hx
  cases x with
  | ok new_config => exact (quiet_installConfig new_config).surfaces.requestsStopped seen
  | error e =>
    cases e with
    | dashboard e => exact requestsStopped_handle e seen
    | other name => exact fun h => absurd (congrArg Except.error (Except.error.inj h)) hq.not_requested
    | _ => exact fun h => by cases h

theorem requestsStopped_processResponse (client : DashboardClient) (response : Json) :
    RequestsStopped (processResponse client response) := by
  have hget : ∀ key, RequestsStopped (.ofExcept (response.get key) : Agent Json) := fun key =>
    (quiet_ofExcept (foreign_get response key).ordinary).surfaces.requestsStopped
  refine (hget _).bind fun required => RequestsStopped.bind ?_ fun _ => (hget _).bind fun pending_actions => ?_
  · unfold refreshIfRequired
    split_ifs
    · exact requestsStopped_refreshConfig client
    · exact requestsStopped_ret ()
  · show RequestsStopped (if (pending_actions.or (.arr [])).truthy then _ else _)
    split_ifs
    · exact (quiet_enqueueActions _).surfaces.requestsStopped
    · exact requestsStopped_ret ()

theorem requestsStopped_doHeartbeat (agent_version : String) (client : DashboardClient) (process_started_at : Rat) :
    RequestsStopped (doHeartbeat agent_version client process_started_at) := by
  refine (quiet_buildHeartbeatArgs agent_version process_started_at).surfaces.requestsStopped.bind fun body_args => ?_
  intro seen
  refine Prog.Obeys.attempt_bind ((obeys_exit _ seen).and_results (surfaces_sendHeartbeat client body_args)
    fun _ _ => id) fun seen x hx => ?_
  obtain ⟨-, q, hq⟩ := hx
  cases x with
  | ok response => exact requestsStopped_processResponse client response seen
  | error e =>
    cases e with
    | dashboard e => exact requestsStopped_handle e seen
    | other name => exact fun h => absurd (congrArg Except.error (Except.error.inj h)) hq.not_requested
    | _ => exact fun h => by cases h

theorem returnsStopped_heartbeatLoop (rt : Runtime) (agent_version : String) (client : DashboardClient)
    (process_started_at : Rat) (fuel : Nat) :
    ReturnsStopped (heartbeatLoop rt agent_version client process_started_at fuel) := by
  induction fuel with
  | zero => exact fun _ => trivial
  | succ fuel ih =>
    refine ReturnsStopped.look fun seen => ?_
    refine (requestsStopped_doHeartbeat agent_version client process_started_at seen).attempt_bind fun seen tick h => ?_
    cases tick with
    | ok u => exact ReturnsStopped.wait ih seen
    | error e =>
      show (if e = shutdownRequested then _ else _ : Agent Unit).Obeys _ _ seen
      split_ifs with he
      · exact fun _ _ => h (congrArg Except.error he)
      · exact returnsStopped_raise e seen

/-! ## The check thread -/

theorem returnsStopped_checkLoop (rt : Runtime) (client : DashboardClient) (fuel : Nat) (is_first_cycle : Bool) :
    ReturnsStopped (checkLoop rt client fuel is_first_cycle) := by
  induction fuel generalizing is_first_cycle with
  | zero => exact fun _ => trivial
  | succ fuel ih =>
    refine ReturnsStopped.look (.after_attempt _ fun outcome => ?_)
    split_ifs
    · exact endsStopped_signalAuthError.returns
    · exact .wait (ih _)

/-- Waiting for the first sync raises nothing, so no way leads around the loop and its catch-all. -/
theorem endsStopped_certCheckThread (rt : Runtime) (client : DashboardClient) (fuel : Nat) :
    EndsStopped (certCheckThread rt client fuel) := by
  intro seen
  have hgate : waitForFirstNetboxSync.Obeys exitMonitor (fun _ x => x = .ok ()) seen := by
    refine Prog.obeys_bind.mpr (Prog.obeys_perform.mpr ⟨trivial, fun r hr => ?_⟩)
    obtain ⟨s, rfl⟩ := hr
    rw [Prog.thenObeys_ok]
    split_ifs
    · rfl
    refine Prog.obeys_bind.mpr (Prog.obeys_perform.mpr ⟨trivial, fun r hr => ?_⟩)
    obtain ⟨s, rfl, -⟩ := hr
    refine Prog.obeys_bind.mpr (Prog.obeys_perform.mpr ⟨trivial, fun r hr => ?_⟩)
    obtain ⟨s, rfl⟩ := hr
    rfl
  refine hgate.bind (fun seen _ _ => ?_) fun _ _ he => by cases he
  exact endsStopped_guardLoop (returnsStopped_checkLoop rt client fuel true) seen

/-! ## The NetBox thread -/

theorem endsOk_openGateUnless (first_sync_completed seen : Bool) :
    (openGateUnless first_sync_completed).Obeys exitMonitor (fun seen' x => (seen = true → seen' = true) ∧ x = .ok ())
      seen := by
  unfold openGateUnless
  split_ifs
  · exact ⟨id, rfl⟩
  · refine Prog.obeys_perform.mpr ⟨trivial, fun r hr => ?_⟩
    obtain ⟨s, rfl⟩ := hr
    refine ⟨fun h => ?_, rfl⟩
    rw [h]
    rfl

/-- The loop raises nothing: what was raised in it is handed to the catch-all. -/
theorem returnsStopped_syncLoop (rt : Runtime) (client : DashboardClient) (netbox_client : NetBoxClient) (fuel : Nat)
    (first_sync_completed seen : Bool) :
    (syncLoop rt client netbox_client fuel first_sync_completed).Obeys exitMonitor
      (fun seen x => ∃ left completed, x = .ok (left, completed) ∧ (left = .ok () → seen = true)) seen := by
  induction fuel generalizing first_sync_completed seen with
  | zero => trivial
  | succ fuel ih =>
    unfold syncLoop
    refine Prog.obeys_bind.mpr (Prog.obeys_perform.mpr ⟨trivial, fun r hr => ?_⟩)
    obtain ⟨s, rfl⟩ := hr
    rw [Prog.thenObeys_ok]
    split_ifs with hset
    · exact ⟨_, _, rfl, fun _ => seen_of_look (congrArg Except.ok hset)⟩
    refine (obeys_exit _ _).attempt_bind fun seen outcome _ => ?_
    split_ifs
    · refine (endsStopped_signalAuthError seen).bind (fun _ _ hx => ⟨_, _, rfl, fun _ => hx.1⟩) fun _ _ hx => ?_
      obtain ⟨-, u, hu⟩ := hx
      cases hu
    refine (endsOk_openGateUnless first_sync_completed seen).bind (fun seen _ _ => ?_) fun _ _ hx => by cases hx.2
    refine (obeys_waitInterval rt _ seen).attempt_bind fun seen waited hwoke => ?_
    split
    · exact ⟨_, _, rfl, fun he => by cases he⟩
    · exact ⟨_, _, rfl, fun _ => hwoke rfl⟩
    · exact ih _ _

theorem endsStopped_netboxSyncThread (rt : Runtime) (client : DashboardClient) (netbox_client : NetBoxClient)
    (fuel : Nat) : EndsStopped (netboxSyncThread rt client netbox_client fuel) := by
  intro seen
  refine (returnsStopped_syncLoop rt client netbox_client fuel false seen).bind (fun seen left hleft => ?_)
    fun _ _ he => ?_
  · obtain ⟨raised, completed, hleft, hseen⟩ := hleft
    obtain rfl := Except.ok.inj hleft
    have hraised : (Prog.ofExcept raised : Agent Unit).Obeys exitMonitor
        (fun seen x => ∀ a, x = .ok a → seen = true) seen := Prog.obeys_ofExcept.mpr fun _ => hseen
    refine (obeys_guardLoop_stopped hraised).bind (fun seen _ hx => ?_) fun _ _ hx => ?_
    · exact (endsOk_openGateUnless completed seen).mono fun _ _ h => ⟨h.1 hx.1, (), h.2⟩
    · obtain ⟨-, u, hu⟩ := hx
      cases hu
  · obtain ⟨_, _, he, -⟩ := he
    cases he

/-! ## Every run -/

/-- The threads that run one of the loops. -/
def ThreadId.IsLoop (i : ThreadId) : Prop := i = .heartbeat ∨ i = .check ∨ i = .netbox

theorem endsStopped_threadProgram (setup : Setup) (thread : ThreadSpec) (h : thread.id.IsLoop) :
    EndsStopped (threadProgram setup thread) := by
  cases thread with
  | heartbeat client process_started_at =>
    exact endsStopped_guardLoop (returnsStopped_heartbeatLoop _ _ client process_started_at setup.fuel)
  | worker worker_id client netbox_client => rcases h with h | h | h <;> cases h
  | check client => exact endsStopped_certCheckThread _ client setup.fuel
  | netbox client netbox_client => exact endsStopped_netboxSyncThread _ client netbox_client setup.fuel

variable {setup : Setup} {main_thread : Bool} {Meets : AgentLabel → AgentPool → Prop} {P : AgentPool}

theorem after_exit (seen : Bool) (cs : List AgentCall) :
    exitMonitor.after seen cs = (seen || cs.any fun c => sawShutdown c.op c.answer) := by
  induction cs generalizing seen with
  | nil => simp
  | cons c cs ih =>
    show exitMonitor.after (seen || sawShutdown c.op c.answer) cs = _
    rw [ih, List.any_cons, Bool.or_assoc]

theorem isSet_of_saw {s : AgentState} {o : AgentOp} {r : Except PyExc o.Ret} (hanswer : answers s o r)
    (hsaw : sawShutdown o r = true) : (effect s o r).isSet .shutdown = true := by
  rw [isSet_effect]
  unfold sawShutdown at hsaw
  split at hsaw
  · exact Or.inr rfl
  · rename_i found
    obtain rfl : found = true := hsaw
    exact Or.inl (Except.ok.inj hanswer).symm
  · rename_i woken
    obtain rfl : woken = true := hsaw
    exact Or.inl (Except.ok.inj hanswer.1).symm
  · rename_i woken
    obtain rfl : woken = true := hsaw
    rcases hanswer with hanswer | ⟨e, he, -⟩
    · exact Or.inl (Except.ok.inj hanswer).symm
    · cases he
  · cases hsaw

/-- What a thread saw is so: the event stays set. -/
theorem ReachableBy.shutdown_of_saw (h : ReachableBy setup main_thread Meets P) {i : ThreadId} {c : AgentCall}
    (hc : (i, c) ∈ P.shared.log) (hsaw : sawShutdown c.op c.answer = true) : P.shared.shutdown = true := by
  obtain ⟨P₀, -, hanswer, hext⟩ := h.made hc
  apply hext.isSet .shutdown
  rw [isSet_record]
  exact isSet_of_saw hanswer hsaw

/-- **The agent never runs headless**: no loop thread has ended while the shutdown event is unset, whatever the
calls of the threads were answered or raised and however they interleave. -/
theorem ReachableBy.never_headless (h : ReachableBy setup main_thread Meets P) {i : ThreadId}
    {p : Agent (Option Int)} (hi : i.IsLoop) (hp : P.threads i = some p) (hended : p.Ended) :
    P.shared.shutdown = true := by
  have hprogram : ∀ p₀, MayRun setup i p₀ → p₀.Obeys exitMonitor (fun seen _ => seen = true) false := by
    rintro p₀ (⟨rfl, -⟩ | ⟨thread, rfl, rfl⟩)
    · rcases hi with hi | hi | hi <;> cases hi
    · exact (endsStopped_threadProgram setup thread hi false).bind (fun _ _ hx => hx.1) fun _ _ hx => hx.1
  have hseen := (h.follows (fun _ _ => id) hprogram hp).2
  have hafter : exitMonitor.after false (ownEvents i P.shared.log) = true := by
    cases p with
    | ret a => exact hseen
    | raise e => exact hseen
    | hang => cases hended
    | call o k => cases hended
  rw [after_exit, Bool.false_or, List.any_eq_true] at hafter
  obtain ⟨c, hc, hsaw⟩ := hafter
  exact h.shutdown_of_saw (mem_ownEvents_iff.mp hc) hsaw

/-- A registered agent whose dashboard is not reachable. -/
def offline : Scene := { credentials := registered }

/-- The dashboard serves a config without any field. -/
def emptyConfig : Scene := { credentials := registered, get_config := some ⟨200, .json (.obj [])⟩ }

/-- The heartbeat thread fails on it, and has left its loop by the catch-all. -/
def caughtAll : AgentPool :=
  (AgentPool.initial smallSetup true).moves smallSetup emptyConfig [.calls .main 13, .begins 0, .calls .heartbeat 7]

/-- Nobody has asked it to stop. -/
theorem never_headless_caughtAll : (∃ r, (.heartbeat, ⟨.unhandledException "heartbeat_thread_unhandled_exception", r⟩) ∈
      caughtAll.shared.log) ∧ caughtAll.shared.requested = false ∧ caughtAll.shared.signaled = false ∧
    caughtAll.shared.shutdown = true := by
  have hended : caughtAll.threads .heartbeat = some (.ret none) := rfl
  refine ⟨⟨.ok (), List.mem_of_getElem? (i := 18) rfl⟩, rfl, rfl, ?_⟩
  exact (alive_initial.moves _).reachable.never_headless (Or.inl rfl) hended trivial

end CertWatch
