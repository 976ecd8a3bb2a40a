/-
# `CertWatch.AuthHandling` — every thread handles every 401, with both flags and in order.

The loops of the four kinds of threads obey the monitor of `CertWatch.AuthSurfacing` and end with nothing left to
handle: after a 401 the thread's next call sets `auth_error_event`, and the one after it `shutdown_event`.
-/
import CertWatch.SurfacingPrograms

namespace CertWatch

open CertWatch.Lib

variable {α : Type}

/-! ## Calls of the agent -/

/-- The calls that neither touch the two flags, nor reach the dashboard, nor report an unhandled exception. -/
def AgentOp.isPlain : AgentOp → Bool
  | .set .authError => false
  | .set .shutdown => false
  | .getConfig _ => false
  | .heartbeat _ => false
  | .queue (.submit _ _) => false
  | .sync (.submit _) => false
  | .unhandledException _ => false
  | _ => true

theorem agent_plain {o : AgentOp} (h : o.isPlain = true) : Plain authMonitor o := by
  refine ⟨?_, fun r hr => ⟨?_, Possible.foreign hr⟩⟩
  · cases o with
    | set event =>
      cases event with
      | firstSync => trivial
      | _ => cases h
    | _ => trivial
  · cases o with
    | queue o =>
      cases o with
      | submit _ _ => cases h
      | _ => rfl
    | sync o =>
      cases o with
      | submit _ => cases h
      | _ => rfl
    | getConfig _ | heartbeat _ | unhandledException _ => cases h
    | _ => rfl

theorem quiet_agentCall {o : AgentOp} (h : o.isPlain = true) : Quiet authMonitor (agentCall o) :=
  (agent_plain h).quiet

theorem surfaces_sendHeartbeat (client : DashboardClient) (args : HeartbeatArgs) :
    Surfaces authMonitor (sendHeartbeat client args) := by
  refine surfaces_request (Prog.obeys_perform.mpr ⟨trivial, fun r hr => ?_⟩)
  cases r with
  | ok resp =>
    show calmNext (.heartbeat args.body) (.ok resp) = _
    simp only [calmNext, isAuthAnswer, beq_iff_eq]
  | error e => exact ⟨rfl, Possible.foreign hr e rfl⟩

theorem surfaces_getConfig (client : DashboardClient) : Surfaces authMonitor (getConfig client) := by
  refine surfaces_request (Prog.obeys_perform.mpr ⟨trivial, fun r hr => ?_⟩)
  cases r with
  | ok resp =>
    show calmNext (.getConfig client) (.ok resp) = _
    simp only [calmNext, isAuthAnswer, beq_iff_eq]
  | error e => exact ⟨rfl, Possible.foreign hr e rfl⟩

/-! ## Handlers -/

/-- Nothing is left to handle. -/
def Settled (q : AuthPhase) (_ : Except PyExc α) : Prop := q = .calm

/-- Nothing is left to handle, and no authentication error is in flight. -/
def Handled (q : AuthPhase) (x : Except PyExc α) : Prop := q = .calm ∧ isAuthFailure x = false

theorem Quiet.handled {p : Agent α} (h : Quiet authMonitor p) : p.Obeys authMonitor Handled .calm :=
  h.mono fun _ _ hx => ⟨hx.1, hx.2.2⟩

theorem Quiet.settled {p : Agent α} (h : Quiet authMonitor p) : p.Obeys authMonitor Settled .calm :=
  h.mono fun _ _ hx => hx.1

theorem handled_bind {β : Type} {p : Agent α} {f : α → Agent β} (hp : p.Obeys authMonitor Handled .calm)
    (hf : ∀ a, (f a).Obeys authMonitor Handled .calm) : (p.bind f).Obeys authMonitor Handled .calm := by
  refine hp.bind (fun q a hq => ?_) fun q e hq => ⟨hq.1, (isAuthFailure_error e).trans hq.2⟩
  rw [hq.1]
  exact hf a

theorem settled_bind {β : Type} {p : Agent α} {f : α → Agent β} (hp : p.Obeys authMonitor Settled .calm)
    (hf : ∀ a, (f a).Obeys authMonitor Settled .calm) : (p.bind f).Obeys authMonitor Settled .calm := by
  refine hp.bind (fun q a hq => ?_) fun q e hq => hq
  rw [show q = .calm from hq]
  exact hf a

/-- **The handler**: both flags, the authentication flag first. -/
theorem obeys_signalAuthError {F : AuthPhase → Except PyExc Unit → Prop} (h : F .calm (.ok ())) :
    signalAuthError.Obeys authMonitor F .alarmed := by
  refine Prog.obeys_bind.mpr (Prog.obeys_perform.mpr ⟨rfl, fun r hr => ?_⟩)
  obtain ⟨s, rfl⟩ := hr
  refine Prog.obeys_perform.mpr ⟨rfl, fun r hr => ?_⟩
  obtain ⟨s, rfl⟩ := hr
  exact h

/-- The handler, and what comes after it. -/
theorem obeys_signalAuthError_bind {f : Unit → Agent α} {F : AuthPhase → Except PyExc α → Prop}
    (h : (f ()).Obeys authMonitor F .calm) : (signalAuthError.bind f).Obeys authMonitor F .alarmed :=
  Prog.obeys_bind.mpr (obeys_signalAuthError h)

/-- The catch-all sets the shutdown event, and nothing is left to handle. -/
theorem obeys_guardLoop {event : String} {loop : Agent Unit} (h : loop.Obeys authMonitor Settled .calm) :
    (guardLoop event loop).Obeys authMonitor Settled .calm := by
  refine Prog.obeys_tryCatch.mpr (h.mono fun q x hx => ?_)
  cases x with
  | ok a => exact hx
  | error e =>
    obtain rfl := hx
    refine Prog.obeys_bind.mpr (Prog.obeys_perform.mpr ⟨trivial, fun r hr => ?_⟩)
    obtain ⟨s, rfl⟩ := hr
    refine Prog.obeys_perform.mpr ⟨rfl, fun r _ => rfl⟩

/-! ## The heartbeat thread -/

section

variable {rt : Runtime} (hrt : ∀ text, Foreign (rt.floatOfText text))
variable (agent_version : String) (client : DashboardClient)

include hrt in
theorem quiet_currentInterval (key : String) : Quiet authMonitor (currentInterval rt key) :=
  (quiet_agentCall rfl).bind fun config => quiet_ofExcept (foreign_intervalSeconds hrt key config).ordinary

include hrt in
theorem quiet_waitInterval (key : String) : Quiet authMonitor (waitInterval rt key) :=
  (quiet_currentInterval hrt key).bind fun _ => quiet_agentCall rfl

theorem quiet_enqueueEach (now_iso : String) (actions : List Json) :
    Quiet authMonitor (enqueueEach now_iso actions) := by
  induction actions with
  | nil => exact quiet_ret ()
  | cons action actions ih =>
    refine (quiet_ofExcept (foreign_get action _).ordinary).bind fun expires_at => ?_
    refine (quiet_ofExcept (foreign_isExpired expires_at now_iso).ordinary).bind fun expired => ?_
    split_ifs
    · exact ih
    · exact (quiet_agentCall rfl).bind fun _ => ih

theorem quiet_enqueueActions (actions : Json) : Quiet authMonitor (enqueueActions actions) :=
  (quiet_agentCall rfl).bind fun _ => (quiet_ofExcept (foreign_iterate actions).ordinary).bind fun _ =>
    quiet_enqueueEach _ _

theorem quiet_installConfig (new_config : Json) : Quiet authMonitor (installConfig new_config) := by
  refine (quiet_agentCall rfl).bind fun _ => ?_
  split
  · exact (quiet_agentCall rfl).bind fun _ => (quiet_ofExcept (foreign_len _).ordinary).bind fun _ => quiet_ret _
  · exact quiet_raise ⟨nofun, rfl⟩

theorem handled_refreshConfig : (refreshConfig client).Obeys authMonitor Handled .calm := by
  refine (surfaces_getConfig client).attempt_bind (fun x hx => ?_) fun x hx => ?_
  · cases x with
    | ok new_config => exact (quiet_installConfig new_config).handled
    | error e =>
      cases e with
      | dashboard e =>
        have hkind : e.kind ≠ .auth := beq_eq_false_iff_ne.mp hx.2
        simp only [if_neg hkind]
        exact ⟨rfl, rfl⟩
      | _ => exact ⟨rfl, rfl⟩
  · obtain ⟨e, rfl, hkind⟩ := exists_of_isAuthFailure hx
    simp only [if_pos hkind]
    exact obeys_signalAuthError_bind ⟨rfl, rfl⟩

theorem handled_refreshIfRequired (config_refresh_required : Json) :
    (refreshIfRequired client config_refresh_required).Obeys authMonitor Handled .calm := by
  unfold refreshIfRequired
  split_ifs
  · exact handled_refreshConfig client
  · exact ⟨rfl, rfl⟩

theorem handled_processResponse (response : Json) :
    (processResponse client response).Obeys authMonitor Handled .calm := by
  refine handled_bind (quiet_ofExcept (foreign_get response _).ordinary).handled fun required => ?_
  refine handled_bind (handled_refreshIfRequired client required) fun _ => ?_
  refine handled_bind (quiet_ofExcept (foreign_get response _).ordinary).handled fun pending_actions => ?_
  show (if (pending_actions.or (.arr [])).truthy then _ else _ : Agent Unit).Obeys authMonitor Handled .calm
  split_ifs
  · exact (quiet_enqueueActions _).handled
  · exact ⟨rfl, rfl⟩

theorem quiet_buildHeartbeatArgs (process_started_at : Rat) :
    Quiet authMonitor (buildHeartbeatArgs agent_version process_started_at) := by
  refine (quiet_agentCall rfl).bind fun config => (quiet_agentCall rfl).bind fun stats => ?_
  refine (quiet_agentCall rfl).bind fun now => (quiet_agentCall rfl).bind fun sent_at => ?_
  refine (quiet_ofExcept (foreign_getItem config _).ordinary).bind fun config_version => ?_
  exact (quiet_ofExcept (foreign_toInt config_version).ordinary).bind fun _ => quiet_ret _

theorem handled_doHeartbeat (process_started_at : Rat) :
    (doHeartbeat agent_version client process_started_at).Obeys authMonitor Handled .calm := by
  refine handled_bind (quiet_buildHeartbeatArgs agent_version process_started_at).handled fun body_args => ?_
  refine (surfaces_sendHeartbeat client body_args).attempt_bind (fun x hx => ?_) fun x hx => ?_
  · cases x with
    | ok response => exact handled_processResponse client response
    | error e =>
      cases e with
      | dashboard e =>
        have hkind : e.kind ≠ .auth := beq_eq_false_iff_ne.mp hx.2
        simp only [if_neg hkind]
        exact ⟨rfl, rfl⟩
      | _ => exact ⟨rfl, rfl⟩
  · obtain ⟨e, rfl, hkind⟩ := exists_of_isAuthFailure hx
    simp only [if_pos hkind]
    exact obeys_signalAuthError_bind ⟨rfl, rfl⟩

include hrt in
theorem settled_heartbeatLoop (process_started_at : Rat) (fuel : Nat) :
    (heartbeatLoop rt agent_version client process_started_at fuel).Obeys authMonitor Settled .calm := by
  induction fuel with
  | zero => trivial
  | succ fuel ih =>
    refine settled_bind (quiet_agentCall rfl).settled fun stopping => ?_
    split_ifs
    · rfl
    refine (handled_doHeartbeat agent_version client process_started_at).attempt_bind fun q tick htick => ?_
    rw [htick.1]
    cases tick with
    | ok u =>
      refine settled_bind (quiet_waitInterval hrt _).settled fun woke_early => ?_
      split_ifs
      · rfl
      · exact ih
    | error e =>
      show (if e = shutdownRequested then _ else _ : Agent Unit).Obeys authMonitor Settled .calm
      split_ifs
      · rfl
      · rfl

end

/-! ## The workers -/

section

variable {rt : Runtime} (hrt : ∀ text, Foreign (rt.floatOfText text)) (client : DashboardClient)

theorem quiet_resolveHostRef (host_ref ref_type : Json) (config : Dict) :
    Quiet authMonitor (resolveHostRef host_ref ref_type config) := by
  unfold resolveHostRef
  split_ifs
  · refine (quiet_ofExcept (foreign_get host_ref _).ordinary).bind fun host_id => ?_
    refine (quiet_ofExcept (foreign_resolveManualHost host_id config).ordinary).bind fun resolved => ?_
    split
    · exact (quiet_ofExcept (foreign_len _).ordinary).bind fun _ => quiet_ret _
    · exact quiet_ret _
  · refine (quiet_ofExcept (foreign_get host_ref _).ordinary).bind fun netbox_id => ?_
    exact (quiet_agentCall rfl).bind fun _ => quiet_ret _
  · exact quiet_ret _

theorem quiet_checkTarget (config : Dict) (host_ref : Json) (target : CheckTarget)
    (connect_timeout handshake_timeout : PyFloat) :
    Quiet authMonitor (checkTarget rt config host_ref target connect_timeout handshake_timeout) := by
  unfold checkTarget
  split
  · refine (quiet_ofExcept (foreign_expiringSoonThreshold config).ordinary).bind fun threshold => ?_
    exact (quiet_agentCall rfl).bind fun _ => quiet_ret _
  · exact (quiet_agentCall rfl).bind fun _ => quiet_ret _

include hrt in
theorem surfaces_checkHost (fuel : Nat) (ctx : ActionContext) :
    Surfaces authMonitor (checkHost rt client fuel ctx) := by
  refine (quiet_ofExcept (foreign_get ctx.payload _).ordinary).surfaces.bind fun given => ?_
  refine (quiet_ofExcept (foreign_get _ _).ordinary).surfaces.bind fun ref_type => ?_
  refine (quiet_agentCall rfl).surfaces.bind fun config => ?_
  refine (quiet_resolveHostRef _ ref_type config).surfaces.bind fun resolved => ?_
  split
  · exact surfaces_ret _
  · rename_i target
    refine (quiet_agentCall rfl).surfaces.bind fun started_at => ?_
    refine (quiet_ofExcept (foreign_onDemandTimeouts hrt config).ordinary).surfaces.bind fun timeouts => ?_
    refine (quiet_checkTarget config _ target _ _).surfaces.bind fun check_payload => ?_
    refine (quiet_agentCall rfl).surfaces.bind fun completed_at => ?_
    refine (quiet_agentCall rfl).surfaces.bind fun report_id => ?_
    exact Surfaces.bind (surfaces_submitPayloadWithRetry client true fuel _ _).embed fun _ => surfaces_ret _

theorem surfaces_syncNetbox (netbox_client : Option NetBoxClient) (fuel : Nat) (ctx : ActionContext) :
    Surfaces authMonitor (syncNetbox rt client netbox_client fuel ctx) := by
  cases netbox_client with
  | none => exact surfaces_ret _
  | some netbox_client =>
    exact Surfaces.bind (surfaces_runNetboxSync client true netbox_client _ fuel).embed fun _ => surfaces_ret _

include hrt in
theorem surfaces_handler {netbox_client : Option NetBoxClient} {fuel : Nat} {action_type : Json}
    {handler : ActionContext → Agent Unit}
    (h : handlerFor rt client netbox_client fuel action_type = .ok (some handler)) (ctx : ActionContext) :
    Surfaces authMonitor (handler ctx) := by
  unfold handlerFor at h
  split at h
  · cases h
  · cases h
  · obtain rfl := Option.some.inj (Except.ok.inj h)
    exact surfaces_checkHost hrt client fuel ctx
  · obtain rfl := Option.some.inj (Except.ok.inj h)
    exact surfaces_syncNetbox client netbox_client fuel ctx
  · cases h

include hrt in
theorem surfaces_dispatch (netbox_client : Option NetBoxClient) (fuel : Nat) (action : Json) :
    Surfaces authMonitor (dispatch rt client netbox_client fuel action) := by
  refine (quiet_ofExcept (foreign_getOr action _ _).ordinary).surfaces.bind fun action_id => ?_
  refine (quiet_ofExcept (foreign_getOr action _ _).ordinary).surfaces.bind fun action_type => ?_
  refine (quiet_ofExcept (foreign_getOr action _ _).ordinary).surfaces.bind fun expires_at => ?_
  refine (quiet_agentCall rfl).surfaces.bind fun now => ?_
  refine (quiet_ofExcept (foreign_isExpired expires_at now).ordinary).surfaces.bind fun expired => ?_
  split_ifs
  · exact surfaces_ret _
  refine (quiet_agentCall rfl).surfaces.bind fun stopping => ?_
  split_ifs
  · exact surfaces_ret _
  have hforeign := foreign_handlerFor rt client netbox_client fuel action_type
  cases hhandler : handlerFor rt client netbox_client fuel action_type with
  | error e =>
    rw [hhandler] at hforeign
    exact surfaces_raise hforeign.ordinary.error_cast
  | ok handler =>
    cases handler with
    | none => exact surfaces_ret _
    | some handler =>
      refine (quiet_ofExcept (foreign_getOr action _ _).ordinary).surfaces.bind fun payload => ?_
      refine (quiet_ofExcept (foreign_getOr action _ _).ordinary).surfaces.bind fun queued_at => ?_
      exact surfaces_handler hrt client hhandler _

theorem settled_finish (handled : Except PyExc Unit) :
    ((agentCall .taskDone).bind fun _ => Prog.ofExcept handled : Agent Unit).Obeys authMonitor Settled .calm :=
  settled_bind (quiet_agentCall rfl).settled fun _ => Prog.obeys_ofExcept.mpr rfl

theorem quiet_handleDispatched (action : Json) {outcome : Except PyExc Unit} (h : Ordinary outcome) :
    Quiet authMonitor (handleDispatched action outcome) := by
  cases outcome with
  | ok u => exact quiet_ret _
  | error e =>
    refine (quiet_ofExcept (foreign_get action _).ordinary).bind fun _ => ?_
    rw [h.2]
    exact quiet_ret _

include hrt in
theorem settled_processObject (netbox_client : Option NetBoxClient) (fuel : Nat) (action : Dict) :
    (processAction rt client netbox_client fuel (.obj action)).Obeys authMonitor Settled .calm := by
  refine (surfaces_dispatch hrt client netbox_client fuel _).attempt_bind (fun x hx => ?_) fun x hx => ?_
  · exact (quiet_handleDispatched _ hx).attempt_bind fun handled _ => settled_finish handled
  · obtain ⟨e, rfl, hkind⟩ := exists_of_isAuthFailure hx
    have hauth : isAuthFailure (.error (.dashboard e) : Except PyExc Unit) = true := hx
    refine Prog.Obeys.attempt_bind (F := fun q _ => q = .calm) ?_ fun q handled hq => ?_
    · show (if isAuthFailure (.error (.dashboard e) : Except PyExc Unit) then signalAuthError else _).Obeys _ _ _
      rw [if_pos hauth]
      exact obeys_signalAuthError rfl
    · rw [hq]
      exact settled_finish handled

include hrt in
/-- An action that is no object fails at once, without a call, so only an object's handler can be answered 401. -/
theorem settled_processAction (netbox_client : Option NetBoxClient) (fuel : Nat) (action : Json) :
    (processAction rt client netbox_client fuel action).Obeys authMonitor Settled .calm := by
  have hraised : Ordinary (.error .attributeError : Except PyExc Unit) := ⟨nofun, rfl⟩
  cases action with
  | obj action => exact settled_processObject hrt client netbox_client fuel action
  | _ => exact (quiet_handleDispatched _ hraised).attempt_bind fun handled _ => settled_finish handled

include hrt in
theorem settled_workerLoop (netbox_client : Option NetBoxClient) (fuel : Nat) :
    (workerLoop rt client netbox_client fuel).Obeys authMonitor Settled .calm := by
  induction fuel with
  | zero => trivial
  | succ fuel ih =>
    refine settled_bind (quiet_agentCall rfl).settled fun stopping => ?_
    split_ifs
    · rfl
    refine (quiet_agentCall rfl).attempt_bind fun taken _ => ?_
    cases taken with
    | ok action => exact settled_bind (settled_processAction hrt client netbox_client fuel action) fun _ => ih
    | error e =>
      show (if e = queueEmpty then _ else _ : Agent Unit).Obeys authMonitor Settled .calm
      split_ifs
      · exact ih
      · rfl

end

/-! ## The check thread -/

section

variable {rt : Runtime} (hrt : ∀ text, Foreign (rt.floatOfText text)) (client : DashboardClient)

theorem quiet_waitForFirstNetboxSync : Quiet authMonitor waitForFirstNetboxSync := by
  refine (quiet_agentCall rfl).bind fun fired => ?_
  split_ifs
  · exact quiet_ret ()
  · exact (quiet_agentCall rfl).bind fun _ => (quiet_agentCall rfl).bind fun _ => quiet_ret ()

include hrt in
theorem surfaces_cycleAndStats (report_type : String) (fuel : Nat) :
    Surfaces authMonitor (cycleAndStats rt client report_type fuel) := by
  refine (quiet_agentCall rfl).surfaces.bind fun netbox_hosts => (quiet_agentCall rfl).surfaces.bind fun config => ?_
  have hcycle := surfaces_runOneCycle hrt client config report_type netbox_hosts fuel
  refine Surfaces.bind hcycle.embed fun cycle_result => ?_
  refine (quiet_ofExcept (foreign_countStatus _ _).ordinary).surfaces.bind fun succeeded => ?_
  refine (quiet_ofExcept (foreign_countStatus _ _).ordinary).surfaces.bind fun failed => ?_
  exact (quiet_agentCall rfl).surfaces.bind fun _ => surfaces_ret _

include hrt in
theorem settled_checkLoop (fuel : Nat) (is_first_cycle : Bool) :
    (checkLoop rt client fuel is_first_cycle).Obeys authMonitor Settled .calm := by
  induction fuel generalizing is_first_cycle with
  | zero => trivial
  | succ fuel ih =>
    refine settled_bind (quiet_agentCall rfl).settled fun stopping => ?_
    split_ifs
    · rfl
    refine (surfaces_cycleAndStats hrt client _ fuel).attempt_bind (fun x hx => ?_) fun x hx => ?_
    · rw [hx.2]
      refine settled_bind (quiet_waitInterval hrt _).settled fun woke_early => ?_
      split_ifs
      · rfl
      · exact ih _
    · rw [hx]
      exact obeys_signalAuthError rfl

include hrt in
theorem settled_certCheckThread (fuel : Nat) :
    (certCheckThread rt client fuel).Obeys authMonitor Settled .calm :=
  settled_bind quiet_waitForFirstNetboxSync.settled fun _ => obeys_guardLoop (settled_checkLoop hrt client fuel true)

/-! ## The NetBox thread -/

theorem quiet_openGateUnless (first_sync_completed : Bool) :
    Quiet authMonitor (openGateUnless first_sync_completed) := by
  unfold openGateUnless
  split_ifs
  · exact quiet_ret ()
  · exact quiet_agentCall rfl

include hrt in
theorem settled_syncLoop (netbox_client : NetBoxClient) (fuel : Nat) (first_sync_completed : Bool) :
    (syncLoop rt client netbox_client fuel first_sync_completed).Obeys authMonitor Settled .calm := by
  induction fuel generalizing first_sync_completed with
  | zero => trivial
  | succ fuel ih =>
    unfold syncLoop
    refine settled_bind (quiet_agentCall rfl).settled fun stopping => ?_
    split_ifs
    · rfl
    have hsync : Surfaces authMonitor ((runNetboxSync client true netbox_client none fuel).embed syncCalls) :=
      (surfaces_runNetboxSync client true netbox_client none fuel).embed
    refine hsync.attempt_bind (fun x hx => ?_) fun x hx => ?_
    · rw [hx.2]
      refine settled_bind (quiet_openGateUnless first_sync_completed).settled fun _ => ?_
      refine (quiet_waitInterval hrt _).attempt_bind fun waited _ => ?_
      split
      · rfl
      · rfl
      · exact ih _
    · rw [hx]
      exact obeys_signalAuthError_bind rfl

include hrt in
theorem settled_netboxSyncThread (netbox_client : NetBoxClient) (fuel : Nat) :
    (netboxSyncThread rt client netbox_client fuel).Obeys authMonitor Settled .calm := by
  refine settled_bind (settled_syncLoop hrt client netbox_client fuel false) fun left => ?_
  refine settled_bind (obeys_guardLoop (Prog.obeys_ofExcept.mpr rfl)) fun _ => ?_
  exact (quiet_openGateUnless _).settled

end

/-! ## Every thread -/

/-- **Every 401 of a thread is handled**: its program, whatever it is answered, sets both flags in order after
each, and sets neither otherwise. -/
theorem settled_threadProgram (setup : Setup) (thread : ThreadSpec) :
    (threadProgram setup thread).Obeys authMonitor Settled .calm := by
  cases thread with
  | heartbeat client process_started_at =>
    exact obeys_guardLoop (settled_heartbeatLoop setup.float_foreign _ client process_started_at setup.fuel)
  | worker worker_id client netbox_client =>
    exact settled_workerLoop setup.float_foreign client netbox_client setup.fuel
  | check client => exact settled_certCheckThread setup.float_foreign client setup.fuel
  | netbox client netbox_client => exact settled_netboxSyncThread setup.float_foreign client netbox_client setup.fuel

theorem settled_agentProgram (setup : Setup) (thread : ThreadSpec) :
    (agentProgram setup thread).Obeys authMonitor Settled .calm :=
  settled_bind (settled_threadProgram setup thread) fun _ => rfl

end CertWatch
