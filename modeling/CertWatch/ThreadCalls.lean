/-
# `CertWatch.ThreadCalls` — which thread makes which calls.

Only the heartbeat thread replaces the config and fills the action queue, only workers take from it, only the main
thread starts threads and installs handlers, and so on.  One lemma for each function says what it calls; what the
threads of a run have called follows for every interleaving.
-/
import CertWatch.AgentHistory

namespace CertWatch

open CertWatch.Lib

-- the texts of the environment are carried along, never computed
attribute [local irreducible] strip

variable {α : Type}

/-! ## The table -/

namespace ThreadId

def isMain : ThreadId → Bool
  | .main => true
  | _ => false

def isHeartbeat : ThreadId → Bool
  | .heartbeat => true
  | _ => false

def isCheck : ThreadId → Bool
  | .check => true
  | _ => false

def isNetbox : ThreadId → Bool
  | .netbox => true
  | _ => false

def isWorker : ThreadId → Bool
  | .worker _ => true
  | _ => false

end ThreadId

/-- The threads that make a call of this kind. -/
def AgentOp.calledBy : AgentOp → ThreadId → Bool
  | .set .firstSync, i => i.isMain || i.isNetbox
  | .set _, i => !i.isMain
  | .isSet .authError, i => i.isMain
  | .isSet .firstSync, i => i.isCheck
  | .wait .firstSync _, i => i.isCheck
  | .wait _ _, i => i.isMain
  | .waitFor _, i => i.isHeartbeat || i.isCheck || i.isNetbox
  | .configState _, i => i.isMain
  | .configSnapshot, i => !i.isMain
  | .configReplace _, i => i.isHeartbeat
  | .statsSnapshot, i => i.isHeartbeat
  | .recordCheckCycle _, i => i.isCheck
  | .hostsSnapshot, i => i.isCheck || i.isWorker
  | .put _, i => i.isHeartbeat
  | .get, i => i.isWorker
  | .taskDone, i => i.isWorker
  | .register _ _ _, i => i.isMain
  | .getConfig _, i => i.isMain || i.isHeartbeat
  | .heartbeat _, i => i.isHeartbeat
  | .certCheck _ _ _ _, i => i.isWorker
  | .certCheckWithDiscovery _ _ _ _ _, i => i.isWorker
  | .runChecks _ _, i => i.isCheck
  | .creds _, i => i.isMain
  | .queue _, i => i.isMain || i.isCheck || i.isWorker
  | .sync _, i => i.isNetbox || i.isWorker
  | .signal _, i => i.isMain
  | .start _, i => i.isMain
  | .join _, i => i.isMain
  | .unhandledException _, i => i.isHeartbeat || i.isCheck || i.isNetbox
  | _, _ => true

/-- The program makes only calls of thread `i`. -/
abbrev CallsOf (i : ThreadId) (p : Agent α) : Prop := p.Only fun o : AgentOp => o.calledBy i = true

theorem calls_ret {i : ThreadId} (a : α) : CallsOf i (.ret a) := trivial

theorem calls_agentCall {i : ThreadId} {o : AgentOp} (h : o.calledBy i = true) : CallsOf i (agentCall o) :=
  Prog.only_perform h

theorem calls_ofExcept {i : ThreadId} (x : Except PyExc α) : CallsOf i (.ofExcept x) := Prog.only_ofExcept x

/-- A request makes the calls of its transport. -/
theorem only_request {A : AgentOp → Prop} {method path : String} {send : Agent HttpResponse} (h : send.Only A) :
    (request method path send).Only A := by
  refine (h.tryCatch fun e => ?_).bind fun resp => Prog.only_ofExcept _
  cases e <;> trivial

/-! ## What the loops share -/

theorem calls_signalAuthError {i : ThreadId} (hi : i.isMain = false) : CallsOf i signalAuthError := by
  have hset : (!i.isMain) = true := by rw [hi]; rfl
  exact (calls_agentCall (o := .set .authError) hset).bind fun _ => calls_agentCall (o := .set .shutdown) hset

theorem calls_guardLoop {i : ThreadId} {event : String} {loop : Agent Unit} (hi : i.isMain = false)
    (hloop : (i.isHeartbeat || i.isCheck || i.isNetbox) = true) (h : CallsOf i loop) :
    CallsOf i (guardLoop event loop) := by
  have hset : (!i.isMain) = true := by rw [hi]; rfl
  exact h.tryCatch fun _ =>
    (calls_agentCall (o := .unhandledException event) hloop).bind fun _ => calls_agentCall (o := .set .shutdown) hset

theorem calls_waitInterval {i : ThreadId} (rt : Runtime) (key : String) (hi : i.isMain = false)
    (hloop : (i.isHeartbeat || i.isCheck || i.isNetbox) = true) : CallsOf i (waitInterval rt key) := by
  have hsnapshot : (!i.isMain) = true := by rw [hi]; rfl
  exact ((calls_agentCall (o := .configSnapshot) hsnapshot).bind fun _ => calls_ofExcept _).bind fun interval =>
    calls_agentCall (o := .waitFor interval) hloop

/-! ## The heartbeat thread -/

section

variable (rt : Runtime) (agent_version : String) (client : DashboardClient)

theorem calls_enqueueEach (now_iso : String) (actions : List Json) :
    CallsOf .heartbeat (enqueueEach now_iso actions) := by
  induction actions with
  | nil => trivial
  | cons action actions ih =>
    refine (calls_ofExcept _).bind fun expires_at => (calls_ofExcept _).bind fun expired => ?_
    split_ifs
    · exact ih
    · exact (calls_agentCall rfl).bind fun _ => ih

theorem calls_enqueueActions (actions : Json) : CallsOf .heartbeat (enqueueActions actions) :=
  (calls_agentCall rfl).bind fun _ => (calls_ofExcept _).bind fun _ => calls_enqueueEach _ _

theorem calls_installConfig (new_config : Json) : CallsOf .heartbeat (installConfig new_config) := by
  refine (calls_agentCall rfl).bind fun _ => ?_
  cases new_config with
  | obj config => exact (calls_agentCall rfl).bind fun _ => (calls_ofExcept _).bind fun _ => calls_ret ()
  | _ => trivial

theorem calls_refreshConfig : CallsOf .heartbeat (refreshConfig client) := by
  refine (only_request (calls_agentCall rfl)).attempt.bind fun fetched => ?_
  split
  · exact calls_installConfig _
  · split_ifs
    · exact (calls_signalAuthError rfl).bind fun _ => trivial
    · trivial
  · trivial

theorem calls_refreshIfRequired (config_refresh_required : Json) :
    CallsOf .heartbeat (refreshIfRequired client config_refresh_required) := by
  unfold refreshIfRequired
  split_ifs
  · exact calls_refreshConfig client
  · trivial

theorem calls_processResponse (response : Json) : CallsOf .heartbeat (processResponse client response) := by
  refine (calls_ofExcept _).bind fun required => (calls_refreshIfRequired client required).bind fun _ => ?_
  refine (calls_ofExcept _).bind fun pending_actions => ?_
  show CallsOf .heartbeat (if (pending_actions.or (.arr [])).truthy then _ else _)
  split_ifs
  · exact calls_enqueueActions _
  · trivial

theorem calls_doHeartbeat (process_started_at : Rat) :
    CallsOf .heartbeat (doHeartbeat agent_version client process_started_at) := by
  have hargs : CallsOf .heartbeat (buildHeartbeatArgs agent_version process_started_at) :=
    (calls_agentCall rfl).bind fun _ => (calls_agentCall rfl).bind fun _ => (calls_agentCall rfl).bind fun _ =>
      (calls_agentCall rfl).bind fun _ => (calls_ofExcept _).bind fun _ => (calls_ofExcept _).bind fun _ => calls_ret _
  refine hargs.bind fun body_args => (only_request (calls_agentCall rfl)).attempt.bind fun response => ?_
  split
  · exact calls_processResponse client _
  · split_ifs
    · exact (calls_signalAuthError rfl).bind fun _ => trivial
    · trivial
  · trivial

theorem calls_heartbeatLoop (process_started_at : Rat) (fuel : Nat) :
    CallsOf .heartbeat (heartbeatLoop rt agent_version client process_started_at fuel) := by
  induction fuel with
  | zero => trivial
  | succ fuel ih =>
    refine (calls_agentCall rfl).bind fun stopping => ?_
    split_ifs
    · trivial
    refine (calls_doHeartbeat agent_version client process_started_at).attempt.bind fun tick => ?_
    split
    · refine (calls_waitInterval rt _ rfl rfl).bind fun woke_early => ?_
      split_ifs
      · trivial
      · exact ih
    · split_ifs <;> trivial

end

/-! ## The workers -/

section

variable {n : Nat} (rt : Runtime) (client : DashboardClient)

/-- The calls of an on-demand check. -/
def AgentOp.isOnDemand : AgentOp → Bool
  | .configSnapshot => true
  | .hostsSnapshot => true
  | .utcNowIso => true
  | .uuid4 => true
  | .certCheck _ _ _ _ => true
  | .certCheckWithDiscovery _ _ _ _ _ => true
  | .queue _ => true
  | _ => false

theorem calledBy_of_isOnDemand {o : AgentOp} (h : o.isOnDemand = true) : o.calledBy (.worker n) = true := by
  cases o <;> first | rfl | cases h

/-- The program makes only calls of an on-demand check. -/
abbrev OnDemandCalls (p : Agent α) : Prop := p.Only fun o : AgentOp => o.isOnDemand = true

theorem onDemand_agentCall {o : AgentOp} (h : o.isOnDemand = true) : OnDemandCalls (agentCall o) :=
  Prog.only_perform h

theorem onDemand_resolveHostRef (host_ref ref_type : Json) (config : Dict) :
    OnDemandCalls (resolveHostRef host_ref ref_type config) := by
  unfold resolveHostRef
  split_ifs
  · refine (Prog.only_ofExcept _).bind fun host_id => (Prog.only_ofExcept _).bind fun resolved => ?_
    cases resolved with
    | none => exact (Prog.only_ofExcept _).bind fun _ => trivial
    | some target => trivial
  · exact (Prog.only_ofExcept _).bind fun _ => (onDemand_agentCall rfl).bind fun _ => trivial
  · trivial

theorem onDemand_checkTarget (config : Dict) (host_ref : Json) (target : CheckTarget)
    (connect_timeout handshake_timeout : PyFloat) :
    OnDemandCalls (checkTarget rt config host_ref target connect_timeout handshake_timeout) := by
  unfold checkTarget
  split
  · exact (Prog.only_ofExcept _).bind fun _ => (onDemand_agentCall rfl).bind fun _ => trivial
  · exact (onDemand_agentCall rfl).bind fun _ => trivial

theorem onDemand_checkHost (fuel : Nat) (ctx : ActionContext) : OnDemandCalls (checkHost rt client fuel ctx) := by
  refine (Prog.only_ofExcept _).bind fun given => (Prog.only_ofExcept _).bind fun ref_type => ?_
  refine (onDemand_agentCall rfl).bind fun config => (onDemand_resolveHostRef _ ref_type config).bind fun resolved => ?_
  cases resolved with
  | none => trivial
  | some target =>
    refine (onDemand_agentCall rfl).bind fun started_at => (Prog.only_ofExcept _).bind fun timeouts => ?_
    refine (onDemand_checkTarget rt config _ target _ _).bind fun check_payload => ?_
    refine (onDemand_agentCall rfl).bind fun completed_at => (onDemand_agentCall rfl).bind fun report_id => ?_
    exact (Prog.only_embed queueCalls (fun _ => rfl) _).bind fun _ => trivial

theorem calls_checkHost (fuel : Nat) (ctx : ActionContext) : CallsOf (.worker n) (checkHost rt client fuel ctx) :=
  (onDemand_checkHost rt client fuel ctx).mono fun _ => calledBy_of_isOnDemand

theorem calls_syncNetbox (netbox_client : Option NetBoxClient) (fuel : Nat) (ctx : ActionContext) :
    CallsOf (.worker n) (syncNetbox rt client netbox_client fuel ctx) := by
  cases netbox_client with
  | none => trivial
  | some netbox_client => exact (Prog.only_embed syncCalls (fun _ => rfl) _).bind fun _ => calls_ret _

/-- A handler that was found is one of the two. -/
theorem handlerFor_some {rt : Runtime} {client : DashboardClient} {netbox_client : Option NetBoxClient} {fuel : Nat}
    {action_type : Json} {handler : ActionContext → Agent Unit}
    (h : handlerFor rt client netbox_client fuel action_type = .ok (some handler)) :
    handler = checkHost rt client fuel ∨ handler = syncNetbox rt client netbox_client fuel := by
  unfold handlerFor at h
  split at h
  · cases h
  · cases h
  · exact Or.inl (Option.some.inj (Except.ok.inj h)).symm
  · exact Or.inr (Option.some.inj (Except.ok.inj h)).symm
  · cases h

theorem calls_dispatch (netbox_client : Option NetBoxClient) (fuel : Nat) (action : Json) :
    CallsOf (.worker n) (dispatch rt client netbox_client fuel action) := by
  refine (calls_ofExcept _).bind fun action_id => (calls_ofExcept _).bind fun action_type => ?_
  refine (calls_ofExcept _).bind fun expires_at => (calls_agentCall rfl).bind fun now => ?_
  refine (calls_ofExcept _).bind fun expired => ?_
  split_ifs
  · trivial
  refine (calls_agentCall rfl).bind fun stopping => ?_
  split_ifs
  · trivial
  cases hhandler : handlerFor rt client netbox_client fuel action_type with
  | error e => trivial
  | ok handler =>
    cases handler with
    | none => trivial
    | some handler =>
      refine (calls_ofExcept (action.getOr "payload" (.obj []))).bind fun payload => ?_
      refine (calls_ofExcept (action.getOr "queued_at" (.str ""))).bind fun queued_at => ?_
      rcases handlerFor_some hhandler with rfl | rfl
      · exact calls_checkHost rt client fuel _
      · exact calls_syncNetbox rt client netbox_client fuel _

theorem calls_processAction (netbox_client : Option NetBoxClient) (fuel : Nat) (action : Json) :
    CallsOf (.worker n) (processAction rt client netbox_client fuel action) := by
  refine (calls_dispatch rt client netbox_client fuel action).attempt.bind fun outcome => ?_
  have hhandled : CallsOf (.worker n) (handleDispatched action outcome) := by
    cases outcome with
    | ok u => trivial
    | error e =>
      refine (calls_ofExcept _).bind fun _ => ?_
      split_ifs
      · exact calls_signalAuthError rfl
      · trivial
  exact hhandled.attempt.bind fun handled => (calls_agentCall rfl).bind fun _ => calls_ofExcept _

theorem calls_workerLoop (netbox_client : Option NetBoxClient) (fuel : Nat) :
    CallsOf (.worker n) (workerLoop rt client netbox_client fuel) := by
  induction fuel with
  | zero => trivial
  | succ fuel ih =>
    refine (calls_agentCall rfl).bind fun stopping => ?_
    split_ifs
    · trivial
    refine (calls_agentCall rfl).attempt.bind fun taken => ?_
    split
    · exact (calls_processAction rt client netbox_client fuel _).bind fun _ => ih
    · split_ifs
      · exact ih
      · trivial

end

/-! ## The check thread and the NetBox thread -/

section

variable (rt : Runtime) (client : DashboardClient)

theorem calls_waitForFirstNetboxSync : CallsOf .check waitForFirstNetboxSync := by
  refine (calls_agentCall rfl).bind fun fired => ?_
  split_ifs
  · trivial
  · exact (calls_agentCall rfl).bind fun _ => (calls_agentCall rfl).bind fun _ => calls_ret ()

theorem calls_cycleAndStats (report_type : String) (fuel : Nat) :
    CallsOf .check (cycleAndStats rt client report_type fuel) := by
  refine (calls_agentCall rfl).bind fun netbox_hosts => (calls_agentCall rfl).bind fun config => ?_
  refine (Prog.only_embed cycleCalls (fun o => ?_) _).bind fun cycle_result => ?_
  · cases o <;> rfl
  · exact (calls_ofExcept _).bind fun _ => (calls_ofExcept _).bind fun _ => (calls_agentCall rfl).bind fun _ =>
      calls_ret _

theorem calls_checkLoop (fuel : Nat) (is_first_cycle : Bool) :
    CallsOf .check (checkLoop rt client fuel is_first_cycle) := by
  induction fuel generalizing is_first_cycle with
  | zero => trivial
  | succ fuel ih =>
    refine (calls_agentCall rfl).bind fun stopping => ?_
    split_ifs
    · trivial
    refine (calls_cycleAndStats rt client _ fuel).attempt.bind fun outcome => ?_
    split_ifs
    · exact calls_signalAuthError rfl
    refine (calls_waitInterval rt _ rfl rfl).bind fun woke_early => ?_
    split_ifs
    · trivial
    · exact ih _

theorem calls_openGateUnless {i : ThreadId} (first_sync_completed : Bool) (h : (i.isMain || i.isNetbox) = true) :
    CallsOf i (openGateUnless first_sync_completed) := by
  unfold openGateUnless
  split_ifs
  · trivial
  · exact calls_agentCall h

theorem calls_syncLoop (netbox_client : NetBoxClient) (fuel : Nat) (first_sync_completed : Bool) :
    CallsOf .netbox (syncLoop rt client netbox_client fuel first_sync_completed) := by
  induction fuel generalizing first_sync_completed with
  | zero => trivial
  | succ fuel ih =>
    unfold syncLoop
    refine (calls_agentCall rfl).bind fun stopping => ?_
    split_ifs
    · trivial
    refine (Prog.only_embed syncCalls (fun _ => rfl) _).attempt.bind fun outcome => ?_
    split_ifs
    · exact (calls_signalAuthError rfl).bind fun _ => calls_ret _
    refine (calls_openGateUnless _ rfl).bind fun _ => (calls_waitInterval rt _ rfl rfl).attempt.bind fun waited => ?_
    split
    · trivial
    · trivial
    · exact ih _

end

/-! ## The main thread -/

/-- The calls of bootstrap and replay. -/
def AgentOp.isStartup : AgentOp → Bool
  | .now => true
  | .sleep _ => true
  | .utcNowIso => true
  | .uuid4 => true
  | .gethostname => true
  | .platformSystem => true
  | .platformMachine => true
  | .register _ _ _ => true
  | .getConfig _ => true
  | .creds _ => true
  | .queue _ => true
  | _ => false

theorem calledBy_of_isStartup {o : AgentOp} (h : o.isStartup = true) : o.calledBy .main = true := by
  cases o <;> first | rfl | cases h

/-- The program makes only calls of bootstrap and replay. -/
abbrev StartupCalls (p : Agent α) : Prop := p.Only fun o : AgentOp => o.isStartup = true

theorem startup_agentCall {o : AgentOp} (h : o.isStartup = true) : StartupCalls (agentCall o) :=
  Prog.only_perform h

theorem startup_ofExcept (x : Except PyExc α) : StartupCalls (.ofExcept x) := Prog.only_ofExcept x

/-- The calls of bootstrap beside the registration and the credentials file. -/
def AgentOp.isProbe : AgentOp → Bool
  | .sleep _ => true
  | .utcNowIso => true
  | .uuid4 => true
  | .gethostname => true
  | .platformSystem => true
  | .platformMachine => true
  | .getConfig _ => true
  | _ => false

theorem isStartup_of_isProbe {o : AgentOp} (h : o.isProbe = true) : o.isStartup = true := by
  cases o <;> first | rfl | cases h

abbrev ProbeCalls (p : Agent α) : Prop := p.Only fun o : AgentOp => o.isProbe = true

theorem ProbeCalls.startup {p : Agent α} (h : ProbeCalls p) : StartupCalls p := h.mono fun _ => isStartup_of_isProbe

theorem probe_agentCall {o : AgentOp} (h : o.isProbe = true) : ProbeCalls (agentCall o) := Prog.only_perform h

section

variable (rt : Runtime) (env : Env)

theorem probe_resolveAgentHostname : ProbeCalls (resolveAgentHostname rt env) := by
  unfold resolveAgentHostname
  split
  · refine Prog.Only.bind ((probe_agentCall rfl).tryCatch fun e => ?_) fun hn => ?_
    · cases e <;> trivial
    · split
      · trivial
      · exact (probe_agentCall rfl).bind fun _ => trivial
  · trivial

theorem probe_resolvePlatform : ProbeCalls (resolvePlatform rt) := by
  have hnames : ProbeCalls (do
      let sys_name ← agentCall .platformSystem
      let machine ← agentCall .platformMachine
      return (rt.lower sys_name, rt.lower machine) : Agent (String × String)) :=
    (probe_agentCall rfl).bind fun _ => (probe_agentCall rfl).bind fun _ => trivial
  refine hnames.attempt.bind fun names => ?_
  cases names <;> trivial

theorem startup_registerWithBackoff (dashboard_url registration_token : String) (body : Dict) (fuel attempt : Nat) :
    StartupCalls (registerWithBackoff dashboard_url registration_token body fuel attempt) := by
  induction fuel generalizing attempt with
  | zero => trivial
  | succ fuel ih =>
    refine (only_request (startup_agentCall rfl)).attempt.bind fun outcome => ?_
    split
    · trivial
    · split_ifs
      · exact (startup_agentCall rfl).bind fun _ => ih _
      · trivial
    · trivial

theorem probe_fetchInitialConfigWithRetry (client : DashboardClient) (agent_id agent_secret : Json)
    (max_attempts fuel attempt : Nat) :
    ProbeCalls (fetchInitialConfigWithRetry client agent_id agent_secret max_attempts fuel attempt) := by
  induction fuel generalizing attempt with
  | zero => trivial
  | succ fuel ih =>
    have hfetch : ProbeCalls (do
        .ofExcept (requireCredentials agent_id agent_secret)
        getConfig client : Agent Json) :=
      (Prog.only_ofExcept _).bind fun _ => only_request (probe_agentCall rfl)
    refine hfetch.attempt.bind fun outcome => ?_
    split
    · exact Prog.only_ofExcept _
    · split_ifs
      · trivial
      · exact (probe_agentCall rfl).bind fun _ => ih _
      · trivial
    · trivial

theorem startup_loadCredentials : StartupCalls ((loadCredentials.embed credsCalls).tryCatch fun e =>
    .raise (if e = credentialsCorrupt then bootstrapError else e)) :=
  (Prog.only_embed credsCalls (fun _ => rfl) _).tryCatch fun _ => trivial

theorem startup_bootstrapSubsequentRun (creds : Dict) (fuel : Nat) :
    StartupCalls (bootstrapSubsequentRun rt creds fuel) := by
  refine (startup_ofExcept _).bind fun agent_id => (startup_ofExcept _).bind fun agent_secret => ?_
  refine (startup_ofExcept _).bind fun dashboard_url => (startup_ofExcept _).bind fun client => ?_
  exact (probe_fetchInitialConfigWithRetry client _ _ 1 fuel 0).startup.bind fun initial_config => trivial

theorem startup_bootstrapFirstRun (agent_version dashboard_url : String) (fuel : Nat) :
    StartupCalls (bootstrapFirstRun rt env agent_version dashboard_url fuel) := by
  have hhostname := (probe_resolveAgentHostname rt env).startup
  have hplatform := (probe_resolvePlatform rt).startup
  unfold bootstrapFirstRun
  generalize resolveAgentHostname rt env = resolved_hostname at hhostname ⊢
  generalize resolvePlatform rt = resolved_platform at hplatform ⊢
  refine (startup_ofExcept _).bind fun registration_token => hhostname.bind fun hostname => ?_
  refine hplatform.bind fun plat => (startup_agentCall rfl).bind fun started_at => ?_
  refine (startup_registerWithBackoff _ _ _ fuel 0).bind fun register_resp => ?_
  refine (startup_ofExcept _).bind fun agent_id => (startup_ofExcept _).bind fun agent_secret => ?_
  refine (startup_ofExcept _).bind fun registered_at => ?_
  refine (Prog.only_embed credsCalls (fun _ => rfl) _).bind fun _ => (startup_ofExcept _).bind fun client => ?_
  exact (probe_fetchInitialConfigWithRetry client _ _ 1 fuel 0).startup.bind fun initial_config => trivial

theorem startup_bootstrap (agent_version : String) (fuel : Nat) :
    StartupCalls (bootstrap rt env agent_version fuel) := by
  unfold bootstrap
  generalize validateNetboxEnv env = validated
  refine (startup_ofExcept _).bind fun dashboard_url_env => (startup_ofExcept _).bind fun _ => ?_
  refine startup_loadCredentials.bind fun creds => ?_
  cases creds with
  | some creds => exact startup_bootstrapSubsequentRun rt creds fuel
  | none => exact startup_bootstrapFirstRun rt env agent_version dashboard_url_env fuel

end

/-- The calls of the main thread once bootstrap has returned. -/
def AgentOp.isLaunch : AgentOp → Bool
  | .now => true
  | .queue _ => true
  | .isSet .shutdown => true
  | .isSet .authError => true
  | .configState _ => true
  | .set .firstSync => true
  | .signal _ => true
  | .start _ => true
  | .wait .shutdown _ => true
  | .join _ => true
  | _ => false

theorem calledBy_of_isLaunch {o : AgentOp} (h : o.isLaunch = true) : o.calledBy .main = true := by
  unfold AgentOp.isLaunch at h
  split at h <;> first | rfl | cases h

abbrev LaunchCalls (p : Agent α) : Prop := p.Only fun o : AgentOp => o.isLaunch = true

theorem launch_agentCall {o : AgentOp} (h : o.isLaunch = true) : LaunchCalls (agentCall o) := Prog.only_perform h

theorem launch_startEach (threads : List ThreadSpec) : LaunchCalls (startEach threads) := by
  induction threads with
  | nil => trivial
  | cons thread threads ih => exact (launch_agentCall rfl).bind fun _ => ih

theorem launch_joinEach (threads : List ThreadId) : LaunchCalls (joinEach threads) := by
  induction threads with
  | nil => trivial
  | cons thread threads ih => exact (launch_agentCall rfl).bind fun _ => ih

theorem launch_finalExitCode : LaunchCalls finalExitCode := (launch_agentCall rfl).bind fun _ => trivial

theorem launch_startAndWait (threads : List ThreadSpec) : LaunchCalls (startAndWait threads) := by
  have hinstall : LaunchCalls installSignalHandlers := by
    refine ((launch_agentCall rfl).bind fun _ => launch_agentCall rfl).tryCatch fun e => ?_
    cases e <;> trivial
  refine hinstall.bind fun _ => (launch_startEach threads).bind fun _ => (launch_agentCall rfl).bind fun _ => ?_
  exact (launch_agentCall rfl).bind fun _ => (launch_joinEach _).bind fun _ =>
    (launch_agentCall rfl).bind fun _ => launch_finalExitCode

theorem launch_replayAndStart (setup : Setup) (result : BootstrapResult) (process_started_at : Rat) :
    LaunchCalls (replayAndStart setup result process_started_at) := by
  refine (Prog.only_embed queueCalls (fun _ => rfl) _).attempt.bind fun replayed => ?_
  split_ifs
  · trivial
  refine (launch_agentCall rfl).bind fun stopping => ?_
  split_ifs
  · exact launch_finalExitCode
  refine (launch_agentCall rfl).bind fun _ => (Prog.only_ofExcept _).bind fun netbox_client => ?_
  refine Prog.Only.bind ?_ fun _ => launch_startAndWait _
  unfold openGateUnless
  split_ifs
  · trivial
  · exact launch_agentCall rfl

theorem calls_mainProgram (setup : Setup) : CallsOf .main (mainProgram setup) := by
  refine Prog.Only.bind ?_ fun _ => trivial
  refine (calls_agentCall rfl).bind fun process_started_at => ?_
  refine ((startup_bootstrap _ _ _ _).mono fun _ => calledBy_of_isStartup).attempt.bind fun bootstrapped => ?_
  cases bootstrapped with
  | error e => trivial
  | ok result => exact (launch_replayAndStart setup result process_started_at).mono fun _ => calledBy_of_isLaunch

/-! ## Every thread -/

/-- **Every started thread makes only its own calls.** -/
theorem calls_agentProgram (setup : Setup) (thread : ThreadSpec) :
    (agentProgram setup thread).Only fun o : AgentOp => o.calledBy thread.id = true := by
  refine Prog.Only.bind ?_ fun _ => trivial
  cases thread with
  | heartbeat client process_started_at =>
    exact calls_guardLoop rfl rfl (calls_heartbeatLoop _ _ client process_started_at setup.fuel)
  | worker worker_id client netbox_client => exact calls_workerLoop _ client netbox_client setup.fuel
  | check client =>
    exact calls_waitForFirstNetboxSync.bind fun _ =>
      calls_guardLoop rfl rfl (calls_checkLoop _ client setup.fuel true)
  | netbox client netbox_client =>
    exact (calls_syncLoop _ client netbox_client setup.fuel false).bind fun left =>
      (calls_guardLoop rfl rfl (calls_ofExcept _)).bind fun _ => calls_openGateUnless _ rfl

theorem mayRun_calls {setup : Setup} {i : ThreadId} {p : Agent (Option Int)} (h : MayRun setup i p) : CallsOf i p := by
  rcases h with ⟨rfl, rfl⟩ | ⟨thread, rfl, rfl⟩
  · exact calls_mainProgram setup
  · exact calls_agentProgram setup thread

variable {setup : Setup} {main_thread : Bool} {Meets : AgentLabel → AgentPool → Prop} {P : AgentPool}

/-- **Every call of a run was made by one of its callers.** -/
theorem ReachableBy.calledBy (h : ReachableBy setup main_thread Meets P) {i : ThreadId} {c : AgentCall}
    (hc : (i, c) ∈ P.shared.log) : c.op.calledBy i = true := by
  have hown : c ∈ ownEvents i P.shared.log := mem_ownEvents_iff.mpr hc
  cases hi : P.threads i with
  | none =>
    rw [h.traced.of_none hi] at hown
    cases hown
  | some p =>
    obtain ⟨p₀, hp₀, htrace⟩ := h.traced.of_some hi
    exact ((mayRun_calls hp₀).trace htrace).2 c hown

/-! ## Starting threads -/

theorem mem_started_effect {s : AgentState} {o : AgentOp} {r : Except PyExc o.Ret} {thread : ThreadSpec}
    (h : thread ∈ (effect s o r).started) : thread ∈ s.started ∨ o = .start thread := by
  by_cases ho : ∃ thread', o = .start thread'
  · obtain ⟨thread', rfl⟩ := ho
    rcases List.mem_append.mp h with h | h
    · exact Or.inl h
    · rw [List.mem_singleton.mp h]
      exact Or.inr rfl
  · have hkeep : (effect s o r).started = s.started := by
      unfold effect
      split
      · rename_i event _
        cases event <;> rfl
      all_goals first | rfl | exact absurd ⟨_, rfl⟩ ho
    rw [hkeep] at h
    exact Or.inl h

/-- A thread that is started was started by a call of the main thread. -/
theorem ReachableBy.start_mem (h : ReachableBy setup main_thread Meets P) {thread : ThreadSpec}
    (hthread : thread ∈ P.shared.started) : ∃ r, (.main, ⟨.start thread, r⟩) ∈ P.shared.log := by
  have hsome : ∃ i r, (i, ⟨.start thread, r⟩) ∈ P.shared.log := by
    induction h with
    | initial => cases hthread
    | @step label P P' _ _ hstep ih =>
      have hnew : thread ∈ P.shared.started ∨ ∃ i r, (i, ⟨.start thread, r⟩) ∈ P'.shared.log := by
        cases hstep with
        | @call i _ _ hcall =>
          cases hcall with
          | @call o k r s' hi hex =>
            obtain ⟨-, -, rfl⟩ := hex
            refine (mem_started_effect hthread).imp id ?_
            rintro rfl
            exact ⟨i, r, List.mem_append_right _ (List.mem_singleton_self _)⟩
        | begins _ _ => exact Or.inl hthread
        | @signal signum _ _ _ =>
          change thread ∈ (P.shared.receive signum).started at hthread
          unfold AgentState.receive at hthread
          split_ifs at hthread <;> exact Or.inl hthread
        | request => exact Or.inl hthread
      rcases hnew with hbefore | hnew
      · obtain ⟨i, r, hmem⟩ := ih hbefore
        exact ⟨i, r, hstep.extends.log.subset hmem⟩
      · exact hnew
  obtain ⟨i, r, hmem⟩ := hsome
  have hcalled := h.calledBy hmem
  cases i with
  | main => exact ⟨r, hmem⟩
  | _ => cases hcalled

/-- A thread that has begun was started. -/
theorem ReachableBy.started_of_thread (h : ReachableBy setup main_thread Meets P) {i : ThreadId} (hi : i ≠ .main)
    (hthread : P.threads i ≠ none) : ∃ thread ∈ P.shared.started, thread.id = i := by
  induction h with
  | initial => exact absurd (threads_initial_ne hi) hthread
  | @step label P P' _ _ hstep ih =>
    have hkept : P.threads i ≠ none → ∃ thread ∈ P'.shared.started, thread.id = i := fun hthread => by
      obtain ⟨thread, hmem, hid⟩ := ih hthread
      exact ⟨thread, hstep.extends.started.subset hmem, hid⟩
    cases hstep with
    | call hcall =>
      refine hkept fun hnone => hthread ?_
      cases hcall with
      | @call o k r s' hj hex =>
        show Function.update P.threads _ _ i = none
        rw [Function.update_of_ne ?_]
        · exact hnone
        · rintro rfl
          rw [hj] at hnone
          cases hnone
    | @begins thread _ hstarted hnone =>
      by_cases hid : thread.id = i
      · exact ⟨thread, hstarted, hid⟩
      · refine hkept ?_
        change Function.update P.threads thread.id _ i ≠ none at hthread
        rwa [Function.update_of_ne (Ne.symm hid)] at hthread
    | signal _ _ => exact hkept hthread
    | request => exact hkept hthread

/-! ## Writing the credentials file -/

/-- The `try` block of `save_credentials` under a monitor: it is enough to follow the two writes, and the unlink after
one that fails, whose error is raised whatever becomes of the unlink. -/
theorem obeys_fillCredentialsTmp {Q : Type} {M : Monitor credsSig PyExc Q} {payload : Dict}
    {W F : Q → Except PyExc Unit → Prop} {q : Q}
    (hwrite : ((credsCall (.dump payload)).bind fun _ => credsCall .fsync).Obeys M W q)
    (hok : ∀ q', W q' (.ok ()) → F q' (.ok ()))
    (hunlink : ∀ q' e, W q' (.error e) →
      (credsCall .unlinkTmp).Obeys M (fun q'' _ => ∀ e', F q'' (.error e')) q') :
    (fillCredentialsTmp payload).Obeys M F q := by
  refine Prog.obeys_tryCatch.mpr (hwrite.mono fun q' x hx => ?_)
  cases x with
  | ok u => exact hok q' hx
  | error e =>
    refine Prog.obeys_bind.mpr (Prog.obeys_tryCatch.mpr ((hunlink q' e hx).mono fun q'' r hr => ?_))
    cases r with
    | ok u => exact hr e
    | error e' =>
      rw [Prog.catchObeys_error]
      split
      · exact hr e
      · exact hr _

end CertWatch
