/-
# `CertWatch.Agent` — the threads of one agent process, what they share, and what their calls may do.

The agent is a main thread, a heartbeat thread, a check thread, perhaps a NetBox thread, and a pool of action
workers.  They share three events, three holders and a queue.  What a call does to these is exact; what the
world outside answers (the dashboard, NetBox, the file system, the checked hosts) is anything it may answer,
and any exception it may raise.

The state keeps a log of all calls with their answers, and nothing in the agent reads it.
-/
import CertWatch.AgentCredentials
import CertWatch.CheckThread
import CertWatch.NetBoxSync
import CertWatch.Lib.Trace

namespace CertWatch

open CertWatch.Lib

/-! ## Threads and events -/

inductive ThreadId where
  | main
  | heartbeat
  | check
  | netbox
  | worker (n : Nat)
  deriving DecidableEq, Repr

/-- The `threading.Event`s of a runner. -/
inductive AgentEvent where
  | shutdown
  | authError
  | firstSync
  deriving DecidableEq, Repr

inductive Signal where
  | sigterm
  | sigint
  deriving DecidableEq, Repr

/-- A thread as the runner constructs it. -/
inductive ThreadSpec where
  | heartbeat (client : DashboardClient) (process_started_at : Rat)
  | worker (worker_id : Nat) (client : DashboardClient) (netbox_client : Option NetBoxClient)
  | check (client : DashboardClient)
  | netbox (client : DashboardClient) (netbox_client : NetBoxClient)

def ThreadSpec.id : ThreadSpec → ThreadId
  | .heartbeat _ _ => .heartbeat
  | .worker worker_id _ _ => .worker worker_id
  | .check _ => .check
  | .netbox _ _ => .netbox

/-! ## The calls -/

/-- The arguments of `record_check_cycle`. -/
structure CheckCycleStats where
  hosts_monitored : Nat
  completed_at : String
  duration_seconds : Int
  succeeded : Nat
  failed : Nat
  deriving DecidableEq

/-- `StatsState.record_check_cycle`. -/
def StatsState.recordCheckCycle (s : StatsState) (c : CheckCycleStats) : StatsState :=
  { s with
    hosts_monitored := some c.hosts_monitored
    last_check_completed_at := some c.completed_at
    last_check_duration_seconds := some c.duration_seconds
    checks_succeeded_last_cycle := some c.succeeded
    checks_failed_last_cycle := some c.failed }

/-- `StatsState.snapshot_for_heartbeat`. -/
def StatsState.snapshotForHeartbeat (s : StatsState) : Option Dict :=
  let count (k : String) (v : Option Int) : Dict := match v with
    | some n => [(k, .int n)]
    | none => []
  let text (k : String) (v : Option String) : Dict := match v with
    | some t => [(k, .str t)]
    | none => []
  let populated :=
    count "hosts_monitored" (s.hosts_monitored.map Int.ofNat) ++
    text "last_check_completed_at" s.last_check_completed_at ++
    count "last_check_duration_seconds" s.last_check_duration_seconds ++
    text "last_netbox_sync_at" s.last_netbox_sync_at ++
    count "checks_succeeded_last_cycle" (s.checks_succeeded_last_cycle.map Int.ofNat) ++
    count "checks_failed_last_cycle" (s.checks_failed_last_cycle.map Int.ofNat)
  if populated.isEmpty then none else some populated

/-- What a thread of the agent asks of the others and of its surroundings. -/
inductive AgentOp where
  | isSet (event : AgentEvent)
  | set (event : AgentEvent)
  /-- `event.wait(timeout)`. -/
  | wait (event : AgentEvent) (timeout : Option Rat)
  /-- `clock.wait_for(seconds, shutdown_event)`. -/
  | waitFor (seconds : PyFloat)
  | now
  | sleep (seconds : Rat)
  | utcNowIso
  | uuid4
  | gethostname
  | platformSystem
  | platformMachine
  /-- `ConfigState(initial=...)`. -/
  | configState (initial : Dict)
  | configSnapshot
  | configReplace (new_config : Dict)
  | statsSnapshot
  | recordCheckCycle (cycle : CheckCycleStats)
  | hostsSnapshot
  | put (action : Json)
  /-- `action_queue.get(timeout=0.5)`. -/
  | get
  | taskDone
  | register (dashboard_url registration_token : String) (body : Dict)
  | getConfig (client : DashboardClient)
  | heartbeat (body : Dict)
  /-- `check_fn` of an on-demand check. -/
  | certCheck (connect_target : Json) (port : Int) (connect_timeout handshake_timeout : PyFloat)
  /-- `discovery_check_fn` of an on-demand check. -/
  | certCheckWithDiscovery (connect_target : Json) (port : Int) (connect_timeout handshake_timeout : PyFloat)
      (expiring_soon_threshold_days : Int)
  | runChecks (settings : CheckSettings) (hosts : List HostEntry)
  | creds (o : CredsOp)
  | queue (o : QueueOp)
  | sync (o : SyncOp)
  /-- `signal.signal(signum, handler)`. -/
  | signal (signum : Signal)
  | start (thread : ThreadSpec)
  /-- `thread.join(timeout=...)`. -/
  | join (thread : ThreadId)
  /-- The `log.error` of a loop's catch-all. -/
  | unhandledException (event : String)

/-- What each call returns. -/
abbrev AgentOp.Ret : AgentOp → Type
  | .isSet _ => Bool
  | .wait _ _ => Bool
  | .waitFor _ => Bool
  | .now => Rat
  | .utcNowIso => String
  | .uuid4 => String
  | .gethostname => String
  | .platformSystem => String
  | .platformMachine => String
  | .configSnapshot => Dict
  | .statsSnapshot => Option Dict
  | .hostsSnapshot => List DiscoveredHost
  | .get => Json
  | .register _ _ _ => HttpResponse
  | .getConfig _ => HttpResponse
  | .heartbeat _ => HttpResponse
  | .certCheck _ _ _ _ => CertResult
  | .certCheckWithDiscovery _ _ _ _ _ => CertCheckResult
  | .runChecks _ _ => Results
  | .creds o => o.Ret
  | .queue o => o.Ret
  | .sync o => o.Ret
  | _ => Unit

abbrev agentSig : Sig := ⟨AgentOp, AgentOp.Ret⟩

/-- Programs of the agent's threads. -/
abbrev Agent (α : Type) := Prog agentSig PyExc α

abbrev agentCall (o : AgentOp) : Agent o.Ret := Prog.perform (S := agentSig) o

/-- A call that one of the threads made. -/
abbrev AgentCall := Call agentSig PyExc

/-- The report queue as a part of the agent. -/
def queueCalls : Embedding queueSig agentSig := ⟨.queue, fun _ => Equiv.refl _⟩

/-- A sync as a part of the agent. -/
def syncCalls : Embedding syncSig agentSig := ⟨.sync, fun _ => Equiv.refl _⟩

/-- The credentials file as a part of the agent. -/
def credsCalls : Embedding credsSig agentSig := ⟨.creds, fun _ => Equiv.refl _⟩

/-- A cycle as a part of the agent. -/
def cycleCalls : Embedding cycleSig agentSig where
  op
    | .queue o => .queue o
    | .runChecks settings hosts => .runChecks settings hosts
    | .uuid4 => .uuid4
  ret
    | .queue _ => Equiv.refl _
    | .runChecks _ _ => Equiv.refl _
    | .uuid4 => Equiv.refl _

/-! ## Exceptions from outside -/

/-- `_ShutdownRequested`, which only the heartbeat thread raises. -/
def shutdownRequested : PyExc := .other "_ShutdownRequested"

/-- `queue.Empty`. -/
def queueEmpty : PyExc := .other "Empty"

/-- An exception that a call may raise: anything but the dashboard client's own hierarchy, which is made from
responses, and the heartbeat thread's private class. -/
def PyExc.foreign : PyExc → Bool
  | .dashboard _ => false
  | e => e != shutdownRequested

/-- A result whose exceptions come from outside. -/
def Foreign {α : Type} (r : Except PyExc α) : Prop := ∀ e, r = .error e → e.foreign = true

/-- The call raised a `DashboardAuthError`. -/
def isAuthFailure {α : Type} : Except PyExc α → Bool
  | .error (.dashboard e) => e.kind == .auth
  | _ => false

/-- A device none of whose attributes raises an exception of the agent's own. -/
structure Device.Foreign (d : Device) : Prop where
  id : CertWatch.Foreign d.id
  name : CertWatch.Foreign d.name
  primary_ip4 : CertWatch.Foreign d.primary_ip4
  primary_ip6 : CertWatch.Foreign d.primary_ip6
  custom_fields : CertWatch.Foreign d.custom_fields
  tags : CertWatch.Foreign d.tags
  addresses : ∀ ip, d.primary_ip4 = .ok (some ip) ∨ d.primary_ip6 = .ok (some ip) → CertWatch.Foreign ip.address
  tagNames : ∀ ts, d.tags = .ok (.items ts) → ∀ t ∈ ts, CertWatch.Foreign t.name

/-! ## The shared state -/

/-- What the threads share. -/
structure AgentState where
  shutdown : Bool := false
  auth_error : Bool := false
  first_sync : Bool := false
  /-- The configs that `ConfigState` has held, the current one last. -/
  configs : List Dict := []
  stats : StatsState := {}
  netbox_hosts : List DiscoveredHost := []
  action_queue : List Json := []
  /-- The signals whose handler is installed. -/
  handlers : List Signal := []
  started : List ThreadSpec := []
  /-- A signal handler has run. -/
  signaled : Bool := false
  /-- The exposed `shutdown_event` has been set from outside. -/
  requested : Bool := false
  /-- A signal without a handler has ended the process. -/
  killed : Bool := false
  /-- `run` is executed on the main thread. -/
  main_thread : Bool := true
  log : List (ThreadId × AgentCall) := []

namespace AgentState

def isSet (s : AgentState) : AgentEvent → Bool
  | .shutdown => s.shutdown
  | .authError => s.auth_error
  | .firstSync => s.first_sync

def set (s : AgentState) : AgentEvent → AgentState
  | .shutdown => { s with shutdown := true }
  | .authError => { s with auth_error := true }
  | .firstSync => { s with first_sync := true }

def record (s : AgentState) (i : ThreadId) (c : AgentCall) : AgentState := { s with log := s.log ++ [(i, c)] }

end AgentState

/-! ## What a call may do -/

/-- The answers to a call of the report queue. -/
def queueAnswers (s : AgentState) : (o : QueueOp) → Except PyExc o.Ret → Prop
  | .now, r => ∃ t, r = .ok t
  | .utcNowIso, r => ∃ us, r = .ok (utcNowIso us)
  | .isSet, r => r = .ok s.shutdown
  | .waitFor _, r => r = .ok s.shutdown
  | .sleep _, r => r = .ok ()
  | _, r => Foreign r

/-- The answers to a call of a sync. -/
def syncAnswers (s : AgentState) : (o : SyncOp) → Except PyExc o.Ret → Prop
  | .utcNowIso, r => ∃ us, r = .ok (utcNowIso us)
  | .fetchBegins, r => r = .ok ()
  | .fetchReturns _, r => r = .ok ()
  | .replaceHosts _, r => r = .ok ()
  | .nextDevice, r => Foreign r ∧ ∀ d, r = .ok (some d) → d.Foreign
  | .isSet, r => r = .ok s.shutdown
  | .waitFor _, r => r = .ok s.shutdown
  | .sleep _, r => r = .ok ()
  | _, r => Foreign r

/-- The answers that a call may have. -/
def answers (s : AgentState) : (o : AgentOp) → Except PyExc o.Ret → Prop
  | .isSet event, r => r = .ok (s.isSet event)
  | .set _, r => r = .ok ()
  -- without a timeout the call returns only once the event is set
  | .wait event timeout, r => r = .ok (s.isSet event) ∧ (timeout = none → s.isSet event = true)
  | .waitFor _, r => r = .ok s.shutdown ∨ ∃ e : PyExc, r = .error e ∧ e.foreign = true
  | .now, r => ∃ t, r = .ok t
  | .sleep _, r => r = .ok ()
  | .utcNowIso, r => ∃ us, r = .ok (utcNowIso us)
  | .uuid4, r => ∃ id, r = .ok id
  | .configState _, r => r = .ok ()
  | .configSnapshot, r => Foreign r ∧ ∀ c, r = .ok c → s.configs.getLast? = some c
  | .configReplace _, r => r = .ok ()
  | .statsSnapshot, r => Foreign r ∧ ∀ stats, r = .ok stats → stats = s.stats.snapshotForHeartbeat
  | .hostsSnapshot, r => r = .ok s.netbox_hosts
  | .put _, r => r = .ok ()
  | .get, r => (r = .error queueEmpty ∧ s.action_queue = []) ∨ ∃ a, r = .ok a ∧ s.action_queue.head? = some a
  | .taskDone, r => r = .ok ()
  | .queue o, r => queueAnswers s o r
  | .sync o, r => syncAnswers s o r
  -- only the main thread may install handlers
  | .signal _, r => r = if s.main_thread then .ok () else .error (.valueError "signal only works in main thread")
  | .start _, r => r = .ok ()
  | .join _, r => r = .ok ()
  | .unhandledException _, r => r = .ok ()
  | _, r => Foreign r

/-- The answers that a call may have in some state. -/
def Possible (o : AgentOp) (r : Except PyExc o.Ret) : Prop := ∃ s, answers s o r

/-- What a call does to the shared state. -/
def effect (s : AgentState) : (o : AgentOp) → Except PyExc o.Ret → AgentState
  | .set event, _ => s.set event
  | .configState initial, _ => { s with configs := [initial] }
  | .configReplace new_config, _ => { s with configs := s.configs ++ [new_config] }
  | .recordCheckCycle cycle, .ok _ => { s with stats := s.stats.recordCheckCycle cycle }
  | .put action, _ => { s with action_queue := s.action_queue ++ [action] }
  | .get, .ok _ => { s with action_queue := s.action_queue.tail }
  | .sync (.replaceHosts hosts), _ => { s with netbox_hosts := hosts }
  | .sync (.recordNetboxSync completed_at), .ok _ => { s with stats := s.stats.recordNetboxSync completed_at }
  | .signal signum, .ok _ => { s with handlers := s.handlers ++ [signum] }
  | .start thread, _ => { s with started := s.started ++ [thread] }
  | _, _ => s

/-- A thread's call: possible while the process lives. -/
def agentExec (i : ThreadId) (o : AgentOp) (s : AgentState) (r : Except PyExc o.Ret) (s' : AgentState) : Prop :=
  s.killed = false ∧ answers s o r ∧ s' = (effect s o r).record i ⟨o, r⟩

end CertWatch
