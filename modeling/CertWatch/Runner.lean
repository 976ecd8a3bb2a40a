/-
# `CertWatch.Runner` — `AgentRunner.run`, from bootstrap to the exit code.

`runner.py` over the calls of `CertWatch.Agent`.  The events are the runner's own, so they exist before `run`
begins; the holders are built once bootstrap and replay are done.  Starting a thread does not fail here.
-/
import CertWatch.ActionWorkers
import CertWatch.Bootstrap
import CertWatch.ScheduledThreads

namespace CertWatch

open CertWatch.Lib

/-! ## Exit codes -/

/-- `EXIT_CLEAN`. -/
def exitClean : Int := 0

/-- `EXIT_BOOTSTRAP_FAILURE`. -/
def exitBootstrapFailure : Int := 1

/-- `EXIT_AUTH_ERROR`. -/
def exitAuthError : Int := 2

/-- `ACTION_WORKER_COUNT`. -/
def actionWorkerCount : Nat := 4

/-! ## Replay at startup -/

/-- `persisted_at and persisted_at < credentials_registered_at`, for a registration time of any type. -/
def isOrphanAt (persisted : Dict) (credentials_registered_at : Json) : Except PyExc Bool :=
  let persisted_at := Dict.getD persisted "_persisted_at" (.str "")
  if persisted_at.truthy then persisted_at.lt credentials_registered_at else .ok false

section

variable (client : DashboardClient) (shutdown_event : Bool)

/-- The body of the replay loop after its shutdown check, for a registration time of any type. -/
def replayOneAt (fuel : Nat) (credentials_registered_at : Json) (path : String) : Queue ReplayOutcome := do
  let loaded ← (loadPendingReport .scan path).attempt
  match loaded with
  | .error (.pendingReportCorrupt _) => do
    let _ ← quarantineCorrupt path
    return .corrupt
  | .error e => .raise e
  | .ok persisted => do
    let orphan ← .ofExcept (isOrphanAt persisted credentials_registered_at)
    if orphan then
      return .orphan
    else do
      let started_mono ← queueCall .now
      let sub_result ← retryLoopForPath client shutdown_event path (wirePayload persisted) started_mono fuel
      return if sub_result.status = .shutdown then .shutdown else .replayed

/-- The loop over the paths, for a registration time of any type. -/
def replayPathsAt (fuel : Nat) (credentials_registered_at : Json) : List String → ReplayResult → Queue ReplayResult
  | [], result => return result
  | path :: paths, result => do
    let interrupted ← shutdownSet shutdown_event
    if interrupted then
      return { result with shutdown_during := true }
    else do
      let outcome ← replayOneAt client shutdown_event fuel credentials_registered_at path
      let result := outcome.count result
      if outcome = .shutdown then
        return result
      else
        replayPathsAt fuel credentials_registered_at paths result

/-- `replay_pending_reports`, for a registration time of any type: `agent.json` may hold any document. -/
def replayPendingReportsAt (fuel : Nat) (credentials_registered_at : Json) : Queue ReplayResult := do
  let _ ← cleanupStrayTmpFiles
  let paths ← listPendingReportPaths
  replayPathsAt client shutdown_event fuel credentials_registered_at paths {}

theorem isOrphanAt_str (persisted : Dict) (registered_at : String) :
    isOrphanAt persisted (.str registered_at) = isOrphan persisted registered_at := by
  simp only [isOrphanAt, isOrphan, Json.lt_str]

theorem replayOneAt_str (fuel : Nat) (registered_at path : String) :
    replayOneAt client shutdown_event fuel (.str registered_at) path =
      replayOne client shutdown_event fuel registered_at path := by
  refine congrArg (Prog.bind _) (funext fun loaded => ?_)
  cases loaded with
  | error e => cases e <;> rfl
  | ok persisted => simp only [isOrphanAt_str]

theorem replayPathsAt_str (fuel : Nat) (registered_at : String) (paths : List String) (result : ReplayResult) :
    replayPathsAt client shutdown_event fuel (.str registered_at) paths result =
      replayPaths client shutdown_event fuel registered_at paths result := by
  induction paths generalizing result with
  | nil => rfl
  | cons path paths ih => simp only [replayPathsAt, replayPaths, replayOneAt_str, ih]

/-- With a text it is the replay of `CertWatch.ReportSubmission`. -/
theorem replayPendingReportsAt_str (fuel : Nat) (registered_at : String) :
    replayPendingReportsAt client shutdown_event fuel (.str registered_at) =
      replayPendingReports client shutdown_event fuel registered_at := by
  simp only [replayPendingReportsAt, replayPendingReports, replayPathsAt_str]

end

/-! ## The run -/

/-- What a runner is made with, and the parameters of its code. -/
structure Setup where
  rt : Runtime
  env : Env
  agent_version : String := "0.1.0"
  num_workers : Nat := actionWorkerCount
  /-- How many rounds the loops are followed. -/
  fuel : Nat
  /-- `float` of a text raises nothing of the agent's own. -/
  float_foreign : ∀ text, Foreign (rt.floatOfText text)

/-- `_build_netbox_client_if_configured`. -/
def buildNetboxClientIfConfigured (env : Env) : Except PyExc (Option NetBoxClient) :=
  if envText env "NETBOX_URL" = "" then
    .ok none
  else
    match env "NETBOX_TOKEN", env "NETBOX_FILTER" with
    | some _, some filter_expr => .ok (some { url := envText env "NETBOX_URL", filter_expr := strip filter_expr })
    | none, _ => .error (.keyError "NETBOX_TOKEN")
    | _, none => .error (.keyError "NETBOX_FILTER")

/-- `_install_signal_handlers`. -/
def installSignalHandlers : Agent Unit :=
  let install : Agent Unit := do
    agentCall (.signal .sigterm)
    agentCall (.signal .sigint)
  install.tryCatch fun e => match e with
    | .valueError _ => .ret ()
    | e => .raise e

/-- `_final_exit_code`. -/
def finalExitCode : Agent Int := do
  let auth_error ← agentCall (.isSet .authError)
  return if auth_error then exitAuthError else exitClean

/-- Start threads one after the other. -/
def startEach : List ThreadSpec → Agent Unit
  | [] => return ()
  | thread :: threads => do
    agentCall (.start thread)
    startEach threads

/-- Join threads one after the other, each for a bounded time. -/
def joinEach : List ThreadId → Agent Unit
  | [] => return ()
  | thread :: threads => do
    agentCall (.join thread)
    joinEach threads

/-- The threads of a runner, in the order in which it starts and joins them. -/
def agentThreads (num_workers : Nat) (client : DashboardClient) (netbox_client : Option NetBoxClient)
    (process_started_at : Rat) : List ThreadSpec :=
  .heartbeat client process_started_at ::
    ((List.range num_workers).map fun worker_id => .worker worker_id client netbox_client) ++
    .check client :: (netbox_client.map fun netbox_client => .netbox client netbox_client).toList

/-- `_shutdown`. -/
def shutdownAgent (threads : List ThreadSpec) : Agent Int := do
  let _ ← agentCall .now
  joinEach (threads.map ThreadSpec.id)
  let _ ← agentCall .now
  finalExitCode

/-- The run from the signal handlers on. -/
def startAndWait (threads : List ThreadSpec) : Agent Int := do
  installSignalHandlers
  startEach threads
  let _ ← agentCall (.wait .shutdown none)
  shutdownAgent threads

/-- The run from the shared state on. -/
def buildAndStart (setup : Setup) (result : BootstrapResult) (process_started_at : Rat) : Agent Int := do
  agentCall (.configState result.initial_config)
  let netbox_client ← .ofExcept (buildNetboxClientIfConfigured setup.env)
  openGateUnless netbox_client.isSome
  startAndWait (agentThreads setup.num_workers result.client netbox_client process_started_at)

/-- The run once bootstrap has returned: the replay, and what follows it. -/
def replayAndStart (setup : Setup) (result : BootstrapResult) (process_started_at : Rat) : Agent Int := do
  let replayed ← ((replayPendingReportsAt result.client true setup.fuel result.registered_at).embed
    queueCalls).attempt
  if isAuthFailure replayed then
    return exitAuthError
  else do
    -- every other replay failure is logged and the start goes on
    let stopping ← agentCall (.isSet .shutdown)
    if stopping then finalExitCode else buildAndStart setup result process_started_at

/-- `AgentRunner.run`. -/
def runAgent (setup : Setup) : Agent Int := do
  let process_started_at ← agentCall .now
  let bootstrapped ← (bootstrap setup.rt setup.env setup.agent_version setup.fuel).attempt
  match bootstrapped with
  | .error _ => return exitBootstrapFailure
  | .ok result => replayAndStart setup result process_started_at

end CertWatch
