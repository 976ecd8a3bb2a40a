/-
# `CertWatch.HeartbeatThread` — one tick, and the loop around it.

`heartbeat_thread.py` over the calls of `CertWatch.Agent`.  `_ShutdownRequested` is raised by the two handlers
of an authentication error and caught at the top of the loop.  Log records are left out but for what building
them can raise, and for the record of the catch-all, which says that an exception was not handled.
-/
import CertWatch.Agent

namespace CertWatch

open CertWatch.Lib

/-- `x[k]` for a string key. -/
def Json.item (x : Json) (k : String) : Except PyExc Json :=
  match x with
  | .obj d => Dict.getItem d k
  | _ => .error .typeError

/-- `float(config["intervals"][key])`. -/
def intervalSeconds (rt : Runtime) (key : String) (config : Dict) : Except PyExc PyFloat := do
  let intervals ← config.getItem "intervals"
  let seconds ← intervals.item key
  rt.toFloat seconds

/-- `_heartbeat_interval`, `_check_interval` and `_sync_interval`: an interval of the config in force. -/
def currentInterval (rt : Runtime) (key : String) : Agent PyFloat := do
  let config ← agentCall .configSnapshot
  .ofExcept (intervalSeconds rt key config)

/-- The end of an iteration: wait for the interval, or until the shutdown event is set. -/
def waitInterval (rt : Runtime) (key : String) : Agent Bool := do
  let interval ← currentInterval rt key
  agentCall (.waitFor interval)

/-- The end of a handler of an authentication error. -/
def signalAuthError : Agent Unit := do
  agentCall (.set .authError)
  agentCall (.set .shutdown)

/-- The catch-all around a loop. -/
def guardLoop (event : String) (loop : Agent Unit) : Agent Unit :=
  loop.tryCatch fun _ => do
    agentCall (.unhandledException event)
    agentCall (.set .shutdown)

/-! ## The dashboard calls -/

/-- The path of `heartbeat`. -/
def DashboardClient.heartbeatPath (c : DashboardClient) : String :=
  c.api_path_prefix ++ "/agents/" ++ c.agent_id ++ "/heartbeat"

/-- The path of `get_config`. -/
def DashboardClient.configPath (c : DashboardClient) : String :=
  c.api_path_prefix ++ "/agents/" ++ c.agent_id ++ "/config"

/-- The arguments of `client.heartbeat`. -/
structure HeartbeatArgs where
  sent_at : String
  agent_version : String
  uptime_seconds : Int
  current_config_version : Int
  stats : Option Dict

/-- The request body: `stats` is left out when there is none. -/
def HeartbeatArgs.body (args : HeartbeatArgs) : Dict :=
  [("sent_at", .str args.sent_at), ("agent_version", .str args.agent_version),
    ("uptime_seconds", .int args.uptime_seconds), ("current_config_version", .int args.current_config_version)] ++
    match args.stats with
    | some stats => [("stats", .obj stats)]
    | none => []

/-- `DashboardClient.heartbeat`. -/
def sendHeartbeat (client : DashboardClient) (args : HeartbeatArgs) : Agent Json :=
  request "POST" client.heartbeatPath (agentCall (.heartbeat args.body))

/-- `DashboardClient.get_config`. -/
def getConfig (client : DashboardClient) : Agent Json :=
  request "GET" client.configPath (agentCall (.getConfig client))

/-! ## Processing a response -/

/-- `expires_at and expires_at < now`. -/
def isExpired (expires_at : Json) (now : String) : Except PyExc Bool :=
  if expires_at.truthy then expires_at.ltStr now else .ok false

/-- The loop of `_enqueue_actions`. -/
def enqueueEach (now_iso : String) : List Json → Agent Unit
  | [] => return ()
  | action :: actions => do
    let expires_at ← .ofExcept (action.get "expires_at")
    let expired ← .ofExcept (isExpired expires_at now_iso)
    if expired then
      enqueueEach now_iso actions
    else do
      agentCall (.put action)
      enqueueEach now_iso actions

/-- `_enqueue_actions`. -/
def enqueueActions (actions : Json) : Agent Unit := do
  let now_iso ← agentCall .utcNowIso
  let items ← .ofExcept actions.iterate
  enqueueEach now_iso items

/-- What `_refresh_config` makes of a fetched document: only a dictionary has `get`. -/
def installConfig (new_config : Json) : Agent Unit := do
  let _ ← agentCall .configSnapshot
  match new_config with
  | .obj config => do
    agentCall (.configReplace config)
    -- the log record counts the manual hosts after the replacement
    let _ ← .ofExcept ((Dict.getD config "manual_hosts" (.arr [])).or (.arr [])).len
    return ()
  | _ => .raise .attributeError

section

variable (rt : Runtime) (agent_version : String) (client : DashboardClient)

/-- `_refresh_config`. -/
def refreshConfig : Agent Unit := do
  let fetched ← (getConfig client).attempt
  match fetched with
  | .ok new_config => installConfig new_config
  | .error (.dashboard e) =>
    if e.kind = .auth then do
      signalAuthError
      .raise shutdownRequested
    else
      return ()
  | .error e => .raise e

/-- The refresh that a response may ask for. -/
def refreshIfRequired (config_refresh_required : Json) : Agent Unit :=
  if config_refresh_required.truthy then refreshConfig client else return ()

/-- `_process_response`. -/
def processResponse (response : Json) : Agent Unit := do
  let config_refresh_required ← .ofExcept (response.get "config_refresh_required")
  refreshIfRequired client config_refresh_required
  let pending_actions ← .ofExcept (response.get "pending_actions")
  let actions := pending_actions.or (.arr [])
  if actions.truthy then enqueueActions actions else return ()

/-! ## The loop -/

/-- `int(x)` of a clock difference. -/
def truncate (seconds : Rat) : Int := Int.tdiv seconds.num seconds.den

/-- `_build_heartbeat_args`. -/
def buildHeartbeatArgs (process_started_at : Rat) : Agent HeartbeatArgs := do
  let config ← agentCall .configSnapshot
  let stats ← agentCall .statsSnapshot
  let now ← agentCall .now
  let sent_at ← agentCall .utcNowIso
  let config_version ← .ofExcept (config.getItem "config_version")
  let current_config_version ← .ofExcept config_version.toInt
  return {
    sent_at, agent_version, current_config_version, stats
    uptime_seconds := max 0 (truncate (now - process_started_at)) }

/-- `_do_heartbeat`. -/
def doHeartbeat (process_started_at : Rat) : Agent Unit := do
  let body_args ← buildHeartbeatArgs agent_version process_started_at
  let response ← (sendHeartbeat client body_args).attempt
  match response with
  | .ok response => processResponse client response
  | .error (.dashboard e) =>
    if e.kind = .auth then do
      signalAuthError
      .raise shutdownRequested
    else
      return ()
  | .error e => .raise e

/-- The `while` loop of `HeartbeatThread.run`. -/
def heartbeatLoop (process_started_at : Rat) : Nat → Agent Unit
  | 0 => .hang
  | fuel + 1 => do
    let stopping ← agentCall (.isSet .shutdown)
    if stopping then
      return ()
    else do
      let tick ← (doHeartbeat agent_version client process_started_at).attempt
      match tick with
      | .ok () => do
        let woke_early ← waitInterval rt "heartbeat_seconds"
        if woke_early then return () else heartbeatLoop process_started_at fuel
      | .error e => if e = shutdownRequested then return () else .raise e

/-- `HeartbeatThread.run`. -/
def heartbeatThread (process_started_at : Rat) (fuel : Nat) : Agent Unit :=
  guardLoop "heartbeat_thread_unhandled_exception" (heartbeatLoop rt agent_version client process_started_at fuel)

end

end CertWatch
