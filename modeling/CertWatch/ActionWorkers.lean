/-
# `CertWatch.ActionWorkers` — the worker loop, its dispatcher, and the two handlers.

`action_workers.py` over the calls of `CertWatch.Agent`.  An action is whatever document the dashboard put into
`pending_actions`; the dispatcher reads it with `get`, so its fields are arbitrary documents too.
-/
import CertWatch.Comparison
import CertWatch.HeartbeatThread

namespace CertWatch

open CertWatch.Lib

/-- What a handler is given. -/
structure ActionContext where
  action_id : Json
  action_type : Json
  payload : Json
  queued_at : Json
  expires_at : Json

/-! ## The report of an action -/

/-- The wire payload of an on-demand report; the action id is echoed as it came. -/
def onDemandReport (report_id started_at completed_at : String) (action_id : Json) (check_payload : Dict) : Dict :=
  [("report_id", .str report_id), ("report_type", .str "on_demand"), ("started_at", .str started_at),
    ("completed_at", .str completed_at), ("action_id", action_id), ("checks", .arr [.obj check_payload])]

/-- `submit_report_with_retry`, for a payload with any action id. -/
def submitPayloadWithRetry (client : DashboardClient) (shutdown_event : Bool) (fuel : Nat) (report_id : String)
    (payload : Dict) : Queue ReportSubmissionResult := do
  let started_mono ← queueCall .now
  let path ← savePendingReport report_id payload
  retryLoopForPath client shutdown_event path payload started_mono fuel

theorem submitReportWithRetry_eq (client : DashboardClient) (shutdown_event : Bool) (fuel : Nat)
    (args : ReportArgs) : submitReportWithRetry client shutdown_event fuel args =
      submitPayloadWithRetry client shutdown_event fuel args.report_id args.payload := rfl

/-! ## Resolving a host reference -/

/-- A resolved host reference. -/
structure CheckTarget where
  source : HostSource
  connect_target : Json
  port : Int
  deriving DecidableEq

/-- The loop of `_resolve_manual_host`. -/
def findManualHost (host_id : Json) : List Json → Except PyExc (Option CheckTarget)
  | [] => return none
  | host :: hosts => do
    let id ← host.get "host_id"
    if id.pyEq host_id then do
      let hostname ← host.getOr "hostname" (.str "")
      let port ← (← host.getOr "port" (.int 443)).toInt
      return some { source := .manual, connect_target := hostname, port }
    else
      findManualHost host_id hosts

/-- `_resolve_manual_host`. -/
def resolveManualHost (host_id : Json) (config : Dict) : Except PyExc (Option CheckTarget) :=
  if host_id.truthy then do
    let hosts ← manualHosts config
    findManualHost host_id hosts
  else
    .ok none

/-- The first host with this device id: connect by address, or by name when NetBox has none. -/
def resolveNetboxHost (netbox_id : Json) (netbox_hosts : List DiscoveredHost) : Option CheckTarget :=
  (netbox_hosts.find? fun h => (Json.int h.netbox_device_id).pyEq netbox_id).map fun matching =>
    { source := .netbox
      connect_target := .str (match matching.ip_address with
        | some ip => if ip = "" then matching.hostname else ip
        | none => matching.hostname)
      port := matching.port }

/-- The host that a `host_ref` means, if there is one. -/
def resolveHostRef (host_ref ref_type : Json) (config : Dict) : Agent (Option CheckTarget) :=
  if ref_type = .str "manual" then do
    let host_id ← .ofExcept (host_ref.get "host_id")
    let resolved ← .ofExcept (resolveManualHost host_id config)
    match resolved with
    | none => do
      -- the log record counts the manual hosts
      let _ ← .ofExcept ((Dict.getD config "manual_hosts" (.arr [])).or (.arr [])).len
      return none
    | some target => return some target
  else if ref_type = .str "netbox" then do
    let netbox_id ← .ofExcept (host_ref.get "netbox_device_id")
    let netbox_hosts ← agentCall .hostsSnapshot
    return resolveNetboxHost netbox_id netbox_hosts
  else
    return none

/-! ## The handlers -/

section

variable (rt : Runtime) (client : DashboardClient)

/-- The timeouts of an on-demand check. -/
def onDemandTimeouts (config : Dict) : Except PyExc (PyFloat × PyFloat) := do
  let timeouts := (Dict.getD config "timeouts" (.obj [])).or (.obj [])
  let connect_timeout ← rt.toFloat (← timeouts.getOr "tcp_connect_seconds" (.int 5))
  let handshake_timeout ← rt.toFloat (← timeouts.getOr "tls_handshake_seconds" (.int 5))
  return (connect_timeout, handshake_timeout)

/-- The check of a resolved host, and its payload. -/
def checkTarget (config : Dict) (host_ref : Json) (target : CheckTarget) (connect_timeout handshake_timeout : PyFloat) :
    Agent Dict :=
  match target.source with
  | .netbox => do
    let expiring_soon_threshold_days ← .ofExcept (expiringSoonThreshold config)
    let result ← agentCall (.certCheckWithDiscovery target.connect_target target.port connect_timeout
      handshake_timeout expiring_soon_threshold_days)
    return buildCheckPayloadFromDiscovery rt host_ref result
  | .manual => do
    let result ← agentCall (.certCheck target.connect_target target.port connect_timeout handshake_timeout)
    return buildCheckPayload host_ref result

/-- The `check_host` handler. -/
def checkHost (fuel : Nat) (ctx : ActionContext) : Agent Unit := do
  let given ← .ofExcept (ctx.payload.get "host_ref")
  let host_ref := given.or (.obj [])
  let ref_type ← .ofExcept (host_ref.get "type")
  let config ← agentCall .configSnapshot
  let resolved ← resolveHostRef host_ref ref_type config
  match resolved with
  | none => return ()
  | some target => do
    let started_at ← agentCall .utcNowIso
    let (connect_timeout, handshake_timeout) ← .ofExcept (onDemandTimeouts rt config)
    let check_payload ← checkTarget rt config host_ref target connect_timeout handshake_timeout
    let completed_at ← agentCall .utcNowIso
    let report_id ← agentCall .uuid4
    let _ ← (submitPayloadWithRetry client true fuel report_id
      (onDemandReport report_id started_at completed_at ctx.action_id check_payload)).embed queueCalls
    return ()

/-- An action id as the argument of a sync, which only passes it on. -/
def actionIdText : Json → Option String
  | .null => none
  | action_id => some (rt.format action_id)

/-- The `sync_netbox` handler. -/
def syncNetbox (netbox_client : Option NetBoxClient) (fuel : Nat) (ctx : ActionContext) : Agent Unit :=
  match netbox_client with
  | none => return ()
  | some netbox_client => do
    let _ ← (runNetboxSync client true netbox_client (actionIdText rt ctx.action_id) fuel).embed syncCalls
    return ()

/-! ## The workers -/

/-- `self._handlers.get(action_type)`; a list or a dictionary cannot be looked up. -/
def handlerFor (netbox_client : Option NetBoxClient) (fuel : Nat) :
    Json → Except PyExc (Option (ActionContext → Agent Unit))
  | .arr _ => .error .typeError
  | .obj _ => .error .typeError
  | .str "check_host" => .ok (some (checkHost rt client fuel))
  | .str "sync_netbox" => .ok (some (syncNetbox rt client netbox_client fuel))
  | _ => .ok none

/-- `_dispatch`. -/
def dispatch (netbox_client : Option NetBoxClient) (fuel : Nat) (action : Json) : Agent Unit := do
  let action_id ← .ofExcept (action.getOr "action_id" (.str "<missing>"))
  let action_type ← .ofExcept (action.getOr "action_type" (.str "<missing>"))
  let expires_at ← .ofExcept (action.getOr "expires_at" (.str ""))
  let now ← agentCall .utcNowIso
  let expired ← .ofExcept (isExpired expires_at now)
  if expired then
    return ()
  else do
    let stopping ← agentCall (.isSet .shutdown)
    if stopping then
      return ()
    else do
      let handler ← .ofExcept (handlerFor rt client netbox_client fuel action_type)
      match handler with
      | none => return ()
      | some handler => do
        let payload ← .ofExcept (action.getOr "payload" (.obj []))
        let queued_at ← .ofExcept (action.getOr "queued_at" (.str ""))
        handler { action_id, action_type, payload := payload.or (.obj []), queued_at, expires_at }

/-- What the worker makes of a dispatch: its `except` clauses, whose log records read the action. -/
def handleDispatched (action : Json) (outcome : Except PyExc Unit) : Agent Unit :=
  match outcome with
  | .ok () => return ()
  | .error _ => do
    let _ ← .ofExcept (action.get "action_id")
    if isAuthFailure outcome then signalAuthError else return ()

/-- The body of the worker loop for an action that was taken; `task_done` is its `finally`. -/
def processAction (netbox_client : Option NetBoxClient) (fuel : Nat) (action : Json) : Agent Unit := do
  let outcome ← (dispatch rt client netbox_client fuel action).attempt
  let handled ← (handleDispatched action outcome).attempt
  agentCall .taskDone
  .ofExcept handled

/-- `_worker_loop`. -/
def workerLoop (netbox_client : Option NetBoxClient) : Nat → Agent Unit
  | 0 => .hang
  | fuel + 1 => do
    let stopping ← agentCall (.isSet .shutdown)
    if stopping then
      return ()
    else do
      match ← (agentCall .get).attempt with
      | .ok action => do
        processAction rt client netbox_client fuel action
        workerLoop netbox_client fuel
      | .error e => if e = queueEmpty then workerLoop netbox_client fuel else .raise e

end

end CertWatch
