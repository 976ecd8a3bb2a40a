/-
# `CertWatch.CheckThread` — one cycle of checks, from the host lists to the submitted report.

`_run_one_cycle` of `check_thread.py`.  Its tasks share nothing but the shutdown event, so what the thread pool
does to a cycle is the order in which its futures complete; each task runs among its own surroundings.
-/
import CertWatch.CheckPayload
import CertWatch.NetBoxClient
import CertWatch.ReportSubmission
import CertWatch.Lib.Outcome

namespace CertWatch

open CertWatch.Lib

/-! ## Hosts -/

/-- Where a host comes from. -/
inductive HostSource where
  | manual
  | netbox
  deriving DecidableEq, Repr

/-- An entry of `to_check`. -/
structure HostEntry where
  identity_key : String
  host_ref : Json
  source : HostSource
  connect_target : Json
  port : Int
  deriving DecidableEq, Repr

/-- `f"{x}"`. -/
def Runtime.format (rt : Runtime) : Json → String
  | .str s => s
  | x => rt.repr x

/-- The entry of a manual host. -/
def manualEntry (rt : Runtime) (h : Json) : Except PyExc HostEntry := do
  let host_id ← h.get "host_id"
  let hostname ← h.getOr "hostname" (.str "")
  let port ← (← h.getOr "port" (.int 443)).toInt
  return {
    identity_key := "manual:" ++ rt.format host_id
    host_ref := .obj [("type", .str "manual"), ("host_id", host_id)]
    source := .manual
    connect_target := hostname
    port }

/-- The entry of a NetBox host: connect by address, or by name when NetBox has none. -/
def netboxEntry (nh : DiscoveredHost) : HostEntry where
  identity_key := "netbox:" ++ toString nh.netbox_device_id
  host_ref := .obj [("type", .str "netbox"), ("netbox_device_id", .int nh.netbox_device_id)]
  source := .netbox
  connect_target := .str (match nh.ip_address with
    | some ip => if ip = "" then nh.hostname else ip
    | none => nh.hostname)
  port := nh.port

/-- `list(config.get("manual_hosts", []) or [])`. -/
def manualHosts (config : Dict) : Except PyExc (List Json) :=
  ((Dict.getD config "manual_hosts" (.arr [])).or (.arr [])).iterate

/-- `to_check`: the manual hosts in config order, then the NetBox hosts. -/
def toCheck (rt : Runtime) (config : Dict) (netbox_hosts : List DiscoveredHost) : Except PyExc (List HostEntry) := do
  let manual_hosts ← manualHosts config
  let manual ← manual_hosts.mapM (manualEntry rt)
  return manual ++ netbox_hosts.map netboxEntry

/-! ## Settings -/

/-- `max` of a list of integers. -/
def maxInt : List Int → Except PyExc Int
  | [] => .error (.valueError "max() iterable argument is empty")
  | n :: ns => .ok (ns.foldl max n)

/-- `max(int(t) for t in alert_thresholds)`. -/
def expiringSoonThreshold (config : Dict) : Except PyExc Int := do
  let alert_thresholds ← ((Dict.getD config "alert_thresholds_days" (.arr [.int 30])).or (.arr [.int 30])).iterate
  let ts ← alert_thresholds.mapM Json.toInt
  maxInt ts

/-- `float(x)`; an integer is kept as it is unless it is out of range. -/
def Runtime.toFloat (rt : Runtime) : Json → Except PyExc PyFloat
  | .bool b => .ok (.finite (if b then 1 else 0))
  | .int n => if n.natAbs < 2 ^ 1024 - 2 ^ 970 then .ok (.finite n) else .error .overflowError
  | .float x => .ok x
  | .str s => rt.floatOfText s
  | _ => .error .typeError

/-- What a cycle passes to its checks and to the pool. -/
structure CheckSettings where
  tcp_connect_seconds : PyFloat
  tls_handshake_seconds : PyFloat
  expiring_soon_threshold_days : Int
  max_concurrency : Int

/-- The arguments of `_run_parallel_checks` that come from the config. -/
def checkSettings (rt : Runtime) (config : Dict) (expiring_soon_threshold : Int) : Except PyExc CheckSettings := do
  let timeouts := Dict.getD config "timeouts" (.obj [])
  let tcp_connect_seconds ← rt.toFloat (← timeouts.getOr "tcp_connect_seconds" (.int 5))
  let tls_handshake_seconds ← rt.toFloat (← timeouts.getOr "tls_handshake_seconds" (.int 5))
  let concurrency := Dict.getD config "concurrency" (.obj [])
  let max_concurrency ← (← concurrency.getOr "max_parallel_checks" (.int 20)).toInt
  return {
    tcp_connect_seconds, tls_handshake_seconds, max_concurrency
    expiring_soon_threshold_days := expiring_soon_threshold }

theorem Runtime.toFloat_small (rt : Runtime) {n : Int} (h : n.natAbs < 2 ^ 64) :
    rt.toFloat (.int n) = .ok (.finite n) := by
  have hlimit : 2 ^ 64 < 2 ^ 1024 - 2 ^ 970 := by decide +kernel
  simp only [Runtime.toFloat]
  rw [if_pos (Nat.lt_trans h hlimit)]

/-- A config that says nothing of timeouts and concurrency. -/
theorem checkSettings_default (rt : Runtime) {config : Dict} (threshold : Int)
    (htimeouts : Dict.getD config "timeouts" (.obj []) = .obj [])
    (hconcurrency : Dict.getD config "concurrency" (.obj []) = .obj []) :
    checkSettings rt config threshold = .ok {
      tcp_connect_seconds := .finite (5 : Int), tls_handshake_seconds := .finite (5 : Int)
      expiring_soon_threshold_days := threshold, max_concurrency := 20 } := by
  have hfive : rt.toFloat (.int 5) = .ok (.finite (5 : Int)) := rt.toFloat_small (by decide)
  have hgetOr : ∀ k v, (Json.obj []).getOr k v = .ok v := fun _ _ => rfl
  simp only [checkSettings, htimeouts, hconcurrency, hgetOr]
  simp only [bind, Except.bind, hfive]
  rfl

/-! ## The checks -/

/-- `Union[CertResult, CertCheckResult]`. -/
inductive CheckResult where
  | manual (r : CertResult)
  | netbox (r : CertCheckResult)
  deriving DecidableEq, Repr

/-- `results`: lookups find the entry that was made last. -/
abbrev Results := List (String × CheckResult)

section

variable (rt : Runtime) (settings : CheckSettings)

/-- The check function of the host's source, on the host. -/
def runCheck (entry : HostEntry) : Check CheckResult :=
  match entry.source with
  | .netbox => CheckResult.netbox <$>
    certCheckWithDiscovery rt entry.connect_target entry.port settings.tcp_connect_seconds
      settings.tls_handshake_seconds settings.expiring_soon_threshold_days
  | .manual => CheckResult.manual <$>
    certCheck rt entry.connect_target entry.port settings.tcp_connect_seconds settings.tls_handshake_seconds

/-- `task`: a host is skipped once shutdown is set, and dropped when its check raises. -/
def task (entry : HostEntry) : Check (Option (String × CheckResult)) := do
  let signaled ← checkCall .isSet
  if signaled then
    return none
  else do
    let outcome ← (runCheck rt settings entry).attempt
    return match outcome with
      | .ok result => some (entry.identity_key, result)
      | .error _ => none

/-- What a task's future yields. -/
def taskOutcome (entry : HostEntry) (script : CheckScript) : Option (String × CheckResult) :=
  match (task rt settings entry).outcome script.answer with
  | some (.ok outcome) => outcome
  | _ => none

/-- `_run_parallel_checks`, its futures completing in this order. -/
def runParallelChecks (hosts : List HostEntry) (scripts : Nat → CheckScript) (order : List Nat) :
    Except PyExc Results :=
  if settings.max_concurrency ≤ 0 then
    .error (.valueError "max_workers must be greater than 0")
  else
    .ok (order.filterMap fun k => do
      let entry ← hosts[k]?
      taskOutcome rt settings entry (scripts k)).reverse

/-- `_build_payload_for_entry`; neither kind of result has the attributes of the other. -/
def buildPayloadForEntry (entry : HostEntry) (result : CheckResult) : Except PyExc Dict :=
  match entry.source, result with
  | .netbox, .netbox r => .ok (buildCheckPayloadFromDiscovery rt entry.host_ref r)
  | .manual, .manual r => .ok (buildCheckPayload entry.host_ref r)
  | _, _ => .error .attributeError

/-- `checks`: the payloads of the hosts that have a result, in the order of the hosts. -/
def buildChecks (results : Results) : List HostEntry → Except PyExc (List Dict)
  | [] => return []
  | entry :: entries => match results.lookup entry.identity_key with
    | none => buildChecks results entries
    | some result => do
      let check ← buildPayloadForEntry rt entry result
      let checks ← buildChecks results entries
      return check :: checks

end

/-! ## The cycle -/

/-- What a cycle asks of its surroundings. -/
inductive CycleOp where
  | queue (o : QueueOp)
  /-- `_run_parallel_checks`. -/
  | runChecks (settings : CheckSettings) (hosts : List HostEntry)
  | uuid4

/-- What each call returns. -/
abbrev CycleOp.Ret : CycleOp → Type
  | .queue o => o.Ret
  | .runChecks _ _ => Results
  | .uuid4 => String

abbrev cycleSig : Sig := ⟨CycleOp, CycleOp.Ret⟩

/-- Programs over the calls of a cycle. -/
abbrev Cycle (α : Type) := Prog cycleSig PyExc α

abbrev cycleCall (o : CycleOp) : Cycle o.Ret := Prog.perform (S := cycleSig) o

/-- A program over the queue as a part of a cycle. -/
def onQueue {α : Type} : Queue α → Cycle α
  | .ret a => .ret a
  | .raise e => .raise e
  | .hang => .hang
  | .call o k => .call (.queue o) fun r => onQueue (k r)

structure CycleResult where
  started_at : String
  completed_at : String
  checks : List Dict
  duration_seconds : Rat
  submission_status : SubmissionStatus

/-- The part of a cycle that checks the hosts. -/
def checkHosts (rt : Runtime) (config : Dict) (netbox_hosts : List DiscoveredHost) : Cycle (List Dict) := do
  let to_check ← .ofExcept (toCheck rt config netbox_hosts)
  let expiring_soon_threshold ← .ofExcept (expiringSoonThreshold config)
  if to_check.isEmpty then
    return []
  else do
    let settings ← .ofExcept (checkSettings rt config expiring_soon_threshold)
    let results_by_key ← cycleCall (.runChecks settings to_check)
    .ofExcept (buildChecks rt results_by_key to_check)

/-- `_run_one_cycle`. -/
def runOneCycle (rt : Runtime) (client : DashboardClient) (config : Dict) (report_type : String)
    (netbox_hosts : List DiscoveredHost) (fuel : Nat) : Cycle CycleResult := do
  let cycle_start ← cycleCall (.queue .now)
  let started_at ← cycleCall (.queue .utcNowIso)
  let checks ← checkHosts rt config netbox_hosts
  let completed_at ← cycleCall (.queue .utcNowIso)
  let cycle_end ← cycleCall (.queue .now)
  let report_id ← cycleCall .uuid4
  let submission_result ← onQueue (submitReportWithRetry client true fuel
    { report_id, report_type, started_at, completed_at, action_id := none, checks := checks.map .obj })
  return {
    started_at, completed_at, checks
    duration_seconds := cycle_end - cycle_start
    submission_status := submission_result.status }

end CertWatch
