/-
# `CertWatch.ScheduledThreads` — the check thread with its first-sync gate, and the NetBox thread that opens it.

`CertCheckThread.run` of `check_thread.py` and `NetBoxSyncThread.run` of `netbox_sync.py`, around the cycle of
`CertWatch.CheckThread` and the sync of `CertWatch.NetBoxSync`.
-/
import CertWatch.HeartbeatThread

namespace CertWatch

open CertWatch.Lib

section

variable (rt : Runtime) (client : DashboardClient)

/-! ## The check thread -/

/-- `_wait_for_first_netbox_sync`; the second look at the event is for the log record. -/
def waitForFirstNetboxSync : Agent Unit := do
  let fired ← agentCall (.isSet .firstSync)
  if fired then
    return ()
  else do
    let _ ← agentCall (.wait .firstSync (some 30))
    let _ ← agentCall (.isSet .firstSync)
    return ()

/-- `sum(1 for c in checks if ...)`, with a condition on `c["status"]`. -/
def countStatus (counted : Json → Bool) : List Dict → Except PyExc Nat
  | [] => return 0
  | c :: checks => do
    let status ← c.getItem "status"
    let n ← countStatus counted checks
    return if counted status then n + 1 else n

/-- `c["status"] == "success"`. -/
def countSucceeded : List Dict → Except PyExc Nat := countStatus fun status => decide (status = .str "success")

/-- `c["status"] != "success"`. -/
def countFailed : List Dict → Except PyExc Nat := countStatus fun status => !decide (status = .str "success")

/-- The `try` block of the loop: the cycle and the statistics about it. -/
def cycleAndStats (report_type : String) (fuel : Nat) : Agent SubmissionStatus := do
  let netbox_hosts ← agentCall .hostsSnapshot
  let config ← agentCall .configSnapshot
  let cycle_result ← (runOneCycle rt client config report_type netbox_hosts fuel).embed cycleCalls
  let succeeded ← .ofExcept (countSucceeded cycle_result.checks)
  let failed ← .ofExcept (countFailed cycle_result.checks)
  agentCall (.recordCheckCycle {
    hosts_monitored := cycle_result.checks.length
    completed_at := cycle_result.completed_at
    duration_seconds := truncate cycle_result.duration_seconds
    succeeded
    failed })
  return cycle_result.submission_status

/-- `report_type` of the next cycle. -/
def cycleReportType (is_first_cycle : Bool) : String := if is_first_cycle then "startup" else "scheduled"

/-- `is_first_cycle` after a cycle: a report that was handed over, or will not be, ends the startup. -/
def stillFirstCycle (is_first_cycle : Bool) : Except PyExc SubmissionStatus → Bool
  | .ok .shutdown => is_first_cycle
  | .ok _ => false
  | .error _ => is_first_cycle

/-- The `while` loop of `CertCheckThread.run`. -/
def checkLoop : Nat → Bool → Agent Unit
  | 0, _ => .hang
  | fuel + 1, is_first_cycle => do
    let stopping ← agentCall (.isSet .shutdown)
    if stopping then
      return ()
    else do
      let outcome ← (cycleAndStats rt client (cycleReportType is_first_cycle) fuel).attempt
      if isAuthFailure outcome then
        signalAuthError
      else do
        let woke_early ← waitInterval rt "check_seconds"
        if woke_early then return () else checkLoop fuel (stillFirstCycle is_first_cycle outcome)

/-- `CertCheckThread.run`. -/
def certCheckThread (fuel : Nat) : Agent Unit := do
  waitForFirstNetboxSync
  guardLoop "check_thread_unhandled_exception" (checkLoop rt client fuel true)

/-! ## The NetBox thread -/

/-- Open the gate of the check thread, unless this was done already. -/
def openGateUnless (first_sync_completed : Bool) : Agent Unit :=
  if first_sync_completed then return () else agentCall (.set .firstSync)

/-- The `while` loop of `NetBoxSyncThread.run`: how it is left, and `first_sync_completed` at that point. -/
def syncLoop (netbox_client : NetBoxClient) : Nat → Bool → Agent (Except PyExc Unit × Bool)
  | 0, _ => .hang
  | fuel + 1, first_sync_completed => do
    let stopping ← agentCall (.isSet .shutdown)
    if stopping then
      return (.ok (), first_sync_completed)
    else do
      let outcome ← ((runNetboxSync client true netbox_client none fuel).embed syncCalls).attempt
      if isAuthFailure outcome then do
        signalAuthError
        return (.ok (), first_sync_completed)
      else do
        openGateUnless first_sync_completed
        match ← (waitInterval rt "netbox_sync_seconds").attempt with
        | .error e => return (.error e, true)
        | .ok true => return (.ok (), true)
        | .ok false => syncLoop netbox_client fuel true

/-- `NetBoxSyncThread.run`; the last line is its `finally`. -/
def netboxSyncThread (netbox_client : NetBoxClient) (fuel : Nat) : Agent Unit := do
  let (left, first_sync_completed) ← syncLoop rt client netbox_client fuel false
  guardLoop "netbox_sync_thread_unhandled_exception" (.ofExcept left)
  openGateUnless first_sync_completed

end

end CertWatch
