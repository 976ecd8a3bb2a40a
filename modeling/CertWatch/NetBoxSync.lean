/-
# `CertWatch.NetBoxSync` — one sync: fetch, update the agent's view, submit with retry.

`netbox_sync.py` over the calls of `CertWatch.NetBoxClient`, and the holders it writes.  As in
`CertWatch.ReportSubmission`, `shutdown_event` says whether the caller passed an event, loops take fuel,
and log records are left out but for what building them can raise.
-/
import CertWatch.NetBoxClient

namespace CertWatch

open CertWatch.Lib

/-! ## The shared holders -/

/-- `StatsState`, as its `record_*` methods leave it. -/
structure StatsState where
  hosts_monitored : Option Nat := none
  last_check_completed_at : Option String := none
  last_check_duration_seconds : Option Int := none
  last_netbox_sync_at : Option String := none
  checks_succeeded_last_cycle : Option Nat := none
  checks_failed_last_cycle : Option Nat := none
  deriving DecidableEq, Repr

/-- `StatsState.record_netbox_sync`. -/
def StatsState.recordNetboxSync (s : StatsState) (completed_at : String) : StatsState :=
  { s with last_netbox_sync_at := some completed_at }

/-! ## Results -/

/-- `NetBoxSyncResult.status`. -/
inductive SyncStatus where
  | success
  | netboxError
  | submissionError
  | shutdown
  deriving DecidableEq, Repr

structure NetBoxSyncResult where
  status : SyncStatus
  hosts_count : Nat := 0
  submission_summary : Json := .null

/-! ## Submission -/

/-- `_host_to_payload`. -/
def hostToPayload (host : DiscoveredHost) : Dict :=
  [("netbox_device_id", .int host.netbox_device_id), ("hostname", .str host.hostname), ("port", .int host.port)] ++
    (match host.display_name with
      | some n => [("display_name", .str n)]
      | none => []) ++
    (match host.ip_address with
      | some a => [("ip_address", .str a)]
      | none => []) ++
    [("tags", .arr (host.tags.map .str))]

/-- `BACKOFF_SCHEDULE` of `netbox_sync.py`. -/
def syncBackoffSchedule : List Rat := [5, 15, 30, 60, 120]

/-- `_backoff_delay` of `netbox_sync.py`. -/
def syncBackoffDelay (attempts : Int) : Rat := scheduledDelay syncBackoffSchedule attempts

section

variable (dashboard_client : DashboardClient) (shutdown_event : Bool)

/-- `DashboardClient.submit_discovered_hosts`. -/
def submitDiscoveredHosts (body : DiscoveredHostsBody) : Sync Json :=
  request "POST" dashboard_client.discoveredHostsPath (syncCall (.submit body))

/-- `shutdown_event is not None and shutdown_event.is_set()`. -/
def syncShutdownSet : Sync Bool :=
  if shutdown_event then syncCall .isSet else return false

/-- Wait out a backoff: `true` when shutdown woke it early. -/
def syncBackoffWait (delay : Rat) : Sync Bool :=
  if shutdown_event then
    syncCall (.waitFor delay)
  else do
    syncCall (.sleep delay)
    return false

/-- What the loop makes of an attempt; `retry` is its next round. -/
def handleSyncOutcome (body : DiscoveredHostsBody) (attempts : Int) (retry : Sync NetBoxSyncResult)
    (outcome : Except PyExc Json) : Sync NetBoxSyncResult :=
  match outcome with
  | .ok response => do
    let _ ← .ofExcept (response.get "summary")
    syncCall (.recordNetboxSync body.synced_at)
    return { status := .success, hosts_count := body.hosts.length, submission_summary := response }
  | .error (.dashboard e) => match e.kind with
    | .auth => .raise (.dashboard e)
    | .server | .network | .rateLimit => do
      let woke_early ← syncBackoffWait shutdown_event (syncBackoffDelay attempts)
      if woke_early then
        return { status := .shutdown, hosts_count := body.hosts.length }
      else
        retry
    | .validation | .payloadTooLarge | .notFound | .conflict | .base =>
      return { status := .submissionError, hosts_count := body.hosts.length }
  | .error e => .raise e

/-- `_submit_with_retry`, after so many attempts. -/
def submitWithRetry (body : DiscoveredHostsBody) : Nat → Int → Sync NetBoxSyncResult
  | 0, _ => .hang
  | fuel + 1, attempts => do
    let interrupted ← syncShutdownSet shutdown_event
    if interrupted then
      return { status := .shutdown, hosts_count := body.hosts.length }
    else do
      let outcome ← (submitDiscoveredHosts dashboard_client body).attempt
      handleSyncOutcome shutdown_event body (attempts + 1) (submitWithRetry body fuel (attempts + 1)) outcome

/-- `run_netbox_sync`; its callers pass the agent's one `NetBoxHostsState`. -/
def runNetboxSync (netbox_client : NetBoxClient) (action_id : Option String) (fuel : Nat) :
    Sync NetBoxSyncResult := do
  let synced_at ← syncCall .utcNowIso
  let fetched ← (netbox_client.fetchHosts fuel).attempt
  match fetched with
  | .error (.netBoxSync _) => return { status := .netboxError, hosts_count := 0 }
  | .error e => .raise e
  | .ok hosts => do
    syncCall (.replaceHosts hosts)
    submitWithRetry dashboard_client shutdown_event
      { action_id, synced_at, netbox_url := netbox_client.url, netbox_filter := netbox_client.filter_expr
        hosts := hosts.map hostToPayload } fuel 0

end

end CertWatch
