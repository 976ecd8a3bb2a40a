/-
# `CertWatch.ReportSubmission` — persist, submit with retry, replay.

`report_submission.py` over the calls of `CertWatch.PendingReports`.  The retry loop is `while True`, so
it takes fuel; `shutdown_event` says whether the caller passed an event at all.  Log records are left
out, but what building them can raise (`response.get`, `len(...)`) is kept where it stands.
-/
import CertWatch.PendingReports

namespace CertWatch

open CertWatch.Lib

/-! ## Results -/

/-- `ReportSubmissionResult.status`. -/
inductive SubmissionStatus where
  | delivered
  | duplicate
  | rejected
  | shutdown
  deriving DecidableEq, Repr

structure ReportSubmissionResult where
  status : SubmissionStatus
  attempts : Int
  elapsed : Rat
  dashboard_summary : Json := .null
  deriving DecidableEq

structure ReplayResult where
  replayed_count : Nat := 0
  skipped_corrupt : Nat := 0
  skipped_orphan : Nat := 0
  shutdown_during : Bool := false
  deriving DecidableEq, Repr

/-- The report that a caller of `submit_report_with_retry` passes. -/
structure ReportArgs where
  report_id : String
  report_type : String
  started_at : String
  completed_at : String
  action_id : Option String
  checks : List Json

/-- The wire payload that is persisted and sent. -/
def ReportArgs.payload (args : ReportArgs) : Dict :=
  [("report_id", .str args.report_id), ("report_type", .str args.report_type),
    ("started_at", .str args.started_at), ("completed_at", .str args.completed_at),
    ("action_id", .ofOptStr args.action_id), ("checks", .arr args.checks)]

/-! ## One attempt -/

/-- `DashboardClient.submit_report`; `path` is the file the report lives in. -/
def submitReport (client : DashboardClient) (path : String) (body : ReportBody) : Queue Json :=
  request "POST" client.reportsPath (queueCall (.submit path body))

/-- The keyword arguments of the `submit_report` call. -/
def wireBody (wire : Dict) : Except PyExc ReportBody := do
  let report_id ← wire.getItem "report_id"
  let report_type ← wire.getItem "report_type"
  let started_at ← wire.getItem "started_at"
  let completed_at ← wire.getItem "completed_at"
  return {
    report_id, report_type, started_at, completed_at
    action_id := Dict.getD wire "action_id" .null
    checks := Dict.getD wire "checks" (.arr []) }

/-- The `try` block of the retry loop. -/
def submitWire (client : DashboardClient) (path : String) (wire : Dict) : Queue Json := do
  let body ← .ofExcept (wireBody wire)
  submitReport client path body

/-- `BACKOFF_SCHEDULE`. -/
def backoffSchedule : List Rat := [5, 15, 30, 60, 120]

/-- `_backoff_delay`. -/
def backoffDelay (attempts : Int) : Rat := scheduledDelay backoffSchedule attempts

/-! ## The retry loop -/

section

variable (client : DashboardClient) (shutdown_event : Bool)

/-- Wait out a backoff: `true` when shutdown woke it early. -/
def backoffWait (delay : Rat) : Queue Bool :=
  if shutdown_event then
    queueCall (.waitFor delay)
  else do
    queueCall (.sleep delay)
    return false

/-- `shutdown_event is not None and shutdown_event.is_set()`. -/
def shutdownSet : Queue Bool :=
  if shutdown_event then queueCall .isSet else return false

/-- A finished attempt: delete the file, then read the clock for the result. -/
def finishAttempt (path : String) (started_mono : Rat) (status : SubmissionStatus) (attempts : Int)
    (dashboard_summary : Json) : Queue ReportSubmissionResult := do
  deletePendingReport path
  let now ← queueCall .now
  return { status, attempts, elapsed := now - started_mono, dashboard_summary }

/-- What the retry loop makes of an attempt: its `except` clauses, then the success path; `retry` is the
next round of the loop. -/
def handleOutcome (path : String) (wire : Dict) (started_mono : Rat) (attempts : Int)
    (retry : Queue ReportSubmissionResult) (outcome : Except PyExc Json) : Queue ReportSubmissionResult :=
  match outcome with
  | .ok response => do
    -- the log record reads two fields of the response before the file is deleted
    let summary ← .ofExcept (response.get "summary")
    finishAttempt path started_mono .delivered attempts summary
  | .error (.dashboard e) => match e.kind with
    | .conflict => do
      let body := e.body.or (.obj [])
      let _ ← .ofExcept (body.get "original_received_at")
      finishAttempt path started_mono .duplicate attempts (if body.truthy then body else .null)
    | .validation => finishAttempt path started_mono .rejected attempts .null
    | .payloadTooLarge => do
      let _ ← .ofExcept ((Dict.getD wire "checks" (.arr [])).or (.arr [])).len
      finishAttempt path started_mono .rejected attempts .null
    | .server | .network | .rateLimit => do
      let woke_early ← backoffWait shutdown_event (backoffDelay attempts)
      if woke_early then do
        let now ← queueCall .now
        return { status := .shutdown, attempts, elapsed := now - started_mono }
      else
        retry
    -- the authentication error and every other dashboard error leave the file and propagate
    | .auth | .notFound | .base => .raise (.dashboard e)
  | .error e => .raise e

/-- `_retry_loop_for_path`. -/
def retryLoopForPath (path : String) (wire : Dict) (started_mono : Rat) :
    Nat → Queue ReportSubmissionResult
  | 0 => .hang
  | fuel + 1 => do
    let attempts ← incrementAttempts path
    let outcome ← (submitWire client path wire).attempt
    handleOutcome shutdown_event path wire started_mono attempts
      (retryLoopForPath path wire started_mono fuel) outcome

/-- `submit_report_with_retry`. -/
def submitReportWithRetry (fuel : Nat) (args : ReportArgs) : Queue ReportSubmissionResult := do
  let started_mono ← queueCall .now
  let path ← savePendingReport args.report_id args.payload
  retryLoopForPath client shutdown_event path args.payload started_mono fuel

/-! ## Replay -/

/-- `persisted_at and persisted_at < credentials_registered_at`. -/
def isOrphan (persisted : Dict) (credentials_registered_at : String) : Except PyExc Bool :=
  let persisted_at := Dict.getD persisted "_persisted_at" (.str "")
  if persisted_at.truthy then persisted_at.ltStr credentials_registered_at else .ok false

/-- What one file adds to a `ReplayResult`. -/
inductive ReplayOutcome where
  | corrupt
  | orphan
  | replayed
  | shutdown
  deriving DecidableEq, Repr

/-- How the running `ReplayResult` counts it. -/
def ReplayOutcome.count (result : ReplayResult) : ReplayOutcome → ReplayResult
  | .corrupt => { result with skipped_corrupt := result.skipped_corrupt + 1 }
  | .orphan => { result with skipped_orphan := result.skipped_orphan + 1 }
  | .replayed => { result with replayed_count := result.replayed_count + 1 }
  | .shutdown => { result with shutdown_during := true }

/-- The body of the replay loop after its shutdown check. -/
def replayOne (fuel : Nat) (credentials_registered_at path : String) : Queue ReplayOutcome := do
  let loaded ← (loadPendingReport .scan path).attempt
  match loaded with
  | .error (.pendingReportCorrupt _) => do
    let _ ← quarantineCorrupt path
    return .corrupt
  | .error e => .raise e
  | .ok persisted => do
    let orphan ← .ofExcept (isOrphan persisted credentials_registered_at)
    if orphan then
      return .orphan
    else do
      let started_mono ← queueCall .now
      let sub_result ← retryLoopForPath client shutdown_event path (wirePayload persisted) started_mono fuel
      return if sub_result.status = .shutdown then .shutdown else .replayed

/-- The loop over the paths. -/
def replayPaths (fuel : Nat) (credentials_registered_at : String) :
    List String → ReplayResult → Queue ReplayResult
  | [], result => return result
  | path :: paths, result => do
    let interrupted ← shutdownSet shutdown_event
    if interrupted then
      return { result with shutdown_during := true }
    else do
      let outcome ← replayOne client shutdown_event fuel credentials_registered_at path
      let result := outcome.count result
      if outcome = .shutdown then
        return result
      else
        replayPaths fuel credentials_registered_at paths result

/-- `replay_pending_reports`. -/
def replayPendingReports (fuel : Nat) (credentials_registered_at : String) : Queue ReplayResult := do
  let _ ← cleanupStrayTmpFiles
  let paths ← listPendingReportPaths
  replayPaths client shutdown_event fuel credentials_registered_at paths {}

end

/-! ## What the wire payload must hold -/

/-- The body that `client.submit_report` sends for a report as it was passed. -/
def ReportArgs.body (args : ReportArgs) : ReportBody where
  report_id := .str args.report_id
  report_type := .str args.report_type
  started_at := .str args.started_at
  completed_at := .str args.completed_at
  action_id := .ofOptStr args.action_id
  checks := .arr args.checks

/-- What a fresh submission persists is well-formed. -/
theorem wellFormed_persistedRecord (args : ReportArgs) (persisted_at : String) :
    wellFormed (persistedRecord args.payload persisted_at) = true := by
  obtain ⟨report_id, report_type, started_at, completed_at, action_id, checks⟩ := args
  cases action_id <;> rfl

theorem wireBody_payload (args : ReportArgs) : wireBody args.payload = .ok args.body := rfl

/-- The checks of a fresh payload can be counted. -/
theorem payload_checks_len (args : ReportArgs) :
    ∃ n, ((Dict.getD args.payload "checks" (.arr [])).or (.arr [])).len = .ok n := by
  show ∃ n, ((Json.arr args.checks).or (.arr [])).len = .ok n
  cases args.checks with
  | nil => exact ⟨_, rfl⟩
  | cons check checks => exact ⟨_, rfl⟩

theorem getItem_error {d : Dict} {k : String} {e : PyExc} (h : d.getItem k = .error e) :
    e = .keyError k := by
  unfold Dict.getItem at h
  split at h
  · cases h
  · exact (Except.error.inj h).symm

/-- An incomplete wire payload raises a `KeyError` and nothing else. -/
theorem wireBody_error {wire : Dict} {e : PyExc} (h : wireBody wire = .error e) :
    ∃ k, e = .keyError k := by
  have peel : ∀ {α : Type} {k : String} {f : Json → Except PyExc α},
      (wire.getItem k >>= f) = .error e → e = .keyError k ∨ ∃ v, f v = .error e := by
    intro α k f hf
    cases hg : wire.getItem k with
    | error e' =>
      rw [hg] at hf
      obtain rfl := Except.error.inj hf
      exact Or.inl (getItem_error hg)
    | ok v =>
      rw [hg] at hf
      exact Or.inr ⟨v, hf⟩
  rcases peel h with h₁ | ⟨_, h⟩
  · exact ⟨_, h₁⟩
  rcases peel h with h₂ | ⟨_, h⟩
  · exact ⟨_, h₂⟩
  rcases peel h with h₃ | ⟨_, h⟩
  · exact ⟨_, h₃⟩
  rcases peel h with h₄ | ⟨_, h⟩
  · exact ⟨_, h₄⟩
  cases h

end CertWatch
