/-
# `CertWatch.StatusEffects` — what an answer outside 2xx does to the queue.

The queue is meant to go by the status alone: the body is read for the log only.  It does so unless a log
record itself fails.  That of a conflict reads a field of the body, and a body that is a non-empty array or
string, or a number, has none; the one of a 413 counts the checks of the report.
-/
import CertWatch.RetryRounds

namespace CertWatch

open CertWatch.Lib

/-! ## Effects -/

/-- What one submission attempt does to the queue. -/
inductive AttemptEffect where
  /-- The file is deleted: the dashboard has the report already. -/
  | duplicate
  /-- The file is deleted: the dashboard will not have it. -/
  | rejected
  /-- The file is kept, and the authentication error propagates. -/
  | auth
  /-- The file is kept, and the loop goes to its backoff. -/
  | backoff
  /-- The file is kept, and another dashboard error propagates. -/
  | error
  deriving DecidableEq, Repr

/-- The effect by status, outside 2xx. -/
def effectOf (status : Nat) : AttemptEffect :=
  if status = 409 then .duplicate
  else if status = 400 ∨ status = 413 then .rejected
  else if status = 401 then .auth
  else if status = 429 ∨ (500 ≤ status ∧ status < 600) then .backoff
  else .error

section HasEffect

variable (shutdown_event : Bool) (p : String) (d : Dict) (n : Int) (answered : Logged queueSig World)
  (run : Option (Except PyExc ReportSubmissionResult) × Logged queueSig World)

/-- The run returns this result, and the file is gone. -/
def Finished (result : SubmissionStatus) : Prop :=
  ∃ r, run.1 = some (.ok r) ∧ r.status = result ∧ run.2.world.lookup p = none

/-- The run raises a dashboard error, and the file keeps its record. -/
def RaisedAs (ofKind : DashboardErrorKind → Prop) : Prop :=
  ∃ e : DashboardError, run.1 = some (.error (.dashboard e)) ∧ ofKind e.kind ∧
    HoldsRecord p (d.set "_attempts" (.int n)) run.2.world

/-- The n-th attempt, answered in the state `answered`, goes on in this way. -/
def HasEffect : AttemptEffect → Prop
  | .duplicate => Finished p run .duplicate
  | .rejected => Finished p run .rejected
  | .auth => RaisedAs p d n run (· = .auth)
  | .error => RaisedAs p d n run fun kind => kind ≠ .auth ∧ kind.isRetriable = false
  -- the next call is the wait, with the record in place
  | .backoff => HoldsRecord p (d.set "_attempts" (.int n)) answered.world ∧ ∃ later,
      run.2.calls = answered.calls ++ (waitCall shutdown_event (backoffDelay n), answered.world) :: later

end HasEffect

/-- The log records of a conflict and of a 413 can be built. -/
def Loggable (wire : Dict) (resp : HttpResponse) : Prop :=
  (resp.status = 409 → ∀ v, resp.body = .json v → v.truthy = true → v.isObj = true) ∧
  (resp.status = 413 → ∃ n, ((Dict.getD wire "checks" (.arr [])).or (.arr [])).len = .ok n)

/-! ## The status decides -/

theorem effectOf_of_retriable {resp : HttpResponse} (h : retriable (some resp) = true) :
    effectOf resp.status = .backoff := by
  have hstatus : resp.status = 429 ∨ (500 ≤ resp.status ∧ resp.status < 600) := by simpa [retriable] using h
  have hother : resp.status ≠ 409 ∧ resp.status ≠ 400 ∧ resp.status ≠ 413 ∧ resp.status ≠ 401 := by omega
  simp [effectOf, hstatus, hother]

/-- The statuses with a result are those whose effect deletes the file. -/
theorem effectOf_of_settled {status : Nat} {result : SubmissionStatus} (hok : ¬ (200 ≤ status ∧ status < 300))
    (h : settledStatus status = some result) :
    (result = .duplicate ∧ effectOf status = .duplicate) ∨ (result = .rejected ∧ effectOf status = .rejected) := by
  unfold settledStatus at h
  split_ifs at h with h409 hrejected
  · exact Or.inl ⟨(Option.some.inj h).symm, if_pos h409⟩
  · exact Or.inr ⟨(Option.some.inj h).symm, (if_neg h409).trans (if_pos hrejected)⟩

/-- The other statuses that are not waited out raise the error of their class. -/
theorem effectOf_of_unsettled {resp : HttpResponse} (hnone : settledStatus resp.status = none)
    (hretriable : retriable (some resp) = false) :
    (effectOf resp.status = .auth ∧ errorKindOfStatus resp.status = .auth) ∨
      (effectOf resp.status = .error ∧ errorKindOfStatus resp.status ≠ .auth ∧
        (errorKindOfStatus resp.status).isRetriable = false) := by
  have hwait : resp.status ≠ 429 ∧ ¬ (500 ≤ resp.status ∧ resp.status < 600) := by
    simpa [retriable] using hretriable
  have hresult : resp.status ≠ 409 ∧ resp.status ≠ 400 ∧ resp.status ≠ 413 := by
    unfold settledStatus at hnone
    split_ifs at hnone
    omega
  by_cases h401 : resp.status = 401
  · rw [h401]
    exact Or.inl ⟨rfl, rfl⟩
  · right
    have hkind : (errorKindOfStatus resp.status).isRetriable = false := by
      rw [Bool.eq_false_iff, Ne, errorKindOfStatus_isRetriable]
      omega
    refine ⟨?_, fun hauth => h401 ((errorKindOfStatus_eq_auth_iff _).mp hauth), hkind⟩
    simp [effectOf, hresult, h401, hwait.1]
    omega

/-- Outside 2xx a settling answer is digested when its log record can be built. -/
theorem digested_iff_loggable {wire : Dict} {resp : HttpResponse} (hok : ¬ (200 ≤ resp.status ∧ resp.status < 300))
    (hsettled : settledStatus resp.status ≠ none) : Digested wire (some resp) ↔ Loggable wire resp := by
  have hresult : resp.status = 409 ∨ resp.status = 400 ∨ resp.status = 413 := by
    unfold settledStatus at hsettled
    split_ifs at hsettled with h409 hrejected
    · exact Or.inl h409
    · exact Or.inr hrejected
    · exact absurd rfl hsettled
  rcases hresult with h | h | h <;> simp [Digested, Loggable, h]

theorem loggable_of_unsettled {wire : Dict} {resp : HttpResponse} (hnone : settledStatus resp.status = none) :
    Loggable wire resp := by
  refine ⟨fun h => ?_, fun h => ?_⟩ <;>
    · rw [h] at hnone
      exact absurd hnone (by decide)

/-! ## One attempt -/

section

variable {outage : Outage} {client : DashboardClient} {shutdown_event : Bool} {p : String} {d wire : Dict}
  {body : ReportBody} {started_mono : Rat} {n : Int} {s : Logged queueSig World} {resp : HttpResponse}
  {retry : Queue ReportSubmissionResult}

/-- A retriable answer leads to the wait. -/
theorem shows_backoff (h : retriable (some resp) = true) (hd : HoldsRecord p (d.set "_attempts" (.int n)) s.world) :
    HasEffect shutdown_event p d n s (outage.drive (handleOutcome shutdown_event p wire started_mono n retry
      (attemptResult client (some resp))) s) .backoff := by
  obtain ⟨now, hrun⟩ := @drive_retriable outage shutdown_event p wire s started_mono n client _ h retry
  refine ⟨hd, ?_⟩
  rw [hrun]
  split_ifs
  · exact ⟨[(.now, s.world)], by simp [waited]⟩
  · obtain ⟨later, hlater⟩ := Prog.calls_prefix (h := outage.handle) retry
      (waited shutdown_event (backoffDelay n) s)
    exact ⟨later, by rw [← hlater]; simp [waited]⟩

/-- An answer with a result deletes the file exactly when its log record can be built. -/
theorem shows_settled_iff (hok : ¬ (200 ≤ resp.status ∧ resp.status < 300)) (hretriable : retriable (some resp) = false)
    {result : SubmissionStatus} (hsettled : settledStatus resp.status = some result)
    (hd : HoldsRecord p (d.set "_attempts" (.int n)) s.world) :
    HasEffect shutdown_event p d n s (outage.drive (handleOutcome shutdown_event p wire started_mono n retry
      (attemptResult client (some resp))) s) (effectOf resp.status) ↔ Loggable wire resp := by
  obtain ⟨hfinishes, hraises⟩ := @finishesWhen_settled client shutdown_event p wire started_mono n retry
    resp hretriable
  have hdig := @digested_iff_loggable wire resp hok (by rw [hsettled]; nofun)
  rw [← hdig]
  -- both effects with a result are a return
  have hfinished : ∀ run, HasEffect shutdown_event p d n s run (effectOf resp.status) ↔ Finished p run result := by
    intro run
    rcases effectOf_of_settled hok hsettled with ⟨rfl, heffect⟩ | ⟨rfl, heffect⟩ <;>
      · rw [heffect]
        rfl
  rw [hfinished]
  constructor
  · rintro ⟨r, hrun, -, -⟩
    by_contra hno
    obtain ⟨e, hprog, -⟩ := hraises hno
    rw [hprog] at hrun
    cases hrun
  · intro hyes
    obtain ⟨result', summary, hstatus, hprog⟩ := hfinishes hyes
    obtain rfl : result = result' := Option.some.inj (hsettled.symm.trans hstatus)
    obtain ⟨r, hrun, hr, -⟩ := @drive_finishAttempt outage p _ s started_mono n hd result summary
    rw [hprog, hrun]
    exact ⟨r, rfl, hr, World.lookup_remove_self _⟩

/-- Every other answer keeps the file and raises the error of its class. -/
theorem shows_unsettled (hretriable : retriable (some resp) = false) (hnone : settledStatus resp.status = none)
    (hd : HoldsRecord p (d.set "_attempts" (.int n)) s.world) :
    HasEffect shutdown_event p d n s (outage.drive (handleOutcome shutdown_event p wire started_mono n retry
      (attemptResult client (some resp))) s) (effectOf resp.status) := by
  obtain ⟨hfinishes, hraises⟩ := @finishesWhen_settled client shutdown_event p wire started_mono n retry
    resp hretriable
  have hno : ¬ Digested wire (some resp) := by
    intro hyes
    obtain ⟨result, -, hstatus, -⟩ := hfinishes hyes
    rw [hnone] at hstatus
    cases hstatus
  obtain ⟨e, hprog, hdashboard⟩ := hraises hno
  obtain ⟨de, rfl, hkind⟩ := hdashboard hnone
  rw [hprog]
  rcases effectOf_of_unsettled hnone hretriable with ⟨heffect, hauth⟩ | ⟨heffect, hother⟩
  · rw [heffect]
    exact ⟨de, rfl, hkind.trans hauth, hd⟩
  · rw [heffect]
    refine ⟨de, rfl, ?_, hd⟩
    rw [hkind]
    exact hother

end

/-- **The effect of an attempt is that of its status** exactly when the log record of the answer can be
built: for every answer outside 2xx, at any attempt of any run of the loop. -/
theorem effect_of_status_iff (outage : Outage) (client : DashboardClient) (shutdown_event : Bool) (p : String)
    (d wire : Dict) (body : ReportBody) (n : Int) (started_mono : Rat) (s : Logged queueSig World) (fuel : Nat)
    (resp : HttpResponse) (hfile : HoldsRecord p d s.world)
    (hcounter : (Dict.getD d "_attempts" (.int 0)).toInt = .ok n) (hwire : wireBody wire = .ok body)
    (hanswer : outage.answer (s.world.callsFor p) = some resp)
    (hstatus : ¬ (200 ≤ resp.status ∧ resp.status < 300)) :
    HasEffect shutdown_event p d (n + 1) (attempted outage p d (n + 1) body s)
      (outage.drive (retryLoopForPath client shutdown_event p wire started_mono (fuel + 1)) s)
      (effectOf resp.status) ↔ Loggable wire resp := by
  have hd : HoldsRecord p (d.set "_attempts" (.int (n + 1))) (attempted outage p d (n + 1) body s).world :=
    attempted_holdsRecord
  rw [drive_round hfile hcounter hwire fuel, hanswer]
  cases hretriable : retriable (some resp) with
  | true =>
    rw [effectOf_of_retriable hretriable]
    refine iff_of_true (shows_backoff hretriable hd) (loggable_of_unsettled ?_)
    have hrange : resp.status = 429 ∨ (500 ≤ resp.status ∧ resp.status < 600) := by
      simpa [retriable] using hretriable
    unfold settledStatus
    split_ifs <;> first | rfl | omega
  | false =>
    cases hsettled : settledStatus resp.status with
    | some result => exact shows_settled_iff hstatus hretriable hsettled hd
    | none => exact iff_of_true (shows_unsettled hretriable hsettled hd) (loggable_of_unsettled hsettled)

/-- A conflict whose body is a JSON array. -/
def listConflict : Outage where
  failures := []
  retriable_failures := nofun
  terminal := ⟨409, .json (.arr [.str "report_already_received"])⟩
  retriable_terminal := by decide

/-- A report of a scheduled cycle, as it was persisted. -/
def queuedReport : ReportArgs :=
  ⟨"r1", "scheduled", "2026-05-02T14:30:00Z", "2026-05-02T14:30:01Z", none, []⟩

/-- The directory that holds it. -/
def queuedOnDisk : Logged queueSig World :=
  foundOnDisk ((∅ : AList fun _ : String => File).insert "r1.json"
    ⟨.json (.obj (persistedRecord queuedReport.payload "2026-05-02T14:30:01Z")), 0⟩) ∅ 0

/-- The loop on it, under an outage. -/
def queuedRun (outage : Outage) : Option (Except PyExc ReportSubmissionResult) × Logged queueSig World :=
  outage.drive (retryLoopForPath someClient true "r1.json" queuedReport.payload 0 1) queuedOnDisk

/-- Reading a field of the array raises, and the file stays. -/
theorem effect_of_status_listConflict :
    effectOf listConflict.terminal.status = .duplicate ∧
    ¬ Finished "r1.json" (queuedRun listConflict) .duplicate ∧
    (queuedRun listConflict).1 = some (.error .attributeError) ∧
    ((queuedRun listConflict).2.world.lookup "r1.json").isSome = true := by
  refine ⟨by decide, ?_, by rfl, by decide⟩
  rintro ⟨r, hr, -⟩
  cases hr

theorem effect_of_status_iff_notFound :
    HasEffect true "r1.json" (persistedRecord queuedReport.payload "2026-05-02T14:30:01Z") 1
      (attempted { listConflict with terminal := ⟨404, .notJson⟩, retriable_terminal := by decide } "r1.json"
        (persistedRecord queuedReport.payload "2026-05-02T14:30:01Z") 1 queuedReport.body queuedOnDisk)
      (queuedRun { listConflict with terminal := ⟨404, .notJson⟩, retriable_terminal := by decide })
      (effectOf 404) ↔ Loggable queuedReport.payload ⟨404, .notJson⟩ :=
  effect_of_status_iff _ _ true "r1.json" _ queuedReport.payload queuedReport.body 0 0 queuedOnDisk 0
    ⟨404, .notJson⟩ ⟨_, AList.lookup_insert _, rfl⟩ rfl rfl rfl (by decide)

end CertWatch
