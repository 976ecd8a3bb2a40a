/-
# `CertWatch.StartupTable` — what `run` makes of a start, as a table over what it is answered.

The monitor of a start follows the whole of `run`, so the table holds of every run against any answers; of one that
is out of fuel it says that it was turned down as often as there was fuel.  Two rows have exceptions: a config
request that is answered 401 ends the run as any other failure of bootstrap does, and a registration that was
accepted need not be saved.
-/
import CertWatch.BootstrapView
import CertWatch.ScriptedAgent

namespace CertWatch

open CertWatch.Lib

/-! ## Replay -/

section Replay

variable {α : Type}

/-- The queue's calls but the submissions, without a loop. -/
abbrev SubmitsNothing (p : Queue α) : Prop := p.Finishes fun o : QueueOp => o.isSubmit = false

theorem submitsNothing_call {o : QueueOp} (h : o.isSubmit = false) : SubmitsNothing (queueCall o) :=
  Prog.finishes_perform h

theorem submitsNothing_of_fileCalls {p : Queue α} (h : FileCalls p) : SubmitsNothing p :=
  h.mono fun o ho => by cases o <;> first | rfl | cases ho

theorem submitsNothing_finishAttempt (path : String) (started_mono : Rat) (status : SubmissionStatus) (attempts : Int)
    (summary : Json) : SubmitsNothing (finishAttempt path started_mono status attempts summary) :=
  (submitsNothing_of_fileCalls (fileCalls_deletePendingReport path)).bind fun _ =>
    (submitsNothing_call rfl).bind fun _ => trivial

theorem submitsNothing_quarantineCorrupt (path : String) : SubmitsNothing (quarantineCorrupt path) :=
  (submitsNothing_call rfl).bind fun _ => (submitsNothing_call rfl).bind fun _ =>
    (submitsNothing_call rfl).bind fun _ => trivial

theorem submitsNothing_statAll (ns : List String) : SubmitsNothing (statAll ns) := by
  induction ns with
  | nil => trivial
  | cons n ns ih => exact (submitsNothing_call rfl).bind fun _ => ih.bind fun _ => trivial

theorem submitsNothing_unlinkAll (ns : List String) : SubmitsNothing (unlinkAll ns) := by
  induction ns with
  | nil => trivial
  | cons n ns ih =>
    have hunlink : SubmitsNothing ((queueCall (.unlink n)).bind fun _ => .ret true : Queue Bool) :=
      (submitsNothing_call rfl).bind fun _ => trivial
    refine Prog.Finishes.bind (hunlink.tryCatch fun e => ?_) fun deleted => ih.bind fun _ => trivial
    split <;> trivial

/-- What the start monitor sees of the queue. -/
abbrev startQueueMonitor (env : Env) (fuel : Nat) : Monitor queueSig PyExc StartView :=
  (startMonitor env fuel).comap queueCalls

variable {env : Env} {fuel : Nat} {q₀ q : StartView}

theorem next_unsubmitted {o : QueueOp} (h : o.isSubmit = false) (r : Except PyExc (AgentOp.queue o).Ret) :
    q.next (.queue o) r = q := by
  cases o <;> first | rfl | cases h

/-- What does not submit leaves the view as it is. -/
theorem obeys_submitsNothing {p : Queue α} (h : SubmitsNothing p) (q₀ : StartView) :
    p.Obeys (startQueueMonitor env fuel) (fun q _ => q = q₀) q₀ :=
  h.obeys rfl fun _ _ hq ho => ⟨trivial, fun _ _ => (next_unsubmitted ho _).trans hq⟩

/-- A replayed report may be refused, and then the replay is over. -/
def ReplayEnds (q₀ q : StartView) (x : Except PyExc α) : Prop :=
  ∃ refused retries, q = { q₀ with refused, retries } ∧ (refused = true → isAuthFailure x = true)

theorem ReplayEnds.same (h : q₀.refused = false) (x : Except PyExc α) : ReplayEnds q₀ q₀ x :=
  ⟨false, q₀.retries, by rw [← h], fun h => by cases h⟩

/-- A part of the replay that has returned. -/
theorem ReplayEnds.ok {a : α} (h : ReplayEnds q₀ q (.ok a)) : ∃ retries, q = { q₀ with refused := false, retries } := by
  obtain ⟨refused, retries, rfl, hauth⟩ := h
  cases refused with
  | false => exact ⟨retries, rfl⟩
  | true => cases hauth rfl

theorem ReplayEnds.error_cast {β : Type} {e : PyExc} (h : ReplayEnds q₀ q (.error e : Except PyExc α)) :
    ReplayEnds q₀ q (.error e : Except PyExc β) := by
  obtain ⟨refused, retries, rfl, hauth⟩ := h
  exact ⟨refused, retries, rfl, fun hrefused => (isAuthFailure_error e).trans (hauth hrefused)⟩

theorem StartView.Underway.turnedDown (h : q₀.Underway env) (retries : Nat) :
    StartView.Underway env { q₀ with refused := false, retries } :=
  ⟨⟨h.sound.written, h.sound.spoilt, h.sound.configs⟩, h.failed, rfl, h.environment⟩

/-- The authentication error is what becomes of a 401. -/
theorem isAuthFailure_requestOutcome {r : Except PyExc HttpResponse} (hr : Foreign r) (method path : String) :
    isAuthFailure (requestOutcome method path r) = is401 r := by
  cases r with
  | error e =>
    have hforeign := hr e rfl
    cases e with
    | dashboard e => cases hforeign
    | _ => rfl
  | ok resp =>
    show isAuthFailure (handleResponse method path resp) = (resp.status == 401)
    by_cases h401 : resp.status = 401
    · rw [beq_iff_eq.mpr h401]
      rcases @handleResponse_surfaced method path resp with ⟨-, hauth⟩ | ⟨hcalm, -⟩
      · exact hauth
      · rw [if_pos h401] at hcalm
        cases hcalm
    · rw [beq_eq_false_iff_ne.mpr h401]
      rcases @handleResponse_surfaced method path resp with ⟨halarmed, -⟩ | ⟨-, hord⟩
      · rw [if_neg h401] at halarmed
        cases halarmed
      · exact hord.2

/-- What the retry loop makes of an attempt that may not be tried again. -/
theorem obeys_handleOutcome_final {path : String} {wire : Dict} {started_mono : Rat} {attempts : Int}
    {retry : Queue ReportSubmissionResult} {outcome : Except PyExc Json}
    (hfinal : ∀ e, outcome = .error (.dashboard e) → e.kind.isRetriable = false) {q₁ : StartView}
    (hends : ∀ x : Except PyExc ReportSubmissionResult, isAuthFailure x = isAuthFailure outcome → ReplayEnds q₀ q₁ x)
    (hcalm : isAuthFailure outcome = false → ∀ x : Except PyExc ReportSubmissionResult, ReplayEnds q₀ q₁ x) :
    (handleOutcome true path wire started_mono attempts retry outcome).Obeys (startQueueMonitor env fuel)
      (ReplayEnds q₀) q₁ := by
  have hquiet : isAuthFailure outcome = false → ∀ {p : Queue ReportSubmissionResult}, SubmitsNothing p →
      p.Obeys (startQueueMonitor env fuel) (ReplayEnds q₀) q₁ := by
    intro hauth p hp
    refine (obeys_submitsNothing hp q₁).mono fun q x hq => ?_
    rw [hq]
    exact hcalm hauth x
  cases outcome with
  | ok response =>
    exact hquiet rfl ((Prog.finishes_ofExcept _).bind fun _ => submitsNothing_finishAttempt _ _ _ _ _)
  | error e =>
    cases e with
    | dashboard e =>
      have hkind := hfinal e rfl
      obtain ⟨kind, message, code, request_id, status_code, body⟩ := e
      cases kind with
      | server | network | rateLimit => cases hkind
      | auth | notFound | base => exact hends _ rfl
      | conflict =>
        exact hquiet rfl ((Prog.finishes_ofExcept _).bind fun _ => submitsNothing_finishAttempt _ _ _ _ _)
      | validation => exact hquiet rfl (submitsNothing_finishAttempt _ _ _ _ _)
      | payloadTooLarge =>
        exact hquiet rfl ((Prog.finishes_ofExcept _).bind fun _ => submitsNothing_finishAttempt _ _ _ _ _)
    | _ => exact hends _ rfl

/-- The wait before the next attempt; when the event is set meanwhile, there is none. -/
theorem obeys_backoffThenRetry {started_mono : Rat} {attempts : Int} {retry : Queue ReportSubmissionResult}
    (hretry : retry.Obeys (startQueueMonitor env fuel) (ReplayEnds q₀)
      { q₀ with refused := false, retries := q₀.retries + 1 }) :
    (Prog.bind (backoffWait true (backoffDelay attempts)) fun woke_early =>
      if woke_early = true then (queueCall .now).bind fun now =>
        .ret { status := .shutdown, attempts, elapsed := now - started_mono }
      else retry : Queue ReportSubmissionResult).Obeys (startQueueMonitor env fuel) (ReplayEnds q₀)
      { q₀ with refused := false, retries := q₀.retries + 1 } := by
  refine (obeys_submitsNothing (submitsNothing_call rfl) _).bind (fun q woke_early hq => ?_) fun q e hq =>
    ⟨_, _, hq, fun h => by cases h⟩
  rw [hq]
  split_ifs
  · refine (obeys_submitsNothing (submitsNothing_call rfl) _).bind (fun q now hq => ?_) fun q e hq => ?_
    · exact ⟨_, _, hq, fun h => by cases h⟩
    · exact ⟨_, _, hq, fun h => by cases h⟩
  · exact hretry

theorem next_submit (hrefused : q₀.refused = false) (path : String) (body : ReportBody)
    (r : Except PyExc HttpResponse) :
    (startQueueMonitor env fuel).next q₀ (.submit path body) r =
      { q₀ with refused := is401 r, retries := q₀.retries + (failsRetriably r).toNat } := by
  have hnext : (startQueueMonitor env fuel).next q₀ (.submit path body) r =
      { q₀ with refused := is401 r || q₀.refused, retries := q₀.retries + (failsRetriably r).toNat } := by
    cases r <;> rfl
  rw [hnext, hrefused, Bool.or_false]

/-- What the retry loop makes of one answer. -/
theorem obeys_handleAnswer (client : DashboardClient) {path : String} {wire : Dict} {started_mono : Rat}
    {attempts : Int} {retry : Queue ReportSubmissionResult} {r : Except PyExc HttpResponse} (hr : Foreign r)
    (hretry : retry.Obeys (startQueueMonitor env fuel) (ReplayEnds q₀)
      { q₀ with refused := false, retries := q₀.retries + 1 }) :
    (handleOutcome true path wire started_mono attempts retry (requestOutcome "POST" client.reportsPath r)).Obeys
      (startQueueMonitor env fuel) (ReplayEnds q₀)
      { q₀ with refused := is401 r, retries := q₀.retries + (failsRetriably r).toNat } := by
  have hauth := isAuthFailure_requestOutcome hr "POST" client.reportsPath
  have hfinal : (∀ e, requestOutcome "POST" client.reportsPath r = .error (.dashboard e) →
      e.kind.isRetriable = false) → (handleOutcome true path wire started_mono attempts retry
        (requestOutcome "POST" client.reportsPath r)).Obeys (startQueueMonitor env fuel) (ReplayEnds q₀)
      { q₀ with refused := is401 r, retries := q₀.retries + (failsRetriably r).toNat } := by
    intro hnot
    refine obeys_handleOutcome_final hnot (fun x hx => ⟨_, _, rfl, fun h401 => ?_⟩) fun hcalm x =>
      ⟨_, _, rfl, fun h401 => ?_⟩
    · rw [hx, hauth, h401]
    · cases h401.symm.trans (hauth.symm.trans hcalm)
  rcases requestOutcome_cases hr "POST" client.reportsPath with
    ⟨v, -, houtcome⟩ | ⟨hretriable, -, e, houtcome, he⟩ | ⟨-, -, e, houtcome, he⟩
  · refine hfinal fun e' he' => ?_
    rw [houtcome] at he'
    cases he'
  · -- the one case in which the loop goes on
    have h401 : is401 r = false := by
      rw [← hauth, houtcome]
      obtain ⟨kind, message, code, request_id, status_code, body⟩ := e
      cases kind <;> first | rfl | cases he
    rw [houtcome, hretriable, h401]
    obtain ⟨kind, message, code, request_id, status_code, body⟩ := e
    cases kind with
    | server | network | rateLimit => exact obeys_backoffThenRetry hretry
    | _ => cases he
  · refine hfinal fun e' he' => ?_
    rw [houtcome] at he'
    exact he e' (Except.error.inj he')

/-- **Each round of the retry loop is a report that may be tried again.** -/
theorem obeys_retryLoop_start (client : DashboardClient) (path : String) (wire : Dict) (started_mono : Rat) (k : Nat)
    (h : q₀.Underway env) (hfuel : fuel ≤ q₀.retries + k) :
    (retryLoopForPath client true path wire started_mono k).Obeys (startQueueMonitor env fuel) (ReplayEnds q₀) q₀ := by
  induction k generalizing q₀ with
  | zero => exact ⟨h, hfuel⟩
  | succ k ih =>
    have hincrement := @obeys_submitsNothing _ env fuel _
      (submitsNothing_of_fileCalls (fileCalls_incrementAttempts path)) q₀
    refine hincrement.bind (fun q attempts hq => ?_) fun q e hq => ?_
    swap
    · rw [hq]
      exact .same h.refused _
    rw [hq]
    refine Prog.obeys_bind.mpr (Prog.obeys_attempt.mpr (Prog.obeys_bind.mpr (Prog.obeys_ofExcept.mpr ?_)))
    cases hbody : wireBody wire with
    | error e =>
      have hforeign := foreign_wireBody wire e hbody
      refine obeys_handleOutcome_final (fun e' he' => ?_) (fun _ _ => .same h.refused _) fun _ _ => .same h.refused _
      rw [Except.error.inj he'] at hforeign
      cases hforeign
    | ok body =>
      refine obeys_request.mpr (Prog.obeys_perform.mpr ⟨trivial, fun r hr => ?_⟩)
      show (handleOutcome true path wire started_mono attempts
        (retryLoopForPath client true path wire started_mono k) (requestOutcome "POST" client.reportsPath r)).Obeys
          (startQueueMonitor env fuel) (ReplayEnds q₀) ((startQueueMonitor env fuel).next q₀ (.submit path body) r)
      rw [next_submit h.refused]
      refine obeys_handleAnswer client (foreign_of_map (Possible.foreign hr)) (ih (h.turnedDown _) ?_)
      show fuel ≤ q₀.retries + 1 + k
      omega

theorem obeys_replayOneAt_start (client : DashboardClient) (registered_at : Json) (path : String)
    (h : q₀.Underway env) :
    (replayOneAt client true fuel registered_at path).Obeys (startQueueMonitor env fuel) (ReplayEnds q₀) q₀ := by
  have hload := submitsNothing_of_fileCalls (fileCalls_loadPendingReport .scan path)
  refine Prog.Obeys.attempt_bind (obeys_submitsNothing hload q₀) fun q loaded hq => ?_
  rw [hq]
  cases loaded with
  | error e =>
    cases e with
    | pendingReportCorrupt cause =>
      have hquarantine : SubmitsNothing ((quarantineCorrupt path).bind fun _ => .ret ReplayOutcome.corrupt) :=
        (submitsNothing_quarantineCorrupt path).bind fun _ => trivial
      refine (obeys_submitsNothing hquarantine q₀).mono fun q x hq => ?_
      rw [hq]
      exact .same h.refused x
    | _ => exact .same h.refused _
  | ok persisted =>
    refine Prog.obeys_ofExcept_bind (fun orphan _ => ?_) fun e _ => .same h.refused _
    show (if orphan = true then _ else _ : Queue ReplayOutcome).Obeys _ _ _
    split_ifs
    · exact .same h.refused _
    refine (obeys_submitsNothing (submitsNothing_call rfl) q₀).bind (fun q started_mono hq => ?_) fun q e hq => ?_
    · rw [hq]
      have hretry := obeys_retryLoop_start client path (wirePayload persisted) started_mono fuel h
        (Nat.le_add_left _ _)
      refine hretry.bind (fun q sub_result hx => ?_) fun q e hx => hx.error_cast
      obtain ⟨retries, rfl⟩ := hx.ok
      exact ⟨false, retries, rfl, fun h => by cases h⟩
    · rw [hq]
      exact .same h.refused _

/-- **A replay** ends with the first report that is refused. -/
theorem obeys_replayPathsAt_start (client : DashboardClient) (registered_at : Json) (paths : List String)
    (result : ReplayResult) (h : q₀.Underway env) :
    (replayPathsAt client true fuel registered_at paths result).Obeys (startQueueMonitor env fuel) (ReplayEnds q₀)
      q₀ := by
  induction paths generalizing q₀ result with
  | nil => exact .same h.refused _
  | cons path paths ih =>
    refine (obeys_submitsNothing (submitsNothing_call rfl) q₀).bind (fun q interrupted hq => ?_) fun q e hq => ?_
    swap
    · rw [hq]
      exact .same h.refused _
    rw [hq]
    split_ifs
    · exact .same h.refused _
    refine (obeys_replayOneAt_start client registered_at path h).bind (fun q outcome hx => ?_)
      fun q e hx => hx.error_cast
    obtain ⟨retries, rfl⟩ := hx.ok
    show (if outcome = .shutdown then _ else _ : Queue ReplayResult).Obeys _ _ _
    split_ifs
    · exact ⟨false, retries, rfl, fun h => by cases h⟩
    · exact (ih (outcome.count result) (h.turnedDown retries)).mono fun q x hx => hx

theorem obeys_replay_start (client : DashboardClient) (registered_at : Json) (h : q₀.Underway env) :
    ((replayPendingReportsAt client true fuel registered_at).embed queueCalls).Obeys (startMonitor env fuel)
      (ReplayEnds q₀) q₀ := by
  have hcleanup : SubmitsNothing cleanupStrayTmpFiles :=
    (submitsNothing_call rfl).bind fun _ => submitsNothing_unlinkAll _
  have hlist : SubmitsNothing listPendingReportPaths :=
    (submitsNothing_call rfl).bind fun _ => (submitsNothing_statAll _).bind fun _ => trivial
  refine Prog.Obeys.embed ((obeys_submitsNothing hcleanup q₀).bind (fun q _ hq => ?_) fun q e hq => ?_)
  · rw [hq]
    refine (obeys_submitsNothing hlist q₀).bind (fun q paths hq => ?_) fun q e hq => ?_
    · rw [hq]
      exact obeys_replayPathsAt_start client registered_at paths {} h
    · rw [hq]
      exact .same h.refused _
  · rw [hq]
    exact .same h.refused _

end Replay

/-! ## The rest of the run -/

section Run

variable {α β : Type} {env : Env} {fuel : Nat} {q : StartView}

/-- The calls that follow the replay, but for the one that puts the config in force. -/
def AgentOp.isLate : AgentOp → Bool
  | .isSet _ => true
  | .set _ => true
  | .signal _ => true
  | .start _ => true
  | .wait _ _ => true
  | .now => true
  | .join _ => true
  | _ => false

/-- Such a part of the run, without a loop. -/
abbrev LateCalls (p : Agent α) : Prop := p.Finishes fun o : AgentOp => o.isLate = true

theorem late_agentCall {o : AgentOp} (h : o.isLate = true) : LateCalls (agentCall o) := Prog.finishes_perform h

theorem late_startEach (threads : List ThreadSpec) : LateCalls (startEach threads) := by
  induction threads with
  | nil => trivial
  | cons thread threads ih => exact (late_agentCall rfl).bind fun _ => ih

theorem late_joinEach (threads : List ThreadId) : LateCalls (joinEach threads) := by
  induction threads with
  | nil => trivial
  | cons thread threads ih => exact (late_agentCall rfl).bind fun _ => ih

theorem late_installSignalHandlers : LateCalls installSignalHandlers := by
  refine ((late_agentCall rfl).bind fun _ => late_agentCall rfl).tryCatch fun e => ?_
  split <;> trivial

theorem late_openGateUnless (first_sync_completed : Bool) : LateCalls (openGateUnless first_sync_completed) := by
  unfold openGateUnless
  split_ifs
  · trivial
  · exact late_agentCall rfl

theorem StartView.Underway.late (h : q.Underway env) {o : AgentOp} (ho : o.isLate = true) (r : Except PyExc o.Ret) :
    (q.next o r).Underway env := by
  have hsame : q.next o r = { q with started := o.isStart || q.started } := by
    cases o <;> first | rfl | cases ho
  rw [hsame]
  exact ⟨⟨h.sound.written, h.sound.spoilt, h.sound.configs⟩, h.failed, h.refused, h.environment⟩

/-- After the replay the run no longer returns 1. -/
def LateEnds (env : Env) (q : StartView) (x : Except PyExc Int) : Prop :=
  q.Underway env ∧ x ≠ .ok exitBootstrapFailure

/-- A part of what follows the replay. -/
theorem obeys_late_bind {p : Agent α} {f : α → Agent Int} (hp : LateCalls p) (h : q.Underway env)
    (hf : ∀ a q, q.Underway env → (f a).Obeys (startMonitor env fuel) (LateEnds env) q) :
    (p.bind f).Obeys (startMonitor env fuel) (LateEnds env) q := by
  have hlate : p.Obeys (startMonitor env fuel) (fun q _ => q.Underway env) q :=
    hp.obeys h fun q o hq ho => ⟨(by cases o <;> trivial), fun r _ => hq.late ho r⟩
  exact hlate.bind (fun q a hq => hf a q hq) fun q e hq => ⟨hq, nofun⟩

theorem obeys_finalExitCode_start (h : q.Underway env) :
    finalExitCode.Obeys (startMonitor env fuel) (LateEnds env) q := by
  refine obeys_late_bind (late_agentCall rfl) h fun auth_error q hq => ⟨hq, ?_⟩
  cases auth_error <;> decide

theorem obeys_startAndWait_start (threads : List ThreadSpec) (h : q.Underway env) :
    (startAndWait threads).Obeys (startMonitor env fuel) (LateEnds env) q := by
  refine obeys_late_bind late_installSignalHandlers h fun _ q h => ?_
  refine obeys_late_bind (late_startEach threads) h fun _ q h => obeys_late_bind (late_agentCall rfl) h fun _ q h => ?_
  refine obeys_late_bind (late_agentCall rfl) h fun _ q h => obeys_late_bind (late_joinEach _) h fun _ q h => ?_
  exact obeys_late_bind (late_agentCall rfl) h fun _ q h => obeys_finalExitCode_start h

/-- The config that is put in force is the one that bootstrap has chosen. -/
theorem obeys_buildAndStart_start (setup : Setup) (result : BootstrapResult) (process_started_at : Rat)
    (h : q.Underway env) (hchose : q.Chose result.initial_config) :
    (buildAndStart setup result process_started_at).Obeys (startMonitor env fuel) (LateEnds env) q := by
  refine Prog.obeys_bind.mpr (Prog.obeys_perform.mpr ⟨trivial, fun r hr => ?_⟩)
  obtain ⟨s, rfl⟩ := hr
  have hnext : StartView.Underway env { q with configs := result.initial_config :: q.configs } :=
    ⟨⟨h.sound.written, h.sound.spoilt, List.forall_mem_cons.mpr ⟨hchose, h.sound.configs⟩⟩, h.failed, h.refused,
      h.environment⟩
  refine Prog.obeys_ofExcept_bind (fun netbox_client _ => ?_) fun e _ => ⟨hnext, nofun⟩
  exact obeys_late_bind (late_openGateUnless _) hnext fun _ q h => obeys_startAndWait_start _ h

/-- How a start is concluded: by 2 without a thread when a replayed report is refused, and by 1 without a thread
exactly when bootstrap fails. -/
structure StartView.Concluded (env : Env) (q : StartView) (x : Except PyExc Int) : Prop where
  sound : q.Sound
  refused : q.refused = true → x = .ok exitAuthError ∧ q.started = false
  failed : (q.failed || Env.refuses env q.absent) = true ↔ x = .ok exitBootstrapFailure
  unstarted : x = .ok exitBootstrapFailure → q.started = false

theorem LateEnds.concluded {x : Except PyExc Int} (h : LateEnds env q x) : q.Concluded env x where
  sound := h.1.sound
  refused hrefused := by cases h.1.refused.symm.trans hrefused
  failed := by
    rw [h.1.failed, h.1.environment]
    exact iff_of_false (by decide) h.2
  unstarted hx := absurd hx h.2

/-- **What a run comes to**, whatever it is answered. -/
theorem obeys_runAgent_start (setup : Setup) (n : Nat) (hfuel : setup.fuel = n + 1) :
    (runAgent setup).Obeys (startMonitor setup.env setup.fuel) (StartView.Concluded setup.env) {} := by
  refine Prog.obeys_bind.mpr (Prog.obeys_perform.mpr ⟨trivial, fun r hr => ?_⟩)
  obtain ⟨s, process_started_at, rfl⟩ := hr
  refine (obeys_bootstrap_start setup.rt setup.agent_version n hfuel).attempt_bind fun q x hx => ?_
  cases x with
  | error e =>
    obtain ⟨hsound, hrefused, hfailed, hstarted⟩ := hx
    exact ⟨hsound, (fun h => by cases hrefused.symm.trans h), iff_of_true hfailed rfl, fun _ => hstarted⟩
  | ok result =>
    obtain ⟨hunderway, hchose, hstarted⟩ := hx
    refine (obeys_replay_start result.client result.registered_at hunderway).attempt_bind fun q replayed hq => ?_
    obtain ⟨refused, retries, rfl, hauth⟩ := hq
    split_ifs with hfailure
    · refine ⟨⟨hunderway.sound.written, hunderway.sound.spoilt, hunderway.sound.configs⟩, fun _ => ⟨rfl, hstarted⟩, ?_,
        fun _ => hstarted⟩
      show (q.failed || Env.refuses setup.env q.absent) = true ↔ _
      rw [hunderway.failed, hunderway.environment]
      exact iff_of_false (by decide) (by decide)
    · obtain rfl : refused = false := Bool.eq_false_iff.mpr fun h => hfailure (hauth h)
      have hcalm := hunderway.turnedDown retries
      refine Prog.Obeys.mono (F := LateEnds setup.env) ?_ fun q x hx => hx.concluded
      refine Prog.obeys_bind.mpr (Prog.obeys_perform.mpr ⟨trivial, fun r hr => ?_⟩)
      obtain ⟨s, rfl⟩ := hr
      show (if s.shutdown = true then _ else _ : Agent Int).Obeys _ _ { q with refused := false, retries }
      split_ifs
      · exact obeys_finalExitCode_start hcalm
      · exact obeys_buildAndStart_start setup result process_started_at hcalm hchose

end Run

/-! ## The table -/

/-- A start: the parameters of the code, and an answer to each of its calls. -/
structure Start where
  setup : Setup
  fuel_pos : 0 < setup.fuel
  answer : Oracle agentSig PyExc
  possible : ∀ cs o, Possible o (answer cs o)

namespace Start

variable (start : Start)

/-- How `run` ends, unless it is out of fuel. -/
def result : Option (Except PyExc Int) := ((runAgent start.setup).run start.answer.handle []).1

/-- The calls of the run, with their answers. -/
def log : List AgentCall := ((runAgent start.setup).run start.answer.handle []).2

/-- No thread is started. -/
def StartsNothing : Prop := ∀ thread r, ⟨.start thread, r⟩ ∉ start.log

/-- The environment is refused, or bootstrap is answered in a way that it does not get over. -/
def BootstrapFails : Prop :=
  Env.refuses start.setup.env (start.log.any fun c => findsNoFile c.op c.answer) = true ∨
    ∃ c ∈ start.log, isFatal c.op c.answer = true

/-- **The startup decision table.** -/
structure Table : Prop where
  /-- `register` is called only after no `agent.json` was found. -/
  registers_without_file : ∀ pre post dashboard_url registration_token body r,
    start.log = pre ++ ⟨.register dashboard_url registration_token body, r⟩ :: post →
      ∃ c ∈ pre, findsNoFile c.op c.answer = true
  /-- `agent.json` is written exactly when a registration returned 2xx. -/
  writes_registration : (∃ c ∈ start.log, writes c.op c.answer = true) ↔
    ∃ c ∈ start.log, registers c.op c.answer = true
  /-- The config in force is the default exactly when the one config request failed retriably. -/
  config : ∀ config r, ⟨.configState config, r⟩ ∈ start.log → ∃ answer,
    (∀ r', (∃ client, ⟨.getConfig client, r'⟩ ∈ start.log) ↔ r' = answer) ∧
      (failsRetriably answer = true → config = defaultConfig) ∧
      (failsRetriably answer = false → acceptedDocument answer = some (.obj config))
  /-- An authenticated call that is answered 401 ends the run with 2. -/
  unauthorized : ∀ c ∈ start.log, isUnauthorized c.op c.answer = true →
    start.result = some (.ok exitAuthError) ∧ start.StartsNothing
  /-- Every other failure of bootstrap ends it with 1. -/
  failure : start.BootstrapFails → (∀ c ∈ start.log, isUnauthorized c.op c.answer = false) →
    start.result = some (.ok exitBootstrapFailure) ∧ start.StartsNothing
  failure_only : start.result = some (.ok exitBootstrapFailure) → start.BootstrapFails
  /-- A run is out of fuel only after it was turned down as often. -/
  returns : start.result = none →
    start.setup.fuel ≤ start.log.countP fun c => isTurnedDown c.op c.answer

end Start

section View

variable {env : Env} {fuel : Nat}

/-- The view after these calls. -/
def viewOf (env : Env) (fuel : Nat) (cs : List AgentCall) : StartView := (startMonitor env fuel).after {} cs

theorem viewOf_concat (cs : List AgentCall) (c : AgentCall) :
    viewOf env fuel (cs ++ [c]) = (viewOf env fuel cs).next c.op c.answer := Monitor.after_concat _ _ _ _

/-- A flag of the view is up when some call has raised it. -/
theorem viewOf_flag {flag : StartView → Bool} {raises : (o : AgentOp) → Except PyExc o.Ret → Bool}
    (hinitial : flag {} = false) (hnext : ∀ q o r, flag (q.next o r) = (raises o r || flag q)) (cs : List AgentCall) :
    flag (viewOf env fuel cs) = cs.any fun c => raises c.op c.answer := by
  induction cs using List.reverseRecOn with
  | nil => exact hinitial
  | append_singleton cs c ih =>
    rw [viewOf_concat, hnext, ih, List.any_append, List.any_cons, List.any_nil, Bool.or_false, Bool.or_comm]

/-- The view has collected what the calls have brought. -/
theorem viewOf_collected {β : Type} {collected : StartView → List β}
    {brings : (o : AgentOp) → Except PyExc o.Ret → List β} (hinitial : collected {} = [])
    (hnext : ∀ q o r, collected (q.next o r) = brings o r ++ collected q)
    (cs : List AgentCall) (b : β) :
    b ∈ collected (viewOf env fuel cs) ↔ ∃ c ∈ cs, b ∈ brings c.op c.answer := by
  induction cs using List.reverseRecOn with
  | nil => simp [viewOf, hinitial]
  | append_singleton cs c ih =>
    rw [viewOf_concat, hnext, List.mem_append, ih]
    simp only [List.mem_append, List.mem_singleton, or_and_right, exists_or, exists_eq_left]
    exact or_comm

theorem viewOf_retries (cs : List AgentCall) :
    (viewOf env fuel cs).retries = cs.countP fun c => isTurnedDown c.op c.answer := by
  induction cs using List.reverseRecOn with
  | nil => rfl
  | append_singleton cs c ih =>
    rw [viewOf_concat, List.countP_append, ← ih]
    show _ + (isTurnedDown c.op c.answer).toNat = _ + _
    cases h : isTurnedDown c.op c.answer <;> simp [h]

/-- The answers to the config requests. -/
theorem mem_fetched (cs : List AgentCall) (r : Except PyExc HttpResponse) :
    r ∈ (viewOf env fuel cs).fetched ↔ ∃ client, ⟨.getConfig client, r⟩ ∈ cs := by
  rw [@viewOf_collected env fuel _ StartView.fetched fetchAnswer rfl (fun _ _ _ => rfl)]
  constructor
  · rintro ⟨⟨o, r'⟩, hc, hr⟩
    cases o with
    | getConfig client =>
      rw [List.mem_singleton.mp hr]
      exact ⟨client, hc⟩
    | _ => cases hr
  · rintro ⟨client, h⟩
    exact ⟨_, h, List.mem_singleton_self r⟩

theorem mem_configs (cs : List AgentCall) {config : Dict} {r : Except PyExc Unit}
    (h : ⟨.configState config, r⟩ ∈ cs) : config ∈ (viewOf env fuel cs).configs := by
  rw [@viewOf_collected env fuel _ StartView.configs (fun o _ => o.initialConfig) rfl (fun _ _ _ => rfl)]
  exact ⟨_, h, List.mem_singleton_self config⟩

end View

/-! ## Every start -/

/-- A 401 is neither a document nor worth a retry. -/
theorem isFatal_of_is401 {client : DashboardClient} {r : Except PyExc HttpResponse} (h : is401 r = true) :
    isFatal (.getConfig client) r = true := by
  cases r with
  | error e => cases h
  | ok resp =>
    obtain ⟨status, body⟩ := resp
    obtain rfl : status = 401 := beq_iff_eq.mp h
    cases body <;> rfl

namespace Start

variable (start : Start)

/-- The view at the end of the run. -/
def view : StartView := viewOf start.setup.env start.setup.fuel start.log

/-- The run keeps to the monitor and ends as it says. -/
theorem obeys : (startMonitor start.setup.env start.setup.fuel).Lawful {} start.log ∧
    Prog.EndFits (startMonitor start.setup.env start.setup.fuel) (StartView.Concluded start.setup.env) start.view
      start.result := by
  obtain ⟨n, hfuel⟩ : ∃ n, start.setup.fuel = n + 1 := ⟨start.setup.fuel - 1, by have := start.fuel_pos; omega⟩
  obtain ⟨new, hlog, hlawful, hends⟩ := (obeys_runAgent_start start.setup n hfuel).consult start.possible []
  obtain rfl : start.log = new := hlog
  exact ⟨hlawful, hends⟩

theorem sound : start.view.Sound := by
  have hends := start.obeys.2
  cases hresult : start.result with
  | none =>
    rw [hresult] at hends
    exact hends.1.sound
  | some x =>
    rw [hresult] at hends
    exact hends.sound

/-- A flag of the view is up when some call of the run has raised it. -/
theorem raised_iff {flag : StartView → Bool} {raises : (o : AgentOp) → Except PyExc o.Ret → Bool}
    (hinitial : flag {} = false) (hnext : ∀ q o r, flag (q.next o r) = (raises o r || flag q)) :
    flag start.view = true ↔ ∃ c ∈ start.log, raises c.op c.answer = true := by
  have hflag : flag start.view = start.log.any fun c => raises c.op c.answer := viewOf_flag hinitial hnext _
  rw [hflag, List.any_eq_true]

theorem written_iff : start.view.written = true ↔ ∃ c ∈ start.log, writes c.op c.answer = true :=
  start.raised_iff rfl fun _ _ _ => rfl

theorem registered_iff : start.view.registered = true ↔ ∃ c ∈ start.log, registers c.op c.answer = true :=
  start.raised_iff rfl fun _ _ _ => rfl

theorem spoilt_iff : start.view.spoilt = true ↔ ∃ c ∈ start.log, spoils c.op c.answer = true :=
  start.raised_iff rfl fun _ _ _ => rfl

theorem refused_iff : start.view.refused = true ↔ ∃ c ∈ start.log, isRefused c.op c.answer = true :=
  start.raised_iff rfl fun _ _ _ => rfl

theorem started_iff : start.view.started = false ↔ start.StartsNothing := by
  have hraised := @raised_iff start StartView.started (fun o _ => o.isStart) rfl fun _ _ _ => rfl
  rw [← Bool.not_eq_true, hraised]
  constructor
  · exact fun h thread r hmem => h ⟨_, hmem, rfl⟩
  · rintro h ⟨⟨o, r⟩, hc, hstart⟩
    cases o with
    | start thread => exact h thread r hc
    | _ => cases hstart

theorem fails_iff : (start.view.failed || Env.refuses start.setup.env start.view.absent) = true ↔
    start.BootstrapFails := by
  have hfailed : start.view.failed = true ↔ ∃ c ∈ start.log, isFatal c.op c.answer = true :=
    start.raised_iff rfl fun _ _ _ => rfl
  have habsent : start.view.absent = start.log.any fun c => findsNoFile c.op c.answer :=
    viewOf_flag rfl (fun _ _ _ => rfl) _
  rw [habsent, Bool.or_eq_true, hfailed]
  exact or_comm

/-- A bootstrap that fails ends the run with 1, and nothing else does. -/
theorem result_of_fails (h : start.BootstrapFails) :
    start.result = some (.ok exitBootstrapFailure) ∧ start.StartsNothing := by
  have hends := start.obeys.2
  have hfailed := start.fails_iff.mpr h
  cases hresult : start.result with
  | none =>
    rw [hresult] at hends
    obtain ⟨hunderway, -⟩ := hends
    rw [hunderway.failed, hunderway.environment] at hfailed
    cases hfailed
  | some x =>
    rw [hresult] at hends
    obtain rfl := hends.failed.mp hfailed
    exact ⟨rfl, start.started_iff.mp (hends.unstarted rfl)⟩

/-- A replayed report that is refused ends it with 2. -/
theorem result_of_refused (h : start.view.refused = true) :
    start.result = some (.ok exitAuthError) ∧ start.StartsNothing := by
  have hends := start.obeys.2
  cases hresult : start.result with
  | none =>
    rw [hresult] at hends
    cases hends.1.refused.symm.trans h
  | some x =>
    rw [hresult] at hends
    obtain ⟨rfl, hstarted⟩ := hends.refused h
    exact ⟨rfl, start.started_iff.mp hstarted⟩

/-- A config request that is answered 401 would have to end the run with both 1 and 2. -/
theorem Table.not_unauthorized (h : start.Table) {client : DashboardClient} {r : Except PyExc HttpResponse}
    (hr : ⟨.getConfig client, r⟩ ∈ start.log) : is401 r = false := by
  by_contra h401
  rw [Bool.not_eq_false] at h401
  obtain ⟨htwo, -⟩ := h.unauthorized _ hr h401
  obtain ⟨hone, -⟩ := start.result_of_fails (Or.inr ⟨_, hr, isFatal_of_is401 h401⟩)
  exact absurd (htwo.symm.trans hone) (by decide)

/-- A registration that cannot be saved has been accepted all the same. -/
theorem Table.not_spoils (h : start.Table) {c : AgentCall} (hc : c ∈ start.log) : spoils c.op c.answer = false := by
  by_contra hspoils
  rw [Bool.not_eq_false] at hspoils
  have hspoilt : start.view.spoilt = true := start.spoilt_iff.mpr ⟨c, hc, hspoils⟩
  have hregistered := start.registered_iff.mp (start.sound.spoilt hspoilt)
  have hwritten := start.written_iff.mpr (h.writes_registration.mpr hregistered)
  rw [start.sound.written, hspoilt, Bool.not_true, Bool.and_false] at hwritten
  cases hwritten

theorem found_nothing_of_register {pre post : List AgentCall} {dashboard_url registration_token : String}
    {body : Dict} {r : Except PyExc HttpResponse}
    (hlog : start.log = pre ++ ⟨.register dashboard_url registration_token body, r⟩ :: post) :
    ∃ c ∈ pre, findsNoFile c.op c.answer = true := by
  have hlawful := start.obeys.1
  rw [hlog] at hlawful
  have habsent : (viewOf start.setup.env start.setup.fuel pre).absent = true := ((Monitor.lawful_at _).mp hlawful).2.1
  rw [@viewOf_flag _ _ StartView.absent findsNoFile rfl (fun _ _ _ => rfl)] at habsent
  exact List.any_eq_true.mp habsent

theorem writes_iff_registers (hsaved : ∀ c ∈ start.log, spoils c.op c.answer = false) :
    (∃ c ∈ start.log, writes c.op c.answer = true) ↔ ∃ c ∈ start.log, registers c.op c.answer = true := by
  have hunspoilt : start.view.spoilt = false := by
    rw [← Bool.not_eq_true, start.spoilt_iff]
    rintro ⟨c, hc, hspoils⟩
    cases (hsaved c hc).symm.trans hspoils
  rw [← start.written_iff, ← start.registered_iff, start.sound.written, hunspoilt, Bool.not_false, Bool.and_true]

/-- The config in force and the answer it was chosen by. -/
theorem config_of_configState {config : Dict} {r : Except PyExc Unit}
    (hconfig : ⟨.configState config, r⟩ ∈ start.log) :
    ∃ answer, (∀ r', (∃ client, ⟨.getConfig client, r'⟩ ∈ start.log) ↔ r' = answer) ∧
      (failsRetriably answer = true → config = defaultConfig) ∧
      (failsRetriably answer = false → acceptedDocument answer = some (.obj config)) := by
  obtain ⟨answer, hfetched, hdefault, hchosen⟩ := start.sound.configs config (mem_configs start.log hconfig)
  refine ⟨answer, fun r' => ?_, hdefault, hchosen⟩
  have hmem : r' ∈ start.view.fetched ↔ ∃ client, ⟨.getConfig client, r'⟩ ∈ start.log := mem_fetched start.log r'
  rw [← hmem, hfetched, List.mem_singleton]

/-- Beside the config request, only a replayed report can be answered 401. -/
theorem result_of_unauthorized (h401 : ∀ client r, ⟨.getConfig client, r⟩ ∈ start.log → is401 r = false)
    {c : AgentCall} (hc : c ∈ start.log) (hunauthorized : isUnauthorized c.op c.answer = true) :
    start.result = some (.ok exitAuthError) ∧ start.StartsNothing := by
  obtain ⟨o, r⟩ := c
  have hsubmit : isRefused o r = true := by
    cases o with
    | getConfig client => cases (h401 client r hc).symm.trans hunauthorized
    | queue o => cases o <;> exact hunauthorized
    | _ => cases hunauthorized
  exact start.result_of_refused (start.refused_iff.mpr ⟨_, hc, hsubmit⟩)

/-- **The table holds of exactly the starts** whose config request is not answered 401, and whose registration, if it
is accepted, can be saved. -/
theorem table_iff : start.Table ↔ (∀ client r, ⟨.getConfig client, r⟩ ∈ start.log → is401 r = false) ∧
    ∀ c ∈ start.log, spoils c.op c.answer = false := by
  constructor
  · exact fun h => ⟨fun client r hr => h.not_unauthorized start hr, fun c hc => h.not_spoils start hc⟩
  · rintro ⟨h401, hsaved⟩
    refine ⟨fun pre post dashboard_url registration_token body r hlog => start.found_nothing_of_register hlog,
      start.writes_iff_registers hsaved, fun config r hconfig => start.config_of_configState hconfig,
      fun c hc hunauthorized => start.result_of_unauthorized h401 hc hunauthorized,
      fun hfails _ => start.result_of_fails hfails, fun hone => ?_, fun hnone => ?_⟩
    · have hends := start.obeys.2
      rw [hone] at hends
      exact start.fails_iff.mp (hends.failed.mpr rfl)
    · have hends := start.obeys.2
      rw [hnone] at hends
      rw [← viewOf_retries]
      exact hends.2

end Start

/-- A state in which no call blocks. -/
def unblocked : AgentState := { shutdown := true, auth_error := true, first_sync := true, configs := [[]] }

theorem unblocked_unblocked : unblocked.Unblocked where
  events event := by cases event <;> rfl
  configured := List.cons_ne_nil _ _

/-- A scene, whatever was called before. -/
def Scene.oracle (scene : Scene) : Oracle agentSig PyExc := fun _ o => scene.still unblocked o

theorem Scene.oracle_possible (scene : Scene) (cs : List AgentCall) (o : AgentOp) : Possible o (scene.oracle cs o) :=
  ⟨unblocked, scene.answers_still unblocked_unblocked o⟩

/-- A registered agent whose secret is revoked when it starts. -/
def revokedAtStart : Start where
  setup := smallSetup
  fuel_pos := by decide
  answer := Scene.oracle { credentials := registered, get_config := some ⟨401, .notJson⟩ }
  possible := Scene.oracle_possible _

/-- It returns 1. -/
theorem revokedAtStart_not_table : ¬ ∀ start : Start, start.Table := by
  intro h
  obtain ⟨client, hfetch⟩ : ∃ client : DashboardClient, (⟨.getConfig client, .ok ⟨401, .notJson⟩⟩ : AgentCall) ∈
      revokedAtStart.log := ⟨_, List.mem_of_getLast? rfl⟩
  obtain ⟨htwo, -⟩ := (h revokedAtStart).unauthorized _ hfetch rfl
  have hone : revokedAtStart.result = some (.ok exitBootstrapFailure) := rfl
  exact absurd (htwo.symm.trans hone) (by decide)

end CertWatch
