/-
# `CertWatch.StartupLabel` — the label of each cycle, over whole runs of the check thread.

A run of the loop is a sequence of cycles with waits between them.  Whether a cycle is still labelled as the startup
depends on how the cycles before it ended, and the dashboard may have settled a report whose cycle then ends with an
exception.  The labels are right in a run exactly when no cycle of the startup that is followed by another one does.
-/
import CertWatch.ActionConfigs
import CertWatch.ReplayOrder
import CertWatch.ScriptedAgent
import CertWatch.ScriptedRetry
import CertWatch.SurfacingPrograms
import CertWatch.Lib.Settlement

namespace CertWatch

open CertWatch.Lib

/-! ## Cycles -/

/-- A cycle: its label, its calls, and how it ended if it did. -/
structure CycleRecord where
  report_type : String
  calls : List AgentCall
  outcome : Option (Except PyExc SubmissionStatus)

section

variable (rt : Runtime) (client : DashboardClient)

/-- What the loop does after a cycle and before the next one. -/
def betweenCycles (outcome : Except PyExc SubmissionStatus) : Agent Bool :=
  if isAuthFailure outcome then signalAuthError.bind fun _ => .ret true else waitInterval rt "check_seconds"

/-- A run of the loop: its calls, and the cycles that they make up. -/
inductive CheckRun : Nat → Bool → List AgentCall → List CycleRecord → Prop where
  | idle (fuel : Nat) (is_first_cycle : Bool) : CheckRun fuel is_first_cycle [] []
  | stopping (fuel : Nat) (is_first_cycle : Bool) (r : Except PyExc Bool) :
    CheckRun (fuel + 1) is_first_cycle [⟨.isSet .shutdown, r⟩] []
  | running {fuel : Nat} {is_first_cycle : Bool} {calls : List AgentCall} {p : Agent SubmissionStatus}
    (hcycle : (cycleAndStats rt client (cycleReportType is_first_cycle) fuel).Trace calls p) (hrunning : p.Running) :
    CheckRun (fuel + 1) is_first_cycle (⟨.isSet .shutdown, .ok false⟩ :: calls)
      [⟨cycleReportType is_first_cycle, calls, none⟩]
  | waiting {fuel : Nat} {is_first_cycle : Bool} {calls rest : List AgentCall} {p : Agent Bool}
    {outcome : Except PyExc SubmissionStatus}
    (hcycle : (cycleAndStats rt client (cycleReportType is_first_cycle) fuel).Trace calls (.ofExcept outcome))
    (hrest : (betweenCycles rt outcome).Trace rest p) :
    CheckRun (fuel + 1) is_first_cycle (⟨.isSet .shutdown, .ok false⟩ :: calls ++ rest)
      [⟨cycleReportType is_first_cycle, calls, some outcome⟩]
  | next {fuel : Nat} {is_first_cycle : Bool} {calls rest cs : List AgentCall} {cycles : List CycleRecord}
    {outcome : Except PyExc SubmissionStatus}
    (hcycle : (cycleAndStats rt client (cycleReportType is_first_cycle) fuel).Trace calls (.ofExcept outcome))
    (hrest : (betweenCycles rt outcome).Trace rest (.ret false))
    (hcycles : CheckRun fuel (stillFirstCycle is_first_cycle outcome) cs cycles) :
    CheckRun (fuel + 1) is_first_cycle (⟨.isSet .shutdown, .ok false⟩ :: calls ++ rest ++ cs)
      (⟨cycleReportType is_first_cycle, calls, some outcome⟩ :: cycles)

variable {rt client}

/-- The loop, one round at a time. -/
theorem checkLoop_succ (fuel : Nat) (is_first_cycle : Bool) : checkLoop rt client (fuel + 1) is_first_cycle =
    (agentCall (.isSet .shutdown)).bind fun stopping => if stopping then .ret () else
      (cycleAndStats rt client (cycleReportType is_first_cycle) fuel).attempt.bind fun outcome =>
        (betweenCycles rt outcome).bind fun woke_early =>
          if woke_early then .ret () else checkLoop rt client fuel (stillFirstCycle is_first_cycle outcome) := by
  have hrest (outcome : Except PyExc SubmissionStatus) : (betweenCycles rt outcome).bind (fun woke_early =>
      if woke_early then .ret () else checkLoop rt client fuel (stillFirstCycle is_first_cycle outcome)) =
        if isAuthFailure outcome then signalAuthError else (waitInterval rt "check_seconds").bind fun woke_early =>
          if woke_early then .ret () else checkLoop rt client fuel (stillFirstCycle is_first_cycle outcome) := by
    unfold betweenCycles
    split_ifs
    · exact (Prog.bind_assoc _ _ _).trans (Prog.bind_ret signalAuthError)
    · rfl
  simp only [hrest]
  rfl

/-- A trace that ends in a cycle or with it. -/
theorem cycles_of_cycle {fuel : Nat} {is_first_cycle : Bool} {calls : List AgentCall} {q : Agent SubmissionStatus}
    (hcycle : (cycleAndStats rt client (cycleReportType is_first_cycle) fuel).Trace calls q) :
    ∃ cycles, CheckRun rt client (fuel + 1) is_first_cycle (⟨.isSet .shutdown, .ok false⟩ :: calls) cycles := by
  have hended {outcome : Except PyExc SubmissionStatus} (hq : q = .ofExcept outcome) :
      ∃ cycles, CheckRun rt client (fuel + 1) is_first_cycle (⟨.isSet .shutdown, .ok false⟩ :: calls) cycles := by
    subst hq
    have hrun := CheckRun.waiting hcycle (.nil _)
    rw [List.append_nil] at hrun
    exact ⟨_, hrun⟩
  cases q with
  | ret status => exact @hended (.ok status) rfl
  | raise e => exact @hended (.error e) rfl
  | hang => exact ⟨_, .running hcycle trivial⟩
  | call o k => exact ⟨_, .running hcycle trivial⟩

/-- **Every trace of the loop is a run**, and makes up cycles. -/
theorem checkRun_of_trace {fuel : Nat} {is_first_cycle : Bool} {cs : List AgentCall} {p : Agent Unit}
    (h : (checkLoop rt client fuel is_first_cycle).Trace cs p) :
    ∃ cycles, CheckRun rt client fuel is_first_cycle cs cycles := by
  induction fuel generalizing is_first_cycle cs p with
  | zero =>
    obtain ⟨rfl, -⟩ := Prog.trace_still (fun o k hcall => by cases hcall) h
    exact ⟨[], .idle 0 is_first_cycle⟩
  | succ fuel ih =>
    rw [checkLoop_succ] at h
    obtain ⟨p', hstop, -⟩ | ⟨stopping, cs₁, cs₂, hstop, hround, rfl⟩ := Prog.trace_bind h
    · obtain ⟨rfl, -⟩ | ⟨r, rfl, -⟩ := Prog.trace_perform hstop
      · exact ⟨[], .idle _ _⟩
      · exact ⟨[], .stopping fuel is_first_cycle r⟩
    obtain ⟨-, hend⟩ | ⟨r, rfl, hr⟩ := Prog.trace_perform hstop
    · cases hend
    cases r with
    | error e => cases hr
    | ok stopping' =>
      obtain rfl := Prog.ret.inj hr
      cases stopping with
      | true =>
        obtain ⟨rfl, -⟩ := Prog.trace_still (fun o k hcall => by cases hcall) hround
        exact ⟨[], .stopping fuel is_first_cycle (.ok true)⟩
      | false =>
        obtain ⟨p', hattempt, -⟩ | ⟨outcome, calls, cs₃, hattempt, hbetween, rfl⟩ := Prog.trace_bind hround
        · -- the cycle is the last thing that the trace has seen
          obtain ⟨q, hcycle, -⟩ := Prog.trace_attempt hattempt
          exact cycles_of_cycle hcycle
        · obtain ⟨q, hcycle, hq⟩ := Prog.trace_attempt hattempt
          obtain rfl := Prog.attempt_eq_ret.mp hq.symm
          obtain ⟨p', hrest, -⟩ | ⟨woke_early, rest, cs₄, hrest, hloop, rfl⟩ := Prog.trace_bind hbetween
          · have hrun := CheckRun.waiting hcycle hrest
            exact ⟨_, hrun⟩
          cases woke_early with
          | true =>
            obtain ⟨rfl, -⟩ := Prog.trace_still (fun o k hcall => by cases hcall) hloop
            have hrun := CheckRun.waiting hcycle hrest
            rw [List.append_nil]
            exact ⟨_, hrun⟩
          | false =>
            obtain ⟨cycles, hcycles⟩ := ih hloop
            have hrun := CheckRun.next hcycle hrest hcycles
            rw [List.append_assoc] at hrun
            exact ⟨_, hrun⟩

/-- A cycle, and what follows it in the loop. -/
theorem trace_of_cycle {fuel : Nat} {is_first_cycle : Bool} {calls rest : List AgentCall} {p : Agent Bool}
    {outcome : Except PyExc SubmissionStatus}
    (hcycle : (cycleAndStats rt client (cycleReportType is_first_cycle) fuel).Trace calls (.ofExcept outcome))
    (hrest : (betweenCycles rt outcome).Trace rest p) : (checkLoop rt client (fuel + 1) is_first_cycle).Trace
      (⟨.isSet .shutdown, .ok false⟩ :: calls ++ rest) (p.bind fun woke_early =>
        if woke_early then .ret () else checkLoop rt client fuel (stillFirstCycle is_first_cycle outcome)) := by
  have hcycle' := hcycle.attempt
  rw [Prog.attempt_eq_ret.mpr rfl] at hcycle'
  rw [checkLoop_succ]
  exact Prog.Trace.cons (S := agentSig) (o := .isSet .shutdown) (.ok false)
    ((hcycle'.bind _).append (hrest.bind _))

/-- **Every run is one of the loop.** -/
theorem CheckRun.trace {fuel : Nat} {is_first_cycle : Bool} {cs : List AgentCall} {cycles : List CycleRecord}
    (h : CheckRun rt client fuel is_first_cycle cs cycles) :
    ∃ p, (checkLoop rt client fuel is_first_cycle).Trace cs p := by
  induction h with
  | idle => exact ⟨_, .nil _⟩
  | stopping fuel is_first_cycle r =>
    rw [checkLoop_succ]
    exact ⟨_, Prog.Trace.cons (S := agentSig) (o := .isSet .shutdown) r (.nil _)⟩
  | running hcycle _ =>
    rw [checkLoop_succ]
    exact ⟨_, Prog.Trace.cons (S := agentSig) (o := .isSet .shutdown) (.ok false) (hcycle.attempt.bind _)⟩
  | waiting hcycle hrest => exact ⟨_, trace_of_cycle hcycle hrest⟩
  | next hcycle hrest _ ih =>
    obtain ⟨p, hloop⟩ := ih
    exact ⟨p, (trace_of_cycle hcycle hrest).append hloop⟩

end

/-! ## Settled reports -/

/-- The dashboard has accepted the report, or rejected it for good. -/
def settles : Except PyExc HttpResponse → Bool
  | .ok resp => (settledStatus resp.status).isSome
  | .error _ => false

/-- The client can read what it needs of such an answer: the object of a 2xx, and the body of a 409 unless it is
falsy. -/
def readable : Except PyExc HttpResponse → Bool
  | .ok ⟨status, body⟩ =>
    if 200 ≤ status ∧ status < 300 then match body with
      | .json v => v.isObj
      | .notJson => false
    else if status = 409 then match body with
      | .json v => !v.truthy || v.isObj
      | .notJson => true
    else true
  | .error _ => true

/-- The call is a submission that settles the report. -/
def settledBy : (o : AgentOp) → Except PyExc o.Ret → Bool
  | .queue (.submit _ _), r => settles r
  | _, _ => false

/-- The answer to the call can be read. -/
def readableBy : (o : AgentOp) → Except PyExc o.Ret → Bool
  | .queue (.submit _ _), r => readable r
  | _, _ => true

/-- The call raises, and not because the file that it deletes is gone. -/
def failsBy : (o : AgentOp) → Except PyExc o.Ret → Bool
  | .queue (.unlink _), .error (.os ⟨.fileNotFound, _⟩) => false
  | _, .error _ => true
  | _, .ok _ => false

/-- A report, settled by an answer of the dashboard. -/
def settlement : Settlement AgentCall where
  settles c := settledBy c.op c.answer
  sound c := readableBy c.op c.answer
  fails c := failsBy c.op c.answer

/-! ## How a part of a cycle ends -/

/-- Follows a report through its cycle; whatever is submitted carries the label of the cycle. -/
def labelMonitor (report_type : String) : Monitor agentSig PyExc Settlement.Phase where
  possible := Possible
  allows
    | _, .queue (.submit _ body) => body.report_type = .str report_type
    | _, _ => True
  next q o r := settlement.next q ⟨o, r⟩

variable {α β : Type} {report_type : String}

/-- The end of a part that begins with a settled report: one of these results, or an exception if something goes
wrong. -/
def EndSettled (fine : α → Prop) (q : Settlement.Phase) (x : Except PyExc α) : Prop :=
  (q = .settled ∧ ∃ a, x = .ok a ∧ fine a) ∨ (q = .spoilt ∧ ∃ e, x = .error e)

/-- The end of a part in which the report may be settled. -/
def EndPending (early fine : α → Prop) (q : Settlement.Phase) (x : Except PyExc α) : Prop :=
  (q = .pending ∧ ∀ a, x = .ok a → early a) ∨ EndSettled fine q x

section Rules

variable {S : Sig} {M : Monitor S PyExc Settlement.Phase} {p : Prog S PyExc α} {f : α → Prog S PyExc β}
  {early fine : α → Prop} {early' fine' : β → Prop}

theorem endSettled_bind (hp : p.Obeys M (EndSettled fine) .settled)
    (hf : ∀ a, fine a → (f a).Obeys M (EndSettled fine') .settled) :
    (p.bind f).Obeys M (EndSettled fine') .settled := by
  refine hp.bind (fun q a hq => ?_) fun q e hq => ?_
  · obtain ⟨rfl, a', ha, hfine⟩ | ⟨-, e, he⟩ := hq
    · obtain rfl := Except.ok.inj ha
      exact hf a hfine
    · cases he
  · obtain ⟨-, a, ha, -⟩ | ⟨rfl, -⟩ := hq
    · cases ha
    · exact .inr ⟨rfl, e, rfl⟩

theorem endPending_bind (hp : p.Obeys M (EndPending early fine) .pending)
    (hearly : ∀ a, early a → (f a).Obeys M (EndPending early' fine') .pending)
    (hfine : ∀ a, fine a → (f a).Obeys M (EndSettled fine') .settled) :
    (p.bind f).Obeys M (EndPending early' fine') .pending := by
  refine hp.bind (fun q a hq => ?_) fun q e hq => ?_
  · obtain ⟨rfl, ha⟩ | ⟨rfl, a', ha, ha'⟩ | ⟨-, e, he⟩ := hq
    · exact hearly a (ha a rfl)
    · obtain rfl := Except.ok.inj ha
      exact (hfine a ha').mono fun q x hx => .inr hx
    · cases he
  · obtain ⟨rfl, -⟩ | ⟨-, a, ha, -⟩ | ⟨rfl, -⟩ := hq
    · exact .inl ⟨rfl, nofun⟩
    · cases ha
    · exact .inr (.inr ⟨rfl, e, rfl⟩)

/-- A part that leaves the cycle where it is. -/
theorem pending_bind (hp : p.Obeys M (fun q _ => q = .pending) .pending)
    (hf : ∀ a, (f a).Obeys M (EndPending early' fine') .pending) :
    (p.bind f).Obeys M (EndPending early' fine') .pending := by
  refine hp.bind (fun q a hq => ?_) fun q e hq => .inl ⟨hq, nofun⟩
  rw [hq]
  exact hf a

end Rules

/-! ### Calls -/

/-- The call does not submit a report. -/
def AgentOp.isSilent : AgentOp → Bool
  | .queue (.submit _ _) => false
  | _ => true

/-- The call neither submits a report nor deletes one. -/
def AgentOp.leavesReport : AgentOp → Bool
  | .queue (.submit _ _) => false
  | .queue (.unlink _) => false
  | _ => true

theorem isSilent_of_leavesReport {o : AgentOp} (h : o.leavesReport = true) : o.isSilent = true := by
  cases o with
  | queue o => cases o <;> first | rfl | cases h
  | _ => rfl

theorem settledBy_of_isSilent {o : AgentOp} (h : o.isSilent = true) (r : Except PyExc o.Ret) :
    settledBy o r = false := by
  cases o with
  | queue o => cases o <;> first | rfl | cases h
  | _ => rfl

theorem allows_of_isSilent {o : AgentOp} (h : o.isSilent = true) (q : Settlement.Phase) :
    (labelMonitor report_type).allows q o := by
  cases o with
  | queue o => cases o <;> trivial
  | _ => trivial

theorem failsBy_error {o : AgentOp} (h : o.leavesReport = true) (e : PyExc) : failsBy o (.error e) = true := by
  cases o with
  | queue o => cases o <;> first | rfl | cases h
  | _ => rfl

theorem failsBy_ok {o : AgentOp} (a : o.Ret) : failsBy o (.ok a) = false := by
  cases o with
  | queue o => cases o <;> rfl
  | _ => rfl

/-- A silent call settles nothing. -/
theorem next_silent {o : AgentOp} (h : o.isSilent = true) (r : Except PyExc o.Ret) :
    settlement.next .pending ⟨o, r⟩ = .pending := by
  have hsettles : settlement.settles ⟨o, r⟩ = false := settledBy_of_isSilent h r
  simp only [Settlement.next, hsettles]
  rfl

/-- A plain call spoils a settled cycle if it fails. -/
theorem next_plain {o : AgentOp} (h : o.leavesReport = true) (r : Except PyExc o.Ret) :
    EndSettled (fun _ => True) (settlement.next .settled ⟨o, r⟩) r := by
  have hsettles : settlement.settles ⟨o, r⟩ = false := settledBy_of_isSilent (isSilent_of_leavesReport h) r
  cases r with
  | ok a =>
    have hfails : settlement.fails ⟨o, .ok a⟩ = false := failsBy_ok a
    simp only [Settlement.next, hsettles, hfails]
    exact .inl ⟨rfl, a, rfl, trivial⟩
  | error e =>
    have hfails : settlement.fails ⟨o, .error e⟩ = true := failsBy_error h e
    simp only [Settlement.next, hfails]
    exact .inr ⟨rfl, e, rfl⟩

theorem pending_agentCall {o : AgentOp} (h : o.isSilent = true) :
    (agentCall o).Obeys (labelMonitor report_type) (fun q _ => q = .pending) .pending :=
  Prog.obeys_perform.mpr ⟨allows_of_isSilent h _, fun r _ => next_silent h r⟩

theorem endSettled_agentCall {o : AgentOp} (h : o.leavesReport = true) :
    (agentCall o).Obeys (labelMonitor report_type) (EndSettled fun _ => True) .settled :=
  Prog.obeys_perform.mpr ⟨allows_of_isSilent (isSilent_of_leavesReport h) _, fun r _ => next_plain h r⟩

/-- Before its report is settled a silent part leaves a cycle where it is. -/
theorem pending_of_silent {S : Sig} (E : Embedding S agentSig) {p : Prog S PyExc α}
    (h : p.Only fun o => (E.op o).isSilent = true) :
    p.Obeys ((labelMonitor report_type).comap E) (fun q _ => q = .pending) .pending :=
  Prog.Only.obeys h (fun _ ho => ⟨allows_of_isSilent ho _, fun _ _ => next_silent ho _⟩) trivial

/-! ### The retry loop -/

/-- What the label monitor sees of the queue. -/
abbrev queueLabelMonitor (report_type : String) : Monitor queueSig PyExc Settlement.Phase :=
  (labelMonitor report_type).comap queueCalls

/-- Programs over the queue that submit nothing. -/
abbrev Silent (p : Queue α) : Prop := p.Only fun o => (queueCalls.op o).isSilent = true

theorem silent_call {o : QueueOp} (h : (AgentOp.queue o).isSilent = true) : Silent (queueCall o) :=
  Prog.only_perform (S := queueSig) h

theorem silent_of_fileCalls {p : Queue α} (h : FileCalls p) : Silent p :=
  h.only.mono fun o ho => by cases o <;> first | rfl | cases ho

theorem endSettled_queueCall {o : QueueOp} (h : (AgentOp.queue o).leavesReport = true) :
    (queueCall o).Obeys (queueLabelMonitor report_type) (EndSettled fun _ => True) .settled := by
  refine Prog.obeys_perform.mpr ⟨allows_of_isSilent (isSilent_of_leavesReport h) _, fun r _ => ?_⟩
  cases r with
  | ok a => exact @next_plain (.queue o) h (.ok a)
  | error e => exact @next_plain (.queue o) h (.error e)

/-- A report that is gone already is as good as deleted. -/
theorem endSettled_delete (path : String) :
    (deletePendingReport path).Obeys (queueLabelMonitor report_type) (EndSettled fun _ => True) .settled := by
  refine Prog.obeys_tryCatch.mpr (Prog.obeys_perform.mpr ⟨trivial, fun r _ => ?_⟩)
  cases r with
  | ok a => exact .inl ⟨rfl, (), rfl, trivial⟩
  | error e =>
    have hspoilt (h : failsBy (.queue (.unlink path)) (.error e) = true) :
        EndSettled (fun _ : Unit => True) (settlement.next .settled ⟨.queue (.unlink path), .error e⟩) (.error e) := by
      have hfails : settlement.fails ⟨.queue (.unlink path), .error e⟩ = true := h
      simp only [Settlement.next, hfails]
      exact .inr ⟨rfl, e, rfl⟩
    cases e with
    | os e =>
      obtain ⟨kind, text⟩ := e
      cases kind with
      | fileNotFound => exact .inl ⟨rfl, (), rfl, trivial⟩
      | _ => exact hspoilt rfl
    | _ => exact hspoilt rfl

/-- The end of an attempt that settles the report. -/
theorem endSettled_finishAttempt (path : String) (started_mono : Rat) {status : SubmissionStatus} (attempts : Int)
    (summary : Json) (hstatus : status ≠ .shutdown) :
    (finishAttempt path started_mono status attempts summary).Obeys (queueLabelMonitor report_type)
      (EndSettled fun res => res.status ≠ .shutdown) .settled := by
  refine endSettled_bind (endSettled_delete path) fun _ _ => ?_
  exact endSettled_bind (endSettled_queueCall rfl) fun now _ => .inl ⟨rfl, _, rfl, hstatus⟩

section RetryLoop

variable {path : String} {wire : Dict} {started_mono : Rat} {attempts : Int} {retry : Queue ReportSubmissionResult}

/-- **What an answer that settles nothing makes of the attempt**: it is waited out, or an exception. -/
theorem handleOutcome_unsettled (client : DashboardClient) {r : Except PyExc HttpResponse} (hr : Foreign r)
    (h : settles r = false) :
    (∃ e : DashboardError, requestOutcome "POST" client.reportsPath r = .error (.dashboard e) ∧
      e.kind.isRetriable = true) ∨
    ∃ e, handleOutcome true path wire started_mono attempts retry (requestOutcome "POST" client.reportsPath r) =
      .raise e := by
  cases r with
  | error e =>
    have hforeign := hr e rfl
    cases e with
    | requests => exact .inl ⟨_, rfl, rfl⟩
    | dashboard e => cases hforeign
    | _ => exact .inr ⟨_, rfl⟩
  | ok resp =>
    cases hretriable : retriable (some resp) with
    | true => exact .inl (attemptResult_retriable hretriable)
    | false =>
      have hnone : settledStatus resp.status = none := Option.isSome_eq_false_iff.mp h |> Option.isNone_iff_eq_none.mp
      have hfinishes := @finishesWhen_settled client true path wire started_mono attempts retry resp hretriable
      have hraises : ¬ Digested wire (some resp) := by
        intro hdigested
        obtain ⟨status, summary, hstatus, -⟩ := hfinishes.1 hdigested
        cases hnone.symm.trans hstatus
      obtain ⟨e, hprogram, -⟩ := hfinishes.2 hraises
      exact .inr ⟨e, hprogram⟩

/-- After an error that is waited out, the loop goes on or shutdown ends it. -/
theorem endPending_backoff {e : DashboardError} (h : e.kind.isRetriable = true)
    (hretry : retry.Obeys (queueLabelMonitor report_type)
      (EndPending (fun res => res.status = .shutdown) fun res => res.status ≠ .shutdown) .pending) :
    (handleOutcome true path wire started_mono attempts retry (.error (.dashboard e))).Obeys
      (queueLabelMonitor report_type) (EndPending (fun res => res.status = .shutdown) fun res => res.status ≠ .shutdown)
      .pending := by
  obtain ⟨kind, message, code, request_id, status_code, body⟩ := e
  cases kind with
  | server | network | rateLimit =>
    have hwait : Silent (backoffWait true (backoffDelay attempts)) := silent_call rfl
    refine pending_bind (pending_of_silent queueCalls hwait) fun woke_early => ?_
    split_ifs
    · refine pending_bind (pending_of_silent queueCalls (silent_call rfl)) fun now => .inl ⟨rfl, fun res hres => ?_⟩
      obtain rfl := Except.ok.inj hres
      rfl
    · exact hretry
  | _ => cases h

/-- An answer that settles the report is digested when it can be read. -/
theorem digested_iff_readable {resp : HttpResponse} (h : settles (.ok resp) = true)
    (hchecks : ∃ n, ((Dict.getD wire "checks" (.arr [])).or (.arr [])).len = .ok n) :
    Digested wire (some resp) ↔ readable (.ok resp) = true := by
  obtain ⟨status, body⟩ := resp
  by_cases h2xx : 200 ≤ status ∧ status < 300
  · have hother : status ≠ 400 ∧ status ≠ 409 ∧ status ≠ 413 := by omega
    simp only [readable, if_pos h2xx]
    cases body with
    | notJson => simp [Digested, hother]
    | json v => cases v <;> simp [Digested, h2xx, hother, Json.isObj]
  · have hstatus : status = 409 ∨ status = 400 ∨ status = 413 := by
      simp only [settles, settledStatus, if_neg h2xx] at h
      split_ifs at h with h409 hrejected
      · exact .inl h409
      · exact .inr hrejected
      · cases h
    simp only [readable, if_neg h2xx]
    rcases hstatus with rfl | rfl | rfl
    · cases body with
      | notJson => simp [Digested]
      | json v => cases htruthy : v.truthy <;> simp [Digested, htruthy]
    · simp [Digested]
    · simp [Digested, hchecks]

/-- **What an answer that settles the report makes of the attempt**: it is finished, unless the answer cannot be
read. -/
theorem handleOutcome_settled (client : DashboardClient) {resp : HttpResponse} (h : settles (.ok resp) = true)
    (hchecks : ∃ n, ((Dict.getD wire "checks" (.arr [])).or (.arr [])).len = .ok n) :
    (readable (.ok resp) = true → ∃ status summary, status ≠ SubmissionStatus.shutdown ∧
      handleOutcome true path wire started_mono attempts retry (handleResponse "POST" client.reportsPath resp) =
        finishAttempt path started_mono status attempts summary) ∧
    (readable (.ok resp) = false → ∃ e,
      handleOutcome true path wire started_mono attempts retry (handleResponse "POST" client.reportsPath resp) =
        .raise e) := by
  have hsettled : retriable (some resp) = false := by
    simp only [settles, settledStatus] at h
    simp only [retriable]
    split_ifs at h <;> grind
  have hfinishes := @finishesWhen_settled client true path wire started_mono attempts retry resp hsettled
  have hdigested := digested_iff_readable h hchecks
  constructor
  · intro hreadable
    obtain ⟨status, summary, hstatus, hprogram⟩ := hfinishes.1 (hdigested.mpr hreadable)
    exact ⟨status, summary, settledStatus_ne_shutdown hstatus, hprogram⟩
  · intro hunreadable
    obtain ⟨e, hprogram, -⟩ := hfinishes.2 fun hd => by cases hunreadable.symm.trans (hdigested.mp hd)
    exact ⟨e, hprogram⟩

/-- **The retry loop settles its report in one answer**, and ends with that. -/
theorem endPending_retryLoop (client : DashboardClient)
    {body : ReportBody} (hwire : wireBody wire = .ok body) (hbody : body.report_type = .str report_type)
    (hchecks : ∃ n, ((Dict.getD wire "checks" (.arr [])).or (.arr [])).len = .ok n) (fuel : Nat) :
    (retryLoopForPath client true path wire started_mono fuel).Obeys (queueLabelMonitor report_type)
      (EndPending (fun res => res.status = .shutdown) fun res => res.status ≠ .shutdown) .pending := by
  induction fuel with
  | zero => trivial
  | succ fuel ih =>
    refine pending_bind (pending_of_silent queueCalls (silent_of_fileCalls (fileCalls_incrementAttempts path)))
      fun attempts => ?_
    refine Prog.obeys_bind.mpr (Prog.obeys_attempt.mpr (Prog.obeys_bind.mpr (Prog.obeys_ofExcept.mpr ?_)))
    rw [hwire]
    refine obeys_request.mpr (Prog.obeys_perform.mpr ⟨hbody, fun r hr => ?_⟩)
    have hnext : (queueLabelMonitor report_type).next .pending (.submit path body) r =
        if settles r then if readable r then .settled else .spoilt else .pending := by
      cases r <;> rfl
    show (handleOutcome true path wire started_mono attempts (retryLoopForPath client true path wire started_mono fuel)
      (requestOutcome "POST" client.reportsPath r)).Obeys _ _ ((queueLabelMonitor report_type).next .pending _ r)
    rw [hnext]
    cases hsettles : settles r with
    | false =>
      have hforeign : Foreign r := foreign_of_map (Possible.foreign hr)
      obtain ⟨e, houtcome, hretriable⟩ | ⟨e, hprogram⟩ := @handleOutcome_unsettled path wire started_mono attempts
        (retryLoopForPath client true path wire started_mono fuel) client r hforeign hsettles
      · rw [houtcome]
        exact endPending_backoff hretriable ih
      · rw [hprogram]
        exact .inl ⟨rfl, nofun⟩
    | true =>
      cases r with
      | error e => cases hsettles
      | ok resp =>
        obtain ⟨hfinish, hraise⟩ := @handleOutcome_settled path wire started_mono attempts
          (retryLoopForPath client true path wire started_mono fuel) client resp hsettles hchecks
        cases hreadable : readable (.ok resp) with
        | true =>
          obtain ⟨status, summary, hstatus, hprogram⟩ := hfinish hreadable
          rw [requestOutcome, hprogram]
          exact (endSettled_finishAttempt path started_mono attempts summary hstatus).mono fun q x hx => .inr hx
        | false =>
          obtain ⟨e, hprogram⟩ := hraise hreadable
          rw [requestOutcome, hprogram]
          exact .inr (.inr ⟨rfl, e, rfl⟩)

end RetryLoop

/-! ### The cycle -/

/-- Every check of a report has a status. -/
theorem countStatus_buildChecks {rt : Runtime} {results : Results} {entries : List HostEntry} {checks : List Dict}
    (h : buildChecks rt results entries = .ok checks) (counted : Json → Bool) :
    ∃ n, countStatus counted checks = .ok n := by
  induction entries generalizing checks with
  | nil =>
    obtain rfl := Except.ok.inj h
    exact ⟨0, rfl⟩
  | cons entry entries ih =>
    unfold buildChecks at h
    cases hresult : results.lookup entry.identity_key with
    | none =>
      rw [hresult] at h
      exact ih h
    | some result =>
      rw [hresult] at h
      obtain ⟨check, hcheck, h⟩ := except_bind_ok h
      obtain ⟨checks', hchecks, h⟩ := except_bind_ok h
      obtain rfl := Except.ok.inj h
      obtain ⟨n, hn⟩ := ih hchecks
      have hstatus : ∃ status, check.getItem "status" = .ok status := by
        unfold buildPayloadForEntry at hcheck
        split at hcheck
        · obtain rfl := Except.ok.inj hcheck
          exact ⟨_, rfl⟩
        · obtain rfl := Except.ok.inj hcheck
          exact ⟨_, rfl⟩
        · cases hcheck
      obtain ⟨status, hstatus⟩ := hstatus
      simp only [countStatus, hstatus, hn]
      exact ⟨_, rfl⟩

/-- Nothing is submitted yet, and the checks can be counted. -/
def Countable (q : Settlement.Phase) (x : Except PyExc (List Dict)) : Prop :=
  q = .pending ∧ ∀ checks, x = .ok checks → ∀ counted, ∃ n, countStatus counted checks = .ok n

/-- What the label monitor sees of a cycle. -/
abbrev cycleLabelMonitor (report_type : String) : Monitor cycleSig PyExc Settlement.Phase :=
  (labelMonitor report_type).comap cycleCalls

theorem pending_cycleCall {o : CycleOp} (h : (cycleCalls.op o).isSilent = true) :
    (cycleCall o).Obeys (cycleLabelMonitor report_type) (fun q _ => q = .pending) .pending :=
  pending_of_silent cycleCalls (Prog.only_perform (S := cycleSig) h)

theorem countable_checkHosts (rt : Runtime) (config : Dict) (netbox_hosts : List DiscoveredHost) :
    (checkHosts rt config netbox_hosts).Obeys (cycleLabelMonitor report_type) Countable .pending := by
  refine Prog.obeys_ofExcept_bind (fun to_check _ => ?_) fun e _ => ⟨rfl, nofun⟩
  refine Prog.obeys_ofExcept_bind (fun threshold _ => ?_) fun e _ => ⟨rfl, nofun⟩
  split_ifs
  · refine ⟨rfl, fun checks hchecks counted => ⟨0, ?_⟩⟩
    obtain rfl := Except.ok.inj hchecks
    rfl
  · refine Prog.obeys_ofExcept_bind (fun settings _ => ?_) fun e _ => ⟨rfl, nofun⟩
    refine (pending_cycleCall rfl).bind (fun q results hq => ?_) fun q e hq => ⟨hq, nofun⟩
    exact Prog.obeys_ofExcept.mpr ⟨hq, fun checks hchecks => countStatus_buildChecks hchecks⟩

/-- The submission of the cycle's report. -/
theorem endPending_submitReportWithRetry (client : DashboardClient) (fuel : Nat) (args : ReportArgs) :
    (submitReportWithRetry client true fuel args).Obeys (queueLabelMonitor args.report_type)
      (EndPending (fun res => res.status = .shutdown) fun res => res.status ≠ .shutdown) .pending := by
  have hsave : Silent (savePendingReport args.report_id args.payload) :=
    (silent_call rfl).bind fun _ => (silent_call rfl).bind fun _ =>
      (silent_of_fileCalls (fileCalls_atomicWriteJson _ _)).bind fun _ => trivial
  refine pending_bind (pending_of_silent queueCalls (silent_call rfl)) fun started_mono => ?_
  refine pending_bind (pending_of_silent queueCalls hsave) fun path => ?_
  exact endPending_retryLoop client (wireBody_payload args) rfl (payload_checks_len args) fuel

/-- **A cycle ends as its submission does**, and its checks can be counted. -/
theorem endPending_runOneCycle (rt : Runtime) (client : DashboardClient) (config : Dict)
    (netbox_hosts : List DiscoveredHost) (fuel : Nat) :
    (runOneCycle rt client config report_type netbox_hosts fuel).Obeys (cycleLabelMonitor report_type)
      (EndPending (fun res => res.submission_status = .shutdown) fun res =>
        res.submission_status ≠ .shutdown ∧ ∀ counted, ∃ n, countStatus counted res.checks = .ok n) .pending := by
  refine pending_bind (pending_cycleCall rfl) fun cycle_start => ?_
  refine pending_bind (pending_cycleCall rfl) fun started_at => ?_
  refine (countable_checkHosts rt config netbox_hosts).bind (fun q checks hq => ?_) fun q e hq => .inl ⟨hq.1, nofun⟩
  obtain ⟨rfl, hchecks⟩ := hq
  refine pending_bind (pending_cycleCall rfl) fun completed_at => ?_
  refine pending_bind (pending_cycleCall rfl) fun cycle_end => ?_
  refine pending_bind (pending_cycleCall rfl) fun report_id => ?_
  have hsubmit := endPending_submitReportWithRetry client fuel
    { report_id, report_type, started_at, completed_at, action_id := none, checks := checks.map .obj }
  refine endPending_bind (Obeys.onQueue hsubmit) (fun res hres => ?_) fun res hres => ?_
  · refine .inl ⟨rfl, fun cycle_result hresult => ?_⟩
    obtain rfl := Except.ok.inj hresult
    exact hres
  · exact .inl ⟨rfl, _, rfl, hres, hchecks checks rfl⟩

/-- So does the cycle with its statistics. -/
theorem endPending_cycleAndStats (rt : Runtime) (client : DashboardClient) (fuel : Nat) :
    (cycleAndStats rt client report_type fuel).Obeys (labelMonitor report_type)
      (EndPending (· = .shutdown) (· ≠ .shutdown)) .pending := by
  refine pending_bind (pending_agentCall rfl) fun netbox_hosts => ?_
  refine pending_bind (pending_agentCall rfl) fun config => ?_
  have hcycle := @endPending_runOneCycle report_type rt client config netbox_hosts fuel
  refine endPending_bind hcycle.embed (fun cycle_result hearly => ?_) fun cycle_result hfine => ?_
  · refine Prog.obeys_ofExcept_bind (fun succeeded _ => ?_) fun e _ => .inl ⟨rfl, nofun⟩
    refine Prog.obeys_ofExcept_bind (fun failed _ => ?_) fun e _ => .inl ⟨rfl, nofun⟩
    refine pending_bind (pending_agentCall rfl) fun _ => .inl ⟨rfl, fun status hstatus => ?_⟩
    exact (Except.ok.inj hstatus).symm.trans hearly
  · obtain ⟨hstatus, hcounts⟩ := hfine
    have hcount (counted : Json → Bool) : (Prog.ofExcept (countStatus counted cycle_result.checks)).Obeys
        (labelMonitor report_type) (EndSettled fun _ => True) .settled := by
      obtain ⟨n, hn⟩ := hcounts counted
      exact Prog.obeys_ofExcept.mpr (.inl ⟨rfl, n, hn, trivial⟩)
    refine endSettled_bind (hcount _) fun succeeded _ => endSettled_bind (hcount _) fun failed _ => ?_
    exact endSettled_bind (endSettled_agentCall rfl) fun _ _ => .inl ⟨rfl, _, rfl, hstatus⟩

/-! ## The labels of a run -/

/-- Whatever the cycle submits carries its label. -/
def CycleRecord.SentAsLabelled (c : CycleRecord) : Prop :=
  ∀ path body r, (⟨.queue (.submit path body), r⟩ : AgentCall) ∈ c.calls → body.report_type = .str c.report_type

/-- The labels are those of the startup, and then only scheduled ones. -/
def StartupThenScheduled (labels : List String) : Prop :=
  ∃ m n, labels = List.replicate m "startup" ++ List.replicate n "scheduled" ∧ (m = 0 → n = 0)

/-- Every cycle after one whose report was settled is a scheduled one. -/
def OnTime (cycles : List CycleRecord) : Prop :=
  ∀ pre c post, cycles = pre ++ c :: post → settlement.Settled c.calls → ∀ c' ∈ post, c'.report_type = "scheduled"

/-- If a cycle follows the first one whose report was settled, then nothing has gone wrong in that one: the answer
could be read, and no call after it raised. -/
def FirstSettledClean (cycles : List CycleRecord) : Prop :=
  ∀ pre c post, cycles = pre ++ c :: post → post ≠ [] → (∀ d ∈ pre, ¬ settlement.Settled d.calls) →
    settlement.Settled c.calls → settlement.Clean c.calls

theorem onTime_nil : OnTime [] := by
  intro pre c post hcycles
  cases pre <;> cases hcycles

theorem onTime_cons {c : CycleRecord} {cycles : List CycleRecord} : OnTime (c :: cycles) ↔
    (settlement.Settled c.calls → ∀ c' ∈ cycles, c'.report_type = "scheduled") ∧ OnTime cycles := by
  constructor
  · intro h
    exact ⟨h [] c cycles rfl, fun pre c' post hcycles => h (c :: pre) c' post (congrArg (c :: ·) hcycles)⟩
  · rintro ⟨hfirst, hrest⟩ pre c' post hcycles
    cases pre with
    | nil =>
      obtain ⟨rfl, rfl⟩ := List.cons.inj hcycles
      exact hfirst
    | cons d pre =>
      obtain ⟨rfl, rfl⟩ := List.cons.inj hcycles
      exact hrest pre c' post rfl

theorem firstSettledClean_nil : FirstSettledClean [] := by
  intro pre c post hcycles
  cases pre <;> cases hcycles

theorem firstSettledClean_of_settled {c : CycleRecord} {cycles : List CycleRecord} (h : settlement.Settled c.calls) :
    FirstSettledClean (c :: cycles) ↔ (cycles ≠ [] → settlement.Clean c.calls) := by
  constructor
  · intro hfirst hne
    exact hfirst [] c cycles rfl hne nofun h
  · intro hclean pre c' post hcycles hpost hpre _
    cases pre with
    | nil =>
      obtain ⟨rfl, rfl⟩ := List.cons.inj hcycles
      exact hclean hpost
    | cons d pre =>
      obtain ⟨rfl, -⟩ := List.cons.inj hcycles
      exact absurd h (hpre c List.mem_cons_self)

theorem firstSettledClean_of_unsettled {c : CycleRecord} {cycles : List CycleRecord}
    (h : ¬ settlement.Settled c.calls) : FirstSettledClean (c :: cycles) ↔ FirstSettledClean cycles := by
  constructor
  · intro hfirst pre c' post hcycles hpost hpre
    refine hfirst (c :: pre) c' post (congrArg (c :: ·) hcycles) hpost fun d hd => ?_
    rcases List.mem_cons.mp hd with rfl | hd
    · exact h
    · exact hpre d hd
  · intro hrest pre c' post hcycles hpost hpre hsettled
    cases pre with
    | nil =>
      obtain ⟨rfl, rfl⟩ := List.cons.inj hcycles
      exact absurd hsettled h
    | cons d pre =>
      obtain ⟨rfl, rfl⟩ := List.cons.inj hcycles
      exact hrest pre c' post rfl hpost (fun d' hd' => hpre d' (List.mem_cons_of_mem _ hd')) hsettled

/-- Nothing is said of the last cycle. -/
theorem onTime_iff_singleton (c : CycleRecord) : OnTime [c] ↔ FirstSettledClean [c] := by
  refine iff_of_true (onTime_cons.mpr ⟨fun _ => nofun, onTime_nil⟩) ?_
  by_cases h : settlement.Settled c.calls
  · exact (firstSettledClean_of_settled h).mpr fun hne => absurd rfl hne
  · exact (firstSettledClean_of_unsettled h).mpr firstSettledClean_nil

section

variable {rt : Runtime} {client : DashboardClient} {fuel : Nat} {calls : List AgentCall}

/-- What a cycle submits carries its label. -/
theorem sentAsLabelled_of_cycle {p : Agent SubmissionStatus} {outcome : Option (Except PyExc SubmissionStatus)}
    (h : (cycleAndStats rt client report_type fuel).Trace calls p) (hpossible : ∀ c ∈ calls, Possible c.op c.answer) :
    CycleRecord.SentAsLabelled ⟨report_type, calls, outcome⟩ := by
  intro path body r hmem
  obtain ⟨pre, post, hcalls⟩ := List.append_of_mem hmem
  obtain ⟨hlawful, -⟩ := (endPending_cycleAndStats rt client fuel).trace hpossible h
  rw [show calls = _ from hcalls] at hlawful
  exact ((labelMonitor report_type).lawful_at.mp hlawful).2.1

/-- **A cycle ends the startup exactly when it has settled its report** and nothing has gone wrong since. -/
theorem endsStartup_iff {outcome : Except PyExc SubmissionStatus}
    (h : (cycleAndStats rt client report_type fuel).Trace calls (.ofExcept outcome))
    (hpossible : ∀ c ∈ calls, Possible c.op c.answer) :
    stillFirstCycle true outcome = false ↔ settlement.Settled calls ∧ settlement.Clean calls := by
  obtain ⟨-, hobeys⟩ := (endPending_cycleAndStats rt client fuel).trace hpossible h
  have hend : EndPending (· = .shutdown) (· ≠ .shutdown) (settlement.after calls) outcome :=
    Prog.obeys_ofExcept.mp hobeys
  obtain ⟨hsettled, hclean⟩ := settlement.after_spec calls
  rw [← hsettled, ← hclean]
  obtain ⟨hpending, hearly⟩ | ⟨hphase, status, rfl, hstatus⟩ | ⟨hphase, e, rfl⟩ := hend
  · rw [hpending]
    refine iff_of_false (fun hends => ?_) fun hno => hno.1 rfl
    cases outcome with
    | error e => cases hends
    | ok status =>
      obtain rfl := hearly status rfl
      cases hends
  · rw [hphase]
    refine iff_of_true ?_ ⟨nofun, nofun⟩
    cases status with
    | shutdown => exact absurd rfl hstatus
    | _ => rfl
  · rw [hphase]
    exact iff_of_false nofun fun hno => hno.2 rfl

variable {is_first_cycle : Bool} {cs : List AgentCall} {cycles : List CycleRecord}

/-- Every cycle of a run is labelled by whether it still belongs to the startup. -/
theorem CheckRun.head_label {c : CycleRecord} (h : CheckRun rt client fuel is_first_cycle cs (c :: cycles)) :
    c.report_type = cycleReportType is_first_cycle := by
  cases h <;> rfl

theorem CheckRun.sentAsLabelled (h : CheckRun rt client fuel is_first_cycle cs cycles)
    (hpossible : ∀ c ∈ cs, Possible c.op c.answer) : ∀ c ∈ cycles, c.SentAsLabelled := by
  induction h with
  | idle | stopping => exact nofun
  | running hcycle _ =>
    intro c hc
    obtain rfl := List.mem_singleton.mp hc
    exact sentAsLabelled_of_cycle hcycle fun c hc => hpossible c (List.mem_cons_of_mem _ hc)
  | waiting hcycle _ =>
    intro c hc
    obtain rfl := List.mem_singleton.mp hc
    exact sentAsLabelled_of_cycle hcycle fun c hc =>
      hpossible c (List.mem_append_left _ (List.mem_cons_of_mem _ hc))
  | next hcycle _ _ ih =>
    intro c hc
    rcases List.mem_cons.mp hc with rfl | hc
    · exact sentAsLabelled_of_cycle hcycle fun c hc =>
        hpossible c (List.mem_append_left _ (List.mem_append_left _ (List.mem_cons_of_mem _ hc)))
    · exact ih (fun c hc => hpossible c (List.mem_append_right _ hc)) c hc

/-- Once the startup is over, it is over. -/
theorem CheckRun.scheduled (h : CheckRun rt client fuel false cs cycles) :
    ∀ c ∈ cycles, c.report_type = "scheduled" := by
  generalize hfirst : false = is_first_cycle at h
  induction h with
  | idle | stopping => exact nofun
  | running | waiting =>
    subst hfirst
    intro c hc
    obtain rfl := List.mem_singleton.mp hc
    rfl
  | @next _ _ _ _ _ _ outcome _ _ _ ih =>
    subst hfirst
    intro c hc
    rcases List.mem_cons.mp hc with rfl | hc
    · rfl
    · refine ih ?_ c hc
      rcases outcome with _ | status
      · rfl
      · cases status <;> rfl

theorem startupThenScheduled_cons {labels : List String} (h : StartupThenScheduled labels) :
    StartupThenScheduled ("startup" :: labels) := by
  obtain ⟨m, n, rfl, -⟩ := h
  exact ⟨m + 1, n, rfl, nofun⟩

/-- **The labels of every run**: the startup, and then only scheduled ones. -/
theorem CheckRun.startupThenScheduled (h : CheckRun rt client fuel true cs cycles) :
    StartupThenScheduled (cycles.map CycleRecord.report_type) := by
  generalize hfirst : true = is_first_cycle at h
  induction h with
  | idle | stopping => exact ⟨0, 0, rfl, fun _ => rfl⟩
  | running | waiting =>
    subst hfirst
    exact ⟨1, 0, rfl, nofun⟩
  | @next _ _ _ _ _ cycles outcome _ _ hcycles ih =>
    subst hfirst
    cases hstill : stillFirstCycle true outcome with
    | true => exact startupThenScheduled_cons (ih hstill.symm)
    | false =>
      rw [hstill] at hcycles
      refine ⟨1, cycles.length, congrArg ("startup" :: ·) ?_, nofun⟩
      refine List.eq_replicate_iff.mpr ⟨List.length_map _, fun label hlabel => ?_⟩
      obtain ⟨c, hc, rfl⟩ := List.mem_map.mp hlabel
      exact hcycles.scheduled c hc

/-- **When the labels change on time**: when the first cycle with a settled report ends the startup, unless it is the
last one. -/
theorem CheckRun.onTime_iff (h : CheckRun rt client fuel true cs cycles)
    (hpossible : ∀ c ∈ cs, Possible c.op c.answer) : OnTime cycles ↔ FirstSettledClean cycles := by
  generalize hfirst : true = is_first_cycle at h
  induction h with
  | idle | stopping => exact iff_of_true onTime_nil firstSettledClean_nil
  | running | waiting => exact onTime_iff_singleton _
  | @next _ _ calls rest cs cycles outcome hcycle _ hcycles ih =>
    subst hfirst
    have hends := endsStartup_iff hcycle fun c hc =>
      hpossible c (List.mem_append_left _ (List.mem_append_left _ (List.mem_cons_of_mem _ hc)))
    have hrest := ih fun c hc => hpossible c (List.mem_append_right _ hc)
    rw [onTime_cons]
    by_cases hsettled : settlement.Settled calls
    · rw [firstSettledClean_of_settled hsettled]
      by_cases hclean : settlement.Clean calls
      · -- the startup ends here
        rw [hends.mpr ⟨hsettled, hclean⟩] at hcycles
        have hscheduled := hcycles.scheduled
        refine iff_of_true ⟨fun _ => hscheduled, ?_⟩ fun _ => hclean
        rintro pre c post rfl - c' hc'
        exact hscheduled c' (List.mem_append_right _ (List.mem_cons_of_mem _ hc'))
      · -- the next cycle belongs to the startup again
        have hstill : stillFirstCycle true outcome = true :=
          Bool.eq_true_of_not_eq_false fun hno => hclean (hends.mp hno).2
        rw [hstill] at hcycles
        cases cycles with
        | nil => exact iff_of_true ⟨fun _ => nofun, onTime_nil⟩ fun hne => absurd rfl hne
        | cons c cycles =>
          refine iff_of_false (fun hno => ?_) fun hno => hclean (hno nofun)
          have hscheduled := hno.1 hsettled c List.mem_cons_self
          rw [hcycles.head_label] at hscheduled
          exact absurd hscheduled (by decide)
    · rw [firstSettledClean_of_unsettled hsettled]
      have hstill : stillFirstCycle true outcome = true :=
        Bool.eq_true_of_not_eq_false fun hno => hsettled (hends.mp hno).1
      rw [hrest hstill.symm]
      exact and_iff_right fun hno => absurd hno hsettled

end

/-! ## The thread -/

/-- A run of the thread: still at its gate, in its loop, or after an exception that the loop let through. -/
inductive ThreadRun (rt : Runtime) (client : DashboardClient) (fuel : Nat) :
    List AgentCall → List CycleRecord → Prop where
  | gate {cs : List AgentCall} {p : Agent Unit} (hgate : waitForFirstNetboxSync.Trace cs p) :
    ThreadRun rt client fuel cs []
  | loop {gate cs : List AgentCall} {cycles : List CycleRecord} (hgate : waitForFirstNetboxSync.Trace gate (.ret ()))
    (hrun : CheckRun rt client fuel true cs cycles) : ThreadRun rt client fuel (gate ++ cs) cycles
  | failed {gate cs tail : List AgentCall} {cycles : List CycleRecord} {e : PyExc} {p : Agent Unit}
    (hgate : waitForFirstNetboxSync.Trace gate (.ret ())) (hrun : CheckRun rt client fuel true cs cycles)
    (hraised : (checkLoop rt client fuel true).Trace cs (.raise e))
    (htail : ((agentCall (.unhandledException "check_thread_unhandled_exception")).bind fun _ =>
      agentCall (.set .shutdown)).Trace tail p) : ThreadRun rt client fuel (gate ++ (cs ++ tail)) cycles

section

variable {rt : Runtime} {client : DashboardClient} {fuel : Nat} {cs : List AgentCall} {cycles : List CycleRecord}

/-- **Every trace of the thread is a run of it.** -/
theorem threadRun_of_trace {p : Agent Unit} (h : (certCheckThread rt client fuel).Trace cs p) :
    ∃ cycles, ThreadRun rt client fuel cs cycles := by
  obtain ⟨p', hgate, -⟩ | ⟨_, gate, cs', hgate, hguard, rfl⟩ := Prog.trace_bind h
  · exact ⟨[], .gate hgate⟩
  obtain ⟨p', hloop, -⟩ | ⟨e, run, tail, hraised, htail, rfl⟩ := Prog.trace_tryCatch hguard
  · obtain ⟨cycles, hrun⟩ := checkRun_of_trace hloop
    exact ⟨cycles, .loop hgate hrun⟩
  · obtain ⟨cycles, hrun⟩ := checkRun_of_trace hraised
    exact ⟨cycles, .failed hgate hrun hraised htail⟩

/-- **Every run is one of the thread.** -/
theorem ThreadRun.trace (h : ThreadRun rt client fuel cs cycles) :
    ∃ p, (certCheckThread rt client fuel).Trace cs p := by
  cases h with
  | gate hgate => exact ⟨_, hgate.bind _⟩
  | loop hgate hrun =>
    obtain ⟨p, hloop⟩ := hrun.trace
    exact ⟨_, (hgate.bind _).append (hloop.tryCatch _)⟩
  | failed hgate _ hraised htail => exact ⟨_, (hgate.bind _).append ((hraised.tryCatch _).append htail)⟩

/-- The cycles of a run of the thread are those of a run of its loop. -/
theorem ThreadRun.checkRun (h : ThreadRun rt client fuel cs cycles) (hpossible : ∀ c ∈ cs, Possible c.op c.answer) :
    ∃ cs', CheckRun rt client fuel true cs' cycles ∧ ∀ c ∈ cs', Possible c.op c.answer := by
  cases h with
  | gate => exact ⟨[], .idle fuel true, fun c hc => by cases hc⟩
  | loop _ hrun => exact ⟨_, hrun, fun c hc => hpossible c (List.mem_append_right _ hc)⟩
  | failed _ hrun _ _ =>
    exact ⟨_, hrun, fun c hc => hpossible c (List.mem_append_right _ (List.mem_append_left _ hc))⟩

end

/-- **In every run of the agent the check thread is on such a run**, with answers that are possible. -/
theorem ReachableBy.checkThread {setup : Setup} {main_thread : Bool} {Meets : AgentLabel → AgentPool → Prop}
    {P : AgentPool} (h : ReachableBy setup main_thread Meets P) : ∃ client cycles,
      ThreadRun setup.rt client setup.fuel (ownEvents .check P.shared.log) cycles ∧
      ∀ c ∈ ownEvents .check P.shared.log, Possible c.op c.answer := by
  have hpossible : ∀ c ∈ ownEvents .check P.shared.log, Possible c.op c.answer := fun c hc =>
    h.possible (mem_ownEvents_iff.mp hc)
  cases hthread : P.threads .check with
  | none =>
    have hnone := h.traced.of_none hthread
    refine ⟨someClient, [], ?_, hpossible⟩
    rw [hnone]
    exact .gate (.nil _)
  | some p =>
    obtain ⟨p₀, hp₀, htrace⟩ := h.traced.of_some hthread
    obtain ⟨hmain, -⟩ | ⟨thread, hid, rfl⟩ := hp₀
    · cases hmain
    cases thread with
    | check client =>
      obtain ⟨p', hrun, -⟩ | ⟨_, cs₁, cs₂, hrun, hdone, hcs⟩ := Prog.trace_bind htrace
      · obtain ⟨cycles, hrun⟩ := threadRun_of_trace hrun
        exact ⟨client, cycles, hrun, hpossible⟩
      · obtain ⟨rfl, -⟩ := Prog.trace_still (fun o k hcall => by cases hcall) hdone
        rw [List.append_nil] at hcs
        obtain ⟨cycles, hrun⟩ := threadRun_of_trace hrun
        exact ⟨client, cycles, hcs ▸ hrun, hpossible⟩
    | _ => cases hid

/-- **The label of the startup**: in every run of the thread every report is sent under the label of its cycle, the
labels are the startup followed by only scheduled ones, and every cycle after one whose report the dashboard has
accepted or rejected for good is a scheduled one, exactly when the first cycle with such an answer reads it and then
raises nothing, unless no cycle follows it. -/
theorem startup_label_iff {rt : Runtime} {client : DashboardClient} {fuel : Nat} {cs : List AgentCall}
    {cycles : List CycleRecord} (h : ThreadRun rt client fuel cs cycles)
    (hpossible : ∀ c ∈ cs, Possible c.op c.answer) :
    ((∀ c ∈ cycles, c.SentAsLabelled) ∧ StartupThenScheduled (cycles.map CycleRecord.report_type) ∧ OnTime cycles) ↔
      FirstSettledClean cycles := by
  obtain ⟨cs', hrun, hpossible'⟩ := h.checkRun hpossible
  rw [← hrun.onTime_iff hpossible']
  constructor
  · rintro ⟨-, -, hontime⟩
    exact hontime
  · intro hontime
    exact ⟨hrun.sentAsLabelled hpossible', hrun.startupThenScheduled, hontime⟩

/-! ## An answer that cannot be read -/

/-- A file queue that works, and a dashboard that answers every report in this way. -/
def queueReply (reply : HttpResponse) : (o : QueueOp) → Except PyExc o.Ret
  | .now => .ok 0
  | .utcNowIso => .ok (utcNowIso 0)
  | .isSet | .waitFor _ => .ok false
  | .read _ _ => .ok (.obj [])
  | .iterdir => .ok []
  | .statMtime _ => .ok 0
  | .submit _ _ => .ok reply
  | .mkdir | .mkdirCorrupt | .openTmp _ | .dump _ _ | .fsync _ | .unlink _ | .replace _ _ | .chmod _ | .rename _ _
    | .sleep _ => .ok ()

/-- An agent without hosts, its gate open and no shutdown in sight. -/
def cycleReply (reply : HttpResponse) : (o : AgentOp) → Except PyExc o.Ret
  | .isSet event => .ok (decide (event = .firstSync))
  | .waitFor _ => .ok false
  | .uuid4 => .ok "0"
  | .configSnapshot => .ok [("intervals", .obj [("check_seconds", .float (.finite 60))])]
  | .hostsSnapshot => .ok []
  | .recordCheckCycle _ => .ok ()
  | .queue o => queueReply reply o
  | _ => .error ioError

/-- Calls of a cycle and of the wait after it. -/
def AgentOp.isCyclic : AgentOp → Bool
  | .isSet _ | .waitFor _ | .uuid4 | .configSnapshot | .hostsSnapshot | .recordCheckCycle _ | .queue _ => true
  | _ => false

theorem possible_cycleReply (reply : HttpResponse) {o : AgentOp} (h : o.isCyclic = true) :
    Possible o (cycleReply reply o) := by
  cases o with
  | isSet event => exact ⟨{ first_sync := true }, by cases event <;> rfl⟩
  | waitFor _ => exact ⟨{}, .inl rfl⟩
  | uuid4 => exact ⟨{}, _, rfl⟩
  | configSnapshot => exact ⟨{ configs := [_] }, foreign_value _, fun c hc => congrArg some (Except.ok.inj hc)⟩
  | hostsSnapshot => exact ⟨{}, rfl⟩
  | recordCheckCycle _ => exact ⟨{}, foreign_value _⟩
  | queue o =>
    refine ⟨{}, ?_⟩
    cases o with
    | now | utcNowIso => exact ⟨0, rfl⟩
    | isSet | waitFor _ | sleep _ => rfl
    | _ => exact foreign_value _
  | _ => cases h

/-- What a program calls there. -/
def callsUnder {α : Type} (reply : HttpResponse) (p : Agent α) : List AgentCall :=
  (p.made (cycleReply reply)).map fun o => ⟨o, cycleReply reply o⟩

theorem possible_callsUnder {α : Type} {reply : HttpResponse} {p : Agent α}
    (h : (p.made (cycleReply reply)).all AgentOp.isCyclic = true) :
    ∀ c ∈ callsUnder reply p, Possible c.op c.answer := by
  intro c hc
  obtain ⟨o, ho, rfl⟩ := List.mem_map.mp hc
  exact possible_cycleReply reply (List.all_eq_true.mp h o ho)

/-- The first cycle of the thread. -/
def startupCycle : Agent SubmissionStatus := cycleAndStats CycleInput.plainRuntime someClient "startup" 1

/-- How it ends there. -/
def startupOutcome (reply : HttpResponse) : Except PyExc SubmissionStatus :=
  (startupCycle.outcome (cycleReply reply)).getD (.error ioError)

/-- A run up to the beginning of the second cycle: its calls and its cycles. -/
def twoCycleCalls (reply : HttpResponse) : List AgentCall :=
  callsUnder reply waitForFirstNetboxSync ++ (⟨.isSet .shutdown, .ok false⟩ :: callsUnder reply startupCycle ++
    callsUnder reply (betweenCycles CycleInput.plainRuntime (startupOutcome reply)) ++ [⟨.isSet .shutdown, .ok false⟩])

def twoCycles (reply : HttpResponse) : List CycleRecord :=
  [⟨"startup", callsUnder reply startupCycle, some (startupOutcome reply)⟩,
    ⟨cycleReportType (stillFirstCycle true (startupOutcome reply)), [], none⟩]

theorem threadRun_twoCycles {reply : HttpResponse}
    (hgate : waitForFirstNetboxSync.outcome (cycleReply reply) = some (.ok ()))
    (hcycle : startupCycle.outcome (cycleReply reply) = some (startupOutcome reply))
    (hwait : (betweenCycles CycleInput.plainRuntime (startupOutcome reply)).outcome (cycleReply reply) =
      some (.ok false)) :
    ThreadRun CycleInput.plainRuntime someClient 2 (twoCycleCalls reply) (twoCycles reply) := by
  have hgate' := Prog.trace_made (cycleReply reply) waitForFirstNetboxSync
  have hcycle' := Prog.trace_made (cycleReply reply) startupCycle
  have hwait' := Prog.trace_made (cycleReply reply) (betweenCycles CycleInput.plainRuntime (startupOutcome reply))
  rw [hgate] at hgate'
  rw [hcycle] at hcycle'
  rw [hwait] at hwait'
  exact .loop hgate' (.next hcycle' hwait' (.running (.nil _) trivial))

theorem possible_twoCycleCalls {reply : HttpResponse}
    (hcycle : (startupCycle.made (cycleReply reply)).all AgentOp.isCyclic = true)
    (hwait : ((betweenCycles CycleInput.plainRuntime (startupOutcome reply)).made (cycleReply reply)).all
      AgentOp.isCyclic = true) :
    ∀ c ∈ twoCycleCalls reply, Possible c.op c.answer := by
  have hrunning : Possible (.isSet .shutdown) (.ok false) := ⟨{}, rfl⟩
  intro c hc
  simp only [twoCycleCalls, List.mem_append, List.mem_cons, List.not_mem_nil, or_false] at hc
  rcases hc with hc | ((rfl | hc) | hc) | rfl
  · exact possible_callsUnder rfl c hc
  · exact hrunning
  · exact possible_callsUnder hcycle c hc
  · exact possible_callsUnder hwait c hc
  · exact hrunning

/-- The dashboard accepts the first report with a body that is no JSON. -/
def acceptedUnreadable : HttpResponse := ⟨200, .notJson⟩

/-- The report was accepted, and yet the next cycle is labelled as the startup again. -/
theorem startup_label_repeated : ThreadRun CycleInput.plainRuntime someClient 2 (twoCycleCalls acceptedUnreadable)
      (twoCycles acceptedUnreadable) ∧ (∀ c ∈ twoCycleCalls acceptedUnreadable, Possible c.op c.answer) ∧
    ¬ ((∀ c ∈ twoCycles acceptedUnreadable, c.SentAsLabelled) ∧
      StartupThenScheduled ((twoCycles acceptedUnreadable).map CycleRecord.report_type) ∧
      OnTime (twoCycles acceptedUnreadable)) := by
  refine ⟨threadRun_twoCycles rfl rfl rfl, possible_twoCycleCalls rfl rfl, ?_⟩
  rintro ⟨-, -, hontime⟩
  have hsettled : (callsUnder acceptedUnreadable startupCycle).any settlement.settles = true := rfl
  have hlabel := (onTime_cons.mp hontime).1 (List.any_eq_true.mp hsettled) _ List.mem_cons_self
  exact absurd hlabel (by decide)

/-- A report that is accepted with a document. -/
def acceptedReport : HttpResponse := ⟨200, .json (.obj [])⟩

theorem startup_label_once : ThreadRun CycleInput.plainRuntime someClient 2 (twoCycleCalls acceptedReport)
      (twoCycles acceptedReport) ∧
    (((∀ c ∈ twoCycles acceptedReport, c.SentAsLabelled) ∧
      StartupThenScheduled ((twoCycles acceptedReport).map CycleRecord.report_type) ∧
      OnTime (twoCycles acceptedReport)) ↔ FirstSettledClean (twoCycles acceptedReport)) :=
  ⟨threadRun_twoCycles rfl rfl rfl,
    startup_label_iff (threadRun_twoCycles rfl rfl rfl) (possible_twoCycleCalls rfl rfl)⟩

end CertWatch
