/-
# `CertWatch.RetryRounds` — one round of the retry loop, under any outage and any moment of shutdown.

An outage is any number of retriable answers and the answer that ends it, together with the call of the loop
by which `shutdown_event` has become set.  All disk operations succeed.  The calls of a run are noted, so that
what the loop asked of the dashboard, what the file held at that moment and how long it waited can be read off
the run.
-/
import CertWatch.ScriptedRetry
import CertWatch.Lib.Logged

namespace CertWatch

open CertWatch.Lib

/-! ## Outages -/

/-- The dashboard's answers to one report, the call by which the event is set (`none`: never), and the
readings of the monotonic clock. -/
structure Outage where
  failures : List (Option HttpResponse)
  retriable_failures : ∀ answer ∈ failures, retriable answer = true
  terminal : HttpResponse
  retriable_terminal : retriable (some terminal) = false
  shutdown : Option Nat := none
  clock : Nat → Rat := fun _ => 0

namespace Outage

variable (outage : Outage)

/-- The answer to the n-th submission, from 0. -/
def answer (n : Nat) : Option HttpResponse := outage.failures.getD n (some outage.terminal)

/-- The event is set before the n-th call of the loop returns, from 0. -/
def setBy (n : Nat) : Bool := outage.shutdown.any (· ≤ n)

def env : Surroundings := { reply := fun _ n => outage.answer n }

/-- Every call with its number: `Event.wait` returns the flag, all else is as scripted. -/
def handle (n : Nat) : (o : QueueOp) → World → Except PyExc o.Ret × World
  | .now, w => (.ok (outage.clock n), w)
  | .isSet, w => (.ok (outage.setBy n), w)
  | .waitFor _, w => (.ok (outage.setBy n), w)
  | o, w => CertWatch.handle outage.env o w

/-- A program's run with its calls noted. -/
abbrev drive {α : Type} (prog : Queue α) (s : Logged queueSig World) :
    Option (Except PyExc α) × Logged queueSig World :=
  prog.run (Prog.noting outage.handle) s

end Outage

/-- A data directory as the loop finds it. -/
def foundOnDisk (dir : AList fun _ : String => File) (corrupt : AList fun _ : String => Content) (time : Nat) :
    Logged queueSig World :=
  ⟨.onDisk dir corrupt time, []⟩

/-! ## What the notes tell -/

/-- The `_attempts` field of the record in a file. -/
def World.counter (w : World) (p : String) : Json :=
  match w.lookup p with
  | some ⟨.json (.obj d), _⟩ => Dict.getD d "_attempts" (.int 0)
  | _ => .null

/-- What the loop does between its file operations. -/
inductive LoopEvent where
  /-- `client.submit_report` for a file, and the counter that the file held then. -/
  | call (path : String) (body : ReportBody) (counter : Json)
  | wait (seconds : Rat)

/-- The submissions and waits among the calls. -/
def eventOf : QueueOp × World → Option LoopEvent
  | (.submit path body, w) => some (.call path body (w.counter path))
  | (.waitFor seconds, _) => some (.wait seconds)
  | (.sleep seconds, _) => some (.wait seconds)
  | _ => none

def timeline (calls : List (QueueOp × World)) : List LoopEvent := calls.filterMap eventOf

/-- The call is a submission. -/
def isCall : QueueOp × World → Bool
  | (.submit _ _, _) => true
  | _ => false

/-- How many submissions are among the calls. -/
def submitCount (calls : List (QueueOp × World)) : Nat := calls.countP isCall

@[simp] theorem timeline_nil : timeline [] = [] := rfl

@[simp] theorem timeline_append (cs cs' : List (QueueOp × World)) :
    timeline (cs ++ cs') = timeline cs ++ timeline cs' :=
  List.filterMap_append

@[simp] theorem submitCount_nil : submitCount [] = 0 := rfl

@[simp] theorem submitCount_append (cs cs' : List (QueueOp × World)) :
    submitCount (cs ++ cs') = submitCount cs + submitCount cs' :=
  List.countP_append

theorem submitCount_drop_le (n : Nat) (cs : List (QueueOp × World)) : submitCount (cs.drop n) ≤ submitCount cs :=
  (List.drop_sublist n cs).countP_le

theorem eventOf_fileCall {o : QueueOp} (h : o.isFileCall = true) (w : World) : eventOf (o, w) = none := by
  cases o <;> first | rfl | cases h

theorem isCall_fileCall {o : QueueOp} (h : o.isFileCall = true) (w : World) : isCall (o, w) = false := by
  cases o <;> first | rfl | cases h

/-- File operations are not seen. -/
theorem timeline_fileCalls {cs : List (QueueOp × World)} (h : ∀ c ∈ cs, c.1.isFileCall = true) :
    timeline cs = [] ∧ submitCount cs = 0 := by
  constructor
  · exact List.filterMap_eq_nil_iff.mpr fun c hc => eventOf_fileCall (h c hc) c.2
  · refine List.countP_eq_zero.mpr fun c hc => ?_
    rw [show isCall c = false from isCall_fileCall (h c hc) c.2]
    decide

/-! ## File operations -/

section Files

variable {outage : Outage}

/-- The count of the calls does not bear on them. -/
theorem Outage.handle_fileCall (n : Nat) (o : QueueOp) (w : World) (h : o.isFileCall = true) :
    outage.handle n o w = CertWatch.handle outage.env o w := by
  cases o <;> first | rfl | cases h

theorem drive_fileCalls {α : Type} {prog : Queue α} (h : FileCalls prog)
    (s : Logged queueSig World) : outage.drive prog s =
      ((prog.run (CertWatch.handle outage.env) s.world).1, ⟨(prog.run (CertWatch.handle outage.env) s.world).2,
        s.calls ++ prog.visited (CertWatch.handle outage.env) s.world⟩) :=
  Prog.run_noting Outage.handle_fileCall h.only s

end Files

/-! ## One attempt -/

section Attempt

variable {outage : Outage} {client : DashboardClient} {shutdown_event : Bool} {p : String} {d wire : Dict}
  {body : ReportBody} {s : Logged queueSig World} {started_mono : Rat} {n : Int}

/-- The notes after `increment_attempts`. -/
def recounted (outage : Outage) (p : String) (d : Dict) (n : Int) (s : Logged queueSig World) :
    Logged queueSig World :=
  ⟨s.world.written p (d.set "_attempts" (.int n)),
    s.calls ++ (incrementAttempts p).visited (CertWatch.handle outage.env) s.world⟩

/-- The notes after the submission that follows. -/
def attempted (outage : Outage) (p : String) (d : Dict) (n : Int) (body : ReportBody) (s : Logged queueSig World) :
    Logged queueSig World :=
  let found := recounted outage p d n s
  ⟨found.world.submitted ⟨p, body, (outage.answer (found.world.callsFor p)).map (·.status)⟩,
    found.calls ++ [(.submit p body, found.world)]⟩

theorem recounted_counter (outage : Outage) (p : String) (d : Dict) (n : Int) (s : Logged queueSig World) :
    (recounted outage p d n s).world.counter p = .int n := by
  obtain ⟨f, hf, hc⟩ := holdsRecord_written s.world p (d.set "_attempts" (.int n))
  obtain ⟨content, mtime⟩ := f
  obtain rfl : content = _ := hc
  unfold World.counter
  rw [show (recounted outage p d n s).world.lookup p = _ from hf]
  simp only [Dict.getD, Dict.get?_set_self, Option.getD_some]

theorem attempted_holdsRecord : HoldsRecord p (d.set "_attempts" (.int n)) (attempted outage p d n body s).world :=
  holdsRecord_written s.world p _

theorem attempted_callsFor :
    (attempted outage p d n body s).world.callsFor p = s.world.callsFor p + 1 := by
  show (World.submitted _ _).callsFor p = _
  rw [callsFor_submitted, if_pos rfl]
  exact congrArg (· + 1) (callsFor_written s.world p _ p)

theorem fileCalls_visited (env : Surroundings) (w : World) :
    ∀ c ∈ (incrementAttempts p).visited (CertWatch.handle env) w, c.1.isFileCall = true :=
  (fileCalls_incrementAttempts p).only.visited w

/-- One attempt is one submission, made when the counter is up to date. -/
theorem attempted_timeline : timeline (attempted outage p d n body s).calls =
    timeline s.calls ++ [.call p body (.int n)] := by
  have hfile := (timeline_fileCalls (fileCalls_visited (p := p) outage.env s.world)).1
  have hcall : timeline [(QueueOp.submit p body, (recounted outage p d n s).world)] = [.call p body (.int n)] := by
    rw [← recounted_counter outage p d n s]
    rfl
  simp only [attempted, recounted, timeline_append, hfile, List.append_nil] at hcall ⊢
  rw [hcall]

theorem attempted_submitCount :
    submitCount ((attempted outage p d n body s).calls.drop s.calls.length) = 1 := by
  have hfile := (timeline_fileCalls (fileCalls_visited (p := p) outage.env s.world)).2
  simp only [attempted, recounted, List.append_assoc, List.drop_left, submitCount_append, hfile]
  rfl

/-- One round of the loop: what is left is to handle the answer. -/
theorem drive_round (hd : HoldsRecord p d s.world) (hn : (Dict.getD d "_attempts" (.int 0)).toInt = .ok n)
    (hbody : wireBody wire = .ok body) (fuel : Nat) :
    outage.drive (retryLoopForPath client shutdown_event p wire started_mono (fuel + 1)) s =
      outage.drive (handleOutcome shutdown_event p wire started_mono (n + 1)
        (retryLoopForPath client shutdown_event p wire started_mono fuel)
        (attemptResult client (outage.answer (s.world.callsFor p)))) (attempted outage p d (n + 1) body s) := by
  have hinc : outage.drive (incrementAttempts p) s = (some (.ok (n + 1)), recounted outage p d (n + 1) s) := by
    rw [drive_fileCalls (fileCalls_incrementAttempts p), run_incrementAttempts rfl hd hn rfl]
    rfl
  have hsend : outage.drive (submitWire client p wire) (recounted outage p d (n + 1) s) =
      (some (attemptResult client (outage.answer (s.world.callsFor p))), attempted outage p d (n + 1) body s) := by
    refine run_submitWire_of hbody ?_
    have hcount : (recounted outage p d (n + 1) s).world.callsFor p = s.world.callsFor p :=
      callsFor_written s.world p _ p
    simp only [Prog.noting, Outage.handle, CertWatch.handle, Outage.env, attempted, hcount]
    cases outage.answer (s.world.callsFor p) <;> rfl
  simp only [Outage.drive] at hinc hsend ⊢
  simp only [retryLoopForPath, Prog.bind_eq, Prog.run_bind, hinc, Prog.andThen_ok, Prog.run_attempt, hsend]
  rfl

end Attempt

/-! ## After the answer -/

section After

variable {outage : Outage} {shutdown_event : Bool} {p : String} {d wire : Dict} {s : Logged queueSig World}
  {started_mono : Rat} {attempts : Int}

theorem drive_call (outage : Outage) (o : QueueOp) (s : Logged queueSig World) : outage.drive (queueCall o) s =
    (some (outage.handle s.calls.length o s.world).1,
      ⟨(outage.handle s.calls.length o s.world).2, s.calls ++ [(o, s.world)]⟩) :=
  Prog.run_noting_perform (S := queueSig) o s

/-- The notes of a finished attempt: the file is gone. -/
def finished (p : String) (s : Logged queueSig World) : Logged queueSig World :=
  ⟨s.world.remove p, s.calls ++ [(.unlink p, s.world), (.now, s.world.remove p)]⟩

@[simp] theorem timeline_finished : timeline (finished p s).calls = timeline s.calls := by
  simp [finished, timeline, eventOf]

theorem drive_finishAttempt (hd : HoldsRecord p d s.world) (result : SubmissionStatus) (summary : Json) :
    ∃ r, outage.drive (finishAttempt p started_mono result attempts summary) s = (some (.ok r), finished p s) ∧
      r.status = result ∧ r.attempts = attempts := by
  obtain ⟨f, hf, -⟩ := hd
  have hdelete : outage.drive (deletePendingReport p) s =
      (some (.ok ()), ⟨s.world.remove p, s.calls ++ [(.unlink p, s.world)]⟩) := by
    have hunlink : outage.handle s.calls.length (.unlink p) s.world = (.ok (), s.world.remove p) := by
      simp only [Outage.handle, CertWatch.handle, hf]
    have hcall := drive_call outage (.unlink p) s
    rw [hunlink] at hcall
    simp only [Outage.drive] at hcall ⊢
    simp only [deletePendingReport, ignoreMissing, Prog.run_tryCatch, hcall, Prog.orElse_ok]
  refine ⟨⟨result, attempts, outage.clock (s.calls.length + 1) - started_mono, summary⟩, ?_, rfl, rfl⟩
  have hnow := drive_call outage .now ⟨s.world.remove p, s.calls ++ [(.unlink p, s.world)]⟩
  simp only [Outage.drive] at hdelete hnow ⊢
  simp only [finishAttempt, Prog.bind_eq, Prog.run_bind, hdelete, Prog.andThen_ok, hnow]
  simp [Outage.handle, finished]

/-- The call that waits out a backoff. -/
def waitCall (shutdown_event : Bool) (delay : Rat) : QueueOp :=
  if shutdown_event then .waitFor delay else .sleep delay

/-- The notes after a wait. -/
def waited (shutdown_event : Bool) (delay : Rat) (s : Logged queueSig World) : Logged queueSig World :=
  ⟨s.world, s.calls ++ [(waitCall shutdown_event delay, s.world)]⟩

@[simp] theorem timeline_waited (delay : Rat) :
    timeline (waited shutdown_event delay s).calls = timeline s.calls ++ [.wait delay] := by
  cases shutdown_event <;> simp [waited, waitCall, timeline, eventOf]

theorem submitCount_wait (delay : Rat) (w : World) : submitCount [(waitCall shutdown_event delay, w)] = 0 := by
  cases shutdown_event <;> rfl

/-- The wait of a loop that was given the event ends early when the event is set by then. -/
def Outage.wakes (outage : Outage) (shutdown_event : Bool) (n : Nat) : Bool := shutdown_event && outage.setBy n

theorem drive_backoffWait (delay : Rat) : outage.drive (backoffWait shutdown_event delay) s =
    (some (.ok (outage.wakes shutdown_event s.calls.length)), waited shutdown_event delay s) := by
  cases shutdown_event <;> rfl

/-- After a retriable answer the loop waits; then it stops for the shutdown or goes round. -/
theorem drive_retriable {client : DashboardClient} {answer : Option HttpResponse} (h : retriable answer = true)
    (retry : Queue ReportSubmissionResult) :
    ∃ now : Rat, outage.drive (handleOutcome shutdown_event p wire started_mono attempts retry
        (attemptResult client answer)) s =
      if outage.wakes shutdown_event s.calls.length then
        (some (.ok ⟨.shutdown, attempts, now, .null⟩),
          ⟨s.world, (waited shutdown_event (backoffDelay attempts) s).calls ++ [(.now, s.world)]⟩)
      else outage.drive retry (waited shutdown_event (backoffDelay attempts) s) := by
  obtain ⟨⟨kind, message, code, request_id, status_code, body⟩, he, hkind⟩ :=
    @attemptResult_retriable client answer h
  refine ⟨outage.clock (s.calls.length + 1) - started_mono, ?_⟩
  rw [he]
  have hwait := @drive_backoffWait outage shutdown_event s (backoffDelay attempts)
  simp only [Outage.drive] at hwait ⊢
  cases kind with
  | server | network | rateLimit =>
    simp only [handleOutcome, Prog.bind_eq, Prog.run_bind, hwait, Prog.andThen_ok]
    cases outage.wakes shutdown_event s.calls.length with
    | true =>
      have hnow := drive_call outage .now (waited shutdown_event (backoffDelay attempts) s)
      simp only [Outage.drive] at hnow
      simp only [if_true, Prog.run_bind, hnow]
      simp [Outage.handle, waited]
    | false => simp only [Bool.false_eq_true, if_false]
  | _ => cases hkind

end After

end CertWatch
