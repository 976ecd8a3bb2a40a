/-
# `CertWatch.RetryLaw` — what the retry loop does in an outage, call by call.

The loop is asked for a report whose file has a counter `a`.  Its i-th submission finds the counter at
`a + i`; after the i-th retriable answer it waits as long as the schedule says for `a + i` attempts, and nowhere
else.  A wait that ends early ends the loop, and leaves the file; the answer that ends the outage either
finishes with the file or is raised, and leaves it.
-/
import CertWatch.RetryRounds

namespace CertWatch

open CertWatch.Lib

/-! ## The law -/

/-- An answer that ends an outage: a 2xx, 409, 400 or 413 that the loop digests, or any status that is no
result. -/
def Terminal (wire : Dict) (resp : HttpResponse) : Prop :=
  settledStatus resp.status ≠ none → Digested wire (some resp)

/-- The first `m` submissions from counter `a`, and the waits after those that one of `failures` retriable
answers meets. -/
def course (p : String) (body : ReportBody) (failures : Nat) (a : Int) (m : Nat) : List LoopEvent :=
  (List.range m).flatMap fun i : Nat =>
    .call p body (.int (a + (i + 1))) ::
      if i < failures then [.wait (backoffSchedule.getD (min (a + (i + 1) - 1) 4).toNat 0)] else []

/-- How the loop ends after `m` submissions from counter `a`: where, and with which file. -/
inductive LoopEnd (p : String) (d : Dict) (failures status : Nat) (a : Int) (m : Nat) (woken : Prop) :
    Except PyExc ReportSubmissionResult → World → Prop where
  | shutdown {r : ReportSubmissionResult} {w : World} : m ≤ failures → woken → r.status = .shutdown →
      r.attempts = a + m → HoldsRecord p (d.set "_attempts" (.int (a + m))) w →
      LoopEnd p d failures status a m woken (.ok r) w
  | settled {r : ReportSubmissionResult} {w : World} : m = failures + 1 →
      settledStatus status = some r.status → r.attempts = a + m → w.lookup p = none →
      LoopEnd p d failures status a m woken (.ok r) w
  | raised {e : DashboardError} {w : World} : m = failures + 1 → settledStatus status = none →
      HoldsRecord p (d.set "_attempts" (.int (a + m))) w →
      LoopEnd p d failures status a m woken (.error (.dashboard e)) w

/-- A run of the loop with `m` submissions, from `s` on. -/
structure LoopLaw (outage : Outage) (shutdown_event : Bool) (p : String) (body : ReportBody) (d : Dict)
    (failures : Nat) (a : Int) (s : Logged queueSig World)
    (run : Option (Except PyExc ReportSubmissionResult) × Logged queueSig World) (m : Nat) : Prop where
  first : 1 ≤ m
  course : timeline run.2.calls = timeline s.calls ++ course p body failures a m
  /-- At most one submission is made after the event is set. -/
  late : shutdown_event = true → ∀ t, outage.shutdown = some t →
    submitCount (run.2.calls.drop (max s.calls.length t)) ≤ 1
  ends : ∃ outcome, run.1 = some outcome ∧
    LoopEnd p d failures outage.terminal.status a m
      -- the last two calls are the wait and a reading of the clock
      (outage.wakes shutdown_event (run.2.calls.length - 2) = true) outcome run.2.world

/-! ## Small facts -/

/-- The schedule is clamped at both ends. -/
theorem backoffDelay_eq (attempts : Int) :
    backoffDelay attempts = backoffSchedule.getD (min (attempts - 1) 4).toNat 0 := by
  have hidx : (max 0 (min (attempts - 1) ((backoffSchedule.length : Int) - 1))).toNat =
      (min (attempts - 1) 4).toNat := by
    have hlen : (backoffSchedule.length : Int) = 5 := rfl
    rw [hlen]
    omega
  simp only [backoffDelay, scheduledDelay, hidx]

theorem course_succ (p : String) (body : ReportBody) (failures : Nat) (a : Int) (m : Nat) :
    course p body (failures + 1) a (m + 1) =
      [.call p body (.int (a + 1)), .wait (backoffDelay (a + 1))] ++ course p body failures (a + 1) m := by
  have hshift : ∀ i : Int, a + (i + 1 + 1) = a + 1 + (i + 1) := by omega
  simp [course, List.range_succ_eq_map, List.flatMap_map, backoffDelay_eq, hshift]

theorem course_last (p : String) (body : ReportBody) (a : Int) :
    course p body 0 a 1 = [.call p body (.int (a + 1))] := by
  simp [course]

theorem course_one (p : String) (body : ReportBody) (failures : Nat) (a : Int) :
    course p body (failures + 1) a 1 = [.call p body (.int (a + 1)), .wait (backoffDelay (a + 1))] := by
  rw [course_succ]
  simp [course]

theorem LoopEnd.succ {p : String} {d : Dict} {failures status : Nat} {a : Int} {m : Nat} {woken : Prop}
    {outcome : Except PyExc ReportSubmissionResult} {w : World}
    (h : LoopEnd p (d.set "_attempts" (.int (a + 1))) failures status (a + 1) m woken outcome w) :
    LoopEnd p d (failures + 1) status a (m + 1) woken outcome w := by
  have hcount : a + 1 + (m : Int) = a + ((m + 1 : Nat) : Int) := by omega
  cases h with
  | shutdown hm hwoken hstatus hattempts hkept =>
    rw [Dict.set_set, hcount] at hkept
    exact .shutdown (by omega) hwoken hstatus (hattempts.trans hcount) hkept
  | settled hm hstatus hattempts hgone =>
    exact .settled (by omega) hstatus (hattempts.trans hcount) hgone
  | raised hm hstatus hkept =>
    rw [Dict.set_set, hcount] at hkept
    exact .raised (by omega) hstatus hkept

theorem submitCount_drop_max_le (cs : List (QueueOp × World)) (n t : Nat) :
    submitCount (cs.drop (max n t)) ≤ submitCount (cs.drop n) := by
  have hsplit : max n t = n + (max n t - n) := by omega
  rw [hsplit, ← List.drop_drop]
  exact submitCount_drop_le _ _

/-- A wait that is not woken comes before the event is set. -/
theorem Outage.lt_of_not_wakes {outage : Outage} {n t : Nat} (hshutdown : outage.shutdown = some t)
    (h : outage.wakes true n = false) : n < t := by
  simpa [Outage.wakes, Outage.setBy, hshutdown] using h

/-! ## One round -/

section

variable {outage : Outage} {client : DashboardClient} {shutdown_event : Bool} {p : String} {d wire : Dict}
  {body : ReportBody} {started_mono : Rat} {a : Int} {s : Logged queueSig World}
  {retry : Queue ReportSubmissionResult}

/-- The answer that ends the outage: one submission, and the loop ends as its status says. -/
theorem loopLaw_terminal (hterminal : Terminal wire outage.terminal) :
    LoopLaw outage shutdown_event p body d 0 a s
      (outage.drive (handleOutcome shutdown_event p wire started_mono (a + 1) retry
        (attemptResult client (some outage.terminal))) (attempted outage p d (a + 1) body s)) 1 := by
  have hkept : HoldsRecord p (d.set "_attempts" (.int (a + 1))) (attempted outage p d (a + 1) body s).world :=
    attempted_holdsRecord
  have htime := @attempted_timeline outage p d body s (a + 1)
  have hsubmits := @attempted_submitCount outage p d body s (a + 1)
  obtain ⟨hfinishes, hraises⟩ := @finishesWhen_settled client shutdown_event p wire started_mono (a + 1) retry
    outage.terminal outage.retriable_terminal
  by_cases hdig : Digested wire (some outage.terminal)
  · obtain ⟨result, summary, hstatus, hprog⟩ := hfinishes hdig
    obtain ⟨r, hrun, hr, hattempts⟩ :=
      @drive_finishAttempt outage p _ _ started_mono (a + 1) hkept result summary
    rw [hprog, hrun]
    refine ⟨by omega, ?_, fun _ t _ => (submitCount_drop_max_le _ _ _).trans ?_, _, rfl, ?_⟩
    · rw [timeline_finished, htime, course_last]
    · have hlong : s.calls.length ≤ (attempted outage p d (a + 1) body s).calls.length := by
        simp [attempted, recounted]
      simp only [finished, List.drop_append_of_le_length hlong, submitCount_append, hsubmits]
      exact Nat.le_refl 1
    · exact .settled rfl (by rw [hstatus, hr]) hattempts (World.lookup_remove_self _)
  · obtain ⟨e, hprog, hnone⟩ := hraises hdig
    have hstatus : settledStatus outage.terminal.status = none := by
      by_contra hsome
      exact hdig (hterminal hsome)
    obtain ⟨de, rfl, -⟩ := hnone hstatus
    rw [hprog]
    refine ⟨by omega, ?_, fun _ t _ => (submitCount_drop_max_le _ _ _).trans hsubmits.le, _, rfl, ?_⟩
    · exact htime.trans (by rw [course_last])
    · exact .raised rfl hstatus hkept

/-- A retriable answer, and a wait that ends early: the loop stops for the shutdown. -/
theorem loopLaw_woken {failures : Nat} {r : ReportSubmissionResult} (hstatus : r.status = .shutdown)
    (hattempts : r.attempts = a + 1)
    (hwakes : outage.wakes shutdown_event (attempted outage p d (a + 1) body s).calls.length = true) :
    LoopLaw outage shutdown_event p body d (failures + 1) a s
      (some (.ok r), ⟨(attempted outage p d (a + 1) body s).world,
        (waited shutdown_event (backoffDelay (a + 1)) (attempted outage p d (a + 1) body s)).calls ++
          [(.now, (attempted outage p d (a + 1) body s).world)]⟩) 1 := by
  have hlong : s.calls.length ≤ (attempted outage p d (a + 1) body s).calls.length := by
    simp [attempted, recounted]
  refine ⟨by omega, ?_, fun _ t _ => (submitCount_drop_max_le _ _ _).trans ?_, _, rfl, ?_⟩
  · rw [timeline_append, timeline_waited, attempted_timeline, course_one, List.append_assoc, List.append_assoc]
    rfl
  · have hsubmits := @attempted_submitCount outage p d body s (a + 1)
    simp only [waited, List.append_assoc, List.drop_append_of_le_length hlong, submitCount_append, hsubmits,
      submitCount_wait]
    exact Nat.le_refl 1
  · refine .shutdown (by omega) ?_ hstatus hattempts attempted_holdsRecord
    simpa [waited] using hwakes

/-- A retriable answer, and a wait that runs its time: what follows is the law of the next round. -/
theorem LoopLaw.succ {failures m : Nat}
    {run : Option (Except PyExc ReportSubmissionResult) × Logged queueSig World}
    (hwakes : outage.wakes shutdown_event (attempted outage p d (a + 1) body s).calls.length = false)
    (h : LoopLaw outage shutdown_event p body (d.set "_attempts" (.int (a + 1))) failures (a + 1)
      (waited shutdown_event (backoffDelay (a + 1)) (attempted outage p d (a + 1) body s)) run m) :
    LoopLaw outage shutdown_event p body d (failures + 1) a s run (m + 1) := by
  obtain ⟨outcome, houtcome, hend⟩ := h.ends
  refine ⟨by omega, ?_, fun hevent t ht => ?_, outcome, houtcome, hend.succ⟩
  · rw [h.course, timeline_waited, attempted_timeline, course_succ]
    simp
  · -- the event is set after this round, so the round does not count
    have hlt := Outage.lt_of_not_wakes ht (by rw [← hevent]; exact hwakes)
    have hlong : s.calls.length ≤ (attempted outage p d (a + 1) body s).calls.length := by
      simp [attempted, recounted]
    have hmax : max s.calls.length t =
        max (waited shutdown_event (backoffDelay (a + 1)) (attempted outage p d (a + 1) body s)).calls.length t := by
      simp only [waited, List.length_append, List.length_singleton]
      omega
    rw [hmax]
    exact h.late hevent t ht

/-! ## Every round -/

theorem Outage.answer_of_terminal (h : s.world.callsFor p = outage.failures.length) :
    outage.answer (s.world.callsFor p) = some outage.terminal := by
  simp [Outage.answer, h]

theorem Outage.retriable_answer (h : s.world.callsFor p < outage.failures.length) :
    retriable (outage.answer (s.world.callsFor p)) = true := by
  have hget : outage.answer (s.world.callsFor p) = outage.failures[s.world.callsFor p] := by
    simp [Outage.answer, h]
  rw [hget]
  exact outage.retriable_failures _ (List.getElem_mem h)

/-- **The law from any round on**, by induction on the retriable answers that are still to come. -/
theorem loopLaw_from {failures fuel : Nat} (hterminal : Terminal wire outage.terminal)
    (hbody : wireBody wire = .ok body) (hfuel : failures < fuel) (hd : HoldsRecord p d s.world)
    (ha : (Dict.getD d "_attempts" (.int 0)).toInt = .ok a)
    (hcount : s.world.callsFor p + failures = outage.failures.length) :
    ∃ m, LoopLaw outage shutdown_event p body d failures a s
      (outage.drive (retryLoopForPath client shutdown_event p wire started_mono fuel) s) m := by
  induction failures generalizing fuel d a s with
  | zero =>
    obtain ⟨fuel, rfl⟩ : ∃ n, fuel = n + 1 := ⟨fuel - 1, by omega⟩
    rw [drive_round hd ha hbody fuel, Outage.answer_of_terminal (by omega)]
    exact ⟨1, loopLaw_terminal hterminal⟩
  | succ failures ih =>
    obtain ⟨fuel, rfl⟩ : ∃ n, fuel = n + 1 := ⟨fuel - 1, by omega⟩
    have hretriable := @Outage.retriable_answer outage p s (by omega)
    obtain ⟨now, hrun⟩ := @drive_retriable outage shutdown_event p wire (attempted outage p d (a + 1) body s)
      started_mono (a + 1) client _ hretriable
      (retryLoopForPath client shutdown_event p wire started_mono fuel)
    rw [drive_round hd ha hbody fuel, hrun]
    cases hwakes : outage.wakes shutdown_event (attempted outage p d (a + 1) body s).calls.length with
    | true => exact ⟨1, loopLaw_woken rfl rfl hwakes⟩
    | false =>
      have hcounter : (Dict.getD (d.set "_attempts" (.int (a + 1))) "_attempts" (.int 0)).toInt = .ok (a + 1) := by
        simp only [Dict.getD, Dict.get?_set_self, Option.getD_some]
        rfl
      obtain ⟨m, hlaw⟩ := @ih (d.set "_attempts" (.int (a + 1))) (a + 1)
        (waited shutdown_event (backoffDelay (a + 1)) (attempted outage p d (a + 1) body s)) fuel (by omega)
        attempted_holdsRecord hcounter (by
          show (attempted outage p d (a + 1) body s).world.callsFor p + failures = _
          rw [attempted_callsFor]
          omega)
      exact ⟨m + 1, LoopLaw.succ hwakes hlaw⟩

end

/-- **The retry loop, in every outage**: from any directory whose file holds a record with counter `a`, with
the event set at any moment or never. -/
theorem retry_loop_law (outage : Outage) (client : DashboardClient) (shutdown_event : Bool) (p : String)
    (d wire : Dict) (body : ReportBody) (a : Int) (started_mono : Rat)
    (dir : AList fun _ : String => File) (corrupt : AList fun _ : String => Content) (time fuel : Nat)
    (hfile : HoldsRecord p d (.onDisk dir corrupt time))
    (hcounter : (Dict.getD d "_attempts" (.int 0)).toInt = .ok a)
    (hwire : wireBody wire = .ok body) (hterminal : Terminal wire outage.terminal)
    (hfuel : outage.failures.length < fuel) :
    ∃ m, LoopLaw outage shutdown_event p body d outage.failures.length a (foundOnDisk dir corrupt time)
      (outage.drive (retryLoopForPath client shutdown_event p wire started_mono fuel)
        (foundOnDisk dir corrupt time)) m :=
  loopLaw_from hterminal hwire hfuel hfile hcounter (Nat.zero_add _)

/-- A report that an earlier process has tried three times. -/
def triedReport : ReportArgs :=
  ⟨"r1", "scheduled", "2026-05-02T14:30:00Z", "2026-05-02T14:30:01Z", none, []⟩

def triedRecord : Dict := triedReport.payload.set "_attempts" (.int 3)

/-- The dashboard is out of reach, then overloaded, then well; the event is set before the loop begins. -/
def shortOutage : Outage where
  failures := [none, some ⟨503, .notJson⟩]
  retriable_failures := by decide
  terminal := ⟨200, .json (.obj [])⟩
  retriable_terminal := by decide
  shutdown := some 0

theorem retry_loop_law_shortOutage : ∃ m, LoopLaw shortOutage true "r1.json" triedReport.body triedRecord 2 3
    (foundOnDisk ((∅ : AList fun _ : String => File).insert "r1.json" ⟨.json (.obj triedRecord), 0⟩) ∅ 0)
    (shortOutage.drive (retryLoopForPath someClient true "r1.json" triedReport.payload 0 3)
      (foundOnDisk ((∅ : AList fun _ : String => File).insert "r1.json" ⟨.json (.obj triedRecord), 0⟩) ∅ 0)) m :=
  retry_loop_law shortOutage someClient true "r1.json" triedRecord triedReport.payload
    triedReport.body 3 0 _ ∅ 0 3 ⟨_, AList.lookup_insert _, rfl⟩ rfl rfl (fun _ => Or.inl ⟨by decide, [], rfl⟩)
    (by decide)

end CertWatch
