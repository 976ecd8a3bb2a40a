/-
# `CertWatch.ScriptedRetry` — the retry loop, when only the record and the answers vary.

A script fixes the dashboard's answers to every file and lets every other call succeed; shutdown is never
signaled.  Then the loop runs to the answer that settles the file: it returns when that answer is digested
and raises when it is not, or when the record cannot be sent at all.
-/
import CertWatch.QueueSteps

namespace CertWatch

open CertWatch.Lib

/-! ## Scripts -/

/-- An answer that the retry loop waits out: no response, 429 or 5xx. -/
def retriable : Option HttpResponse → Bool
  | none => true
  | some resp => resp.status == 429 || (500 ≤ resp.status && resp.status < 600)

/-- The answers of a dashboard to each file's submissions: every file is settled by some answer, and none
is a 401.  Beside them stand the payloads that `json.dump` does not write. -/
structure Script where
  reply : String → Nat → Option HttpResponse
  settles : ∀ path, ∃ n, retriable (reply path n) = false
  noAuth : ∀ path n resp, reply path n = some resp → resp.status ≠ 401
  dumpFault : Dict → Option PyExc := fun _ => none

namespace Script

/-- Everything but the answers, and writing such a payload, succeeds. -/
def env (script : Script) : Surroundings := { reply := script.reply, dumpFault := script.dumpFault }

/-- How many retriable answers a file gets before it is settled. -/
def retries (script : Script) (path : String) : Nat := Nat.find (script.settles path)

/-- The answer that settles a file. -/
def settled (script : Script) (path : String) : Option HttpResponse :=
  script.reply path (script.retries path)

theorem retriable_settled (script : Script) (path : String) : retriable (script.settled path) = false :=
  Nat.find_spec (script.settles path)

theorem retriable_of_lt {script : Script} {path : String} {n : Nat} (h : n < script.retries path) :
    retriable (script.reply path n) = true :=
  Bool.eq_true_of_not_eq_false (Nat.find_min (script.settles path) h)

end Script

/-! ## Answers and records -/

/-- The retry loop digests the answer: a 2xx with a JSON object, a 400, a 409 whose body is no JSON, empty
or an object, or a 413 for a report whose `checks` have a length. -/
def Digested (wire : Dict) : Option HttpResponse → Prop
  | none => False
  | some resp =>
    ((200 ≤ resp.status ∧ resp.status < 300) ∧ ∃ d, resp.body = .json (.obj d)) ∨
    resp.status = 400 ∨
    (resp.status = 409 ∧ ∀ v, resp.body = .json v → v.truthy = true → v.isObj = true) ∨
    (resp.status = 413 ∧ ∃ n, ((Dict.getD wire "checks" (.arr [])).or (.arr [])).len = .ok n)

/-- The fields that `submit_report` is called with by subscript. -/
def requiredFields : List String := ["report_id", "report_type", "started_at", "completed_at"]

/-- The record can be written with its counter raised by one, by two, and so on. -/
def Script.Writes (script : Script) (d : Dict) (n : Int) (attempts : Nat) : Prop :=
  ∀ k < attempts, script.dumpFault (d.set "_attempts" (.int (n + k + 1))) = none

/-- The record can be sent so many times: `int(data.get("_attempts", 0))` is a number, each of the attempts can be
counted, and no required field is missing. -/
def Sendable (script : Script) (attempts : Nat) (d : Dict) : Prop :=
  (∃ n, (Dict.getD d "_attempts" (.int 0)).toInt = .ok n ∧ script.Writes d n attempts) ∧
    ∀ k ∈ requiredFields, ∃ v, d.get? k = some v

theorem wireBody_ok {d : Dict} (h : ∀ k ∈ requiredFields, ∃ v, d.get? k = some v) :
    ∃ body, wireBody (wirePayload d) = .ok body := by
  have hwire : ∀ k ∈ requiredFields, k ∈ wireFields := by decide
  have hget : ∀ k ∈ requiredFields, ∃ v, (wirePayload d).getItem k = .ok v := by
    intro k hk
    obtain ⟨v, hv⟩ := h k hk
    exact ⟨v, Dict.getItem_of_get? ((Dict.get?_restrict_of_mem (hwire k hk)).trans hv)⟩
  obtain ⟨v₁, h₁⟩ := hget "report_id" (by decide)
  obtain ⟨v₂, h₂⟩ := hget "report_type" (by decide)
  obtain ⟨v₃, h₃⟩ := hget "started_at" (by decide)
  obtain ⟨v₄, h₄⟩ := hget "completed_at" (by decide)
  exact ⟨_, by rw [wireBody, h₁, h₂, h₃, h₄]; rfl⟩

theorem requiredFields_of_wireBody {d : Dict} {body : ReportBody} (h : wireBody (wirePayload d) = .ok body) :
    ∀ k ∈ requiredFields, ∃ v, d.get? k = some v := by
  have hwire : ∀ k ∈ requiredFields, k ∈ wireFields := by decide
  have peel : ∀ {α : Type} {k : String} {f : Json → Except PyExc α} {a : α},
      ((wirePayload d).getItem k >>= f) = .ok a → (∃ v, (wirePayload d).get? k = some v) ∧ ∃ v, f v = .ok a := by
    intro α k f a hf
    unfold Dict.getItem at hf
    cases hg : (wirePayload d).get? k with
    | none =>
      rw [hg] at hf
      cases hf
    | some v =>
      rw [hg] at hf
      exact ⟨⟨v, rfl⟩, v, hf⟩
  obtain ⟨h₁, _, h⟩ := peel h
  obtain ⟨h₂, _, h⟩ := peel h
  obtain ⟨h₃, _, h⟩ := peel h
  obtain ⟨h₄, _, h⟩ := peel h
  intro k hk
  rw [← Dict.get?_restrict_of_mem (hwire k hk)]
  simp only [requiredFields, List.mem_cons, List.not_mem_nil, or_false] at hk
  rcases hk with rfl | rfl | rfl | rfl
  · exact h₁
  · exact h₂
  · exact h₃
  · exact h₄

/-! ## Runs of the file operations -/

section Runs

variable {env : Surroundings} {w : World} {p : String} {d : Dict}

theorem run_queueCall {o : QueueOp} {r : Except PyExc o.Ret} {w w' : World}
    (h : handle env o w = (r, w')) : (queueCall o).run (handle env) w = (some r, w') := by
  refine (@Prog.run_perform queueSig PyExc World (handle env) o w).trans ?_
  rw [h]

/-- A call that returns hands over to the rest. -/
theorem run_queueCall_bind {α : Type} {o : QueueOp} {a : o.Ret} {w w' : World} (f : o.Ret → Queue α)
    (h : handle env o w = (.ok a, w')) :
    ((queueCall o).bind f).run (handle env) w = (f a).run (handle env) w' := by
  rw [Prog.run_bind, run_queueCall h]
  rfl

/-- No call takes a submission back. -/
theorem handle_log (o : QueueOp) (w : World) : w.submissions <+: (handle env o w).2.submissions := by
  cases o with
  | dump tmp payload =>
    have hopen : ∀ c, w.submissions <+: (w.writeOpen tmp c).submissions := by
      intro c
      unfold World.writeOpen
      split_ifs <;> exact List.prefix_refl _
    simp only [handle]
    split <;> exact hopen _
  | submit path body =>
    simp only [handle]
    split <;> exact List.prefix_append _ _
  | unlink name | replace tmp name | read site name | statMtime name | rename name target =>
    simp only [handle]
    split
    · exact List.prefix_refl _
    · first
        | exact List.prefix_refl _
        | (split <;> exact List.prefix_refl _)
  | _ => exact List.prefix_refl _

theorem run_log {α : Type} (prog : Queue α) (w : World) :
    w.submissions <+: (prog.run (handle env) w).2.submissions := by
  induction prog generalizing w with
  | ret a => exact List.prefix_refl _
  | raise e => exact List.prefix_refl _
  | hang => exact List.prefix_refl _
  | call o k ih => exact (handle_log o w).trans (ih _ _)

/-- What `load_pending_report` makes of a file's content. -/
def Content.record : Content → Except PyExc Dict
  | .notJson => .error (.pendingReportCorrupt .notJson)
  | .refused why => .error why.exc
  | .json (.obj d) => .ok d
  | .json _ => .error (.pendingReportCorrupt .notObject)

theorem run_loadPendingReport {site : ReadSite} {f : File} (hfault : env.readFault site p = none)
    (hf : w.lookup p = some f) :
    (loadPendingReport site p).run (handle env) w = (some f.content.record, w) := by
  have hread : handle env (.read site p) w = (f.content.load, w) := by
    simp only [handle, hf, hfault]
  have hload : @Prog.run queueSig PyExc Json World (handle env) (queueCall (.read site p)) w =
      (some f.content.load, w) := run_queueCall hread
  simp only [loadPendingReport, Prog.bind_eq, Prog.run_bind, Prog.run_tryCatch, hload]
  cases f.content with
  | notJson => rfl
  | refused why => cases why <;> rfl
  | json v => cases v <;> rfl

/-- The world after `_atomic_write_json`. -/
def World.written (w : World) (p : String) (payload : Dict) : World :=
  ((w.write (tmpFile p) .notJson).writeOpen (tmpFile p) (.json (.obj payload))).install (tmpFile p) p
    ⟨.json (.obj payload), w.time⟩

theorem run_atomicWriteJson (w : World) (p : String) {payload : Dict} (hwrites : env.dumpFault payload = none) :
    (atomicWriteJson p payload).run (handle env) w = (some (.ok ()), w.written p payload) := by
  have hopen : (w.write (tmpFile p) .notJson).lookup (tmpFile p) = some ⟨.notJson, w.time⟩ :=
    World.lookup_write_self w _ _
  have hwritten := World.lookup_writeOpen_self (w.write (tmpFile p) .notJson) (.json (.obj payload)) hopen
  have hfill : (fillTmp (tmpFile p) payload).run (handle env) (w.write (tmpFile p) .notJson) =
      (some (.ok ()), (w.write (tmpFile p) .notJson).writeOpen (tmpFile p) (.json (.obj payload))) := by
    have hcall : handle env (.dump (tmpFile p) payload) (w.write (tmpFile p) .notJson) =
        (.ok (), (w.write (tmpFile p) .notJson).writeOpen (tmpFile p) (.json (.obj payload))) := by
      simp only [handle, hwrites]
    rw [fillTmp, Prog.run_tryCatch, Prog.bind_eq, run_queueCall_bind _ hcall]
    rfl
  have hreplace : handle env (.replace (tmpFile p) p)
      ((w.write (tmpFile p) .notJson).writeOpen (tmpFile p) (.json (.obj payload))) =
      (.ok (), w.written p payload) := by
    simp only [handle, hwritten]
    rfl
  refine (run_queueCall_bind _ rfl).trans ((run_queueCall_bind _ rfl).trans ?_)
  rw [Prog.bind_eq, Prog.run_bind]
  show Prog.andThen _ _ ((fillTmp (tmpFile p) payload).run (handle env) (w.write (tmpFile p) .notJson)) = _
  rw [hfill]
  exact (run_queueCall_bind _ hreplace).trans (run_queueCall rfl)

/-- Where the payload cannot be written, the temporary file goes and what `json.dump` raises stays. -/
theorem run_atomicWriteJson_error (w : World) (p : String) {payload : Dict} {e : PyExc}
    (hfault : env.dumpFault payload = some e) :
    ∃ w', (atomicWriteJson p payload).run (handle env) w = (some (.error e), w') := by
  have hopen : (w.write (tmpFile p) .notJson).lookup (tmpFile p) = some ⟨.notJson, w.time⟩ :=
    World.lookup_write_self w _ _
  have htorn := World.lookup_writeOpen_self (w.write (tmpFile p) .notJson) .notJson hopen
  have hcall : handle env (.dump (tmpFile p) payload) (w.write (tmpFile p) .notJson) =
      (.error e, (w.write (tmpFile p) .notJson).writeOpen (tmpFile p) .notJson) := by
    simp only [handle, hfault]
  have hunlink : handle env (.unlink (tmpFile p)) ((w.write (tmpFile p) .notJson).writeOpen (tmpFile p) .notJson) =
      (.ok (), ((w.write (tmpFile p) .notJson).writeOpen (tmpFile p) .notJson).remove (tmpFile p)) := by
    simp only [handle, htorn]
  have hfill : (fillTmp (tmpFile p) payload).run (handle env) (w.write (tmpFile p) .notJson) =
      (some (.error e), ((w.write (tmpFile p) .notJson).writeOpen (tmpFile p) .notJson).remove (tmpFile p)) := by
    have hignore : (ignoreMissing (queueCall (.unlink (tmpFile p)))).run (handle env)
        ((w.write (tmpFile p) .notJson).writeOpen (tmpFile p) .notJson) =
        (some (.ok ()), ((w.write (tmpFile p) .notJson).writeOpen (tmpFile p) .notJson).remove (tmpFile p)) := by
      rw [ignoreMissing, Prog.run_tryCatch, run_queueCall hunlink]
      rfl
    rw [fillTmp, Prog.run_tryCatch, Prog.bind_eq, Prog.run_bind, run_queueCall hcall, Prog.andThen_error,
      Prog.orElse_error, Prog.bind_eq, Prog.run_bind, hignore]
    rfl
  refine ⟨((w.write (tmpFile p) .notJson).writeOpen (tmpFile p) .notJson).remove (tmpFile p), ?_⟩
  refine (run_queueCall_bind _ rfl).trans ((run_queueCall_bind _ rfl).trans ?_)
  rw [Prog.bind_eq, Prog.run_bind]
  show Prog.andThen _ _ ((fillTmp (tmpFile p) payload).run (handle env) (w.write (tmpFile p) .notJson)) = _
  rw [hfill]
  rfl

theorem holdsRecord_written (w : World) (p : String) (payload : Dict) :
    HoldsRecord p payload (w.written p payload) :=
  ⟨_, World.lookup_install_self _ _, rfl⟩

theorem submissions_written (w : World) (p : String) (payload : Dict) :
    (w.written p payload).submissions = w.submissions := by
  show ((w.write (tmpFile p) .notJson).writeOpen (tmpFile p) (.json (.obj payload))).submissions = _
  unfold World.writeOpen
  split_ifs <;> rfl

theorem run_incrementAttempts {n : Int} (hfault : env.readFault .increment p = none)
    (hd : HoldsRecord p d w) (hn : (Dict.getD d "_attempts" (.int 0)).toInt = .ok n)
    (hwrites : env.dumpFault (d.set "_attempts" (.int (n + 1))) = none) :
    (incrementAttempts p).run (handle env) w =
      (some (.ok (n + 1)), w.written p (d.set "_attempts" (.int (n + 1)))) := by
  obtain ⟨f, hf, hc⟩ := hd
  simp only [incrementAttempts, Prog.bind_eq, Prog.run_bind, run_loadPendingReport hfault hf, hc,
    Content.record, Prog.andThen_ok, hn, Prog.run_ofExcept, run_atomicWriteJson w p hwrites]
  rfl

/-- A counter that cannot be written stops the attempt. -/
theorem run_incrementAttempts_unwritten {n : Int} {e : PyExc} (hfault : env.readFault .increment p = none)
    (hd : HoldsRecord p d w) (hn : (Dict.getD d "_attempts" (.int 0)).toInt = .ok n)
    (hdump : env.dumpFault (d.set "_attempts" (.int (n + 1))) = some e) :
    ∃ w', (incrementAttempts p).run (handle env) w = (some (.error e), w') := by
  obtain ⟨f, hf, hc⟩ := hd
  obtain ⟨w', hwrite⟩ := run_atomicWriteJson_error w p hdump
  refine ⟨w', ?_⟩
  simp only [incrementAttempts, Prog.bind_eq, Prog.run_bind, run_loadPendingReport hfault hf, hc,
    Content.record, Prog.andThen_ok, hn, Prog.run_ofExcept, hwrite, Prog.andThen_error]

theorem run_incrementAttempts_error {e : PyExc} (hfault : env.readFault .increment p = none)
    (hd : HoldsRecord p d w) (he : (Dict.getD d "_attempts" (.int 0)).toInt = .error e) :
    (incrementAttempts p).run (handle env) w = (some (.error e), w) := by
  obtain ⟨f, hf, hc⟩ := hd
  simp only [incrementAttempts, Prog.bind_eq, Prog.run_bind, run_loadPendingReport hfault hf, hc,
    Content.record, Prog.andThen_ok, he, Prog.run_ofExcept, Prog.andThen_error]

end Runs

/-! ## One attempt -/

section Attempt

variable {script : Script} {client : DashboardClient} {shutdown_event : Bool} {w : World} {p : String}
  {wire : Dict}

/-- What `submit_report` makes of an answer. -/
def attemptResult (client : DashboardClient) : Option HttpResponse → Except PyExc Json
  | none => .error (.dashboard
      { kind := .network, message := .str ("request error calling POST " ++ client.reportsPath) })
  | some resp => handleResponse "POST" client.reportsPath resp

/-- The submission that an attempt adds. -/
def attemptOf (script : Script) (w : World) (p : String) (body : ReportBody) : Submission :=
  ⟨p, body, (script.reply p (w.callsFor p)).map (·.status)⟩

/-- Any handler that gives the submission this answer gives the attempt its result. -/
theorem run_submitWire_of {σ : Type} {h : (o : QueueOp) → σ → Except PyExc o.Ret × σ} {body : ReportBody}
    {answer : Option HttpResponse} {s s' : σ} (hbody : wireBody wire = .ok body)
    (hsubmit : h (.submit p body) s = (answer.elim (.error .requests) .ok, s')) :
    @Prog.run queueSig PyExc Json σ h (submitWire client p wire) s = (some (attemptResult client answer), s') := by
  have hcall : @Prog.run queueSig PyExc HttpResponse σ h (queueCall (.submit p body)) s =
      (some (answer.elim (.error .requests) .ok), s') := by
    refine (@Prog.run_perform queueSig PyExc σ h (.submit p body) s).trans ?_
    rw [hsubmit]
  simp only [submitWire, submitReport, request, Prog.bind_eq, Prog.run_bind, hbody, Prog.run_ofExcept,
    Prog.andThen_ok, Prog.run_tryCatch, hcall]
  cases answer with
  | none => rfl
  | some resp =>
    simp only [Option.elim_some, Prog.orElse_ok, Prog.andThen_ok, Prog.run_ofExcept]
    rfl

theorem run_submitWire {body : ReportBody} (hbody : wireBody wire = .ok body) :
    (submitWire client p wire).run (handle script.env) w =
      (some (attemptResult client (script.reply p (w.callsFor p))), w.submitted (attemptOf script w p body)) := by
  refine run_submitWire_of hbody ?_
  simp only [handle, Script.env, attemptOf]
  cases script.reply p (w.callsFor p) <;> rfl

theorem run_submitWire_error {e : PyExc} (hbody : wireBody wire = .error e) :
    (submitWire client p wire).run (handle script.env) w = (some (.error e), w) := by
  simp only [submitWire, Prog.bind_eq, Prog.run_bind, hbody, Prog.run_ofExcept, Prog.andThen_error]

/-- A retriable answer becomes one of the three retriable errors. -/
theorem attemptResult_retriable {answer : Option HttpResponse} (h : retriable answer = true) :
    ∃ e : DashboardError, attemptResult client answer = .error (.dashboard e) ∧ e.kind.isRetriable = true := by
  cases answer with
  | none => exact ⟨_, rfl, rfl⟩
  | some resp =>
    have hstatus : resp.status = 429 ∨ (500 ≤ resp.status ∧ resp.status < 600) := by
      simpa [retriable] using h
    obtain ⟨e, he, hk⟩ := @handleResponse_error "POST" client.reportsPath resp (by omega)
    exact ⟨e, he, by rw [hk]; exact (errorKindOfStatus_isRetriable _).mpr hstatus⟩

theorem run_backoffWait (delay : Rat) (w : World) :
    (backoffWait shutdown_event delay).run (handle script.env) w = (some (.ok false), w) := by
  cases shutdown_event <;> rfl

/-- After a retriable error the loop waits and goes round. -/
theorem run_handleOutcome_retriable {e : DashboardError} (h : e.kind.isRetriable = true)
    (started_mono : Rat) (attempts : Int) (retry : Queue ReportSubmissionResult) (w : World) :
    (handleOutcome shutdown_event p wire started_mono attempts retry (.error (.dashboard e))).run
      (handle script.env) w = retry.run (handle script.env) w := by
  obtain ⟨kind, message, code, request_id, status_code, body⟩ := e
  cases kind with
  | server | network | rateLimit =>
    simp only [handleOutcome, Prog.bind_eq, Prog.run_bind, run_backoffWait, Prog.andThen_ok,
      Bool.false_eq_true, if_false]
  | _ => cases h

/-- A program's run ends with a value that satisfies `P`. -/
def Returns {α : Type} (script : Script) (prog : Queue α) (w : World) (P : α → Prop) : Prop :=
  ∃ a, (prog.run (handle script.env) w).1 = some (.ok a) ∧ P a

/-- A program's run ends with an exception. -/
def Raises {α : Type} (script : Script) (prog : Queue α) (w : World) : Prop :=
  ∃ e, (prog.run (handle script.env) w).1 = some (.error e)

theorem Raises.not_returns {α : Type} {prog : Queue α} {P : α → Prop} (h : Raises script prog w) :
    ¬ Returns script prog w P := by
  rintro ⟨a, ha, -⟩
  obtain ⟨e, he⟩ := h
  rw [ha] at he
  cases he

/-- Deleting the file of a finished report always works. -/
theorem finishAttempt_returns (started_mono : Rat) {status : SubmissionStatus} (h : status ≠ .shutdown)
    (attempts : Int) (summary : Json) (w : World) :
    Returns script (finishAttempt p started_mono status attempts summary) w fun r => r.status ≠ .shutdown := by
  simp only [Returns, finishAttempt, deletePendingReport, ignoreMissing, Prog.bind_eq, Prog.run_bind,
    Prog.run_tryCatch]
  cases hf : w.lookup p with
  | none =>
    have hcall : handle script.env (.unlink p) w = (.error fileNotFound, w) := by simp only [handle, hf]
    refine ⟨{ status, attempts, elapsed := 0 - started_mono, dashboard_summary := summary }, ?_, h⟩
    rw [show Prog.run (handle script.env) (queueCall (.unlink p)) w = _ from run_queueCall hcall]
    rfl
  | some f =>
    have hcall : handle script.env (.unlink p) w = (.ok (), w.remove p) := by simp only [handle, hf]
    refine ⟨{ status, attempts, elapsed := 0 - started_mono, dashboard_summary := summary }, ?_, h⟩
    rw [show Prog.run (handle script.env) (queueCall (.unlink p)) w = _ from run_queueCall hcall]
    rfl

/-- The loop ends: normally and without a shutdown under this condition, with an exception otherwise. -/
def Settles (script : Script) (prog : Queue ReportSubmissionResult) (w : World) (good : Prop) : Prop :=
  (good → Returns script prog w fun r => r.status ≠ .shutdown) ∧ (¬ good → Raises script prog w)

theorem Settles.congr {prog : Queue ReportSubmissionResult} {good good' : Prop}
    (h : Settles script prog w good) (hgood : good' ↔ good) : Settles script prog w good' :=
  ⟨fun h' => h.1 (hgood.mp h'), fun h' => h.2 (mt hgood.mpr h')⟩

/-- Only an object has a `get`. -/
theorem get_ok_iff {v : Json} {k : String} : (∃ x, v.get k = .ok x) ↔ ∃ d, v = .obj d := by
  cases v with
  | obj d => exact ⟨fun _ => ⟨d, rfl⟩, fun _ => ⟨_, rfl⟩⟩
  | _ => exact ⟨nofun, nofun⟩

/-- The conflict body that the retry loop reads, in terms of the response. -/
theorem conflictBody_obj_iff {body : Body} :
    (∃ d, body.document.or (.obj []) = .obj d) ↔
      ∀ v, body = .json v → v.truthy = true → v.isObj = true := by
  unfold Json.or
  cases body with
  | notJson => exact ⟨fun _ => nofun, fun _ => ⟨[], rfl⟩⟩
  | json v =>
    show (∃ d, (if v.truthy = true then v else .obj []) = .obj d) ↔ _
    by_cases ht : v.truthy = true
    · rw [if_pos ht]
      refine ⟨fun ⟨d, hd⟩ u hu _ => ?_, fun h => ?_⟩
      · obtain rfl := Body.json.inj hu
        rw [hd]
        rfl
      · have hobj := h v rfl ht
        cases v with
        | obj d => exact ⟨d, rfl⟩
        | _ => cases hobj
    · rw [if_neg ht]
      refine ⟨fun _ u hu hut => ?_, fun _ => ⟨[], rfl⟩⟩
      obtain rfl := Body.json.inj hu
      exact absurd hut ht

section Settled

variable (shutdown_event) (started_mono : Rat) (attempts : Int) (retry : Queue ReportSubmissionResult)

/-- What an answer that settles a file makes of it: the result that is returned once the file is deleted;
`none` when the error propagates. -/
def settledStatus (status : Nat) : Option SubmissionStatus :=
  if 200 ≤ status ∧ status < 300 then some .delivered
  else if status = 409 then some .duplicate
  else if status = 400 ∨ status = 413 then some .rejected
  else none

theorem settledStatus_ne_shutdown {status : Nat} {result : SubmissionStatus}
    (h : settledStatus status = some result) : result ≠ .shutdown := by
  rintro rfl
  unfold settledStatus at h
  split_ifs at h <;> cases h

/-- The loop finishes with a file under this condition, and raises otherwise; what it raises for a status
that settles nothing is the dashboard error of that status. -/
def FinishesWhen (p : String) (started_mono : Rat) (attempts : Int) (status : Nat) (good : Prop)
    (prog : Queue ReportSubmissionResult) : Prop :=
  (good → ∃ result summary, settledStatus status = some result ∧
    prog = finishAttempt p started_mono result attempts summary) ∧
  (¬ good → ∃ e, prog = .raise e ∧
    (settledStatus status = none → ∃ de : DashboardError, e = .dashboard de ∧ de.kind = errorKindOfStatus status))

/-- What a log record may raise comes before the file is deleted. -/
theorem finishesWhen_after {α : Type} {status : Nat} {result : SubmissionStatus} (x : Except PyExc α)
    (summary : α → Json) (h : settledStatus status = some result) :
    FinishesWhen p started_mono attempts status (∃ a, x = .ok a) ((Prog.ofExcept x : Queue α).bind fun a =>
      finishAttempt p started_mono result attempts (summary a)) := by
  cases x with
  | ok a => exact ⟨fun _ => ⟨result, summary a, h, rfl⟩, fun hno => absurd ⟨a, rfl⟩ hno⟩
  | error e =>
    refine ⟨nofun, fun _ => ⟨e, rfl, fun hnone => ?_⟩⟩
    rw [h] at hnone
    cases hnone

theorem FinishesWhen.congr {status : Nat} {good good' : Prop} {prog : Queue ReportSubmissionResult}
    (h : FinishesWhen p started_mono attempts status good prog) (hgood : good' ↔ good) :
    FinishesWhen p started_mono attempts status good' prog :=
  ⟨fun h' => h.1 (hgood.mp h'), fun h' => h.2 (mt hgood.mpr h')⟩

/-- A 2xx is digested when its body is an object. -/
theorem finishesWhen_success {resp : HttpResponse} (h : 200 ≤ resp.status ∧ resp.status < 300) :
    FinishesWhen p started_mono attempts resp.status (Digested wire (some resp))
      (handleOutcome shutdown_event p wire started_mono attempts retry
        (handleResponse "POST" client.reportsPath resp)) := by
  have hd : Digested wire (some resp) ↔ ∃ d, resp.body = .json (.obj d) := by
    have hother : resp.status ≠ 400 ∧ resp.status ≠ 409 ∧ resp.status ≠ 413 := by omega
    simp [Digested, h, hother]
  have hstatus : settledStatus resp.status = some .delivered := if_pos h
  rw [handleResponse, if_pos h]
  cases hb : resp.body with
  | notJson =>
    refine ⟨fun hdig => ?_, fun _ => ⟨_, rfl, fun hnone => ?_⟩⟩
    · obtain ⟨d, hbody⟩ := hd.mp hdig
      rw [hb] at hbody
      cases hbody
    · rw [hstatus] at hnone
      cases hnone
  | json v =>
    have hfinish := @finishesWhen_after p started_mono attempts _ _ _ (v.get "summary") id hstatus
    refine hfinish.congr started_mono attempts (hd.trans (Iff.trans ?_ get_ok_iff.symm))
    simp [hb]

/-- A conflict is digested when its body is falsy or an object. -/
theorem finishesWhen_conflict {resp : HttpResponse} (h : resp.status = 409) :
    FinishesWhen p started_mono attempts resp.status (Digested wire (some resp))
      (handleOutcome shutdown_event p wire started_mono attempts retry
        (handleResponse "POST" client.reportsPath resp)) := by
  have hd : Digested wire (some resp) ↔ ∀ v, resp.body = .json v → v.truthy = true → v.isObj = true := by
    simp [Digested, h]
  have hstatus : settledStatus resp.status = some .duplicate := by rw [h]; rfl
  obtain ⟨⟨kind, message, code, request_id, status_code, body⟩, he, hkind, hbody⟩ :=
    @handleResponse_conflict "POST" client.reportsPath resp h
  obtain rfl : kind = .conflict := hkind
  obtain rfl : body = resp.body.document := hbody
  rw [he]
  have hfinish := @finishesWhen_after p started_mono attempts _ _ _
    ((resp.body.document.or (.obj [])).get "original_received_at")
    (fun _ => if (resp.body.document.or (.obj [])).truthy then resp.body.document.or (.obj []) else .null) hstatus
  exact hfinish.congr started_mono attempts (hd.trans (conflictBody_obj_iff.symm.trans get_ok_iff.symm))

/-- Of the other settling answers only 400 and 413 are digested. -/
theorem finishesWhen_error {resp : HttpResponse} (hok : ¬ (200 ≤ resp.status ∧ resp.status < 300))
    (h409 : resp.status ≠ 409) (hsettled : retriable (some resp) = false) :
    FinishesWhen p started_mono attempts resp.status (Digested wire (some resp))
      (handleOutcome shutdown_event p wire started_mono attempts retry
        (handleResponse "POST" client.reportsPath resp)) := by
  have hstatus : resp.status ≠ 429 ∧ ¬ (500 ≤ resp.status ∧ resp.status < 600) := by
    simpa [retriable] using hsettled
  obtain ⟨⟨kind, message, code, request_id, status_code, body⟩, he, hkind⟩ :=
    @handleResponse_error "POST" client.reportsPath resp hok
  obtain rfl : kind = errorKindOfStatus resp.status := hkind
  rw [he]
  by_cases h400 : resp.status = 400
  · rw [show errorKindOfStatus resp.status = .validation by rw [h400]; rfl]
    refine ⟨fun _ => ⟨.rejected, .null, by rw [h400]; rfl, rfl⟩, fun h => absurd (Or.inr (Or.inl h400)) h⟩
  by_cases h413 : resp.status = 413
  · -- too large: the log counts the checks
    rw [show errorKindOfStatus resp.status = .payloadTooLarge by rw [h413]; rfl]
    have hfinish := @finishesWhen_after p started_mono attempts _ resp.status .rejected
      ((Dict.getD wire "checks" (.arr [])).or (.arr [])).len (fun _ => .null) (by rw [h413]; rfl)
    refine hfinish.congr started_mono attempts ?_
    simp [Digested, h413]
  · -- every other status propagates
    have hother : errorKindOfStatus resp.status = .auth ∨ errorKindOfStatus resp.status = .notFound ∨
        errorKindOfStatus resp.status = .base := by
      unfold errorKindOfStatus
      split_ifs <;> simp_all
    refine ⟨?_, fun _ => ?_⟩
    · rintro (⟨h, -⟩ | h | ⟨h, -⟩ | ⟨h, -⟩)
      · exact absurd h hok
      · exact absurd h h400
      · exact absurd h h409
      · exact absurd h h413
    · rcases hother with h | h | h <;>
        · rw [h]
          exact ⟨_, rfl, fun _ => ⟨_, rfl, rfl⟩⟩

/-- **A settling answer** ends the loop: the file is finished with exactly when the answer is digested. -/
theorem finishesWhen_settled {resp : HttpResponse} (hsettled : retriable (some resp) = false) :
    FinishesWhen p started_mono attempts resp.status (Digested wire (some resp))
      (handleOutcome shutdown_event p wire started_mono attempts retry (attemptResult client (some resp))) := by
  by_cases hok : 200 ≤ resp.status ∧ resp.status < 300
  · exact finishesWhen_success shutdown_event started_mono attempts retry hok
  by_cases h409 : resp.status = 409
  · exact finishesWhen_conflict shutdown_event started_mono attempts retry h409
  · exact finishesWhen_error shutdown_event started_mono attempts retry hok h409 hsettled

/-- So the loop returns without a shutdown exactly when the answer is digested. -/
theorem settles_handleOutcome {answer : Option HttpResponse} (hsettled : retriable answer = false) (w : World) :
    Settles script (handleOutcome shutdown_event p wire started_mono attempts retry
      (attemptResult client answer)) w (Digested wire answer) := by
  cases answer with
  | none => cases hsettled
  | some resp =>
    obtain ⟨hfinishes, hraises⟩ := @finishesWhen_settled client shutdown_event p wire started_mono attempts retry
      resp hsettled
    refine ⟨fun hdig => ?_, fun hdig => ?_⟩
    · obtain ⟨result, summary, hstatus, hprog⟩ := hfinishes hdig
      rw [hprog]
      exact finishAttempt_returns started_mono (settledStatus_ne_shutdown hstatus) attempts summary w
    · obtain ⟨e, hprog, -⟩ := hraises hdig
      rw [hprog]
      exact ⟨e, rfl⟩

end Settled

end Attempt

/-! ## The retry loop -/

section Loop

variable {script : Script} {client : DashboardClient} {shutdown_event : Bool} {w : World} {p : String}
  {d wire : Dict} {started_mono : Rat}

theorem callsFor_submitted (w : World) (s : Submission) (p : String) :
    (w.submitted s).callsFor p = w.callsFor p + if s.path = p then 1 else 0 := by
  unfold World.callsFor World.submitted
  rw [List.countP_append, List.countP_singleton]
  simp only [decide_eq_true_eq]

theorem callsFor_written (w : World) (q : String) (payload : Dict) (p : String) :
    (w.written q payload).callsFor p = w.callsFor p := by
  unfold World.callsFor
  rw [submissions_written]

/-- The world after one round of the loop: the counter is rewritten and the body is sent. -/
def World.afterAttempt (w : World) (script : Script) (p : String) (d : Dict) (n : Int) (body : ReportBody) :
    World :=
  (w.written p (d.set "_attempts" (.int (n + 1)))).submitted
    (attemptOf script (w.written p (d.set "_attempts" (.int (n + 1)))) p body)

/-- One round: what is left is to handle the answer. -/
theorem run_round {n : Int} {body : ReportBody} (hd : HoldsRecord p d w)
    (hn : (Dict.getD d "_attempts" (.int 0)).toInt = .ok n)
    (hwrites : script.dumpFault (d.set "_attempts" (.int (n + 1))) = none) (hbody : wireBody wire = .ok body)
    (fuel : Nat) :
    (retryLoopForPath client shutdown_event p wire started_mono (fuel + 1)).run (handle script.env) w =
      (handleOutcome shutdown_event p wire started_mono (n + 1)
        (retryLoopForPath client shutdown_event p wire started_mono fuel)
        (attemptResult client (script.reply p (w.callsFor p)))).run (handle script.env)
          (w.afterAttempt script p d n body) := by
  have hinc := @run_incrementAttempts script.env w p d n rfl hd hn hwrites
  have hsend := @run_submitWire script client (w.written p (d.set "_attempts" (.int (n + 1)))) p wire body hbody
  rw [callsFor_written] at hsend
  simp only [retryLoopForPath, Prog.bind_eq, Prog.run_bind, hinc, Prog.andThen_ok, Prog.run_attempt, hsend]
  rfl

/-- A counter that is no number stops the loop before anything is sent. -/
theorem run_retryLoop_attempts_error {e : PyExc} (hd : HoldsRecord p d w)
    (hn : (Dict.getD d "_attempts" (.int 0)).toInt = .error e) (fuel : Nat) :
    (retryLoopForPath client shutdown_event p wire started_mono (fuel + 1)).run (handle script.env) w =
      (some (.error e), w) := by
  have hinc := @run_incrementAttempts_error script.env w p d e rfl hd hn
  simp only [retryLoopForPath, Prog.bind_eq, Prog.run_bind, hinc, Prog.andThen_error]

/-- So does one that cannot be written. -/
theorem raises_retryLoop_unwritten {n : Int} {e : PyExc} (hd : HoldsRecord p d w)
    (hn : (Dict.getD d "_attempts" (.int 0)).toInt = .ok n)
    (hdump : script.dumpFault (d.set "_attempts" (.int (n + 1))) = some e) (fuel : Nat) :
    Raises script (retryLoopForPath client shutdown_event p wire started_mono (fuel + 1)) w := by
  obtain ⟨w', hinc⟩ := @run_incrementAttempts_unwritten script.env w p d n e rfl hd hn hdump
  refine ⟨e, ?_⟩
  simp only [retryLoopForPath, Prog.bind_eq, Prog.run_bind, hinc, Prog.andThen_error]

/-- A missing field raises a `KeyError`, which no `except` clause catches. -/
theorem run_retryLoop_body_error {n : Int} {e : PyExc} (hd : HoldsRecord p d w)
    (hn : (Dict.getD d "_attempts" (.int 0)).toInt = .ok n)
    (hwrites : script.dumpFault (d.set "_attempts" (.int (n + 1))) = none) (hbody : wireBody wire = .error e)
    (fuel : Nat) :
    (retryLoopForPath client shutdown_event p wire started_mono (fuel + 1)).run (handle script.env) w =
      (some (.error e), w.written p (d.set "_attempts" (.int (n + 1)))) := by
  have hinc := @run_incrementAttempts script.env w p d n rfl hd hn hwrites
  have hsend := @run_submitWire_error script client
    (w.written p (d.set "_attempts" (.int (n + 1)))) p wire e hbody
  obtain ⟨k, rfl⟩ := wireBody_error hbody
  simp only [retryLoopForPath, Prog.bind_eq, Prog.run_bind, hinc, Prog.andThen_ok, Prog.run_attempt, hsend]
  rfl

theorem Settles.of_run {prog prog' : Queue ReportSubmissionResult} {w' : World} {good : Prop}
    (hrun : prog.run (handle script.env) w = prog'.run (handle script.env) w')
    (h : Settles script prog' w' good) : Settles script prog w good := by
  simp only [Settles, Returns, Raises, hrun]
  exact h

theorem holdsRecord_afterAttempt (n : Int) (body : ReportBody) :
    HoldsRecord p (d.set "_attempts" (.int (n + 1))) (w.afterAttempt script p d n body) :=
  holdsRecord_written w p _

theorem callsFor_afterAttempt (n : Int) (body : ReportBody) :
    (w.afterAttempt script p d n body).callsFor p = w.callsFor p + 1 := by
  rw [World.afterAttempt, callsFor_submitted, callsFor_written]
  exact congrArg _ (if_pos rfl)

/-- Whether the rest of the attempts can be counted does not depend on those before. -/
theorem Script.writes_succ_iff {n : Int} {attempts : Nat} : script.Writes d n (attempts + 1) ↔
    script.dumpFault (d.set "_attempts" (.int (n + 1))) = none ∧
      script.Writes (d.set "_attempts" (.int (n + 1))) (n + 1) attempts := by
  unfold Script.Writes
  simp only [Dict.set_set]
  constructor
  · intro h
    refine ⟨by simpa using h 0 (Nat.succ_pos _), fun k hk => ?_⟩
    have hnext := h (k + 1) (Nat.succ_lt_succ hk)
    rwa [Nat.cast_succ, ← add_assoc, add_right_comm n (k : Int) 1] at hnext
  · rintro ⟨hfirst, hrest⟩ k hk
    cases k with
    | zero => simpa using hfirst
    | succ k =>
      have hnext := hrest k (Nat.lt_of_succ_lt_succ hk)
      rwa [Nat.cast_succ, ← add_assoc, add_right_comm n (k : Int) 1]

/-- **The retry loop ends** with the answer that settles the file, where every attempt up to it can be counted: by
induction on the fuel, which exceeds the retriable answers that are still to come. -/
theorem settles_retryLoop {n : Int} {body : ReportBody} (hbody : wireBody wire = .ok body) (fuel : Nat)
    (hd : HoldsRecord p d w) (hn : (Dict.getD d "_attempts" (.int 0)).toInt = .ok n)
    (hcalls : w.callsFor p ≤ script.retries p) (hfuel : script.retries p < fuel + w.callsFor p) :
    Settles script (retryLoopForPath client shutdown_event p wire started_mono fuel) w
      (script.Writes d n (script.retries p - w.callsFor p + 1) ∧ Digested wire (script.settled p)) := by
  induction fuel generalizing w d n with
  | zero => omega
  | succ fuel ih =>
    rw [Script.writes_succ_iff]
    cases hdump : script.dumpFault (d.set "_attempts" (.int (n + 1))) with
    | some e =>
      refine ⟨fun h => ?_, fun _ => raises_retryLoop_unwritten hd hn hdump fuel⟩
      cases h.1.1
    | none =>
      refine Settles.of_run (run_round hd hn hdump hbody fuel) ?_
      cases hr : retriable (script.reply p (w.callsFor p)) with
      | true =>
        -- one retriable answer less is to come, with the counter raised by one
        have hne : w.callsFor p ≠ script.retries p := by
          intro heq
          rw [heq] at hr
          exact absurd hr (by rw [show script.reply p (script.retries p) = script.settled p from rfl,
            script.retriable_settled]; decide)
        obtain ⟨e, he, hk⟩ := @attemptResult_retriable client _ hr
        rw [he]
        refine Settles.of_run (run_handleOutcome_retriable hk started_mono _ _ _) ?_
        have hcount := @callsFor_afterAttempt script w p d n body
        have hleft : script.retries p - w.callsFor p =
            script.retries p - (w.afterAttempt script p d n body).callsFor p + 1 := by
          rw [hcount]
          omega
        refine (ih (holdsRecord_afterAttempt n body) (n := n + 1) ?_ ?_ ?_).congr ?_
        · rw [Dict.getD, Dict.get?_set_self]
          rfl
        · rw [hcount]
          omega
        · rw [hcount]
          omega
        · rw [← hleft]
          simp
      | false =>
        -- this is the answer that settles the file, and no attempt is left to be counted
        have heq : w.callsFor p = script.retries p := by
          rcases Nat.lt_or_ge (w.callsFor p) (script.retries p) with hlt | hge
          · rw [Script.retriable_of_lt hlt] at hr
            cases hr
          · omega
        have hlast : script.Writes (d.set "_attempts" (.int (n + 1))) (n + 1) (script.retries p - w.callsFor p) := by
          rw [heq, Nat.sub_self]
          exact fun k hk => absurd hk (Nat.not_lt_zero k)
        rw [show script.settled p = script.reply p (w.callsFor p) by rw [heq]; rfl]
        exact (settles_handleOutcome shutdown_event started_mono _ _ hr _).congr (by simp [hlast])

/-- A loop that returned has sent the record, and it was not told to shut down. -/
theorem retryLoop_sent (fuel : Nat) (hd : HoldsRecord p d w) {r : ReportSubmissionResult}
    (hr : ((retryLoopForPath client shutdown_event p wire started_mono fuel).run (handle script.env) w).1 =
      some (.ok r)) :
    r.status ≠ .shutdown ∧
      ∃ sub ∈ ((retryLoopForPath client shutdown_event p wire started_mono fuel).run
        (handle script.env) w).2.submissions, sub.path = p ∧ wireBody wire = .ok sub.body := by
  induction fuel generalizing w d with
  | zero => cases hr
  | succ fuel ih =>
    cases hn : (Dict.getD d "_attempts" (.int 0)).toInt with
    | error e =>
      rw [run_retryLoop_attempts_error hd hn fuel] at hr
      cases hr
    | ok n =>
      cases hdump : script.dumpFault (d.set "_attempts" (.int (n + 1))) with
      | some e =>
        have hraises := @raises_retryLoop_unwritten script client shutdown_event w p d wire started_mono n e hd hn
          hdump fuel
        exact absurd ⟨r, hr, trivial⟩ (hraises.not_returns (P := fun _ => True))
      | none =>
        cases hbody : wireBody wire with
        | error e =>
          rw [run_retryLoop_body_error hd hn hdump hbody fuel] at hr
          cases hr
        | ok body =>
          rw [run_round hd hn hdump hbody fuel] at hr ⊢
          refine ⟨?_, attemptOf script (w.written p (d.set "_attempts" (.int (n + 1)))) p body, ?_, rfl, rfl⟩
          · cases hret : retriable (script.reply p (w.callsFor p)) with
            | true =>
              obtain ⟨e, he, hk⟩ := @attemptResult_retriable client _ hret
              rw [he, run_handleOutcome_retriable hk] at hr
              exact (ih (holdsRecord_afterAttempt n body) hr).1
            | false =>
              have hsettles := @settles_handleOutcome script client shutdown_event p wire started_mono (n + 1)
                (retryLoopForPath client shutdown_event p wire started_mono fuel) _ hret
                (w.afterAttempt script p d n body)
              by_cases hdig : Digested wire (script.reply p (w.callsFor p))
              · obtain ⟨r', hr', hs⟩ := hsettles.1 hdig
                obtain rfl := Except.ok.inj (Option.some.inj (hr.symm.trans hr'))
                exact hs
              · exact absurd ⟨r, hr, trivial⟩ ((hsettles.2 hdig).not_returns (P := fun _ => True))
          · exact (run_log _ _).subset (List.mem_append_right _ List.mem_cons_self)

/-- **The loop on a record**: it ends normally exactly when the record can be sent as often as it takes and the
settling answer is digested. -/
theorem settles_record (fuel : Nat) (hd : HoldsRecord p d w) (hcalls : w.callsFor p = 0)
    (hfuel : script.retries p < fuel) :
    Settles script (retryLoopForPath client shutdown_event p (wirePayload d) started_mono fuel) w
      (Sendable script (script.retries p + 1) d ∧ Digested (wirePayload d) (script.settled p)) := by
  obtain ⟨fuel, rfl⟩ : ∃ k, fuel = k + 1 := ⟨fuel - 1, by omega⟩
  cases hn : (Dict.getD d "_attempts" (.int 0)).toInt with
  | error e =>
    refine ⟨fun h => ?_, fun _ => ⟨e, by rw [run_retryLoop_attempts_error hd hn]⟩⟩
    obtain ⟨n, hn', -⟩ := h.1.1
    rw [hn] at hn'
    cases hn'
  | ok n =>
    cases hbody : wireBody (wirePayload d) with
    | error e =>
      refine ⟨fun h => ?_, fun _ => ?_⟩
      · obtain ⟨body, hbody'⟩ := wireBody_ok h.1.2
        rw [hbody] at hbody'
        cases hbody'
      · cases hdump : script.dumpFault (d.set "_attempts" (.int (n + 1))) with
        | some e' => exact raises_retryLoop_unwritten hd hn hdump fuel
        | none => exact ⟨e, by rw [run_retryLoop_body_error hd hn hdump hbody]⟩
    | ok body =>
      refine (settles_retryLoop hbody (fuel + 1) hd hn (by omega) (by omega)).congr ?_
      have hfields := requiredFields_of_wireBody hbody
      have hsend : Sendable script (script.retries p + 1) d ↔ script.Writes d n (script.retries p + 1) := by
        constructor
        · rintro ⟨⟨m, hm, hwrites⟩, -⟩
          obtain rfl := Except.ok.inj (hn.symm.trans hm)
          exact hwrites
        · exact fun hwrites => ⟨⟨n, hn, hwrites⟩, hfields⟩
      rw [hsend, hcalls, Nat.sub_zero]

end Loop

end CertWatch
