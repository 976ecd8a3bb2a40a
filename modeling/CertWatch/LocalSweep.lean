/-
# `CertWatch.LocalSweep` — the local mode on its thread pool, in any interleaving.

The loop, the tasks of its cycles and the signals take turns in any order, and the network answers anything.
Whatever a cycle logs about its results is what the tasks of that cycle have come to; a signal lets the checks that
have begun finish, keeps all others from beginning, and stops the loop after the cycle that it is in.
-/
import CertWatch.CheckCalls
import CertWatch.CheckLoop
import CertWatch.Lib.Flagged

namespace CertWatch

open CertWatch.Lib

/-! ## The tasks -/

/-- A look of a task at the stop signal that found this. -/
abbrev localLook (signaled : Bool) : Call localTaskSig PyExc := ⟨.check .isSet, .ok signaled⟩

/-- A line that a task has logged. -/
abbrev taskLine (entry : Dict) : Call localTaskSig PyExc := ⟨.log entry, .ok ()⟩

/-- A call of the check itself, or the line about one that raised. -/
def LocalTaskOp.OfWork (o : LocalTaskOp) : Prop := o ≠ .check .isSet

/-- How a task's calls are answered: its look by the flag, its line by nothing, a call of its check by anything. -/
def localAnswers (_ : Nat) (signaled : Bool) : (o : LocalTaskOp) → Except PyExc o.Ret → Prop
  | .check .isSet, r => r = .ok signaled
  | .check _, _ => True
  | .log _, r => r = .ok ()

section

variable (rt : Runtime) (repr : PyExc → String) (config : AgentConfig)

/-- What the task of a host came to, and the calls that it made. -/
inductive HostTold (host : HostConfig) : List (Call localTaskSig PyExc) → LocalOutcome → Prop where
  /-- The signal was there when a worker took the task. -/
  | skipped : HostTold host [localLook true] none
  | checked {cs : List (Call checkSig PyExc)} {r : CertResult}
      (hcheck : (checkLocalHost rt config host).Trace cs (.ret r)) :
      HostTold host (localLook false :: cs.map checkCalls.call) (some (host, r))
  | failed {cs : List (Call checkSig PyExc)} {e : PyExc}
      (hcheck : (checkLocalHost rt config host).Trace cs (.raise e)) :
      HostTold host (localLook false :: (cs.map checkCalls.call ++ [taskLine (unhandledError host (repr e))])) none

theorem finishes_checkLocalHost (host : HostConfig) :
    ((checkLocalHost rt config host).embed checkCalls).Finishes LocalTaskOp.OfWork := by
  apply Prog.Finishes.embed
  refine (finishes_certCheck rt _ _ _ _).mono fun o ho heq => ho ?_
  exact LocalTaskOp.check.inj heq

theorem finishes_afterLocalLook (host : HostConfig) (signaled : Bool) :
    (afterLocalLook rt repr config host signaled).Finishes LocalTaskOp.OfWork := by
  unfold afterLocalLook
  split
  · trivial
  refine (finishes_checkLocalHost rt config host).attempt.bind fun outcome => ?_
  cases outcome with
  | ok r => trivial
  | error e => exact (Prog.finishes_perform nofun).bind fun _ => trivial

theorem localTask_eq (host : HostConfig) :
    localTask rt repr config host = (localTaskCall (.check .isSet)).bind (afterLocalLook rt repr config host) := rfl

theorem finishes_localTask (host : HostConfig) : (localTask rt repr config host).Finishes fun _ => True := by
  rw [localTask_eq]
  refine (Prog.finishes_perform trivial).bind fun signaled => ?_
  exact (finishes_afterLocalLook rt repr config host signaled).mono fun _ _ => trivial

variable {rt repr config}

/-- A task has made no call, or has looked at the signal and gone on. -/
theorem localLook_of_trace {host : HostConfig} {n : Nat} {cs : List (Call localTaskSig PyExc)}
    {p : LocalTask LocalOutcome} (htrace : (localTask rt repr config host).Trace cs p)
    (hanswers : ∀ c ∈ cs, ∃ b, localAnswers n b c.op c.answer) :
    cs = [] ∧ p = localTask rt repr config host ∨ ∃ signaled rest, cs = localLook signaled :: rest ∧
      (afterLocalLook rt repr config host signaled).Trace rest p := by
  rw [localTask_eq] at htrace ⊢
  obtain hnone | ⟨e, rfl, -⟩ | hlooked := Prog.trace_perform_bind htrace
  · exact .inl hnone
  · obtain ⟨b, hanswer⟩ := hanswers ⟨.check .isSet, .error e⟩ List.mem_cons_self
    cases hanswer
  · exact .inr hlooked

/-- What the check has come to, and what the task made of it. -/
theorem told_of_check {host : HostConfig} {n : Nat} {rest : List (Call localTaskSig PyExc)}
    {x : Except PyExc LocalOutcome} (htrace : (afterLocalLook rt repr config host false).Trace rest (.ofExcept x))
    (hanswers : ∀ c ∈ rest, ∃ b, localAnswers n b c.op c.answer) :
    ∃ outcome, x = .ok outcome ∧ HostTold rt repr config host (localLook false :: rest) outcome := by
  have hprogram : afterLocalLook rt repr config host false =
      ((checkLocalHost rt config host).embed checkCalls).attempt.bind (afterCheck repr host) := rfl
  rw [hprogram] at htrace
  obtain ⟨e, -, hraise⟩ | ⟨y, cs₁, cs₂, hguarded, hafter, rfl⟩ := Prog.trace_bind_ended htrace
  · -- a guarded check raises nothing
    obtain ⟨p', -, hp'⟩ := Prog.trace_attempt hraise
    cases p' <;> cases hp'
  obtain ⟨p', hembedded, hp'⟩ := Prog.trace_attempt hguarded
  obtain ⟨cs, q, hcheck, rfl, rfl⟩ := Prog.trace_embed checkCalls hembedded
  cases q with
  | ret r =>
    cases hp'
    obtain ⟨rfl, hret⟩ := Prog.trace_still (by rintro o k ⟨⟩) hafter
    cases x with
    | error e => cases hret
    | ok outcome =>
      cases hret
      rw [List.append_nil]
      exact ⟨_, rfl, .checked hcheck⟩
  | raise e =>
    cases hp'
    obtain ⟨-, hstart⟩ | ⟨e', rfl, -⟩ | ⟨-, rest, rfl, hrest⟩ := Prog.trace_perform_bind hafter
    · cases x <;> cases hstart
    · obtain ⟨b, hanswer⟩ := hanswers ⟨.log _, .error e'⟩ (List.mem_append_right _ List.mem_cons_self)
      cases hanswer
    · obtain ⟨rfl, hret⟩ := Prog.trace_still (by rintro o k ⟨⟩) hrest
      cases x with
      | error e' => cases hret
      | ok outcome =>
        cases hret
        exact ⟨_, rfl, .failed hcheck⟩
  | hang => cases hp'
  | call o k => cases hp'

/-- **What a task comes to**: it raises nothing, and returns what it was told. -/
theorem told_of_trace {host : HostConfig} {n : Nat} {cs : List (Call localTaskSig PyExc)}
    {x : Except PyExc LocalOutcome} (htrace : (localTask rt repr config host).Trace cs (.ofExcept x))
    (hanswers : ∀ c ∈ cs, ∃ b, localAnswers n b c.op c.answer) :
    ∃ outcome, x = .ok outcome ∧ HostTold rt repr config host cs outcome := by
  obtain ⟨-, hstart⟩ | ⟨signaled, rest, rfl, hafter⟩ := localLook_of_trace htrace hanswers
  · cases x <;> cases hstart
  cases signaled with
  | false => exact told_of_check hafter fun c hc => hanswers c (List.mem_cons_of_mem _ hc)
  | true =>
    obtain ⟨rfl, hret⟩ := Prog.trace_still (by rintro o k ⟨⟩) hafter
    cases x with
    | error e => cases hret
    | ok outcome =>
      cases hret
      exact ⟨_, rfl, .skipped⟩

/-- A check begins only after a look that found no signal. -/
theorem local_gate : Flagged.Gate localAnswers (localTask rt repr config) (localLook false) LocalTaskOp.OfWork where
  unset _ := nofun
  gated host n cs p htrace hanswers pre c post hsplit hc := by
    obtain ⟨rfl, -⟩ | ⟨signaled, rest, rfl, hafter⟩ := localLook_of_trace htrace hanswers
    · simp at hsplit
    cases pre with
    | nil =>
      -- the call would be the look
      obtain ⟨rfl, -⟩ := List.cons.inj hsplit
      exact absurd rfl hc
    | cons first pre =>
      obtain ⟨rfl, hrest⟩ := List.cons.inj hsplit
      cases signaled with
      | false => exact List.mem_cons_self
      | true =>
        -- a task that saw the signal makes no other call
        obtain ⟨rfl, -⟩ := Prog.trace_still (by rintro o k ⟨⟩) hafter
        simp at hrest

end

/-! ## Log lines -/

namespace Dict

theorem get?_update_of_not_mem (d : Dict) {e : Dict} {k : String} (h : k ∉ e.map Prod.fst) :
    (d.update e).get? k = d.get? k := by
  induction e generalizing d with
  | nil => rfl
  | cons kv e ih =>
    rw [List.map_cons, List.mem_cons, not_or] at h
    exact (ih _ h.2).trans (get?_set_ne d kv.2 h.1)

theorem get?_drop_ne (d : Dict) {k j : String} (h : j ≠ k) : (d.drop k).get? j = d.get? j := by
  induction d with
  | nil => rfl
  | cons kv d ih =>
    obtain ⟨k', v⟩ := kv
    by_cases hk : k' = k
    · subst hk
      rw [get?_cons, if_neg h, ← ih]
      simp [drop]
    · rw [get?_cons, ← ih, ← get?_cons]
      simp [drop, hk]

end Dict

/-- `entry["event"] == name`. -/
def IsEvent (entry : Dict) (name : String) : Prop := entry.get? "event" = some (.str name)

/-- A line has one event. -/
theorem IsEvent.unique {entry : Dict} {name name' : String} (h : IsEvent entry name) (h' : IsEvent entry name') :
    name = name' := by
  have heq := h.symm.trans h'
  cases heq
  rfl

theorem isEvent_resultLogPayload (r : CertResult) (host : HostConfig) (include_sans : Bool) :
    IsEvent (resultLogPayload r host include_sans) "cert_check_result" := by
  have hfields : "event" ∉ r.asdict.map Prod.fst := by
    show "event" ∉ ["state", "hostname", "port", "checked_at", "error_message", "subject_cn", "subject_sans",
      "issuer_cn", "issuer_o", "issuer_full_dn", "ca_category", "is_self_signed", "not_before", "not_after",
      "days_until_expiry", "signature_algorithm", "key_size", "hostname_matches", "chain_trusted_by_system",
      "chain_error_reason"]
    decide
  unfold IsEvent resultLogPayload
  split
  · rw [Dict.get?_set_ne _ _ (by decide), Dict.get?_update_of_not_mem _ hfields]
    rfl
  · rw [Dict.get?_drop_ne _ (by decide), Dict.get?_set_ne _ _ (by decide), Dict.get?_update_of_not_mem _ hfields]
    rfl

/-- Every result is in one of the three states. -/
theorem summaryCounts_total (results : List CertResult) : summaryCounts results .success +
    summaryCounts results .connectionFailed + summaryCounts results .tlsFailed = results.length := by
  induction results with
  | nil => rfl
  | cons r results ih =>
    unfold summaryCounts at ih ⊢
    rw [List.length_cons, ← ih]
    cases hstate : r.state <;> simp [hstate] <;> omega

/-! ## The loop's side -/

/-- Where the loop is: it has just found no signal, it has looked at the clock since, or it does anything else. -/
inductive LoopPhase where
  | looked
  | starting
  | working
  deriving DecidableEq

/-- Where a call takes it. -/
def LoopPhase.next (phase : LoopPhase) : (o : ClientOp loopSig HostConfig) → Except PyExc (o.Ret LocalOutcome) →
    LoopPhase
  | .own .isSet, .ok false => .looked
  | .own .monotonic, _ => if phase = .looked then .starting else .working
  | _, _ => .working

/-- The line that a call logs. -/
def loggedLine : ClientOp loopSig HostConfig → List Dict
  | .own (.log entry) => [entry]
  | _ => []

/-- The lines that the loop itself has logged. -/
def loggedLines (calls : List (Call loopClientSig PyExc)) : List Dict := calls.flatMap fun c => loggedLine c.op

/-- What the loop knows of its executor, where it is, and what it has logged. -/
structure LoopView where
  account : Account HostConfig PyExc LocalOutcome := {}
  phase : LoopPhase := .working
  lines : List Dict := []

/-- What `Event.wait` may answer; where the flag is not set yet, it refuses a timeout above `threading.TIMEOUT_MAX`. -/
inductive WaitAnswers (timeout_max : Rat) (signaled : Bool) (timeout : Int) : Except PyExc Bool → Prop where
  | woken (hset : signaled = true) : WaitAnswers timeout_max signaled timeout (.ok true)
  | elapsed (hle : timeout ≤ timeout_max) : WaitAnswers timeout_max signaled timeout (.ok false)
  | refused (hlong : timeout_max < timeout) : WaitAnswers timeout_max signaled timeout (.error .overflowError)

/-- How the loop's calls are answered. -/
def loopAnswers (timeout_max : Rat) (signaled : Bool) : (o : LoopOp) → Except PyExc o.Ret → Prop
  | .isSet, r => r = .ok signaled
  | .wait timeout, r => WaitAnswers timeout_max signaled timeout r
  | .monotonic, r => ∃ now, r = .ok now
  | .log _, r => r = .ok ()

section

variable (timeout_max : Rat) (config : AgentConfig) (debug : Bool)

/-- The results among what the tasks came to. -/
def checkedHosts (outcomes : List LocalOutcome) : List (HostConfig × CertResult) := outcomes.filterMap id

/-- How many hosts have no result. -/
def skippedHosts (outcomes : List LocalOutcome) : Nat := outcomes.countP Option.isNone

@[simp] theorem checkedHosts_concat_none (outcomes : List LocalOutcome) :
    checkedHosts (outcomes ++ [none]) = checkedHosts outcomes := by
  rw [checkedHosts, List.filterMap_append]
  exact List.append_nil _

@[simp] theorem checkedHosts_concat_some (outcomes : List LocalOutcome) (checked : HostConfig × CertResult) :
    checkedHosts (outcomes ++ [some checked]) = checkedHosts outcomes ++ [checked] := List.filterMap_append

@[simp] theorem skippedHosts_concat (outcomes : List LocalOutcome) (outcome : LocalOutcome) :
    skippedHosts (outcomes ++ [outcome]) = skippedHosts outcomes + if outcome.isNone then 1 else 0 := by
  rw [skippedHosts, List.countP_append, List.countP_singleton]
  rfl

/-- The start of a cycle and its results so far. -/
def resultLines (outcomes : List LocalOutcome) : List Dict :=
  cycleStart config :: (checkedHosts outcomes).map fun checked => resultLogPayload checked.2 checked.1 debug

/-- The lines of a cycle up to its summary. -/
def cycleLines (outcomes : List LocalOutcome) : List Dict :=
  resultLines config debug outcomes ++
    if skippedHosts outcomes = 0 then []
    else [cycleAborted (skippedHosts outcomes) (checkedHosts outcomes).length]

/-- The summary of a cycle with these outcomes. -/
structure Summarizes (lines : List Dict) (outcomes : List LocalOutcome) (entry : Dict) : Prop where
  lines : cycleLines config debug outcomes <:+ lines
  entry : ∃ duration_s, entry = cycleSummary ((checkedHosts outcomes).map Prod.snd) duration_s

/-- A line that the loop may log: a cycle starts only after a look that found no signal, and its summary is about what
its tasks came to. -/
structure LineAllowed (q : LoopView) (entry : Dict) : Prop where
  start : IsEvent entry "cycle_start" → q.phase = .starting
  summary : IsEvent entry "cycle_summary" → ∃ outcomes : List LocalOutcome, q.account.taken = outcomes.map .ok ∧
    q.account.submitted = config.hosts ∧ outcomes.length = config.hosts.length ∧
    Summarizes config debug q.lines outcomes entry

/-- The account of the loop, which creates executors as its config says, and logs what these have done. -/
def loopMonitor : Monitor loopClientSig PyExc LoopView where
  possible := Account.Possible fun o r => ∃ signaled, loopAnswers timeout_max signaled o r
  allows q o := q.account.allows o ∧ (∀ workers, o = .create workers → workers = config.max_concurrency.toNat) ∧
    ∀ entry, o = .own (.log entry) → LineAllowed config debug q entry
  next q o r := { account := q.account.next o r, phase := q.phase.next o r, lines := q.lines ++ loggedLine o }
  mayHang q := q.phase = .looked

/-- Between two cycles: every result was taken. -/
def Idle (q : LoopView) : Prop := q.account.taken.length = q.account.submitted.length

/-- While the hosts are submitted: these are left. -/
structure LoopSubmitting (left : List HostConfig) (q : LoopView) : Prop where
  workers : 0 < q.account.workers
  taken : q.account.taken = []
  submitted : q.account.submitted ++ left = config.hosts
  lines : [cycleStart config] <:+ q.lines

/-- While results are taken: so many are left, and this is what came of the others. -/
structure LoopTaking (left : Nat) (q : LoopView) (outcomes : List LocalOutcome) : Prop where
  workers : 0 < q.account.workers
  submitted : q.account.submitted = config.hosts
  taken : q.account.taken = outcomes.map .ok
  left : outcomes.length + left = config.hosts.length
  lines : resultLines config debug outcomes <:+ q.lines

variable {timeout_max config debug} {q : LoopView}

theorem LineAllowed.of_event {entry : Dict} {name : String} (h : IsEvent entry name) (hstart : name ≠ "cycle_start")
    (hsummary : name ≠ "cycle_summary") : LineAllowed config debug q entry where
  start h' := absurd (h.unique h') hstart
  summary h' := absurd (h.unique h') hsummary

/-- A line that is allowed. -/
theorem obeys_line {β : Type} {entry : Dict} {f : Unit → Loop β} {F : LoopView → Except PyExc β → Prop}
    (hline : LineAllowed config debug q entry)
    (hf : (f ()).Obeys (loopMonitor timeout_max config debug) F ⟨q.account, .working, q.lines ++ [entry]⟩) :
    ((loopCall (.log entry)).bind f).Obeys (loopMonitor timeout_max config debug) F q := by
  refine Prog.obeys_bind.mpr (Prog.obeys_perform.mpr ⟨⟨trivial, fun _ => nofun, ?_⟩, ?_⟩)
  · rintro entry' ⟨⟩
    exact hline
  · rintro r ⟨signaled, rfl⟩
    exact hf

/-- One host is submitted. -/
theorem LoopSubmitting.step {host : HostConfig} {left : List HostConfig} (h : LoopSubmitting config (host :: left) q) :
    (loopMonitor timeout_max config debug).allows q (.submit host) ∧
      ∀ r, (loopMonitor timeout_max config debug).possible (.submit host) r →
      r = .ok () ∧ LoopSubmitting config left ((loopMonitor timeout_max config debug).next q (.submit host) r) := by
  refine ⟨⟨h.workers, fun _ => nofun, fun _ => nofun⟩, fun r hr => ⟨hr, h.workers, h.taken, ?_, ?_⟩⟩
  · rw [← h.submitted]
    exact List.append_assoc q.account.submitted [host] left
  · show [cycleStart config] <:+ q.lines ++ []
    rw [List.append_nil]
    exact h.lines

/-- One result is taken, and logged if there is one. -/
theorem LoopTaking.step {left : Nat} {outcomes : List LocalOutcome}
    (h : LoopTaking config debug (left + 1) q outcomes) :
    (loopMonitor timeout_max config debug).allows q .next ∧
      ∀ r, (loopMonitor timeout_max config debug).possible .next r → ∃ outcome,
      r = .ok outcome ∧ (recordResult debug ((checkedHosts outcomes).map Prod.snd, skippedHosts outcomes) outcome).Obeys
        (loopMonitor timeout_max config debug) (fun q' x => ∃ outcomes', x = .ok ((checkedHosts outcomes').map Prod.snd,
          skippedHosts outcomes') ∧ LoopTaking config debug left q' outcomes')
        ((loopMonitor timeout_max config debug).next q .next r) := by
  have hleft := h.left
  have hsubmitted := congrArg List.length h.submitted
  have htaken := congrArg List.length h.taken
  rw [List.length_map] at htaken
  refine ⟨⟨⟨h.workers, by omega⟩, fun _ => nofun, fun _ => nofun⟩, ?_⟩
  rintro r ⟨outcome, rfl⟩
  have htaken' : q.account.taken ++ [Except.ok outcome] = (outcomes ++ [outcome]).map .ok := by
    rw [h.taken, List.map_append, List.map_singleton]
  have hlength : (outcomes ++ [outcome]).length + left = config.hosts.length := by
    rw [List.length_append, List.length_singleton]
    omega
  refine ⟨outcome, rfl, ?_⟩
  cases outcome with
  | none =>
    refine ⟨outcomes ++ [none], ?_, h.workers, h.submitted, htaken', hlength, ?_⟩
    · simp
    · show resultLines config debug (outcomes ++ [none]) <:+ q.lines ++ []
      simpa [resultLines] using h.lines
  | some checked =>
    obtain ⟨host, r⟩ := checked
    refine obeys_line (.of_event (isEvent_resultLogPayload r host debug) (by decide) (by decide)) ?_
    refine ⟨outcomes ++ [some (host, r)], ?_, h.workers, h.submitted, htaken', hlength, ?_⟩
    · simp
    · show resultLines config debug (outcomes ++ [some (host, r)]) <:+ q.lines ++ [] ++ [resultLogPayload r host debug]
      obtain ⟨earlier, hearlier⟩ := h.lines
      refine ⟨earlier, ?_⟩
      rw [← hearlier]
      simp [resultLines]

variable {round3 : Rat → PyFloat}

/-- What a cycle ends with: its results, with all of them taken, or the refusal of the executor. -/
def CycleEnds (config : AgentConfig) (q : LoopView) : Except PyExc (List CertResult) → Prop
  | .ok _ => Idle q
  | .error _ => config.max_concurrency ≤ 0

/-- From the last result on. -/
theorem obeys_cycleEnd {outcomes : List LocalOutcome} (h : LoopTaking config debug 0 q outcomes) (started : Rat) :
    ((executorCall .shutdown).bind fun _ => (loopCall .monotonic).bind fun ended =>
      (logAborted (skippedHosts outcomes) ((checkedHosts outcomes).map Prod.snd).length).bind fun _ =>
        (loopCall (.log (cycleSummary ((checkedHosts outcomes).map Prod.snd) (round3 (ended - started))))).bind fun _ =>
          (.ret ((checkedHosts outcomes).map Prod.snd) : Loop (List CertResult))).Obeys
      (loopMonitor timeout_max config debug) (CycleEnds config) q := by
  have hidle : q.account.taken.length = q.account.submitted.length := by
    rw [h.taken, h.submitted, List.length_map]
    exact h.left
  refine Prog.obeys_bind.mpr (Prog.obeys_perform.mpr ⟨⟨h.workers, fun _ => nofun, fun _ => nofun⟩, ?_⟩)
  rintro r rfl
  refine Prog.obeys_bind.mpr (Prog.obeys_perform.mpr ⟨⟨trivial, fun _ => nofun, fun _ => nofun⟩, ?_⟩)
  rintro r ⟨-, ended, rfl⟩
  -- the summary is allowed once the cycle's lines are complete
  have hsummary : ∀ phase lines, cycleLines config debug outcomes <:+ lines →
      ((loopCall (.log (cycleSummary ((checkedHosts outcomes).map Prod.snd) (round3 (ended - started))))).bind fun _ =>
        (.ret ((checkedHosts outcomes).map Prod.snd) : Loop (List CertResult))).Obeys
        (loopMonitor timeout_max config debug) (CycleEnds config) ⟨q.account, phase, lines⟩ := by
    intro phase lines hlines
    have hevent : IsEvent (cycleSummary ((checkedHosts outcomes).map Prod.snd) (round3 (ended - started)))
        "cycle_summary" := rfl
    have hallowed : LineAllowed config debug ⟨q.account, phase, lines⟩
        (cycleSummary ((checkedHosts outcomes).map Prod.snd) (round3 (ended - started))) :=
      { start := fun hstart => absurd (hevent.unique hstart) (by decide)
        summary := fun _ => ⟨outcomes, h.taken, h.submitted, h.left, ⟨hlines, _, rfl⟩⟩ }
    exact obeys_line hallowed hidle
  show ((logAborted (skippedHosts outcomes) ((checkedHosts outcomes).map Prod.snd).length).bind _).Obeys
    (loopMonitor timeout_max config debug) (CycleEnds config) ⟨q.account, _, q.lines ++ [] ++ []⟩
  rw [List.append_nil, List.append_nil, List.length_map]
  unfold logAborted
  by_cases hskipped : skippedHosts outcomes = 0
  · rw [if_pos hskipped]
    refine hsummary _ _ ?_
    rw [cycleLines, if_pos hskipped, List.append_nil]
    exact h.lines
  · rw [if_neg hskipped]
    have hevent : IsEvent (cycleAborted (skippedHosts outcomes) (checkedHosts outcomes).length) "cycle_aborted" := rfl
    refine obeys_line (.of_event hevent (by decide) (by decide)) (hsummary _ _ ?_)
    rw [cycleLines, if_neg hskipped]
    obtain ⟨earlier, hearlier⟩ := h.lines
    exact ⟨earlier, by rw [← hearlier, List.append_assoc]⟩

/-- **`run_cycle` keeps to its side**, from a look that found no signal. -/
theorem obeys_runCycle (hidle : Idle q) (hphase : q.phase = .looked) :
    (runCycle config debug round3).Obeys (loopMonitor timeout_max config debug) (CycleEnds config) q := by
  refine Prog.obeys_bind.mpr (Prog.obeys_perform.mpr ⟨⟨trivial, fun _ => nofun, fun _ => nofun⟩, ?_⟩)
  rintro r ⟨-, started, rfl⟩
  have hevent : IsEvent (cycleStart config) "cycle_start" := rfl
  refine obeys_line ⟨fun _ => if_pos hphase, fun hsummary => absurd (hevent.unique hsummary) (by decide)⟩ ?_
  split_ifs with hmax
  · exact hmax
  have hworkers : 0 < config.max_concurrency.toNat := by omega
  refine Prog.obeys_bind.mpr (Prog.obeys_perform.mpr ⟨⟨⟨hworkers, hidle⟩, ?_, fun _ => nofun⟩, ?_⟩)
  · rintro workers ⟨⟩
    rfl
  rintro r rfl
  have hstart : LoopSubmitting config config.hosts
      ⟨(loopMonitor timeout_max config debug).next ⟨q.account, .working, q.lines⟩ (.create config.max_concurrency.toNat)
        (.ok ()) |>.account, .working, q.lines ++ [] ++ [cycleStart config] ++ []⟩ := by
    refine ⟨hworkers, rfl, rfl, ?_⟩
    rw [List.append_nil]
    exact List.suffix_append _ _
  refine (obeys_submitAll (I := LoopSubmitting config) (fun _ _ _ h => h.step) hstart).bind ?_ ?_
  · rintro q' ⟨⟩ ⟨-, h⟩
    have htaking : LoopTaking config debug config.hosts.length q' [] := by
      refine ⟨h.workers, ?_, h.taken, Nat.zero_add _, h.lines⟩
      rw [← h.submitted, List.append_nil]
    refine (obeys_forEachCompleted (I := fun left q d => ∃ outcomes,
      d = ((checkedHosts outcomes).map Prod.snd, skippedHosts outcomes) ∧ LoopTaking config debug left q outcomes)
      ?_ ⟨[], rfl, htaking⟩).bind ?_ ?_
    · rintro left q d ⟨outcomes, rfl, h⟩
      obtain ⟨hallowed, hnext⟩ := h.step
      refine ⟨hallowed, fun r hr => ?_⟩
      obtain ⟨outcome, rfl, hbody⟩ := hnext r hr
      refine ⟨outcome, rfl, hbody.mono ?_⟩
      rintro q' x ⟨outcomes', rfl, h'⟩
      exact ⟨_, rfl, outcomes', rfl, h'⟩
    · rintro q'' d ⟨d', hd, outcomes, rfl, h''⟩
      obtain rfl := Except.ok.inj hd
      exact obeys_cycleEnd h'' started
    · rintro q'' e ⟨d, hd, -⟩
      cases hd
  · rintro q' e ⟨herror, -⟩
    cases herror

/-- What the loop raises: the executor refuses `max_concurrency`, or `Event.wait` the interval. -/
def LoopRaises (timeout_max : Rat) (config : AgentConfig) (e : PyExc) : Prop :=
  config.max_concurrency ≤ 0 ∨ e = .overflowError ∧ timeout_max < config.sweep_interval_seconds

/-- What the loop ends with. -/
def LoopEnds (timeout_max : Rat) (config : AgentConfig) (q : LoopView) (x : Except PyExc Unit) : Prop :=
  (x = .ok () ∧ Idle q) ∨ ∃ e, x = .error e ∧ LoopRaises timeout_max config e

/-- **The loop keeps to its side**, for any number of cycles. -/
theorem obeys_loopCycles (fuel : Nat) (hidle : Idle q) :
    (loopCycles config debug round3 fuel).Obeys (loopMonitor timeout_max config debug)
      (LoopEnds timeout_max config) q := by
  induction fuel generalizing q with
  | zero =>
    refine Prog.obeys_bind.mpr (Prog.obeys_perform.mpr ⟨⟨trivial, fun _ => nofun, fun _ => nofun⟩, ?_⟩)
    rintro r ⟨signaled, rfl⟩
    cases signaled with
    | true => exact .inl ⟨rfl, hidle⟩
    | false => exact (rfl : LoopPhase.next q.phase (.own .isSet) (.ok false) = .looked)
  | succ fuel ih =>
    refine Prog.obeys_bind.mpr (Prog.obeys_perform.mpr ⟨⟨trivial, fun _ => nofun, fun _ => nofun⟩, ?_⟩)
    rintro r ⟨signaled, rfl⟩
    cases signaled with
    | true => exact .inl ⟨rfl, hidle⟩
    | false =>
      have hcycle := @obeys_runCycle timeout_max config debug
        ((loopMonitor timeout_max config debug).next q (.own .isSet) (.ok false)) round3 hidle rfl
      refine hcycle.bind ?_ ?_
      · rintro q' results hidle'
        refine Prog.obeys_bind.mpr (Prog.obeys_perform.mpr ⟨⟨trivial, fun _ => nofun, fun _ => nofun⟩, ?_⟩)
        rintro r ⟨signaled, rfl⟩
        cases signaled with
        | true => exact .inl ⟨rfl, hidle'⟩
        | false =>
          refine Prog.obeys_bind.mpr (Prog.obeys_perform.mpr ⟨⟨trivial, fun _ => nofun, fun _ => nofun⟩, ?_⟩)
          rintro r ⟨signaled, hanswer⟩
          cases hanswer with
          | woken => exact .inl ⟨rfl, hidle'⟩
          | elapsed => exact ih hidle'
          | refused hlong => exact .inr ⟨_, rfl, .inr ⟨rfl, hlong⟩⟩
      · intro q' e hmax
        exact .inr ⟨e, rfl, .inl hmax⟩

/-- What `run_loop` ends with: its last line, unless it raises. -/
def RunEnds (timeout_max : Rat) (config : AgentConfig) (q : LoopView) (x : Except PyExc Unit) : Prop :=
  (x = .ok () ∧ [loopStopped] <:+ q.lines) ∨ ∃ e, x = .error e ∧ LoopRaises timeout_max config e

/-- **`run_loop` keeps to its side.** -/
theorem obeys_runLoop (fuel : Nat) :
    (runLoop config debug round3 fuel).Obeys (loopMonitor timeout_max config debug)
      (RunEnds timeout_max config) {} := by
  have hstarting : IsEvent (loopStarting config) "loop_starting" := rfl
  have hstopped : IsEvent loopStopped "loop_stopped" := rfl
  refine obeys_line (.of_event hstarting (by decide) (by decide)) ?_
  have hidle : Idle ⟨({} : LoopView).account, .working, ({} : LoopView).lines ++ [loopStarting config]⟩ := rfl
  refine (obeys_loopCycles fuel hidle).bind ?_ ?_
  · rintro q ⟨⟩ (⟨-, -⟩ | ⟨e, he, -⟩)
    · refine Prog.obeys_perform.mpr ⟨⟨trivial, fun _ => nofun, ?_⟩, ?_⟩
      · rintro entry ⟨⟩
        exact .of_event hstopped (by decide) (by decide)
      · rintro r ⟨signaled, rfl⟩
        exact .inl ⟨rfl, List.suffix_append _ _⟩
    · cases he
  · rintro q e (⟨he, -⟩ | ⟨e', he, hraises⟩)
    · cases he
    · obtain rfl := Except.error.inj he
      exact .inr ⟨e, rfl, hraises⟩

end

end CertWatch
