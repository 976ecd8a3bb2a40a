/-
# `CertWatch.ParallelChecks` — the checks of a cycle on their thread pool, in any interleaving.

`_run_parallel_checks` and its tasks are run call by call by `max_parallel_checks` workers, while shutdown may be
signaled at any moment.  Whatever the interleaving is, the results are those that `runParallelChecks` computes from
what each task saw of the shutdown event and from the order in which the futures were yielded; so what holds of every
cycle over `runParallelChecks` holds of every cycle on the pool.
-/
import CertWatch.CheckCalls
import CertWatch.CycleResults
import CertWatch.Lib.Flagged

namespace CertWatch

open CertWatch.Lib

/-! ## The client -/

/-- A client with no calls of its own. -/
abbrev noOps : Sig := ⟨Empty, Empty.elim⟩

abbrev checkPoolSig : Sig := clientSig noOps HostEntry (Option (String × CheckResult))

/-- Programs over the calls of `_run_parallel_checks`. -/
abbrev PoolClient (α : Type) := Prog checkPoolSig PyExc α

abbrev poolCall (o : ClientOp noOps HostEntry) : PoolClient (o.Ret (Option (String × CheckResult))) :=
  Prog.perform (S := checkPoolSig) o

/-- The body of `for fut in as_completed(futures)`: `results[key] = result` for a task that was not skipped. -/
def recordOutcome (results : Results) : Option (String × CheckResult) → PoolClient Results
  | none => return results
  | some result => return result :: results

/-- `_run_parallel_checks` over its executor. -/
def runParallelChecksOnPool (settings : CheckSettings) (hosts : List HostEntry) : PoolClient Results :=
  if settings.max_concurrency ≤ 0 then
    .raise (.valueError "max_workers must be greater than 0")
  else do
    poolCall (.create settings.max_concurrency.toNat)
    submitAll hosts
    let results ← forEachCompleted recordOutcome hosts.length []
    poolCall .shutdown
    return results

/-! ## The runs -/

/-- The shutdown event, and the calls of the tasks. -/
abbrev SweepWorld := Flagged checkSig noOps PyExc Unit

namespace SweepWorld

/-- Whether the task saw the event set. -/
def saw (s : SweepWorld) (n : Nat) : Bool := (s.callsOf n).any fun c => match c with
  | ⟨.isSet, .ok signaled⟩ => signaled
  | _ => false

/-- The script of each task, with what it saw. -/
def observed (s : SweepWorld) (scripts : Nat → CheckScript) (n : Nat) : CheckScript :=
  { scripts n with signaled := s.saw n }

/-- A task looks at the event as it is; everything else is answered as its script says. -/
def answers (scripts : Nat → CheckScript) (n : Nat) (signaled : Bool) (o : CheckOp) (r : Except PyExc o.Ret) : Prop :=
  r = { scripts n with signaled }.answer o

/-- The client has no calls of its own. -/
def own (_ : Bool) (o : noOps.Op) (_ : Except PyExc (noOps.Ret o)) : Prop := o.elim

abbrev exec (scripts : Nat → CheckScript) :
    Nat → (o : checkSig.Op) → SweepWorld → Except PyExc (checkSig.Ret o) → SweepWorld → Prop :=
  Flagged.exec (answers scripts)

abbrev ownExec : (o : noOps.Op) → SweepWorld → Except PyExc (noOps.Ret o) → SweepWorld → Prop := Flagged.own own

end SweepWorld

/-- A cycle's checks on their pool. -/
abbrev Sweep := Serving noOps checkSig HostEntry PyExc (Option (String × CheckResult)) Results SweepWorld

/-- What such a run comes to. -/
abbrev Sweep.Reachable (rt : Runtime) (settings : CheckSettings) (hosts : List HostEntry)
    (scripts : Nat → CheckScript) : Sweep → Prop :=
  Flagged.Reachable (SweepWorld.answers scripts) SweepWorld.own (task rt settings)
    (runParallelChecksOnPool settings hosts)

/-- The world of the run. -/
abbrev Sweep.world (V : Sweep) : SweepWorld := Flagged.world V

/-! ## The tasks -/

section

variable (rt : Runtime) (settings : CheckSettings)

/-- What the task does after its look at the event. -/
def afterLook (entry : HostEntry) (signaled : Bool) : Check (Option (String × CheckResult)) :=
  if signaled then
    return none
  else do
    let outcome ← (runCheck rt settings entry).attempt
    return match outcome with
      | .ok result => some (entry.identity_key, result)
      | .error _ => none

theorem task_eq (entry : HostEntry) :
    task rt settings entry = (checkCall .isSet).bind (afterLook rt settings entry) := rfl

theorem finishes_afterLook (entry : HostEntry) (signaled : Bool) :
    (afterLook rt settings entry signaled).Finishes CheckOp.OfCheck := by
  unfold afterLook
  split
  · trivial
  · exact (finishes_runCheck rt settings entry).attempt.bind fun _ => trivial

theorem finishes_task (entry : HostEntry) : (task rt settings entry).Finishes fun _ => True := by
  rw [task_eq]
  refine (Prog.finishes_perform trivial).bind fun signaled => ?_
  exact (finishes_afterLook rt settings entry signaled).mono fun _ _ => trivial

/-- A task has made no call, or has looked at the event and gone on. -/
theorem trace_task {entry : HostEntry} {cs : List (Call checkSig PyExc)} {p : Check (Option (String × CheckResult))}
    (h : (task rt settings entry).Trace cs p) : cs = [] ∧ p = task rt settings entry ∨
      (∃ e, cs = [⟨.isSet, .error e⟩] ∧ p = .raise e) ∨
      ∃ signaled rest, cs = ⟨.isSet, .ok signaled⟩ :: rest ∧ (afterLook rt settings entry signaled).Trace rest p := by
  rw [task_eq] at h ⊢
  exact Prog.trace_perform_bind h

end

section

variable {rt : Runtime} {settings : CheckSettings} {hosts : List HostEntry} {scripts : Nat → CheckScript} {V : Sweep}

/-- A look that was answered, and the rest of the calls. -/
structure Looked (scripts : Nat → CheckScript) (n : Nat) (cs rest : List (Call checkSig PyExc)) (signaled : Bool) :
    Prop where
  calls : cs = ⟨.isSet, .ok signaled⟩ :: rest
  rest_ofCheck : ∀ c ∈ rest, CheckOp.OfCheck c.op
  rest_answer : ∀ c ∈ rest, c.answer = { scripts n with signaled }.answer c.op

/-- The look does not matter to the other calls. -/
theorem answer_ofCheck {o : CheckOp} (h : o.OfCheck) (script : CheckScript) (a b : Bool) :
    { script with signaled := a }.answer o = { script with signaled := b }.answer o := by
  cases o with
  | isSet => exact absurd rfl h
  | _ => rfl

/-- An answer of the pool is one that the event, set or not, allows. -/
theorem answered_as_flagged {n : Nat} {c : Call checkSig PyExc}
    (h : Serving.Answers (SweepWorld.exec scripts) n c) :
    ∃ signaled, SweepWorld.answers scripts n signaled c.op c.answer := by
  obtain ⟨s, s', hanswer, -⟩ := h
  exact ⟨s.set, hanswer⟩

/-- A task whose calls are answered as its script says. -/
theorem looked_of_trace {entry : HostEntry} {n : Nat} {cs : List (Call checkSig PyExc)}
    {p : Check (Option (String × CheckResult))} (htrace : (task rt settings entry).Trace cs p)
    (hanswers : ∀ c ∈ cs, ∃ signaled, SweepWorld.answers scripts n signaled c.op c.answer) :
    cs = [] ∧ p = task rt settings entry ∨
      ∃ signaled rest, Looked scripts n cs rest signaled ∧ (afterLook rt settings entry signaled).Trace rest p := by
  obtain ⟨hnone, hstart⟩ | ⟨e, rfl, -⟩ | ⟨signaled, rest, rfl, hafter⟩ := trace_task rt settings htrace
  · exact .inl ⟨hnone, hstart⟩
  · -- the event answers every look
    obtain ⟨signaled, hanswer⟩ := hanswers ⟨.isSet, .error e⟩ List.mem_cons_self
    cases hanswer
  · have hrest : ∀ c ∈ rest, CheckOp.OfCheck c.op :=
      ((finishes_afterLook rt settings entry signaled).only.trace hafter).2
    refine .inr ⟨signaled, rest, ⟨rfl, hrest, fun c hc => ?_⟩, hafter⟩
    obtain ⟨signaled', hanswer⟩ := hanswers c (List.mem_cons_of_mem _ hc)
    exact hanswer.trans (answer_ofCheck (hrest c hc) (scripts n) _ _)

/-- A task raises nothing; what it returns follows from its script and from what it saw. -/
theorem outcome_of_trace {entry : HostEntry} {n : Nat} {cs : List (Call checkSig PyExc)}
    {x : Except PyExc (Option (String × CheckResult))} (htrace : (task rt settings entry).Trace cs (.ofExcept x))
    (hanswers : ∀ c ∈ cs, ∃ signaled, SweepWorld.answers scripts n signaled c.op c.answer) :
    ∃ signaled rest, Looked scripts n cs rest signaled ∧
      x = .ok (taskOutcome rt settings entry { scripts n with signaled }) := by
  obtain ⟨-, hstart⟩ | ⟨signaled, rest, hlooked, -⟩ := looked_of_trace htrace hanswers
  · cases x <;> cases hstart
  refine ⟨signaled, rest, hlooked, ?_⟩
  have houtcome : (task rt settings entry).outcome { scripts n with signaled }.answer = some x := by
    rw [← htrace.outcome, Prog.outcome_ofExcept]
    intro c hc
    rw [hlooked.calls] at hc
    rcases List.mem_cons.mp hc with rfl | hc
    · rfl
    · exact hlooked.rest_answer c hc
  unfold taskOutcome
  rw [houtcome]
  cases x with
  | ok outcome => rfl
  | error e =>
    rw [task_eq, Prog.outcome_bind_error] at houtcome
    obtain hlook | ⟨signaled', -, hraise⟩ := houtcome
    · cases hlook
    · unfold afterLook at hraise
      split at hraise
      · cases hraise
      · rw [Prog.bind_eq, Prog.outcome_bind_error, Prog.outcome_attempt] at hraise
        obtain hattempt | ⟨r, -, hret⟩ := hraise
        · obtain ⟨y, -, hy⟩ := Option.map_eq_some_iff.mp hattempt
          cases hy
        · cases hret

/-- What the task saw is what its look was answered. -/
theorem Looked.saw {s : SweepWorld} {n : Nat} {rest : List (Call checkSig PyExc)} {signaled : Bool}
    (h : Looked scripts n (s.callsOf n) rest signaled) : s.saw n = signaled := by
  have hrest : rest.any (fun c => match c with
      | ⟨.isSet, .ok signaled⟩ => signaled
      | _ => false) = false := by
    rw [List.any_eq_false]
    rintro ⟨o, r⟩ hc
    have ho := h.rest_ofCheck _ hc
    cases o with
    | isSet => exact absurd rfl ho
    | _ => simp
  rw [SweepWorld.saw, h.calls, List.any_cons, hrest, Bool.or_false]

/-- **A future that is complete has the outcome of its task**, among its script and what it saw. -/
theorem Sweep.Reachable.outcome (h : Sweep.Reachable rt settings hosts scripts V) {n : Nat}
    {x : Except PyExc (Option (String × CheckResult))} (hx : V.executor.pool.threads n = some (.ofExcept x)) :
    ∃ entry, V.executor.items[n]? = some entry ∧
      x = .ok (taskOutcome rt settings entry (V.world.observed scripts n)) := by
  obtain ⟨entry, hentry, htrace, hanswers⟩ := h.result Flagged.logs rfl hx
  obtain ⟨signaled, rest, hlooked, houtcome⟩ := outcome_of_trace htrace fun c hc => answered_as_flagged (hanswers c hc)
  have hsaw : V.world.saw n = signaled := Looked.saw hlooked
  refine ⟨entry, hentry, ?_⟩
  rw [SweepWorld.observed, hsaw]
  exact houtcome

end

/-! ## The client's side -/

section

variable (settings : CheckSettings) (hosts : List HostEntry)

/-- What `fut.result()` adds to the results. -/
def settled : Except PyExc (Option (String × CheckResult)) → Option (String × CheckResult)
  | .ok outcome => outcome
  | .error _ => none

/-- The account of `_run_parallel_checks`, which creates no other executor than that of its settings. -/
def sweepMonitor : Monitor checkPoolSig PyExc (Account HostEntry PyExc (Option (String × CheckResult))) where
  possible := Account.Possible fun _ _ => True
  allows q o := q.allows o ∧ ∀ workers, o = .create workers → workers = settings.max_concurrency.toNat
  next q o r := q.next o r

/-- The account while the hosts are submitted: these are left. -/
structure SweepSubmitting (left : List HostEntry) (q : Account HostEntry PyExc (Option (String × CheckResult))) :
    Prop where
  workers : 0 < q.workers
  base : q.base = 0
  taken : q.taken = []
  submitted : q.submitted ++ left = hosts

/-- The account while results are taken: so many are left, and the others are in the results. -/
structure SweepTaking (left : Nat) (q : Account HostEntry PyExc (Option (String × CheckResult))) (results : Results) :
    Prop where
  workers : 0 < q.workers
  base : q.base = 0
  submitted : q.submitted = hosts
  left : q.taken.length + left = hosts.length
  results : results = (q.taken.filterMap settled).reverse

variable {settings hosts}

/-- One host is submitted. -/
theorem SweepSubmitting.step {host : HostEntry} {left : List HostEntry}
    {q : Account HostEntry PyExc (Option (String × CheckResult))} (h : SweepSubmitting hosts (host :: left) q) :
    (sweepMonitor settings).allows q (.submit host) ∧ ∀ r, (sweepMonitor settings).possible (.submit host) r →
      r = .ok () ∧ SweepSubmitting hosts left ((sweepMonitor settings).next q (.submit host) r) := by
  refine ⟨⟨h.workers, fun _ => nofun⟩, fun r hr => ⟨hr, h.workers, h.base, h.taken, ?_⟩⟩
  rw [← h.submitted]
  exact List.append_assoc q.submitted [host] left

/-- One result is taken. -/
theorem SweepTaking.step {left : Nat} {q : Account HostEntry PyExc (Option (String × CheckResult))} {results : Results}
    (h : SweepTaking hosts (left + 1) q results) :
    (sweepMonitor settings).allows q .next ∧ ∀ r, (sweepMonitor settings).possible .next r → ∃ b, r = .ok b ∧
      (recordOutcome results b).Obeys (sweepMonitor settings)
        (fun q' x => ∃ results', x = .ok results' ∧ SweepTaking hosts left q' results')
        ((sweepMonitor settings).next q .next r) := by
  have hleft := h.left
  have hsubmitted := congrArg List.length h.submitted
  refine ⟨⟨⟨h.workers, by omega⟩, fun _ => nofun⟩, ?_⟩
  rintro r ⟨b, rfl⟩
  have hlength : (q.taken ++ [Except.ok b]).length + left = hosts.length := by
    rw [List.length_append, List.length_singleton]
    omega
  have hresults : ∀ results', results' = ((q.taken ++ [Except.ok b]).filterMap settled).reverse →
      SweepTaking hosts left ((sweepMonitor settings).next q .next (.ok b)) results' :=
    fun _ hresults' => ⟨h.workers, h.base, h.submitted, hlength, hresults'⟩
  refine ⟨b, rfl, ?_⟩
  cases b with
  | none =>
    refine ⟨results, rfl, hresults _ ?_⟩
    simp [settled, h.results]
  | some result =>
    refine ⟨result :: results, rfl, hresults _ ?_⟩
    simp [settled, h.results]

/-- **`_run_parallel_checks` keeps to its side**, and returns what the futures have yielded. -/
theorem obeys_runParallelChecksOnPool :
    (runParallelChecksOnPool settings hosts).Obeys (sweepMonitor settings)
      (fun q x => 0 < settings.max_concurrency → ∃ results, x = .ok results ∧ SweepTaking hosts 0 q results) {} := by
  unfold runParallelChecksOnPool
  split_ifs with hmax
  · intro hpos
    omega
  have hworkers : 0 < settings.max_concurrency.toNat := by omega
  refine Prog.obeys_bind.mpr (Prog.obeys_perform.mpr ⟨⟨⟨hworkers, rfl⟩, ?_⟩, ?_⟩)
  · rintro workers ⟨⟩
    rfl
  rintro r rfl
  refine (obeys_submitAll (I := SweepSubmitting hosts) (fun _ _ _ h => h.step) ⟨hworkers, rfl, rfl, rfl⟩).bind ?_ ?_
  · rintro q ⟨⟩ ⟨-, h⟩
    have hstart : SweepTaking hosts hosts.length q [] := by
      refine ⟨h.workers, h.base, ?_, ?_, ?_⟩
      · rw [← h.submitted, List.append_nil]
      · rw [h.taken]
        exact Nat.zero_add _
      · rw [h.taken]
        rfl
    refine (obeys_forEachCompleted (I := SweepTaking hosts) (fun _ _ _ h => h.step) hstart).bind ?_ ?_
    · rintro q' results ⟨results', hresults, hq'⟩
      obtain rfl := Except.ok.inj hresults
      refine Prog.obeys_bind.mpr (Prog.obeys_perform.mpr ⟨⟨hq'.workers, fun _ => nofun⟩, ?_⟩)
      rintro r rfl -
      exact ⟨results, rfl, hq'⟩
    · rintro q' e ⟨results, hresults, -⟩
      cases hresults
  · rintro q e ⟨herror, -⟩
    cases herror

end

section

variable {rt : Runtime} {settings : CheckSettings} {hosts : List HostEntry} {scripts : Nat → CheckScript} {V : Sweep}

theorem sweep_keeps :
    Serving.Keeps (task rt settings) (SweepWorld.exec scripts) SweepWorld.ownExec (sweepMonitor settings) id where
  next _ _ _ := rfl
  allows _ _ h := h.1
  own o := o.elim
  create _ := rfl
  submit _ := rfl
  shutdown := rfl
  result n entry cs x htrace hanswers := by
    obtain ⟨signaled, rest, -, houtcome⟩ := outcome_of_trace htrace fun c hc => answered_as_flagged (hanswers c hc)
    exact ⟨_, houtcome⟩

theorem sweep_live : Serving.Live (task rt settings) (SweepWorld.exec scripts) SweepWorld.ownExec where
  program entry := finishes_task rt settings entry
  exec _ _ _ := ⟨_, _, rfl, rfl⟩
  own o := o.elim

/-! ## The results -/

/-- What the futures have yielded, future by future. -/
theorem settled_yielded {taken : List (Except PyExc (Option (String × CheckResult)))} {yielded : List Nat}
    (h : Sweep.Reachable rt settings hosts scripts V)
    (htaken : List.Forall₂ (fun x n => V.executor.pool.threads n = some (.ofExcept x)) taken yielded)
    (hitems : V.executor.items = hosts) :
    taken.filterMap settled = yielded.filterMap fun n =>
      hosts[n]? >>= fun entry => taskOutcome rt settings entry (V.world.observed scripts n) := by
  induction htaken with
  | nil => rfl
  | @cons x n taken yielded hx _ ih =>
    obtain ⟨entry, hentry, rfl⟩ := h.outcome hx
    rw [hitems] at hentry
    rw [List.filterMap_cons, List.filterMap_cons, ih, hentry]
    rfl

/-- How the checks of this run went: what each task saw, and the order in which the futures were yielded. -/
def Sweep.checks (V : Sweep) (scripts : Nat → CheckScript) (n : Nat)
    (hperm : V.executor.yielded.Perm (List.range n)) : CycleChecks where
  scripts := V.world.observed scripts
  order m := if m = n then V.executor.yielded else List.range m
  order_perm m := by
    split
    · subst m
      exact hperm
    · exact List.Perm.refl _

/-- **What `_run_parallel_checks` comes to on its pool** is what `runParallelChecks` computes. -/
theorem Sweep.Reachable.refined (h : Sweep.Reachable rt settings hosts scripts V) {x : Except PyExc Results}
    (hx : V.client = .ofExcept x) : ∃ checks : CycleChecks, checks.scripts = V.world.observed scripts ∧
      runParallelChecks rt settings hosts checks.scripts (checks.order hosts.length) = x := by
  by_cases hmax : settings.max_concurrency ≤ 0
  · -- the pool was never created
    have htrace := h.client_trace
    unfold runParallelChecksOnPool at htrace
    rw [if_pos hmax] at htrace
    obtain ⟨-, hclient⟩ := Prog.trace_still (by rintro o k ⟨⟩) htrace
    rw [hx] at hclient
    refine ⟨{ scripts := V.world.observed scripts }, rfl, ?_⟩
    unfold runParallelChecks
    rw [if_pos hmax]
    cases x with
    | ok results => cases hclient
    | error e => exact congrArg Except.error (Prog.raise.inj hclient).symm
  · have hobeys := (h.follows Flagged.logs rfl sweep_keeps obeys_runParallelChecksOnPool).2
    have hagrees : ((sweepMonitor settings).after {} V.calls).Agrees V.executor := h.agrees sweep_keeps rfl
    rw [hx, Prog.obeys_ofExcept] at hobeys
    obtain ⟨results, rfl, hsweeping⟩ := hobeys (Int.not_le.mp hmax)
    have hsubmitted := hagrees.submitted
    rw [hagrees.base, hsweeping.base, List.drop_zero, hsweeping.submitted] at hsubmitted
    have hbase : V.executor.base = 0 := hagrees.base.trans hsweeping.base
    have hlength : V.executor.yielded.length = V.executor.items.length - V.executor.base := by
      rw [← hagrees.length_taken, hsubmitted, hbase]
      exact hsweeping.left
    have hperm := h.sound.yielded_perm hlength
    rw [hbase, hsubmitted, Nat.sub_zero, ← List.range_eq_range'] at hperm
    have horder : (V.checks scripts hosts.length hperm).order hosts.length = V.executor.yielded := if_pos rfl
    refine ⟨V.checks scripts hosts.length hperm, rfl, ?_⟩
    unfold runParallelChecks
    rw [if_neg hmax, horder, hsweeping.results]
    exact congrArg (fun results => Except.ok results.reverse) (settled_yielded h hagrees.taken hsubmitted).symm

/-! ## Shutdown -/

/-- A look that finds the event clear. -/
abbrev clearLook : Call checkSig PyExc := ⟨.isSet, .ok false⟩

/-- A check begins only after a look that found the event clear. -/
theorem sweep_gate : Flagged.Gate (SweepWorld.answers scripts) (task rt settings) clearLook CheckOp.OfCheck where
  unset _ := nofun
  gated entry n cs p htrace hanswers pre c post hsplit hc := by
    obtain ⟨rfl, -⟩ | ⟨signaled, rest, hlooked, hafter⟩ := looked_of_trace htrace hanswers
    · simp at hsplit
    have hlook := hlooked.calls.symm.trans hsplit
    cases pre with
    | nil =>
      -- the call would be the look
      obtain ⟨rfl, -⟩ := List.cons.inj hlook
      exact absurd rfl hc
    | cons first pre =>
      obtain ⟨rfl, hrest⟩ := List.cons.inj hlook
      cases signaled with
      | false => exact List.mem_cons_self
      | true =>
        -- a task that saw the signal makes no other call
        obtain ⟨rfl, -⟩ := Prog.trace_still (by rintro o k ⟨⟩) hafter
        simp at hrest

/-- Whoever saw the event set, somebody has set it. -/
theorem Sweep.Reachable.saw_signal (h : Sweep.Reachable rt settings hosts scripts V) {n : Nat}
    (hsaw : V.world.saw n = true) : .signal () ∈ V.world.history := by
  obtain ⟨⟨o, r⟩, hc, hlook⟩ := List.any_eq_true.mp hsaw
  split at hlook
  · rename_i signaled heq
    cases heq
    obtain rfl : signaled = true := hlook
    obtain ⟨⟨⟩, hsignal⟩ := Flagged.Reachable.signaled h (Flagged.mem_callsOf.mp hc) nofun
    exact hsignal
  · cases hlook

theorem Sweep.Reachable.workers_le (h : Sweep.Reachable rt settings hosts scripts V) :
    V.executor.workers ≤ settings.max_concurrency.toNat :=
  Serving.Reachable.workers_le h Flagged.logs rfl sweep_keeps obeys_runParallelChecksOnPool
    fun _ workers hallowed => (hallowed.2 workers rfl).le

theorem finishes_runParallelChecksOnPool : (runParallelChecksOnPool settings hosts).Finishes fun _ => True := by
  unfold runParallelChecksOnPool
  split_ifs
  · trivial
  refine (Prog.finishes_perform trivial).bind fun _ => (finishes_submitAll hosts).bind fun _ => ?_
  refine (finishes_forEachCompleted (fun results outcome => ?_) _ _).bind fun results => ?_
  · cases outcome <;> trivial
  · exact (Prog.finishes_perform trivial).bind fun _ => trivial

/-- **Every sweep comes to its end.** -/
theorem Sweep.Reachable.ends (h : Sweep.Reachable rt settings hosts scripts V) :
    Inevitable (Serving.Move (task rt settings) (SweepWorld.exec scripts) SweepWorld.ownExec)
      (Serving.Change Flagged.env) (fun V => V.client.Ended) V := by
  refine Serving.inevitable_end (I := Sweep.Reachable rt settings hosts scripts) Flagged.logs rfl sweep_keeps
    obeys_runParallelChecksOnPool rfl sweep_live (fun V hV => ⟨hV, fun hhang => ?_⟩) (fun _ _ => .move)
    (fun _ _ => .change) h
  have hfinishes := Serving.finishes_trace finishes_runParallelChecksOnPool hV.client_trace
  rw [hhang] at hfinishes
  exact hfinishes

/-- What a signal does to a sweep. -/
structure SweepWorld.Graceful (settings : CheckSettings) (s : SweepWorld) : Prop where
  /-- A task is skipped only when shutdown was signaled. -/
  saw : ∀ n, s.saw n = true → .signal () ∈ s.history
  /-- After the signal no check begins that had not found the event clear before it. -/
  begun : ∀ pre post, s.history = pre ++ .signal () :: post → ∀ n c, .task n c ∈ post → CheckOp.OfCheck c.op →
    .task n clearLook ∈ pre
  /-- The checks that go on are no more than the pool has workers. -/
  bounded : ∀ pre post, s.history = pre ++ .signal () :: post → ∃ inflight : List Nat,
    inflight.length ≤ settings.max_concurrency.toNat ∧
      ∀ n c, .task n c ∈ post → CheckOp.OfCheck c.op → n ∈ inflight

/-- **A cycle's checks on their pool, in any interleaving.**  No more run at once than the settings allow; a signal
stops those that have not begun, and no other; the sweep comes to its end; and what it returns is what `runChecks`
computes from what the tasks saw of the event, with the futures in some order. -/
theorem parallel_checks_refined (c : CycleInput) (h : Sweep.Reachable c.rt settings hosts scripts V) :
    V.executor.running.length ≤ settings.max_concurrency.toNat ∧ V.world.Graceful settings ∧
      Inevitable (Serving.Move (task c.rt settings) (SweepWorld.exec scripts) SweepWorld.ownExec)
        (Serving.Change Flagged.env) (fun V => V.client.Ended) V ∧
      ∀ x, V.client = .ofExcept x → ∃ checks : CycleChecks, checks.scripts = V.world.observed scripts ∧
        c.runChecks checks settings hosts = x := by
  refine ⟨h.sound.bounded.trans h.workers_le, ⟨fun n => h.saw_signal, ?_, ?_⟩, h.ends, fun x => h.refined⟩
  · intro pre post hsplit n call hcall hc
    exact Flagged.Reachable.begun_before h sweep_gate hsplit hcall hc
  · intro pre post hsplit
    have hgate : Flagged.Gate (SweepWorld.answers scripts) (task c.rt settings) clearLook CheckOp.OfCheck := sweep_gate
    obtain ⟨inflight, hin⟩ := Flagged.Reachable.in_flight h hgate (fun _ hV => Sweep.Reachable.workers_le hV) hsplit
    exact ⟨inflight, hin.bounded, hin.calling⟩

end

/-- Two hosts that NetBox knows by address. -/
def twoHosts : List HostEntry :=
  [netboxEntry ⟨7, "sw.example", 443, none, [], some "10.0.0.7"⟩,
    netboxEntry ⟨8, "ap.example", 443, none, [], some "10.0.0.8"⟩]

def oneWorker : CheckSettings where
  tcp_connect_seconds := .finite 5
  tls_handshake_seconds := .finite 5
  expiring_soon_threshold_days := 30
  max_concurrency := 1

/-- The signal arrives while the one worker checks the first host: the check goes on, the second host is skipped, and
its future is yielded first. -/
theorem parallel_checks_refined_signaled : ∃ (V : Sweep) (checks : CycleChecks) (results : Results),
    Sweep.Reachable CycleInput.sameText.rt oneWorker twoHosts CycleInput.backwards.scripts V ∧
      V.world.set = true ∧ (checks.scripts 0).signaled = false ∧ (checks.scripts 1).signaled = true ∧
      V.client = .ret results ∧ results.length = 1 ∧
      CycleInput.sameText.runChecks checks oneWorker twoHosts = .ok results := by
  have h₀ : Sweep.Reachable CycleInput.sameText.rt oneWorker twoHosts CycleInput.backwards.scripts _ := .initial
  have h₁ := h₀.move (.serve rfl (.create 1 rfl rfl rfl))
  have h₂ := h₁.move (.serve rfl (.submit _))
  have h₃ := h₂.move (.serve rfl (.submit _))
  have h₄ := h₃.move (.work (.start rfl Nat.zero_lt_one))
  have h₅ := h₄.move (.work (.call List.mem_cons_self (.call rfl ⟨rfl, rfl⟩)))
  have h₆ := h₅.change (.env ⟨(), rfl⟩)
  -- the clock and the connection that is refused
  have h₇ := h₆.move (.work (.call List.mem_cons_self (.call rfl ⟨rfl, rfl⟩)))
  have h₈ := h₇.move (.work (.call List.mem_cons_self (.call rfl ⟨rfl, rfl⟩)))
  have h₉ := h₈.move (.work (.finish (x := .ok _) List.mem_cons_self rfl))
  have h₁₀ := h₉.move (.work (.start rfl Nat.zero_lt_one))
  have h₁₁ := h₁₀.move (.work (.call List.mem_cons_self (.call rfl ⟨rfl, rfl⟩)))
  have h₁₂ := h₁₁.move (.work (.finish (x := .ok _) List.mem_cons_self rfl))
  have h₁₃ := h₁₂.move (.serve rfl (.next (n := 1) (x := .ok none) (by decide) rfl))
  have h₁₄ := h₁₃.move (.serve rfl (.next (n := 0) (x := .ok (some _)) (by decide) rfl))
  have h₁₅ := h₁₄.move (.serve rfl (.shutdown rfl rfl))
  obtain ⟨-, -, -, hreturns⟩ := parallel_checks_refined CycleInput.sameText h₁₅
  obtain ⟨checks, hscripts, hresults⟩ := hreturns (.ok _) rfl
  refine ⟨_, checks, _, h₁₅, rfl, ?_, ?_, rfl, rfl, hresults⟩
  · rw [hscripts]
    rfl
  · rw [hscripts]
    rfl

end CertWatch
