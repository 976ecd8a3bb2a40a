/-
# `CertWatch.LocalRuns` — every run of the local mode.

The summary of a cycle is about what the tasks of that cycle have come to, and the loop's own lines before it are those
of its results.  A signal lets the checks that have begun finish, and no others begin; no more than one cycle starts
after it, and the loop comes to its end.
-/
import CertWatch.CycleCoverage
import CertWatch.LocalSweep

namespace CertWatch

open CertWatch.Lib

/-! ## The runs -/

/-- What a process of the local mode runs with; the loop is followed for so many cycles, and `timeout_max` is
`threading.TIMEOUT_MAX`. -/
structure LocalMode where
  timeout_max : Rat
  rt : Runtime
  repr : PyExc → String
  config : AgentConfig
  debug : Bool := false
  round3 : Rat → PyFloat
  cycles : Nat

/-- The stop signal, and everything that has happened. -/
abbrev LocalWorld := Flagged localTaskSig loopSig PyExc Signal

/-- The main thread and its executor. -/
abbrev LocalRun := Serving loopSig localTaskSig HostConfig PyExc LocalOutcome Unit LocalWorld

abbrev LocalRun.world (V : LocalRun) : LocalWorld := Flagged.world V

abbrev localExec : Nat → (o : localTaskSig.Op) → LocalWorld → Except PyExc (localTaskSig.Ret o) → LocalWorld → Prop :=
  Flagged.exec localAnswers

namespace LocalMode

variable (m : LocalMode)

abbrev localOwn : (o : loopSig.Op) → LocalWorld → Except PyExc (loopSig.Ret o) → LocalWorld → Prop :=
  Flagged.own (loopAnswers m.timeout_max)

abbrev task : HostConfig → LocalTask LocalOutcome := localTask m.rt m.repr m.config

/-- What a run comes to. -/
abbrev Reachable : LocalRun → Prop :=
  Flagged.Reachable localAnswers (loopAnswers m.timeout_max) m.task (runLoop m.config m.debug m.round3 m.cycles)

abbrev monitor : Monitor loopClientSig PyExc LoopView := loopMonitor m.timeout_max m.config m.debug

/-- What the loop knows on a run. -/
def view (V : LocalRun) : LoopView := m.monitor.after {} V.calls

theorem keeps : Serving.Keeps m.task localExec m.localOwn m.monitor LoopView.account where
  next _ _ _ := rfl
  allows _ _ h := h.1
  own _ s _ _ h := ⟨s.set, h.1⟩
  create _ := rfl
  submit _ := rfl
  shutdown := rfl
  result n host cs x htrace hanswers := by
    obtain ⟨outcome, houtcome, -⟩ := told_of_trace htrace fun c hc => by
      obtain ⟨s, s', hanswer, -⟩ := hanswers c hc
      exact ⟨s.set, hanswer⟩
    exact ⟨outcome, houtcome⟩

theorem live : Serving.Live m.task localExec m.localOwn where
  program host := finishes_localTask m.rt m.repr m.config host
  exec n o s := by
    cases o with
    | check o =>
      cases o with
      | isSet => exact ⟨.ok s.set, _, rfl, rfl⟩
      | _ => exact ⟨.error (.valueError ""), _, trivial, rfl⟩
    | log entry => exact ⟨.ok (), _, rfl, rfl⟩
  own o s := by
    cases o with
    | isSet => exact ⟨.ok s.set, _, rfl, rfl⟩
    | wait timeout =>
      rcases le_or_gt (timeout : Rat) m.timeout_max with hle | hlong
      · exact ⟨.ok false, _, .elapsed hle, rfl⟩
      · exact ⟨.error .overflowError, _, .refused hlong, rfl⟩
    | monotonic => exact ⟨.ok 0, _, ⟨0, rfl⟩, rfl⟩
    | log entry => exact ⟨.ok (), _, rfl, rfl⟩

variable {m} {V : LocalRun}

theorem Reachable.obeys (h : m.Reachable V) : V.client.Obeys m.monitor (RunEnds m.timeout_max m.config) (m.view V) :=
  (Serving.Reachable.follows h Flagged.logs rfl m.keeps (obeys_runLoop m.cycles)).2

theorem Reachable.agrees (h : m.Reachable V) : (m.view V).account.Agrees V.executor :=
  Serving.Reachable.agrees h m.keeps rfl

theorem Reachable.workers_le (h : m.Reachable V) : V.executor.workers ≤ m.config.max_concurrency.toNat :=
  Serving.Reachable.workers_le h Flagged.logs rfl m.keeps (obeys_runLoop m.cycles)
    fun _ workers hallowed => (hallowed.2.1 workers rfl).le

/-- The loop knows what it has logged. -/
theorem view_lines (V : LocalRun) : (m.view V).lines = loggedLines V.calls := by
  unfold view
  induction V.calls using List.reverseRecOn with
  | nil => rfl
  | append_singleton cs c ih =>
    rw [Monitor.after_concat, loggedLines, List.flatMap_append, List.flatMap_singleton]
    exact congrArg (· ++ loggedLine c.op) ih

/-! ## The cycles -/

/-- What the tasks of the current cycle have come to: every host has one of its own, and all of them have ended. -/
structure CycleTold (m : LocalMode) (V : LocalRun) (outcomes : List LocalOutcome) : Prop where
  hosts : V.executor.items.drop V.executor.base = m.config.hosts
  /-- The futures were yielded in some order. -/
  order : V.executor.yielded.Perm (List.range' V.executor.base m.config.hosts.length)
  told : List.Forall₂ (fun outcome n => ∃ host, V.executor.items[n]? = some host ∧
    HostTold m.rt m.repr m.config host (V.world.callsOf n) outcome) outcomes V.executor.yielded
  /-- A host is skipped only after a signal. -/
  signaled : ∀ n, localLook true ∈ V.world.callsOf n → ∃ signal, .signal signal ∈ V.world.history

/-- A future that is complete. -/
theorem Reachable.told (h : m.Reachable V) {n : Nat} {outcome : LocalOutcome}
    (houtcome : V.executor.pool.threads n = some (.ret outcome)) : ∃ host, V.executor.items[n]? = some host ∧
      HostTold m.rt m.repr m.config host (V.world.callsOf n) outcome := by
  obtain ⟨host, hhost, htrace, hanswers⟩ :=
    Serving.Reachable.result h Flagged.logs rfl (x := .ok outcome) houtcome
  obtain ⟨outcome', houtcome', htold⟩ := told_of_trace htrace fun c hc => by
    obtain ⟨s, s', hanswer, -⟩ := hanswers c hc
    exact ⟨s.set, hanswer⟩
  cases houtcome'
  exact ⟨host, hhost, htold⟩

/-- **The summary of a cycle is about what its tasks have come to**: when it is logged, every configured host had a
task of its own in this cycle, and all of them have ended; the loop's own lines since the start of the cycle are those
of the results, and one about the hosts without a result, if there are any; and the three counts make the total.  The
lines of the signal handler, and of the tasks whose checks raised, come in between. -/
theorem cycle_accounting (h : m.Reachable V) {entry : Dict} {k : Except PyExc Unit → Loop Unit}
    (hclient : V.client = .call (.own (.log entry)) k) (hevent : IsEvent entry "cycle_summary") :
    ∃ outcomes, m.CycleTold V outcomes ∧ Summarizes m.config m.debug (loggedLines V.calls) outcomes entry ∧
      outcomes.length = m.config.hosts.length ∧ summaryCounts ((checkedHosts outcomes).map Prod.snd) .success +
        summaryCounts ((checkedHosts outcomes).map Prod.snd) .connectionFailed +
        summaryCounts ((checkedHosts outcomes).map Prod.snd) .tlsFailed = (checkedHosts outcomes).length := by
  have hobeys := h.obeys
  rw [hclient] at hobeys
  obtain ⟨outcomes, htaken, hsubmitted, hlength, hsummarizes⟩ := (hobeys.1.2.2 entry rfl).summary hevent
  have hagrees := h.agrees
  have hhosts : V.executor.items.drop V.executor.base = m.config.hosts := hagrees.submitted.trans hsubmitted
  have hcount : m.config.hosts.length = V.executor.items.length - V.executor.base := by
    rw [← hhosts, List.length_drop]
  have hyielded : V.executor.yielded.length = V.executor.items.length - V.executor.base := by
    rw [← hagrees.length_taken, htaken, List.length_map, hlength, hcount]
  refine ⟨outcomes, ⟨hhosts, ?_, ?_, ?_⟩, ?_, hlength, ?_⟩
  · rw [hcount]
    exact h.sound.yielded_perm hyielded
  · have hended := hagrees.taken
    rw [htaken, List.forall₂_map_left_iff] at hended
    exact hended.imp fun outcome n hn => h.told hn
  · intro n hlook
    exact Flagged.Reachable.signaled h (Flagged.mem_callsOf.mp hlook) nofun
  · rw [← view_lines]
    exact hsummarizes
  · rw [summaryCounts_total, List.length_map]

/-! ## Shutdown -/

/-- Once the signal is there no look misses it, so the loop does not come back to the start of a cycle. -/
theorem phase_of_served {E E' : Executor HostConfig localTaskSig PyExc LocalOutcome LocalWorld}
    {o : ClientOp loopSig HostConfig} {r : Except PyExc (o.Ret LocalOutcome)} (hset : E.pool.shared.set = true)
    (hserve : Executor.Serve m.localOwn o E r E') (phase : LoopPhase) :
    phase.next o r ≠ .looked ∧ (phase = .working → phase.next o r = .working) := by
  cases hserve with
  | @own _ o r s' hcall =>
    obtain ⟨hanswer, -⟩ := hcall
    cases o with
    | isSet =>
      rw [hset] at hanswer
      cases hanswer
      exact ⟨nofun, fun _ => rfl⟩
    | monotonic =>
      show (if phase = .looked then LoopPhase.starting else .working) ≠ .looked ∧ _
      refine ⟨by split <;> exact nofun, fun hphase => ?_⟩
      rw [hphase]
      rfl
    | wait timeout => exact ⟨nofun, fun _ => rfl⟩
    | log entry => exact ⟨nofun, fun _ => rfl⟩
  | create | submit | shutdown => exact ⟨nofun, fun _ => rfl⟩
  | next => exact ⟨nofun, fun _ => rfl⟩

/-- The line of the main thread. -/
abbrev mainLine (entry : Dict) : Noted localTaskSig loopSig PyExc Signal := .own ⟨.log entry, .ok ()⟩

/-- What came after a signal: the start of a cycle takes the loop to its work, and is the only one. -/
structure OneCycle (phase : LoopPhase) (post : List (Noted localTaskSig loopSig PyExc Signal)) : Prop where
  working : ∀ entry, IsEvent entry "cycle_start" → mainLine entry ∈ post → phase = .working
  once : ∀ entry entry', IsEvent entry "cycle_start" → IsEvent entry' "cycle_start" →
    ¬ Precedes post (mainLine entry) (mainLine entry')

/-- Anything but the start of a cycle. -/
theorem OneCycle.concat {phase phase' : LoopPhase} {post : List (Noted localTaskSig loopSig PyExc Signal)}
    {e : Noted localTaskSig loopSig PyExc Signal} (h : OneCycle phase post)
    (hphase : phase = .working → phase' = .working)
    (he : ∀ entry, IsEvent entry "cycle_start" → e ≠ mainLine entry) : OneCycle phase' (post ++ [e]) where
  working entry hentry hmem := by
    rcases List.mem_append.mp hmem with hmem | hmem
    · exact hphase (h.working entry hentry hmem)
    · exact absurd (List.mem_singleton.mp hmem).symm (he entry hentry)
  once entry entry' hentry hentry' hprecedes := by
    rcases precedes_concat_iff.mp hprecedes with hprecedes | ⟨-, hlast⟩
    · exact h.once entry entry' hentry hentry' hprecedes
    · exact he entry' hentry' hlast.symm

/-- A cycle that starts when none has. -/
theorem OneCycle.start {phase : LoopPhase} {post : List (Noted localTaskSig loopSig PyExc Signal)} {entry : Dict}
    (h : OneCycle phase post) (hphase : phase = .starting) : OneCycle .working (post ++ [mainLine entry]) where
  working _ _ _ := rfl
  once entry' entry'' hentry' hentry'' hprecedes := by
    rcases precedes_concat_iff.mp hprecedes with hprecedes | ⟨hmem, -⟩
    · exact h.once entry' entry'' hentry' hentry'' hprecedes
    · have hworking := h.working entry' hentry' hmem
      rw [hphase] at hworking
      cases hworking

/-- The flag stays set. -/
theorem Reachable.set_of_signal (h : m.Reachable V) {pre post : List (Noted localTaskSig loopSig PyExc Signal)}
    {signal : Signal} (hsplit : V.world.history = pre ++ .signal signal :: post) : V.world.set = true := by
  refine (Flagged.Reachable.set_iff h).mpr ⟨signal, ?_⟩
  rw [hsplit]
  exact List.mem_append_right _ List.mem_cons_self

/-- **No more than one cycle starts after a signal.** -/
theorem Reachable.oneCycle (h : m.Reachable V) {pre post : List (Noted localTaskSig loopSig PyExc Signal)}
    {signal : Signal} (hsplit : V.world.history = pre ++ .signal signal :: post) : OneCycle (m.view V).phase post := by
  induction h generalizing pre post with
  | initial => exact absurd hsplit (by simp [Serving.initial])
  | @move V V' hreach hmove ih =>
    cases hmove with
    | @serve o k r E' hclient hserve =>
      have hphase : (m.view ⟨k r, V.calls ++ [⟨o, r⟩], E'⟩).phase = (m.view V).phase.next o r := by
        unfold view
        rw [Monitor.after_concat]
        rfl
      rw [hphase]
      cases hserve with
      | @own _ o r s' hcall =>
        obtain ⟨hanswer, rfl⟩ := hcall
        obtain ⟨-, hlast, -⟩ | ⟨post', rfl, hsplit'⟩ := split_concat hsplit
        · cases hlast
        have hset := Reachable.set_of_signal hreach hsplit'
        have hworking := (phase_of_served (o := .own o) hset (.own ⟨hanswer, rfl⟩) (m.view V).phase).2
        by_cases hstart : ∃ entry, IsEvent entry "cycle_start" ∧
            (Noted.own ⟨o, r⟩ : Noted localTaskSig loopSig PyExc Signal) = mainLine entry
        · obtain ⟨entry, hentry, heq⟩ := hstart
          cases heq
          have hobeys := Reachable.obeys hreach
          rw [hclient] at hobeys
          exact (ih hsplit').start ((hobeys.1.2.2 entry rfl).start hentry)
        · exact (ih hsplit').concat hworking fun entry hentry heq => hstart ⟨entry, hentry, heq⟩
      | create | submit | shutdown => exact ⟨fun _ _ _ => rfl, (ih hsplit).once⟩
      | next => exact ⟨fun _ _ _ => rfl, (ih hsplit).once⟩
    | work hwork =>
      cases hwork with
      | call _ hcall =>
        cases hcall with
        | call _ hex =>
          obtain ⟨-, rfl⟩ := hex
          obtain ⟨-, hlast, -⟩ | ⟨post', rfl, hsplit'⟩ := split_concat hsplit
          · cases hlast
          refine (ih hsplit').concat id ?_
          rintro entry - ⟨⟩
      | start | finish => exact ih hsplit
  | @change V V' hreach hchange ih =>
    cases hchange with
    | env henv =>
      obtain ⟨signal', rfl⟩ := henv
      obtain ⟨-, -, rfl⟩ | ⟨post', rfl, hsplit'⟩ := split_concat hsplit
      · refine ⟨?_, ?_⟩
        · rintro entry - ⟨⟩
        · rintro entry entry' - - ⟨⟩
      · refine (ih hsplit').concat id ?_
        rintro entry - ⟨⟩

/-- A run that was signaled, and that is not at its last look of the bound on cycles. -/
structure Stopping (m : LocalMode) (V : LocalRun) : Prop where
  reachable : m.Reachable V
  set : V.world.set = true
  fuel : V.client ≠ .hang

/-- It stays so. -/
theorem Stopping.move {V V' : LocalRun} (h : m.Stopping V) (hmove : Serving.Move m.task localExec m.localOwn V V') :
    m.Stopping V' := by
  have h' : m.Reachable V' := .move h.reachable hmove
  have hset : V'.world.set = true := by
    cases hmove with
    | serve _ hserve =>
      cases hserve with
      | own hcall =>
        obtain ⟨-, rfl⟩ := hcall
        exact h.set
      | create | submit | next | shutdown => exact h.set
    | work hwork =>
      cases hwork with
      | call _ hcall =>
        cases hcall with
        | call _ hex =>
          obtain ⟨-, rfl⟩ := hex
          exact h.set
      | start | finish => exact h.set
  refine ⟨h', hset, fun hhang => ?_⟩
  have hobeys := h'.obeys
  rw [hhang] at hobeys
  cases hmove with
  | @serve o k r E' _ hserve =>
    -- the bound runs out at a look that finds no signal
    have hlooked : (m.view V).phase.next o r = .looked := by
      have hview : (m.monitor.after {} (V.calls ++ [⟨o, r⟩])).phase = .looked := hobeys
      rwa [Monitor.after_concat] at hview
    exact (phase_of_served h.set hserve _).1 hlooked
  | work _ => exact h.fuel hhang

theorem Stopping.change {V V' : LocalRun} (h : m.Stopping V) (hchange : Serving.Change Flagged.env V V') :
    m.Stopping V' := by
  refine ⟨.change h.reachable hchange, ?_, ?_⟩
  · cases hchange with
    | env henv =>
      obtain ⟨signal, rfl⟩ := henv
      rfl
  · cases hchange with
    | env _ => exact h.fuel

/-- **A loop that was signaled comes to its end.** -/
theorem Stopping.ends (h : m.Stopping V) : Inevitable (Serving.Move m.task localExec m.localOwn)
    (Serving.Change Flagged.env) (fun V => V.client.Ended) V :=
  Serving.inevitable_end Flagged.logs rfl m.keeps (obeys_runLoop m.cycles) rfl m.live
    (fun _ hV => ⟨hV.reachable, hV.fuel⟩) (fun _ _ => .move) (fun _ _ => .change) h

/-- What a signal does to a run of the local mode. -/
structure Graceful (m : LocalMode) (V : LocalRun) (pre post : List (Noted localTaskSig loopSig PyExc Signal)) :
    Prop where
  /-- No check begins that had not found the flag clear before the signal. -/
  begun : ∀ n c, .task n c ∈ post → LocalTaskOp.OfWork c.op → .task n (localLook false) ∈ pre
  /-- The checks that go on are no more than the config allows at once. -/
  bounded : ∃ inflight : List Nat, inflight.length ≤ m.config.max_concurrency.toNat ∧
    ∀ n c, .task n c ∈ post → LocalTaskOp.OfWork c.op → n ∈ inflight
  /-- No more than one cycle starts. -/
  cycles : ∀ entry entry', IsEvent entry "cycle_start" → IsEvent entry' "cycle_start" →
    ¬ Precedes post (mainLine entry) (mainLine entry')
  /-- The loop comes to its end, whatever else is signaled. -/
  ends : V.client ≠ .hang → Inevitable (Serving.Move m.task localExec m.localOwn) (Serving.Change Flagged.env)
    (fun V => V.client.Ended) V

/-- **Graceful shutdown of the local mode.**  After a signal, checks that have begun go on, no more than
`max_concurrency`, and no others begin; no more than one cycle starts; and the loop comes to its end.  Where it ends,
its last line says that it has stopped, unless the executor refused `max_concurrency` or `Event.wait` refused the
interval of the sweeps. -/
theorem graceful_shutdown (h : m.Reachable V) : (∀ pre signal post,
      V.world.history = pre ++ .signal signal :: post → m.Graceful V pre post) ∧
    ∀ x, V.client = .ofExcept x → (x = .ok () ∧ [loopStopped] <:+ loggedLines V.calls) ∨
      ∃ e, x = .error e ∧ LoopRaises m.timeout_max m.config e := by
  constructor
  · intro pre signal post hsplit
    have hgate : Flagged.Gate localAnswers m.task (localLook false) LocalTaskOp.OfWork := local_gate
    obtain ⟨inflight, hin⟩ := Flagged.Reachable.in_flight h hgate (fun _ hV => Reachable.workers_le hV) hsplit
    refine ⟨fun n c hcall hc => ?_, ⟨inflight, hin.bounded, hin.calling⟩, (h.oneCycle hsplit).once, fun hfuel => ?_⟩
    · exact Flagged.Reachable.begun_before h hgate hsplit hcall hc
    · exact Stopping.ends ⟨h, h.set_of_signal hsplit, hfuel⟩
  · intro x hx
    have hobeys := h.obeys
    rw [hx, Prog.obeys_ofExcept] at hobeys
    rw [← view_lines (m := m)]
    exact hobeys

/-! ## A run that is signaled -/

/-- One worker for two hosts, followed for a cycle. -/
def twoLocalHosts : LocalMode where
  timeout_max := 9223372036
  rt := CycleInput.plainRuntime
  repr _ := ""
  config := { hosts := [{ hostname := "db.example" }, { hostname := "ap.example" }], max_concurrency := 1 }
  round3 x := .finite x
  cycles := 1

/-- The signal arrives while the first host is checked; its connection is refused, and the second host is skipped. -/
theorem signaled_summary : ∃ (V : LocalRun) (entry : Dict) (k : Except PyExc Unit → Loop Unit)
    (pre post : List (Noted localTaskSig loopSig PyExc Signal)), twoLocalHosts.Reachable V ∧
      V.client = .call (.own (.log entry)) k ∧ IsEvent entry "cycle_summary" ∧
      V.world.history = pre ++ .signal .sigterm :: post ∧ ∃ c, .task 0 c ∈ post ∧ LocalTaskOp.OfWork c.op := by
  have h₀ : twoLocalHosts.Reachable _ := .initial
  -- the cycle starts
  have h₁ := h₀.move (.serve rfl (.own ⟨rfl, rfl⟩))
  have h₂ := h₁.move (.serve rfl (.own ⟨rfl, rfl⟩))
  have h₃ := h₂.move (.serve rfl (.own ⟨⟨0, rfl⟩, rfl⟩))
  have h₄ := h₃.move (.serve rfl (.own ⟨rfl, rfl⟩))
  have h₅ := h₄.move (.serve rfl (.create 1 rfl rfl rfl))
  have h₆ := h₅.move (.serve rfl (.submit _))
  have h₇ := h₆.move (.serve rfl (.submit _))
  -- the first task, with the signal after its look
  have h₈ := h₇.move (.work (.start rfl Nat.zero_lt_one))
  have h₉ := h₈.move (.work (.call List.mem_cons_self (.call rfl ⟨rfl, rfl⟩)))
  have h₁₀ := h₉.change (.env ⟨.sigterm, rfl⟩)
  have h₁₁ := h₁₀.move (.work (.call List.mem_cons_self (.call (r := .ok (0 : Nat)) rfl ⟨trivial, rfl⟩)))
  have h₁₂ := h₁₁.move (.work (.call List.mem_cons_self
    (.call (r := .error (.os ⟨.connectionRefused, "Connection refused"⟩)) rfl ⟨trivial, rfl⟩)))
  have h₁₃ := h₁₂.move (.work (.finish (x := .ok _) List.mem_cons_self rfl))
  -- the second
  have h₁₄ := h₁₃.move (.work (.start rfl Nat.zero_lt_one))
  have h₁₅ := h₁₄.move (.work (.call List.mem_cons_self (.call rfl ⟨rfl, rfl⟩)))
  have h₁₆ := h₁₅.move (.work (.finish (x := .ok _) List.mem_cons_self rfl))
  -- the results, the last one first
  have h₁₇ := h₁₆.move (.serve rfl (.next (n := 1) (x := .ok none) (by decide) rfl))
  have h₁₈ := h₁₇.move (.serve rfl (.next (n := 0) (x := .ok (some _)) (by decide) rfl))
  have h₁₉ := h₁₈.move (.serve rfl (.own ⟨rfl, rfl⟩))
  have h₂₀ := h₁₉.move (.serve rfl (.shutdown rfl rfl))
  have h₂₁ := h₂₀.move (.serve rfl (.own ⟨⟨0, rfl⟩, rfl⟩))
  have h₂₂ := h₂₁.move (.serve rfl (.own ⟨rfl, rfl⟩))
  exact ⟨_, _, _, [_, _, _, _, _], _, h₂₂, rfl, rfl, rfl, _, List.mem_cons_self, nofun⟩

/-- Its summary is about one host that was checked and one that was skipped. -/
theorem cycle_accounting_signaled : ∃ (V : LocalRun) (entry : Dict) (outcomes : List LocalOutcome),
    twoLocalHosts.Reachable V ∧ twoLocalHosts.CycleTold V outcomes ∧
      Summarizes twoLocalHosts.config false (loggedLines V.calls) outcomes entry ∧ outcomes.length = 2 := by
  obtain ⟨V, entry, k, pre, post, h, hclient, hevent, -⟩ := signaled_summary
  obtain ⟨outcomes, htold, hsummarizes, hlength, -⟩ := cycle_accounting h hclient hevent
  exact ⟨V, entry, outcomes, h, htold, hsummarizes, hlength⟩

/-- The check that went on had found no signal. -/
theorem graceful_shutdown_signaled : ∃ (V : LocalRun) (pre post : List (Noted localTaskSig loopSig PyExc Signal)),
    twoLocalHosts.Reachable V ∧ twoLocalHosts.Graceful V pre post ∧ .task 0 (localLook false) ∈ pre := by
  obtain ⟨V, entry, k, pre, post, h, -, -, hsplit, c, hcall, hc⟩ := signaled_summary
  have hgraceful := (graceful_shutdown h).1 pre .sigterm post hsplit
  exact ⟨V, pre, post, h, hgraceful, hgraceful.begun 0 c hcall hc⟩

end LocalMode

end CertWatch
