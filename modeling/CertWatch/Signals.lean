/-
# `CertWatch.Signals` — what a signal does to a run, and when.

The handlers are installed after the replay and before the first `start`.  A signal that finds a thread started
sets the shutdown event, and the main thread, which does nothing any more but leave, returns in a bounded number of
calls.  A signal that arrives earlier ends the process.
-/
import CertWatch.ExitCodes

namespace CertWatch

open CertWatch.Lib

variable {α : Type} {setup : Setup} {main_thread : Bool} {Meets : AgentLabel → AgentPool → Prop} {P P' : AgentPool}

/-! ## Handlers before threads -/

/-- How far the installation of the handlers is. -/
inductive Installing where
  | absent
  | sigterm
  | done
  deriving DecidableEq, Repr

def Installing.next : Installing → (o : AgentOp) → Except PyExc o.Ret → Installing
  | .absent, .signal .sigterm, .ok _ => .sigterm
  | .sigterm, .signal .sigint, .ok _ => .done
  | _, .signal _, .error _ => .done
  | q, _, _ => q

/-- No thread is started before the installation is done, or was refused. -/
def installMonitor : Monitor agentSig PyExc Installing where
  possible := Possible
  allows q o := ∀ thread, o = .start thread → q = .done
  next := Installing.next

theorem next_done (o : AgentOp) (r : Except PyExc o.Ret) : Installing.next .done o r = .done := by
  unfold Installing.next
  split <;> first | rfl | contradiction

/-- Once it is done, everything is allowed. -/
theorem obeys_done (p : Agent α) : p.Obeys installMonitor (fun _ _ => True) .done := by
  induction p with
  | ret a => trivial
  | raise e => trivial
  | hang => trivial
  | call o k ih =>
    refine ⟨fun _ _ => rfl, fun r _ => ?_⟩
    show (k r).Obeys installMonitor _ (Installing.next .done o r)
    rw [next_done]
    exact ih r

/-- The calls that have nothing to do with it. -/
def AgentOp.installsNothing : AgentOp → Bool
  | .signal _ => false
  | .start _ => false
  | _ => true

theorem obeys_before {p : Agent α} (h : p.Only fun o : AgentOp => o.installsNothing = true) :
    p.Obeys installMonitor (fun q _ => q = .absent) .absent := by
  refine h.obeys (fun o ho => ⟨fun thread hstart => ?_, fun r _ => ?_⟩) trivial
  · rw [hstart] at ho
    cases ho
  · show Installing.next .absent o r = .absent
    unfold Installing.next
    split
    · cases ho
    · rename_i heq _
      cases heq
    · cases ho
    · rfl

theorem obeys_install : installSignalHandlers.Obeys installMonitor (fun q _ => q = .done) .absent := by
  have hinstall : ((agentCall (.signal .sigterm)).bind fun _ => agentCall (.signal .sigint)).Obeys installMonitor
      (fun q _ => q = .done) .absent := by
    refine Prog.obeys_bind.mpr (Prog.obeys_perform.mpr ⟨nofun, fun r _ => ?_⟩)
    cases r with
    | error e => rfl
    | ok u =>
      refine Prog.obeys_perform.mpr ⟨nofun, fun r _ => ?_⟩
      cases r with
      | ok u => rfl
      | error e => rfl
  refine Prog.obeys_tryCatch.mpr (hinstall.mono fun q x hx => ?_)
  cases x with
  | ok u => exact hx
  | error e => cases e <;> exact hx

theorem installsNothing_of_isStartup {o : AgentOp} (h : o.isStartup = true) : o.installsNothing = true := by
  cases o <;> first | rfl | cases h

/-- What comes before the installation, and what comes after it. -/
theorem obeys_before_bind {β : Type} {p : Agent α} {f : α → Agent β}
    (hp : p.Only fun o : AgentOp => o.installsNothing = true)
    (hf : ∀ a, (f a).Obeys installMonitor (fun _ _ => True) .absent) :
    (p.bind f).Obeys installMonitor (fun _ _ => True) .absent := by
  refine (obeys_before hp).bind (fun q a hq => ?_) fun _ _ _ => trivial
  rw [hq]
  exact hf a

theorem before_agentCall {o : AgentOp} (h : o.installsNothing = true) :
    (agentCall o).Only fun o : AgentOp => o.installsNothing = true := Prog.only_perform h

theorem obeys_buildAndStart_install (setup : Setup) (result : BootstrapResult) (process_started_at : Rat) :
    (buildAndStart setup result process_started_at).Obeys installMonitor (fun _ _ => True) .absent := by
  unfold buildAndStart
  generalize buildNetboxClientIfConfigured setup.env = built
  refine obeys_before_bind (before_agentCall rfl) fun _ => ?_
  refine obeys_before_bind (Prog.only_ofExcept _) fun netbox_client => obeys_before_bind ?_ fun _ => ?_
  · unfold openGateUnless
    split_ifs
    · trivial
    · exact before_agentCall rfl
  · refine obeys_install.bind (fun q _ hq => ?_) fun _ _ _ => trivial
    rw [hq]
    exact obeys_done _

theorem obeys_mainProgram_install (setup : Setup) :
    (mainProgram setup).Obeys installMonitor (fun _ _ => True) .absent := by
  have hfinal : finalExitCode.Obeys installMonitor (fun _ _ => True) .absent :=
    obeys_before_bind (before_agentCall rfl) fun _ => trivial
  refine Prog.Obeys.bind (F := fun _ _ => True) ?_ (fun _ _ _ => trivial) fun _ _ _ => trivial
  refine obeys_before_bind (before_agentCall rfl) fun process_started_at => ?_
  refine obeys_before_bind ((startup_bootstrap _ _ _ _).mono fun _ => installsNothing_of_isStartup).attempt
    fun bootstrapped => ?_
  cases bootstrapped with
  | error e => trivial
  | ok result =>
    refine obeys_before_bind (Prog.only_embed queueCalls (fun _ => rfl) _).attempt fun replayed => ?_
    split_ifs
    · trivial
    refine obeys_before_bind (before_agentCall rfl) fun stopping => ?_
    split_ifs
    · exact hfinal
    · exact obeys_buildAndStart_install setup result process_started_at

/-- What a call does to the installation. -/
theorem next_installing (q : Installing) (c : AgentCall) :
    (Installing.next q c.op c.answer = .sigterm → q = .sigterm ∨ c = ⟨.signal .sigterm, .ok ()⟩) ∧
      (Installing.next q c.op c.answer = .done → q = .done ∨ (∃ signum e, c = ⟨.signal signum, .error e⟩) ∨
        (q = .sigterm ∧ c = ⟨.signal .sigint, .ok ()⟩)) := by
  obtain ⟨o, r⟩ := c
  cases o with
  | signal signum =>
    cases r with
    | ok u => cases signum <;> cases q <;> simp [Installing.next]
    | error e =>
      refine ⟨fun h => ?_, fun _ => Or.inr (Or.inl ⟨signum, e, rfl⟩)⟩
      cases signum <;> cases q <;> cases h
  | _ => cases q <;> exact ⟨fun h => Or.inl h, fun h => Or.inl h⟩

/-- Done is: both handlers are installed, or an installation was refused. -/
theorem installed_of_done {cs : List AgentCall} (h : installMonitor.after .absent cs = .done) :
    (∃ signum e, (⟨.signal signum, .error e⟩ : AgentCall) ∈ cs) ∨
      ∀ signum, (⟨.signal signum, .ok ()⟩ : AgentCall) ∈ cs := by
  have hboth : ∀ cs : List AgentCall,
      (installMonitor.after .absent cs = .sigterm → (⟨.signal .sigterm, .ok ()⟩ : AgentCall) ∈ cs) ∧
      (installMonitor.after .absent cs = .done → (∃ signum e, (⟨.signal signum, .error e⟩ : AgentCall) ∈ cs) ∨
        ∀ signum, (⟨.signal signum, .ok ()⟩ : AgentCall) ∈ cs) := by
    intro cs
    induction cs using List.reverseRecOn with
    | nil => exact ⟨nofun, nofun⟩
    | append_singleton cs c ih =>
      obtain ⟨ihterm, ihdone⟩ := ih
      rw [installMonitor.after_concat]
      obtain ⟨hterm, hdone⟩ := next_installing (installMonitor.after .absent cs) c
      have hlast : c ∈ cs ++ [c] := List.mem_append_right _ (List.mem_singleton_self c)
      refine ⟨fun h => ?_, fun h => ?_⟩
      · rcases hterm h with hq | rfl
        · exact List.mem_append_left _ (ihterm hq)
        · exact hlast
      · rcases hdone h with hq | ⟨signum, e, rfl⟩ | ⟨hq, rfl⟩
        · rcases ihdone hq with ⟨signum, e, hmem⟩ | hall
          · exact Or.inl ⟨signum, e, List.mem_append_left _ hmem⟩
          · exact Or.inr fun signum => List.mem_append_left _ (hall signum)
        · exact Or.inl ⟨signum, e, hlast⟩
        · refine Or.inr fun signum => ?_
          cases signum with
          | sigterm => exact List.mem_append_left _ (ihterm hq)
          | sigint => exact hlast
  exact (hboth cs).2 h

/-! ## Handlers and threads of a run -/

theorem ReachableBy.on_thread (h : ReachableBy setup main_thread Meets P) : P.shared.main_thread = main_thread := by
  have heffect : ∀ s (o : AgentOp) (r : Except PyExc o.Ret), (effect s o r).main_thread = s.main_thread := by
    intro s o r
    unfold effect
    split
    · rename_i event _
      cases event <;> rfl
    all_goals rfl
  induction h with
  | initial => rfl
  | @step label P P' _ _ hstep ih =>
    cases hstep with
    | call hcall =>
      cases hcall with
      | call _ hex =>
        obtain ⟨-, -, rfl⟩ := hex
        exact (heffect _ _ _).trans ih
    | begins _ _ => exact ih
    | @signal signum _ _ _ =>
      show (P.shared.receive signum).main_thread = _
      rw [← ih]
      unfold AgentState.receive
      split_ifs <;> rfl
    | request => exact ih

/-- **With a thread started, both handlers are installed.** -/
theorem ReachableBy.handlers_of_started (h : ReachableBy setup true Meets P) (hstarted : P.shared.started ≠ [])
    (signum : Signal) : signum ∈ P.shared.handlers := by
  obtain ⟨thread, hthread⟩ := List.exists_mem_of_ne_nil _ hstarted
  obtain ⟨r, hstart⟩ := h.start_mem hthread
  obtain ⟨cs, cs', hown⟩ := List.append_of_mem (mem_ownEvents_iff.mpr hstart)
  cases hp : P.threads .main with
  | none =>
    rw [h.traced.of_none hp] at hown
    cases cs <;> cases hown
  | some p =>
    have hprogram : ∀ p₀, MayRun setup .main p₀ → p₀.Obeys installMonitor (fun _ _ => True) .absent := by
      rintro p₀ (⟨-, rfl⟩ | ⟨thread, hid, -⟩)
      · exact obeys_mainProgram_install setup
      · cases thread <;> cases hid
    have hlawful := (h.follows (fun _ _ => id) hprogram hp).1
    rw [hown] at hlawful
    have hdone : installMonitor.after .absent cs = .done := (installMonitor.lawful_at.mp hlawful).2.1 thread rfl
    have hmade : ∀ c ∈ cs, (.main, c) ∈ P.shared.log := fun c hc => by
      rw [← mem_ownEvents_iff, hown]
      exact List.mem_append_left _ hc
    rcases installed_of_done hdone with ⟨signum', e, hmem⟩ | hall
    · -- on the main thread the installation is not refused
      obtain ⟨P₀, hP₀, hanswer, -⟩ := h.made (hmade _ hmem)
      change _ = if P₀.shared.main_thread then _ else _ at hanswer
      rw [hP₀.on_thread] at hanswer
      cases hanswer
    · obtain ⟨P₀, -, -, hext⟩ := h.made (hmade _ (hall signum))
      exact hext.handlers.subset (List.mem_append_right _ (List.mem_singleton_self _))

/-! ## After a signal -/

/-- `bootstrap` has returned, and `run` has not. -/
def AfterBootstrap (setup : Setup) (P : AgentPool) : Prop :=
  ∃ result t cs p, P.threads .main = some p ∧ ¬ p.Ended ∧
    ((replayAndStart setup result t).bind fun code => .ret (some code)).Trace cs p

/-- A signal after bootstrap arrives once the heartbeat thread, the first of all, is started. -/
def SignalsLate (setup : Setup) (label : AgentLabel) (P : AgentPool) : Prop :=
  ∀ signum, label = .signal signum → AfterBootstrap setup P → P.shared.started ≠ []

/-- What a signal in `P` has led to in `P'`. -/
structure SignalHonoured (setup : Setup) (P P' : AgentPool) : Prop where
  event_set : P'.shared.shutdown = true
  /-- The replay does nothing any more. -/
  no_report : ∀ new, P'.shared.log = P.shared.log ++ new → ∀ (o : QueueOp) r, (.main, ⟨.queue o, r⟩) ∉ new
  no_thread : P.shared.started = [] → P'.shared.started = []
  /-- `run` has returned, or its next call can be answered now. -/
  goes_on : (∃ code, P'.threads .main = some (.ret (some code))) ∨ ∃ P'', AgentStep setup (.call .main) P' P''
  /-- It does not make more than so many calls. -/
  bounded : ∀ new, P'.shared.log = P.shared.log ++ new → (ownEvents .main new).length ≤ callsAfterStart setup
  /-- It returns 2 exactly when a handler of an authentication error had set the flag when it looked at it, and 0
  otherwise. -/
  code : ∀ code, P'.threads .main = some (.ret (some code)) → ∃ r pre post,
    P'.shared.log = pre ++ (.main, ⟨.isSet .authError, r⟩) :: post ∧
      (code = exitAuthError ↔ ∃ i, FlaggedAuth i pre) ∧ (code = exitClean ∨ code = exitAuthError)

/-- With both handlers installed, nothing ends the process from outside. -/
theorem Continues.alive (h : Continues setup Meets P P') (hkilled : P.shared.killed = false)
    (hhandlers : ∀ signum, signum ∈ P.shared.handlers) :
    P'.shared.killed = false ∧ ∀ signum, signum ∈ P'.shared.handlers := by
  induction h with
  | refl => exact ⟨hkilled, hhandlers⟩
  | tail _ hstep ih =>
    obtain ⟨ihkilled, ihhandlers⟩ := ih
    obtain ⟨label, -, hstep⟩ := hstep
    refine ⟨?_, fun signum => hstep.extends.handlers.subset (ihhandlers signum)⟩
    cases hstep with
    | call hcall =>
      cases hcall with
      | call _ hex =>
        obtain ⟨-, -, rfl⟩ := hex
        exact (killed_effect _ _ _).trans ihkilled
    | begins _ _ => exact ihkilled
    | @signal signum _ _ _ =>
      show (AgentState.receive _ signum).killed = false
      rw [AgentState.receive, if_pos (ihhandlers signum)]
      exact ihkilled
    | request => exact ihkilled

section Leaving

variable {total n : Nat} {q : MainView} {cs : List AgentCall}

/-- The count only goes down from where the first `start` has put it. -/
theorem left_le (hq : ∀ n, q.left = some n → n ≤ total) :
    ∀ n, ((mainMonitor total).after q cs).left = some n → n ≤ total := by
  induction cs using List.reverseRecOn with
  | nil => exact hq
  | append_singleton cs c ih =>
    intro n hn
    rw [(mainMonitor total).after_concat] at hn
    change (MainView.next total _ c.op c.answer).left = some n at hn
    rw [left_next_eq] at hn
    unfold MainView.leftAfter at hn
    split at hn
    · rename_i m hm
      have hle := ih m hm
      obtain rfl : m - 1 = n := Option.some.inj hn
      omega
    · obtain rfl : total = n := Option.some.inj hn
      exact le_rfl
    · cases hn

/-- No more calls follow than are left, and each of them is one of those that the main thread leaves with. -/
theorem leaving_calls (h : (mainMonitor total).Lawful q cs) (hleft : q.left = some n) :
    cs.length ≤ n ∧ ∀ c ∈ cs, c.op.isLeaving = true := by
  induction cs generalizing q n with
  | nil => exact ⟨Nat.zero_le n, fun c hc => by cases hc⟩
  | cons c cs ih =>
    obtain ⟨⟨-, hallowed⟩, -, hrest⟩ := h
    obtain ⟨hpos, hc⟩ := hallowed n hleft
    have hnext : (MainView.next total q c.op c.answer).left = some (n - 1) := by
      rw [left_next_eq, hleft]
      rfl
    obtain ⟨hlength, hcs⟩ := ih hrest hnext
    refine ⟨?_, List.forall_mem_cons.mpr ⟨hc, hcs⟩⟩
    rw [List.length_cons]
    omega

end Leaving

/-- With the shutdown event set, each of these calls is answered. -/
theorem answers_leaving {s : AgentState} {o : AgentOp} (ho : o.isLeaving = true) (hset : s.shutdown = true) :
    ∃ r, answers s o r := by
  unfold AgentOp.isLeaving at ho
  split at ho
  · exact ⟨.ok (), rfl⟩
  · exact ⟨.ok (s.isSet .shutdown), rfl, fun _ => hset⟩
  · exact ⟨.ok 0, 0, rfl⟩
  · exact ⟨.ok (), rfl⟩
  · exact ⟨.ok (s.isSet .authError), rfl⟩
  · cases ho

/-- Where the main thread stands once a thread is started. -/
theorem ReachableBy.main_leaving (h : ReachableBy setup main_thread Meets P) (hstarted : P.shared.started ≠ []) :
    ∃ p n, P.threads .main = some p ∧ n ≤ callsAfterStart setup ∧ StartedThreads P.shared.log ∧
      ((mainMonitor (callsAfterStart setup)).after {} (ownEvents .main P.shared.log)).left = some n ∧
      (mainMonitor (callsAfterStart setup)).Lawful {} (ownEvents .main P.shared.log) ∧
      p.Obeys (mainMonitor (callsAfterStart setup)) MainReturns
        ((mainMonitor (callsAfterStart setup)).after {} (ownEvents .main P.shared.log)) := by
  obtain ⟨thread, hthread⟩ := List.exists_mem_of_ne_nil _ hstarted
  obtain ⟨r, hstart⟩ := h.start_mem hthread
  have hown := mem_ownEvents_iff.mpr hstart
  have hleft := @left_after (callsAfterStart setup) {} _ _ hown _ rfl
  obtain ⟨n, hn⟩ := Option.ne_none_iff_exists'.mp hleft
  cases hp : P.threads .main with
  | none =>
    rw [h.traced.of_none hp] at hown
    cases hown
  | some p =>
    obtain ⟨hlawful, hobeys⟩ := h.main_follows hp
    exact ⟨p, n, rfl, left_le (fun n h => by cases h) n hn, ⟨thread, r, hstart⟩, hn, hlawful, hobeys⟩

/-- **A signal after the first `start` is honoured**: the event is set, `run` does nothing but leave, and it returns
the code of the flag. -/
theorem ReachableBy.signal_honoured {signum : Signal} {P₁ : AgentPool}
    (h : ReachableBy setup true (SignalsLate setup) P) (hafter : AfterBootstrap setup P)
    (hlate : SignalsLate setup (.signal signum) P) (hstep : AgentStep setup (.signal signum) P P₁)
    (hcont : Continues setup (SignalsLate setup) P₁ P') : SignalHonoured setup P P' := by
  have hstarted : P.shared.started ≠ [] := hlate signum rfl hafter
  have hhandlers : ∀ signum, signum ∈ P.shared.handlers := h.handlers_of_started hstarted
  have hP₁ : ReachableBy setup true (SignalsLate setup) P₁ := .step h hlate hstep
  have hP' : ReachableBy setup true (SignalsLate setup) P' := hcont.reachable hP₁
  have hext : Extends P.shared P'.shared := hstep.extends.trans hcont.extends
  have hstarted' : P'.shared.started ≠ [] := fun hnone => hstarted (List.prefix_nil.mp (hnone ▸ hext.started))
  -- the signal finds its handler
  have hreceived : P₁.shared.shutdown = true ∧ P₁.shared.killed = false := by
    cases hstep with
    | signal hkilled hmain =>
      show (P.shared.receive signum).shutdown = true ∧ (P.shared.receive signum).killed = false
      rw [AgentState.receive, if_pos (hhandlers signum)]
      exact ⟨rfl, hkilled⟩
  have hset : P'.shared.shutdown = true := hcont.extends.isSet .shutdown hreceived.1
  have hkilled : P'.shared.killed = false :=
    (hcont.alive hreceived.2 fun signum => hstep.extends.handlers.subset (hhandlers signum)).1
  -- the main thread is on its way out, in `P` and in `P'`
  obtain ⟨-, n, -, hn, -, hleft, -, -⟩ := h.main_leaving hstarted
  obtain ⟨p', n', hp', -, hthreads, hleft', hlawful, hobeys⟩ := hP'.main_leaving hstarted'
  have hrest : ∀ new, P'.shared.log = P.shared.log ++ new →
      (ownEvents .main new).length ≤ n ∧ ∀ c ∈ ownEvents .main new, c.op.isLeaving = true := by
    intro new hnew
    rw [hnew, ownEvents_append] at hlawful
    exact leaving_calls ((mainMonitor _).lawful_append.mp hlawful).2 hleft
  refine ⟨hset, fun new hnew o r hmem => ?_, fun hnone => absurd hnone hstarted, ?_, fun new hnew => ?_,
    fun code hcode => ?_⟩
  · have hqueue := (hrest new hnew).2 _ (mem_ownEvents_iff.mpr hmem)
    cases hqueue
  · cases p' with
    | ret a =>
      obtain ⟨y, hy, hcode⟩ := hobeys
      cases y with
      | error e => cases hcode
      | ok code => exact Or.inl ⟨code, hp'.trans (congrArg (some ∘ Prog.ret) (Except.ok.inj hcode))⟩
    | raise e =>
      obtain ⟨y, hy, hraised⟩ := hobeys
      cases y with
      | error e => cases hleft'.symm.trans hy
      | ok code => cases hraised
    | hang => cases hleft'.symm.trans hobeys
    | call o k =>
      obtain ⟨r, hr⟩ := answers_leaving (hobeys.1.2 n' hleft').2 hset
      exact Or.inr ⟨_, .call (.call hp' ⟨hkilled, hr, rfl⟩)⟩
  · exact (hrest new hnew).1.trans hn
  · obtain ⟨r, pre, post, hlog⟩ := hP'.has_read hcode hthreads
    exact ⟨r, pre, post, hlog, hP'.authExit.code code r pre post hcode hthreads hlog⟩

/-! ## Two signals -/

/-- A registered agent whose dashboard is offline, after so many calls of its main thread from the fourth on. -/
theorem afterBootstrap_mainAfter (n : Nat)
    (hrunning : ∀ p, ((mainAfter offline 4).calls offline .main n).threads .main = some p → ¬ p.Ended) :
    AfterBootstrap smallSetup ((mainAfter offline 4).calls offline .main n) := by
  have hreturned : ∃ result, (mainAfter offline 4).threads .main =
      some ((replayAndStart smallSetup result 0).bind fun code => .ret (some code)) := ⟨_, rfl⟩
  obtain ⟨result, hreturned⟩ := hreturned
  obtain ⟨cs, p, hp, htrace⟩ := @calls_trace offline _ _ _ _ _ (.nil _) hreturned n
  exact ⟨result, 0, cs, p, hp, hrunning p hp, htrace⟩

/-- Its threads are started, and it waits. -/
def waiting : AgentPool := mainAfter offline 13

/-- SIGTERM is honoured. -/
theorem signal_honoured_waiting :
    SignalHonoured smallSetup waiting
      (AgentPool.calls offline .main 7 { waiting with shared := waiting.shared.receive .sigterm }) := by
  have hcontinues : Continues smallSetup (SignalsLate smallSetup) (.initial smallSetup true) waiting :=
    continues_calls rfl (fun P signum hlabel => by cases hlabel) 13
  have hcall : ∃ o k, waiting.threads .main = some (.call o k) := ⟨_, _, rfl⟩
  obtain ⟨o, k, hcall⟩ := hcall
  have hstarted : waiting.shared.started.length = 3 := rfl
  have hlate : SignalsLate smallSetup (.signal .sigterm) waiting := fun _ _ _ hnone => by
    rw [hnone] at hstarted
    cases hstarted
  refine ReachableBy.signal_honoured (hcontinues.reachable .initial) (afterBootstrap_mainAfter 9 fun p hp => ?_) hlate
    (.signal rfl rfl) (continues_calls rfl (fun P signum hlabel => by cases hlabel) 7)
  obtain rfl := Option.some.inj (hp.symm.trans hcall)
  exact id

/-- Bootstrap has returned, and the replay is about to begin. -/
def replaying : AgentPool := mainAfter offline 4

/-- SIGTERM ends the process. -/
theorem signal_while_replaying : ¬ ∀ setup P P₁ P' signum, Reachable setup true P → AfterBootstrap setup P →
    AgentStep setup (.signal signum) P P₁ → Continues setup (fun _ _ => True) P₁ P' → SignalHonoured setup P P' := by
  intro h
  have hreachable : Reachable smallSetup true replaying := (alive_initial.calls .main 4).reachable
  have hcall : ∃ o k, replaying.threads .main = some (.call o k) := ⟨_, _, rfl⟩
  obtain ⟨o, k, hcall⟩ := hcall
  have hafter : AfterBootstrap smallSetup replaying := afterBootstrap_mainAfter 0 fun p hp => by
    obtain rfl := Option.some.inj (hp.symm.trans hcall)
    exact id
  have hset := (h smallSetup replaying _ _ .sigterm hreachable hafter (.signal rfl rfl) .refl).event_set
  have hunset : (replaying.shared.receive .sigterm).shutdown = false := rfl
  exact absurd (hunset.symm.trans hset) nofun

end CertWatch
