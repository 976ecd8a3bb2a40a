/-
# `CertWatch.QueueSystem` — agents that start, replay, serve and are killed, over one data directory.

A process replays first and alone; afterwards any number of threads submit reports under fresh ids and
interleave call by call.  It may be killed between any two calls, in any phase, and another process may
start on what it left.  `passed` remembers what each caller handed to `submit_report_with_retry`; no code
reads it.
-/
import CertWatch.QueueSteps
import CertWatch.Lib.Pool

namespace CertWatch

open CertWatch.Lib

/-! ## The transition system -/

/-- What a data directory may go through: which reads may fail, and whether agents get past replay. -/
structure Scenario where
  readFails : ReadSite → Content → Prop
  serves : Prop

/-- The process on the data directory. -/
inductive Phase where
  | down
  | replaying (prog : Queue ReplayResult)
  | serving

/-- Threads are named by the report they own. -/
structure Sys where
  phase : Phase
  pool : Pool String queueSig PyExc ReportSubmissionResult World
  passed : String → Option ReportArgs

namespace Sys

def world (s : Sys) : World := s.pool.shared

/-- No process yet, over this directory. -/
def init (w : World) : Sys := ⟨.down, ⟨fun _ => none, w⟩, fun _ => none⟩

def withWorld (s : Sys) (w : World) : Sys := { s with pool := { s.pool with shared := w } }

def inPhase (s : Sys) (phase : Phase) : Sys := { s with phase }

/-- A caller passes a report to `submit_report_with_retry` on a new thread. -/
def spawn (s : Sys) (args : ReportArgs) (prog : Queue ReportSubmissionResult) : Sys :=
  { s with
    pool := s.pool.spawn args.report_id prog
    passed := Function.update s.passed args.report_id (some args) }

@[simp] theorem world_init (w : World) : (init w).world = w := rfl

@[simp] theorem world_withWorld (s : Sys) (w : World) : (s.withWorld w).world = w := rfl

@[simp] theorem world_inPhase (s : Sys) (phase : Phase) : (s.inPhase phase).world = s.world := rfl

@[simp] theorem world_spawn (s : Sys) (args : ReportArgs) (prog : Queue ReportSubmissionResult) :
    (s.spawn args prog).world = s.world := rfl

/-- The kinds of step of the system. -/
inductive Step (sc : Scenario) : Sys → Sys → Prop where
  | tick {s : Sys} {t : Nat} : s.world.time ≤ t → Step sc s (s.withWorld (s.world.setTime t))
  | start {s : Sys} (client : DashboardClient) (shutdown_event : Bool) (fuel : Nat)
      (registered_at : String) : s.phase = .down →
      Step sc s (s.inPhase (.replaying (replayPendingReports client shutdown_event fuel registered_at)))
  | replayCall {s : Sys} {prog prog' : Queue ReplayResult} {w : World} : s.phase = .replaying prog →
      Prog.Step (exec sc.readFails) (prog, s.world) (prog', w) →
      Step sc s ((s.withWorld w).inPhase (.replaying prog'))
  /-- Replay is over, by a result or by an exception that the runner logs. -/
  | serve {s : Sys} {prog : Queue ReplayResult} : sc.serves → s.phase = .replaying prog → ¬ prog.Running →
      Step sc s (s.inPhase .serving)
  | submit {s : Sys} (client : DashboardClient) (shutdown_event : Bool) (fuel : Nat) {args : ReportArgs} :
      s.phase = .serving → s.passed args.report_id = none → '/' ∉ args.report_id.toList →
      Step sc s (s.spawn args (submitReportWithRetry client shutdown_event fuel args))
  | threadCall {s : Sys} {id : String} {pool : Pool String queueSig PyExc ReportSubmissionResult World} :
      s.phase = .serving → Pool.Step (fun _ => exec sc.readFails) id s.pool pool →
      Step sc s { s with pool }
  | kill {s : Sys} : Step sc s ⟨.down, ⟨fun _ => none, s.world⟩, s.passed⟩

/-- The states a data directory can get into. -/
def Reachable (sc : Scenario) (w : World) (s : Sys) : Prop :=
  Relation.ReflTransGen (Step sc) (init w) s

theorem Reachable.step {sc : Scenario} {w : World} {s s' : Sys} (h : Reachable sc w s)
    (hs : Step sc s s') : Reachable sc w s' :=
  Relation.ReflTransGen.tail h hs

/-! ## Where every thread stands -/

/-- What thread `id` may do with a call: a step of the report its caller passed. -/
def threadStep (passed : String → Option ReportArgs) (id : String) (w w' : World) : Prop :=
  ∃ args, passed id = some args ∧ SubmitStep (reportFile id) args.payload w w'

/-- Threads and replay stand at programs that can only make the steps of `CertWatch.QueueSteps`. -/
structure Disciplined (sc : Scenario) (s : Sys) : Prop where
  named : ∀ id args, s.passed id = some args → args.report_id = id
  idle : s.phase ≠ .serving → ∀ id, s.pool.threads id = none
  replay : ∀ prog, s.phase = .replaying prog →
    prog.wp (exec sc.readFails) Tick (ReplayStep sc.readFails) (fun _ _ => True) s.world
  threads : Pool.Ok (fun _ => exec sc.readFails) (fun id => Others (reportFile id)) (threadStep s.passed)
    (fun _ _ _ => True) s.pool

end Sys

/-! ## Steps of one report keep to its own files -/

theorem reportFile_ne_tmpFile (id p : String) : reportFile id ≠ tmpFile p := by
  intro h
  have hlast := congrArg (fun s => s.toList.getLast?) h
  simp [reportFile, tmpFile, String.toList_append] at hlast

/-- No report's file other than this one differs. -/
def Untouched (p : String) (w w' : World) : Prop :=
  ∀ other, reportFile other ≠ p → w'.lookup (reportFile other) = w.lookup (reportFile other)

theorem RetryStep.untouched {p : String} {wire : Dict} {w w' : World} (h : RetryStep p wire w w') :
    Untouched p w w' := by
  intro other hne
  have htmp := reportFile_ne_tmpFile other p
  cases h with
  | quiet hq => exact hq.lookup _ htmp
  | recount => exact World.lookup_install_ne _ _ hne htmp
  | call => rfl
  | delete => exact World.lookup_remove_ne _ hne

theorem SubmitStep.untouched {p : String} {wire : Dict} {w w' : World} (h : SubmitStep p wire w w') :
    Untouched p w w' := by
  cases h with
  | persist => exact fun other hne => World.lookup_install_ne _ _ hne (reportFile_ne_tmpFile other p)
  | retry hr => exact hr.untouched

theorem PathStep.untouched {readFails : ReadSite → Content → Prop} {p : String} {w w' : World}
    (h : PathStep readFails p w w') : Untouched p w w' := by
  cases h with
  | retry hr => exact hr.untouched
  | quarantine => exact fun other hne => World.lookup_quarantine_ne _ _ hne

theorem ReplayStep.untouched {readFails : ReadSite → Content → Prop} {w w' : World}
    (h : ReplayStep readFails w w') : ∃ p, Untouched p w w' := by
  cases h with
  | still => exact ⟨"", fun _ _ => rfl⟩
  | @stray _ n hn =>
    refine ⟨"", fun other _ => World.lookup_remove_ne _ ?_⟩
    obtain ⟨stem, rfl⟩ := exists_stem_of_suffix (show suffix n = '.' :: ['t', 'm', 'p'] from hn)
    exact reportFile_ne_tmpFile other stem
  | @path p _ _ _ hp => exact ⟨p, hp.untouched⟩

/-- The log of submissions only grows. -/
theorem RetryStep.log {p : String} {wire : Dict} {w w' : World} (h : RetryStep p wire w w') :
    w.submissions <+: w'.submissions := by
  cases h with
  | quiet hq => exact hq.submissions ▸ List.prefix_refl _
  | recount => exact List.prefix_refl _
  | call => exact List.prefix_append _ _
  | delete => exact List.prefix_refl _

theorem SubmitStep.log {p : String} {wire : Dict} {w w' : World} (h : SubmitStep p wire w w') :
    w.submissions <+: w'.submissions := by
  cases h with
  | persist => exact List.prefix_refl _
  | retry hr => exact hr.log

/-- The temporary files of different reports are different. -/
theorem RetryStep.tmp_untouched {p : String} {wire : Dict} {w w' : World} (h : RetryStep p wire w w')
    {q : String} (hq : q ≠ p) (hqp : tmpFile q ≠ p) : w'.lookup (tmpFile q) = w.lookup (tmpFile q) := by
  have htmp : tmpFile q ≠ tmpFile p := fun heq => hq (tmpFile_injective heq)
  cases h with
  | quiet hquiet => exact hquiet.lookup _ htmp
  | recount => exact World.lookup_install_ne _ _ hqp htmp
  | call => rfl
  | delete => exact World.lookup_remove_ne _ hqp

/-- **What one thread does is within what every other thread relies on.** -/
theorem SubmitStep.others {id other : String} {wire : Dict} {w w' : World} (hne : id ≠ other)
    (h : SubmitStep (reportFile id) wire w w') : Others (reportFile other) w w' := by
  have hfile : reportFile other ≠ reportFile id := fun heq => hne (reportFile_injective heq).symm
  refine ⟨h.untouched other hfile, ?_, h.log⟩
  have htmp : tmpFile (reportFile other) ≠ reportFile id := fun heq => reportFile_ne_tmpFile _ _ heq.symm
  cases h with
  | persist =>
    exact World.lookup_install_ne _ _ htmp fun heq => hfile (tmpFile_injective heq)
  | retry hr => exact hr.tmp_untouched hfile htmp

/-! ## The step lemma of the system -/

theorem Tick.refl (w : World) : Tick w w := ⟨w.time, Nat.le_refl _, rfl⟩

theorem Tick.trans {a b c : World} (h : Tick a b) (h' : Tick b c) : Tick a c := by
  obtain ⟨t, ht, rfl⟩ := h
  obtain ⟨t', ht', rfl⟩ := h'
  exact ⟨t', Nat.le_trans ht ht', rfl⟩

namespace Sys

variable {sc : Scenario}

/-- What one step of the system does to the world. -/
inductive WorldMove (sc : Scenario) (passed : String → Option ReportArgs) : World → World → Prop where
  | tick {w w' : World} : Tick w w' → WorldMove sc passed w w'
  | thread {w w' : World} (id : String) : threadStep passed id w w' → WorldMove sc passed w w'
  | replay {w w' : World} : ReplayStep sc.readFails w w' → WorldMove sc passed w w'

/-- Callers only ever add reports. -/
def Grows (passed passed' : String → Option ReportArgs) : Prop :=
  ∀ id args, passed id = some args → passed' id = some args

theorem disciplined_init (w : World) : Disciplined sc (init w) where
  named := nofun
  idle _ _ := rfl
  replay := nofun
  threads := nofun

theorem ok_of_idle {s : Sys} {w : World} (h : ∀ id, s.pool.threads id = none)
    (passed : String → Option ReportArgs) :
    Pool.Ok (fun _ => exec sc.readFails) (fun id => Others (reportFile id)) (threadStep passed)
      (fun _ _ _ => True) { s.pool with shared := w } := by
  intro id prog hprog
  rw [show ({ s.pool with shared := w } : Pool _ _ _ _ _).threads id = none from h id] at hprog
  cases hprog

theorem grows_update {s : Sys} {args : ReportArgs} (hfresh : s.passed args.report_id = none) :
    Grows s.passed (Function.update s.passed args.report_id (some args)) := by
  intro id args' hid
  by_cases heq : id = args.report_id
  · rw [heq, hfresh] at hid
    cases hid
  · rw [Function.update_of_ne heq]
    exact hid

theorem threadStep_grows {passed passed' : String → Option ReportArgs} (hg : Grows passed passed')
    {id : String} {w w' : World} (h : threadStep passed id w w') : threadStep passed' id w w' := by
  obtain ⟨args, ha, hs⟩ := h
  exact ⟨args, hg id args ha, hs⟩

theorem named_update {s : Sys} {args : ReportArgs}
    (hnamed : ∀ id a, s.passed id = some a → a.report_id = id) (id : String) (a : ReportArgs)
    (h : Function.update s.passed args.report_id (some args) id = some a) : a.report_id = id := by
  by_cases heq : id = args.report_id
  · subst heq
    rw [Function.update_self] at h
    rw [← Option.some.inj h]
  · rw [Function.update_of_ne heq] at h
    exact hnamed id a h

/-- **The step lemma**: every step keeps the discipline, callers only add reports, and the world moves
as a clock tick, a step of one report's owner, or a step of replay. -/
theorem Disciplined.step {s s' : Sys} (hd : Disciplined sc s) (h : Step sc s s') :
    Disciplined sc s' ∧ Grows s.passed s'.passed ∧ WorldMove sc s.passed s.world s'.world := by
  obtain ⟨hnamed, hidle, hreplay, hthreads⟩ := hd
  cases h with
  | @tick t ht =>
    -- every program's wp is stable under a tick
    have htick : Tick s.world (s.world.setTime t) := ⟨t, ht, rfl⟩
    refine ⟨⟨hnamed, hidle, fun prog hp => ?_, ?_⟩, fun _ _ h => h, .tick htick⟩
    · exact Prog.wp_rely (fun _ _ _ => Tick.trans) (fun _ _ _ _ _ => trivial) htick (hreplay prog hp)
    · exact Pool.ok_rely (fun _ _ _ _ => Others.trans) (fun _ _ _ _ _ _ => trivial)
        (fun id => htick.others (reportFile id)) hthreads
  | start client shutdown_event fuel registered_at hdown =>
    -- no caller is at work while the process is down
    have hnone := hidle (by rw [hdown]; nofun)
    refine ⟨⟨hnamed, fun _ => hnone, fun prog hp => ?_, hthreads⟩, fun _ _ h => h, .tick (Tick.refl _)⟩
    obtain rfl := Phase.replaying.inj hp
    exact wp_replayPendingReports _
  | @replayCall prog prog' w hphase hcall =>
    have hnone := hidle (by rw [hphase]; nofun)
    obtain ⟨hmove, hwp⟩ := Prog.wp_step Tick.refl (hreplay prog hphase) hcall
    refine ⟨⟨hnamed, fun _ => hnone, fun q hq => ?_, ok_of_idle hnone _⟩, fun _ _ h => h, .replay hmove⟩
    obtain rfl := Phase.replaying.inj hq
    exact hwp
  | serve _ hphase _ =>
    have hnone := hidle (by rw [hphase]; nofun)
    exact ⟨⟨hnamed, fun h => absurd rfl h, nofun, ok_of_idle hnone _⟩, fun _ _ h => h, .tick (Tick.refl _)⟩
  | @submit client shutdown_event fuel args hphase hfresh _ =>
    -- one more report is known, which takes nothing from the callers at work
    have hgrows := grows_update (s := s) hfresh
    refine ⟨⟨named_update hnamed, fun h => absurd hphase h, fun prog hp => ?_, ?_⟩, hgrows,
      .tick (Tick.refl _)⟩
    · rw [show (s.spawn args _).phase = .serving from hphase] at hp
      cases hp
    · refine Pool.ok_spawn ?_ (Prog.wp_weaken (fun _ _ h => h) (fun w w' h => ?_)
        (wp_submitReportWithRetry fuel args s.world))
      · exact fun id prog hprog =>
          Prog.wp_weaken (fun _ _ h => h) (fun _ _ => threadStep_grows hgrows) (hthreads id prog hprog)
      · exact ⟨args, Function.update_self .., h⟩
  | @threadCall id pool hphase hcall =>
    -- one caller's step is the others' environment
    obtain ⟨hmove, hok⟩ := Pool.ok_step (fun _ => Others.refl _) (fun _ _ _ _ => Others.trans)
      (fun _ _ _ _ _ _ => trivial)
      (fun i j hij _ _ ⟨_, _, hs⟩ => SubmitStep.others hij hs) hthreads hcall
    refine ⟨⟨hnamed, fun h => absurd hphase h, fun prog hp => ?_, hok⟩, fun _ _ h => h, .thread id hmove⟩
    rw [show ({ s with pool } : Sys).phase = .serving from hphase] at hp
    cases hp
  | kill =>
    exact ⟨⟨hnamed, fun _ _ => rfl, nofun, nofun⟩, fun _ _ h => h, .tick (Tick.refl _)⟩

/-- The run lemma of the discipline. -/
theorem Reachable.disciplined {w : World} {s : Sys} (h : Reachable sc w s) : Disciplined sc s := by
  induction h with
  | refl => exact disciplined_init w
  | tail _ hstep ih => exact (ih.step hstep).1

/-- **Run rule**: a property of the callers' reports and the world that starts to hold and survives
every kind of step holds in every state the data directory can get into. -/
theorem Reachable.invariant {w : World} {I : (String → Option ReportArgs) → World → Prop}
    (hinit : I (fun _ => none) w)
    (hgrow : ∀ passed passed' w, Grows passed passed' → I passed w → I passed' w)
    (hstep : ∀ passed w w', (∀ id args, passed id = some args → args.report_id = id) →
      WorldMove sc passed w w' → I passed w → I passed w') {s : Sys} (h : Reachable sc w s) :
    I s.passed s.world := by
  induction h with
  | refl => exact hinit
  | @tail s s' hreach hs ih =>
    have hd := Reachable.disciplined hreach
    obtain ⟨-, hgrows, hmove⟩ := hd.step hs
    exact hgrow _ _ _ hgrows (hstep _ _ _ hd.named hmove ih)

/-- Agents that never get past replay submit nothing. -/
theorem Reachable.unserved {w : World} {s : Sys} (hsc : ¬ sc.serves) (h : Reachable sc w s) :
    s.phase ≠ .serving ∧ s.passed = fun _ => none := by
  induction h with
  | refl => exact ⟨nofun, rfl⟩
  | tail _ hstep ih =>
    obtain ⟨hphase, hpassed⟩ := ih
    cases hstep with
    | tick => exact ⟨hphase, hpassed⟩
    | start => exact ⟨nofun, hpassed⟩
    | replayCall => exact ⟨nofun, hpassed⟩
    | serve hserves => exact absurd hserves hsc
    | submit _ _ _ hserving => exact absurd hserving hphase
    | threadCall hserving => exact absurd hserving hphase
    | kill => exact ⟨nofun, hpassed⟩

/-- Run rule for replays alone. -/
theorem Reachable.replayInvariant {w : World} {I : World → Prop} (hsc : ¬ sc.serves) (hinit : I w)
    (htick : ∀ w w', Tick w w' → I w → I w') (hreplay : ∀ w w', ReplayStep sc.readFails w w' → I w → I w')
    {s : Sys} (h : Reachable sc w s) : I s.world := by
  induction h with
  | refl => exact hinit
  | @tail s s' hreach hs ih =>
    obtain ⟨-, -, hmove⟩ := (Reachable.disciplined hreach).step hs
    cases hmove with
    | tick ht => exact htick _ _ ht ih
    | thread id hth =>
      obtain ⟨args, hargs, -⟩ := hth
      rw [(Reachable.unserved hsc hreach).2] at hargs
      cases hargs
    | replay hr => exact hreplay _ _ hr ih

/-! ## Scripted histories -/

theorem Reachable.replaySteps {w : World} {s : Sys} {prog : Queue ReplayResult}
    {q : Queue ReplayResult × World} (h : Reachable sc w s) (hphase : s.phase = .replaying prog)
    (hs : Prog.Steps (exec sc.readFails) (prog, s.world) q) :
    Reachable sc w ((s.withWorld q.2).inPhase (.replaying q.1)) := by
  induction hs with
  | refl =>
    obtain ⟨phase, pool, passed⟩ := s
    obtain rfl : phase = .replaying prog := hphase
    exact h
  | tail _ hstep ih => exact Relation.ReflTransGen.tail ih (.replayCall rfl hstep)

theorem Reachable.threadSteps {w : World} {s : Sys} {id : String} {prog : Queue ReportSubmissionResult}
    {q : Queue ReportSubmissionResult × World} (h : Reachable sc w s) (hphase : s.phase = .serving)
    (hid : s.pool.threads id = some prog) (hs : Prog.Steps (exec sc.readFails) (prog, s.world) q) :
    Reachable sc w { s with pool := ⟨Function.update s.pool.threads id (some q.1), q.2⟩ } := by
  induction hs with
  | refl =>
    obtain ⟨phase, ⟨threads, world⟩, passed⟩ := s
    rw [show Function.update threads id (some prog) = threads from
      Function.update_eq_self_iff.mpr hid.symm]
    exact h
  | @tail q q' _ hstep ih =>
    obtain ⟨p, w₁⟩ := q
    obtain ⟨p', w₂⟩ := q'
    cases hstep with
    | @call o k _ _ r hex =>
      have hcall : Pool.Step (fun _ => exec sc.readFails) id
          ⟨Function.update s.pool.threads id (some (.call o k)), w₁⟩ _ :=
        .call (Function.update_self ..) hex
      rw [Function.update_idem] at hcall
      exact Relation.ReflTransGen.tail ih (.threadCall hphase hcall)

/-- A scripted run of a program is a run of its calls, to the end or to where it hangs. -/
def runEnd {α : Type} (env : Surroundings) (prog : Queue α) (w : World) : Queue α × World :=
  (.atEnd (prog.run (handle env) w).1, (prog.run (handle env) w).2)

theorem runEnd_steps {α : Type} {env : Surroundings} {readFails : ReadSite → Content → Prop}
    (henv : ∀ site name c, (env.readFault site name).isSome → readFails site c) (prog : Queue α) (w : World) :
    Prog.Steps (exec readFails) (prog, w) (runEnd env prog w) :=
  Prog.run_steps (handle_exec henv) prog w

/-- A process starts and replays as the script says. -/
theorem Reachable.scriptedReplay {w : World} {s : Sys} (h : Reachable sc w s) (hdown : s.phase = .down)
    (env : Surroundings) (henv : ∀ site name c, (env.readFault site name).isSome → sc.readFails site c)
    (client : DashboardClient) (shutdown_event : Bool) (fuel : Nat) (registered_at : String) :
    Reachable sc w
      ((s.withWorld
          (runEnd env (replayPendingReports client shutdown_event fuel registered_at) s.world).2).inPhase
        (.replaying (runEnd env (replayPendingReports client shutdown_event fuel registered_at) s.world).1)) := by
  have hstart := h.step (Step.start client shutdown_event fuel registered_at hdown)
  have hrun := Reachable.replaySteps hstart rfl (runEnd_steps henv _ _)
  exact hrun

/-- A caller passes a report and its thread runs as the script says. -/
theorem Reachable.scriptedSubmit {w : World} {s : Sys} (h : Reachable sc w s) (hserving : s.phase = .serving)
    (env : Surroundings) (henv : ∀ site name c, (env.readFault site name).isSome → sc.readFails site c)
    (client : DashboardClient) (shutdown_event : Bool) (fuel : Nat) (args : ReportArgs)
    (hfresh : s.passed args.report_id = none) (hid : '/' ∉ args.report_id.toList) :
    Reachable sc w
      { s.spawn args (submitReportWithRetry client shutdown_event fuel args) with
        pool := ⟨Function.update (s.spawn args (submitReportWithRetry client shutdown_event fuel args)).pool.threads
            args.report_id (some (runEnd env (submitReportWithRetry client shutdown_event fuel args) s.world).1),
          (runEnd env (submitReportWithRetry client shutdown_event fuel args) s.world).2⟩ } := by
  have hspawn := h.step (Step.submit client shutdown_event fuel hserving hfresh hid)
  have hrun := Reachable.threadSteps hspawn hserving (Function.update_self ..) (runEnd_steps henv _ _)
  exact hrun

end Sys

end CertWatch
