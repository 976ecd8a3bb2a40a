/-
# `CertWatch.IdentityStability` — one data directory over any number of starts.

An installation is a data directory and the agent that runs on it, if one does.  Agents are started with any
environment, run with all their threads, and are stopped or killed at any call; whatever the temporary file then
holds stays behind.  Once `agent.json` exists, no step of any of them touches it, and none registers.
-/
import CertWatch.CredentialsFile
import CertWatch.ScriptedAgent

namespace CertWatch

open CertWatch.Lib

/-! ## Installations -/

/-- A running agent. -/
structure AgentProcess where
  setup : Setup
  main_thread : Bool
  pool : AgentPool

/-- A data directory, the agent on it, and how often the dashboard has been asked to register. -/
structure Installation (Bytes : Type) where
  files : DataDir Bytes
  process : Option AgentProcess := none
  registrations : Nat := 0

def AgentOp.isRegister : AgentOp → Bool
  | .register _ _ _ => true
  | _ => false

/-- The calls of a step. -/
def newCalls (P P' : AgentPool) : List (ThreadId × AgentCall) := P'.shared.log.drop P.shared.log.length

def registerCount (cs : List (ThreadId × AgentCall)) : Nat := cs.countP fun c => c.2.op.isRegister

variable {Bytes : Type} (codec : JsonCodec Bytes)

/-- The running agent takes a step. -/
def RunStep (s s' : Installation Bytes) : Prop :=
  ∃ proc label P', s.process = some proc ∧ AgentStep proc.setup label proc.pool P' ∧
    s'.process = some { proc with pool := P' } ∧ DirMoves codec (newCalls proc.pool P') s.files s'.files ∧
    s'.registrations = s.registrations + registerCount (newCalls proc.pool P')

/-- An agent that is about to run. -/
def Installation.started (s : Installation Bytes) (setup : Setup) (main_thread : Bool) : Installation Bytes :=
  { s with process := some ⟨setup, main_thread, .initial setup main_thread⟩ }

/-- What happens to an installation. -/
inductive InstallStep : Installation Bytes → Installation Bytes → Prop where
  | start {s : Installation Bytes} {setup : Setup} {main_thread : Bool} : s.process = none →
      InstallStep s (s.started setup main_thread)
  | run {s s' : Installation Bytes} : RunStep codec s s' → InstallStep s s'
  /-- The process has ended or is killed; a write that it was making may have left anything in the temporary file. -/
  | stop {s : Installation Bytes} {tmp : Option Bytes} : s.process ≠ none →
      InstallStep s { s with process := none, files := { s.files with tmp } }

abbrev InstallSteps : Installation Bytes → Installation Bytes → Prop := Relation.ReflTransGen (InstallStep codec)

/-- The states of the installations that begin with this directory. -/
abbrev InstalledOn (first : DataDir Bytes) (s : Installation Bytes) : Prop := InstallSteps codec { files := first } s

/-! ## What holds throughout -/

/-- How far the running agent has come. -/
def AgentProcess.phase (proc : AgentProcess) : CredsPhase :=
  credsMonitor.after .fresh (ownEvents .main proc.pool.shared.log)

/-- The running agent is in step with the directory. -/
def InStep (s : Installation Bytes) : Prop :=
  ∀ proc, s.process = some proc →
    Reachable proc.setup proc.main_thread proc.pool ∧ proc.phase.Fits codec s.files

variable {codec}

/-- What the main thread calls is lawful for its phase. -/
theorem Reachable.creds_lawful {setup : Setup} {main_thread : Bool} {P : AgentPool}
    (h : Reachable setup main_thread P) : credsMonitor.Lawful .fresh (ownEvents .main P.shared.log) := by
  have hprogram : ∀ p₀, MayRun setup .main p₀ → p₀.Obeys credsMonitor (fun _ _ => True) .fresh := by
    rintro p₀ (⟨-, rfl⟩ | ⟨thread, hid, -⟩)
    · exact obeys_mainProgram_creds setup
    · cases thread <;> cases hid
  cases hi : P.threads .main with
  | none =>
    rw [h.traced.of_none hi]
    trivial
  | some p => exact (h.follows (fun _ _ _ => trivial) hprogram hi).1

/-- A step makes one call or none. -/
theorem newCalls_cases {setup : Setup} {label : AgentLabel} {P P' : AgentPool} (h : AgentStep setup label P P') :
    (newCalls P P' = [] ∧ P'.shared.log = P.shared.log) ∨
      ∃ i c, newCalls P P' = [(i, c)] ∧ P'.shared.log = P.shared.log ++ [(i, c)] := by
  have hsame : P'.shared.log = P.shared.log → newCalls P P' = [] := by
    intro hlog
    rw [newCalls, hlog, List.drop_length]
  cases h with
  | call hcall =>
    cases hcall with
    | @call o k r s' hi hex =>
      have hlog := log_agentExec _ _ _ _ _ hex
      refine Or.inr ⟨_, ⟨o, r⟩, ?_, hlog⟩
      show s'.log.drop P.shared.log.length = _
      rw [hlog, List.drop_left]
  | begins _ _ => exact Or.inl ⟨hsame rfl, rfl⟩
  | signal _ _ => exact Or.inl ⟨hsame (log_receive _ _), log_receive _ _⟩
  | request => exact Or.inl ⟨hsame rfl, rfl⟩

/-- Calls that have nothing to do with the file leave the directory, and the count, alone. -/
theorem dirMoves_leaves {i : ThreadId} {c : AgentCall} {d d' : DataDir Bytes} (hc : c.op.leavesCredentials = true)
    (h : DirMoves codec [(i, c)] d d') : d' = d ∧ registerCount [(i, c)] = 0 := by
  obtain ⟨o, r⟩ := c
  cases o <;> first | exact ⟨h, rfl⟩ | cases hc

/-- **A step of the running agent** keeps it in step with the directory, changes `agent.json` only by installing
a whole record where there was no file, and registers only where there is none. -/
theorem RunStep.spec {s s' : Installation Bytes} (h : RunStep codec s s') (hstep : InStep codec s) :
    InStep codec s' ∧ Installs codec s.files s'.files ∧
      (s.files.agent_json ≠ none → s'.registrations = s.registrations) := by
  obtain ⟨proc, label, P', hproc, hagent, hproc', hdir, hcount⟩ := h
  obtain ⟨hreach, hfits⟩ := hstep proc hproc
  have hreach' : Reachable proc.setup proc.main_thread P' := .step hreach trivial hagent
  -- it is enough to follow the phase
  have hgoal : (⟨proc.setup, proc.main_thread, P'⟩ : AgentProcess).phase.Fits codec s'.files →
      InStep codec s' := by
    intro hfits' proc' hsome
    obtain rfl := Option.some.inj (hproc'.symm.trans hsome)
    exact ⟨hreach', hfits'⟩
  rcases newCalls_cases hagent with ⟨hnew, hlog⟩ | ⟨i, c, hnew, hlog⟩
  · rw [hnew] at hdir hcount
    have hfiles : s'.files = s.files := hdir
    refine ⟨hgoal ?_, Or.inl (congrArg DataDir.agent_json hfiles), fun _ => hcount⟩
    unfold AgentProcess.phase
    rw [hlog, hfiles]
    exact hfits
  · rw [hnew] at hdir hcount
    have hcalled : c.op.calledBy i = true := hreach'.calledBy (by
      rw [hlog]
      exact List.mem_append_right _ List.mem_cons_self)
    by_cases hi : i = .main
    · subst hi
      have hown : ownEvents .main P'.shared.log = ownEvents .main proc.pool.shared.log ++ [c] := by
        rw [hlog, ownEvents_concat_self]
      have hlawful := hreach'.creds_lawful
      rw [hown, credsMonitor.lawful_concat] at hlawful
      have hallowed : proc.phase.allows c.op := hlawful.2.1
      have hphase : (⟨proc.setup, proc.main_thread, P'⟩ : AgentProcess).phase = proc.phase.next c.op c.answer := by
        unfold AgentProcess.phase
        rw [hown, credsMonitor.after_concat]
        rfl
      rw [hphase] at hgoal
      obtain ⟨o, r⟩ := c
      by_cases hleaves : o.leavesCredentials = true
      · obtain ⟨hfiles, hzero⟩ := dirMoves_leaves hleaves hdir
        rw [hzero] at hcount
        rw [next_leavesCredentials hleaves, hfiles] at hgoal
        rw [hfiles]
        exact ⟨hgoal hfits, Or.inl rfl, fun _ => hcount⟩
      cases o with
      | register token body =>
        -- it registers only while the file is absent
        have habsent : proc.phase = .absent := hallowed
        have hfiles : s'.files = s.files := hdir
        rw [habsent] at hfits hgoal
        rw [hfiles] at hgoal ⊢
        exact ⟨hgoal hfits, Or.inl rfl, fun hfile => absurd hfits hfile⟩
      | creds o =>
        obtain ⟨d₁, hexec, hd₁⟩ := hdir
        have hfiles : s'.files = d₁ := hd₁
        rw [← hfiles] at hexec
        obtain ⟨hfits', hinstalls⟩ := credsExec_allowed hallowed hfits hexec
        exact ⟨hgoal hfits', hinstalls, fun _ => hcount⟩
      | _ => exact absurd rfl hleaves
    · have hleaves : c.op.leavesCredentials = true := by
        obtain ⟨o, r⟩ := c
        cases o <;> first | rfl | (cases i <;> first | exact absurd rfl hi | cases hcalled)
      obtain ⟨hfiles, hzero⟩ := dirMoves_leaves hleaves hdir
      rw [hzero] at hcount
      refine ⟨hgoal ?_, Or.inl (congrArg DataDir.agent_json hfiles), fun _ => hcount⟩
      unfold AgentProcess.phase
      rw [hlog, ownEvents_concat_ne hi, hfiles]
      exact hfits

/-! ## Over any number of starts -/

/-- One step of an installation. -/
theorem InstallStep.spec {s s' : Installation Bytes} (h : InstallStep codec s s') (hstep : InStep codec s) :
    InStep codec s' ∧ Installs codec s.files s'.files ∧
      (s.files.agent_json ≠ none → s'.registrations = s.registrations) := by
  cases h with
  | start _ =>
    refine ⟨fun proc hproc => ?_, Or.inl rfl, fun _ => rfl⟩
    obtain rfl := Option.some.inj hproc
    exact ⟨.initial, trivial⟩
  | run hrun => exact hrun.spec hstep
  | stop _ =>
    refine ⟨fun proc hproc => ?_, Or.inl rfl, fun _ => rfl⟩
    cases hproc

theorem InstalledOn.inStep {first : DataDir Bytes} {s : Installation Bytes} (h : InstalledOn codec first s) :
    InStep codec s := by
  induction h with
  | refl =>
    intro proc hproc
    cases hproc
  | tail _ hstep ih => exact (hstep.spec ih).1

/-- Once there is a file, nothing changes it and nothing registers. -/
theorem InstallSteps.kept {s s' : Installation Bytes} (h : InstallSteps codec s s') (hstep : InStep codec s)
    {bytes : Bytes} (hfile : s.files.agent_json = some bytes) :
    InStep codec s' ∧ s'.files.agent_json = some bytes ∧ s'.registrations = s.registrations := by
  induction h with
  | refl => exact ⟨hstep, hfile, rfl⟩
  | @tail s₁ s₂ _ hnext ih =>
    obtain ⟨hstep₁, hfile₁, hcount₁⟩ := ih
    obtain ⟨hstep₂, hinstalls, hcount₂⟩ := hnext.spec hstep₁
    have hpresent : s₁.files.agent_json ≠ none := by
      rw [hfile₁]
      nofun
    refine ⟨hstep₂, ?_, (hcount₂ hpresent).trans hcount₁⟩
    rcases hinstalls with hsame | ⟨hnone, -⟩
    · exact hsame.trans hfile₁
    · exact absurd hnone hpresent

/-- The file is the one that was found, or a whole record. -/
theorem InstalledOn.whole {first : DataDir Bytes} {s : Installation Bytes} (h : InstalledOn codec first s) :
    s.files.agent_json = first.agent_json ∨
      ∃ payload, IsRecord payload ∧ s.files.agent_json = some (codec.dump payload) := by
  induction h with
  | refl => exact Or.inl rfl
  | tail hsteps hstep ih =>
    obtain ⟨-, hinstalls, -⟩ := hstep.spec (InstalledOn.inStep hsteps)
    rcases hinstalls with hsame | ⟨-, hrecord⟩
    · rw [hsame]
      exact ih
    · exact Or.inr hrecord

/-! ## A start on a file that holds no complete record -/

/-- No thread is started, and the main thread has returned 1 or still has one of its first three calls to make. -/
def FailsToStart (P : AgentPool) : Prop :=
  P.shared.started = [] ∧ ∃ p, P.threads .main = some p ∧
    (p = .ret (some exitBootstrapFailure) ∨
      ((ownEvents .main P.shared.log).length < 3 ∧ ∃ o k, p = .call o k))

/-- The answers of the main thread so far are those of a directory with this file. -/
def AnsweredSoFar (loaded : Except PyExc Json) (P : AgentPool) : Prop :=
  ∀ c ∈ ownEvents .main P.shared.log, AnsweredBy loaded c.op c.answer

theorem after_failing (loaded : Except PyExc Json) (n : Nat) (cs : List AgentCall) :
    (failingMonitor loaded).after n cs = n + cs.length := by
  induction cs using List.reverseRecOn with
  | nil => rfl
  | append_singleton cs c ih =>
    rw [Monitor.after_concat, ih, List.length_append]
    rfl

theorem Reachable.main_some {setup : Setup} {main_thread : Bool} {P : AgentPool} (h : Reachable setup main_thread P) :
    ∃ p, P.threads .main = some p := by
  induction h with
  | initial => exact ⟨_, threads_initial_main⟩
  | @step label P P' _ _ hstep ih =>
    obtain ⟨p, hp⟩ := ih
    cases hstep with
    | call hcall =>
      cases hcall with
      | @call o k r s' hi hex =>
        rename_i i
        by_cases hmain : i = .main
        · subst hmain
          exact ⟨k r, by simp only [Function.update_self]⟩
        · exact ⟨p, by simp only [Function.update_of_ne (Ne.symm hmain), hp]⟩
    | @begins thread _ hstarted hnone =>
      have hid : ThreadId.main ≠ thread.id := by cases thread <;> nofun
      exact ⟨p, by simp only [Pool.spawn, Function.update_of_ne hid, hp]⟩
    | signal _ _ => exact ⟨p, hp⟩
    | request => exact ⟨p, hp⟩

/-- **A start whose answers are those of an incomplete file fails.** -/
theorem Reachable.failsToStart {setup : Setup} {main_thread : Bool} {P : AgentPool} {loaded : Except PyExc Json}
    (h : Reachable setup main_thread P) (hfuel : 0 < setup.fuel) (hbad : ¬ Complete loaded)
    (hanswers : AnsweredSoFar loaded P) : FailsToStart P := by
  obtain ⟨p, hp⟩ := h.main_some
  obtain ⟨p₀, hp₀, htrace⟩ := h.traced.of_some hp
  obtain rfl : p₀ = mainProgram setup := by
    rcases hp₀ with ⟨-, rfl⟩ | ⟨thread, hid, -⟩
    · rfl
    · cases thread <;> cases hid
  have hpossible : ∀ c ∈ ownEvents .main P.shared.log, (failingMonitor loaded).possible c.op c.answer :=
    fun c hc => ⟨h.possible (mem_ownEvents_iff.mp hc), hanswers c hc⟩
  obtain ⟨hlawful, hobeys⟩ := (obeys_mainProgram_failing setup hfuel hbad).trace hpossible htrace
  rw [after_failing, Nat.zero_add] at hobeys
  refine ⟨?_, p, hp, ?_⟩
  · -- starting a thread is not among the calls
    refine List.eq_nil_iff_forall_not_mem.mpr fun thread hthread => ?_
    obtain ⟨r, hmem⟩ := h.start_mem hthread
    obtain ⟨pre, post, hsplit⟩ := List.append_of_mem (mem_ownEvents_iff.mpr hmem)
    rw [hsplit] at hlawful
    have hcall := ((failingMonitor loaded).lawful_at.mp hlawful).2.1
    change failingCall _ (.start thread) at hcall
    unfold failingCall at hcall
    split at hcall <;> first | exact hcall | contradiction
  · cases p with
    | ret code =>
      left
      rw [Except.ok.inj hobeys]
    | raise e => cases hobeys
    | hang => exact hobeys.elim
    | call o k =>
      refine Or.inr ⟨?_, o, k, rfl⟩
      have hcall : failingCall (ownEvents .main P.shared.log).length o := hobeys.1
      unfold failingCall at hcall
      split at hcall <;> first | exact hcall.elim | omega

/-- What a call of the running agent was answered, the file being there. -/
theorem answeredBy_of_dirMoves {i : ThreadId} {c : AgentCall} {d d' : DataDir Bytes} {bytes : Bytes}
    (hfile : d.agent_json = some bytes) (h : DirMoves codec [(i, c)] d d') :
    AnsweredBy (codec.load bytes) c.op c.answer := by
  obtain ⟨o, r⟩ := c
  cases o with
  | creds o =>
    obtain ⟨d₁, hexec, -⟩ := h
    cases o with
    | pathExists =>
      obtain ⟨hr, -⟩ := hexec
      rw [hfile] at hr
      exact hr
    | read =>
      obtain ⟨hr, -⟩ := hexec
      refine hr.imp (fun ⟨bytes', hbytes', hload⟩ => ?_) id
      rw [hfile] at hbytes'
      rw [Option.some.inj hbytes']
      exact hload
    | _ => trivial
  | _ => trivial

/-- The agent that was started, while it runs. -/
theorem runSteps_answered {s s' : Installation Bytes} {setup : Setup} {main_thread : Bool} {bytes : Bytes}
    (hsteps : Relation.ReflTransGen (RunStep codec) (s.started setup main_thread) s')
    (hfile : s.files.agent_json = some bytes) :
    InStep codec s' ∧ s'.files.agent_json = some bytes ∧ ∃ P, s'.process = some ⟨setup, main_thread, P⟩ ∧
      AnsweredSoFar (codec.load bytes) P := by
  induction hsteps with
  | refl =>
    refine ⟨fun proc hproc => ?_, hfile, _, rfl, fun c hc => by cases hc⟩
    obtain rfl := Option.some.inj hproc
    exact ⟨.initial, trivial⟩
  | @tail s₁ s₂ _ hnext ih =>
    obtain ⟨hstep₁, hfile₁, P, hproc, hanswers⟩ := ih
    obtain ⟨hstep₂, hfile₂, -⟩ := InstallSteps.kept (.single (.run hnext)) hstep₁ hfile₁
    obtain ⟨proc, label, P', hproc₁, hagent, hproc₂, hdir, -⟩ := hnext
    obtain rfl := Option.some.inj (hproc.symm.trans hproc₁)
    refine ⟨hstep₂, hfile₂, P', hproc₂, ?_⟩
    rcases newCalls_cases hagent with ⟨-, hlog⟩ | ⟨i, c, hnew, hlog⟩
    · unfold AnsweredSoFar
      rw [hlog]
      exact hanswers
    · rw [hnew] at hdir
      unfold AnsweredSoFar
      rw [hlog]
      by_cases hi : i = .main
      · subst hi
        intro c' hc'
        rw [ownEvents_concat_self] at hc'
        rcases List.mem_append.mp hc' with hc' | hc'
        · exact hanswers c' hc'
        · rw [List.mem_singleton.mp hc']
          exact answeredBy_of_dirMoves hfile₁ hdir
      · rw [ownEvents_concat_ne hi]
        exact hanswers

/-- **An agent keeps its identity.**  From any directory, whatever the environments and the answers of its starts
and wherever they are killed: once there is an `agent.json`, no start registers and nothing changes its bytes; it
is the file that was found or a whole record; and a start on one that holds no complete record fails. -/
theorem identity_stability {first : DataDir Bytes} {s : Installation Bytes} (h : InstalledOn codec first s) :
    (∀ bytes, s.files.agent_json = some bytes → ∀ s', InstallSteps codec s s' →
      s'.files.agent_json = some bytes ∧ s'.registrations = s.registrations) ∧
    (s.files.agent_json = first.agent_json ∨
      ∃ payload, IsRecord payload ∧ s.files.agent_json = some (codec.dump payload)) ∧
    (∀ bytes, s.files.agent_json = some bytes → ¬ Complete (codec.load bytes) → s.process = none →
      ∀ setup : Setup, 0 < setup.fuel → ∀ main_thread s',
        Relation.ReflTransGen (RunStep codec) (s.started setup main_thread) s' →
        ∃ P, s'.process = some ⟨setup, main_thread, P⟩ ∧ FailsToStart P) := by
  refine ⟨fun bytes hfile s' hsteps => ?_, InstalledOn.whole h,
    fun bytes hfile hbad _ setup hfuel main_thread s' hsteps => ?_⟩
  · exact (InstallSteps.kept hsteps (InstalledOn.inStep h) hfile).2
  · obtain ⟨hstep', -, P, hproc, hanswers⟩ := runSteps_answered hsteps hfile
    exact ⟨P, hproc, (hstep' _ hproc).1.failsToStart hfuel hbad hanswers⟩

/-! ## Scripted starts -/

/-- Files whose bytes are the documents themselves. -/
def documentCodec : JsonCodec Json := ⟨.ok, .obj⟩

/-- What a disk that never fails answers, and the files after it. -/
def diskAnswer (files : DataDir Json) : (o : CredsOp) → Except PyExc o.Ret × DataDir Json
  | .pathExists => (.ok files.agent_json.isSome, files)
  | .read => (orIoError files.agent_json, files)
  | .mkdir => (.ok (), files)
  | .openTmp => (.ok (), { files with tmp := some .null })
  | .dump payload => (.ok (), { files with tmp := some (.obj payload) })
  | .fsync => (.ok (), files)
  | .unlinkTmp => (.ok (), { files with tmp := none })
  | .replace => match files.tmp with
    | some document => (.ok (), ⟨some document, none⟩)
    | none => (.error ioError, files)
  | .chmod => (.ok (), files)

theorem credsExec_disk (files : DataDir Json) (o : CredsOp) :
    credsExec documentCodec o files (diskAnswer files o).1 (diskAnswer files o).2 := by
  cases o with
  | pathExists => exact ⟨.inl rfl, rfl⟩
  | read =>
    unfold diskAnswer
    cases hfile : files.agent_json with
    | some document => exact ⟨.inl ⟨document, hfile, rfl⟩, rfl⟩
    | none => exact ⟨.inr ⟨_, rfl⟩, rfl⟩
  | replace =>
    unfold diskAnswer
    cases htmp : files.tmp with
    | some document => exact .inr ⟨document, htmp, rfl, rfl⟩
    | none => exact .inl ⟨⟨_, rfl⟩, rfl⟩
  | mkdir | fsync | chmod | openTmp | dump payload | unlinkTmp => exact .inr ⟨rfl, rfl⟩

theorem foreign_disk (files : DataDir Json) (o : CredsOp) : Foreign (diskAnswer files o).1 := by
  cases o with
  | read => exact foreign_orIoError _
  | replace =>
    unfold diskAnswer
    cases files.tmp with
    | some document => exact foreign_value _
    | none => exact foreign_ioError
  | _ => exact foreign_value _

/-- A data directory, and the agent on it. -/
structure DiskPool where
  files : DataDir Json
  pool : AgentPool
  registrations : Nat := 0

namespace DiskPool

variable (scene : Scene)

/-- The answer to a call, and the files after it: those of the disk, or of a scene that leaves the files alone. -/
def answer (D : DiskPool) (o : AgentOp) : Option (Except PyExc o.Ret × DataDir Json) :=
  match o with
  | .creds o => some (diskAnswer D.files o)
  | o => (scene.answer D.pool.shared o).map fun r => (r, D.files)

/-- The next call of the main thread. -/
def call (D : DiskPool) : DiskPool :=
  match D.pool.threads .main with
  | some (.call o k) => match D.answer scene o with
    | some (r, files) => {
        files
        pool := ⟨Function.update D.pool.threads .main (some (k r)), (effect D.pool.shared o r).record .main ⟨o, r⟩⟩
        registrations := D.registrations + o.isRegister.toNat }
    | none => D
  | _ => D

/-- The next calls of the main thread. -/
def calls : Nat → DiskPool → DiskPool
  | 0, D => D
  | n + 1, D => calls n (D.call scene)

/-- The installation with this agent running. -/
def running (setup : Setup) (main_thread : Bool) (D : DiskPool) : Installation Json :=
  ⟨D.files, some ⟨setup, main_thread, D.pool⟩, D.registrations⟩

variable {scene} {setup : Setup} {main_thread : Bool} {D : DiskPool}

theorem answers_answer {o : AgentOp} {r : Except PyExc o.Ret} {files : DataDir Json}
    (h : D.answer scene o = some (r, files)) : answers D.pool.shared o r ∧
      ∀ i, DirMoves documentCodec [(i, ⟨o, r⟩)] D.files files := by
  unfold answer at h
  split at h
  · rename_i o
    have hr : (diskAnswer D.files o).1 = r := congrArg Prod.fst (Option.some.inj h)
    have hfiles : (diskAnswer D.files o).2 = files := congrArg Prod.snd (Option.some.inj h)
    subst hr hfiles
    exact ⟨foreign_disk D.files o, fun _ => ⟨_, credsExec_disk D.files o, rfl⟩⟩
  · rename_i hother
    obtain ⟨r', hr', heq⟩ := Option.map_eq_some_iff.mp h
    obtain ⟨rfl, rfl⟩ := Prod.mk.inj heq
    refine ⟨scene.answers_scene hr', fun i => ?_⟩
    cases o with
    | creds o => exact absurd rfl (hother o)
    | _ => rfl

theorem call_spec (hkilled : D.pool.shared.killed = false) : (D.call scene).pool.shared.killed = false ∧
    Relation.ReflTransGen (RunStep documentCodec) (D.running setup main_thread)
      ((D.call scene).running setup main_thread) := by
  unfold call
  split
  · rename_i o k hmain
    split
    · rename_i r files hanswer
      obtain ⟨hpossible, hdir⟩ := answers_answer hanswer
      let P' : AgentPool :=
        ⟨Function.update D.pool.threads .main (some (k r)), (effect D.pool.shared o r).record .main ⟨o, r⟩⟩
      have hstep : AgentStep setup (.call .main) D.pool P' := .call (.call hmain ⟨hkilled, hpossible, rfl⟩)
      have hnew : newCalls D.pool P' = [(.main, ⟨o, r⟩)] := by
        show ((effect D.pool.shared o r).log ++ [(ThreadId.main, (⟨o, r⟩ : AgentCall))]).drop _ = _
        rw [log_effect, List.drop_left]
      have hcount : registerCount [(ThreadId.main, (⟨o, r⟩ : AgentCall))] = o.isRegister.toNat := by
        cases hregister : o.isRegister <;> simp [registerCount, hregister]
      refine ⟨(killed_effect _ _ _).trans hkilled, .single ⟨_, _, P', rfl, hstep, rfl, ?_, ?_⟩⟩
      · rw [hnew]
        exact hdir .main
      · rw [hnew, hcount]
        rfl
    · exact ⟨hkilled, .refl⟩
  · exact ⟨hkilled, .refl⟩

/-- Scripted calls are steps of the installation. -/
theorem runSteps_calls (hkilled : D.pool.shared.killed = false) (n : Nat) :
    Relation.ReflTransGen (RunStep documentCodec) (D.running setup main_thread)
      ((D.calls scene n).running setup main_thread) := by
  induction n generalizing D with
  | zero => exact .refl
  | succ n ih =>
    obtain ⟨hkilled', hstep⟩ := @call_spec scene setup main_thread D hkilled
    exact hstep.trans (ih hkilled')

theorem installSteps_calls (hkilled : D.pool.shared.killed = false) (n : Nat) :
    InstallSteps documentCodec (D.running setup main_thread) ((D.calls scene n).running setup main_thread) :=
  (runSteps_calls hkilled n).lift id fun _ _ => .run

end DiskPool

/-- A record without its time of registration. -/
def unstamped : Json := .obj [("agent_id", .str "a"), ("agent_secret", .str "s"), ("dashboard_url", .str "u")]

/-- A start on it, among a dashboard that knows the agent. -/
def unstampedStart : DiskPool :=
  { files := ⟨some unstamped, none⟩, pool := .initial smallSetup true }

def unstampedScene : Scene :=
  { credentials := unstamped, get_config := some ⟨200, .json (.obj [])⟩, pending_reports := some [] }

/-- The record lacks a field that `save_credentials` writes, and the agent starts all the same. -/
theorem unstamped_starts : (∀ payload, IsRecord payload → unstamped ≠ .obj payload) ∧
    ∃ s', Relation.ReflTransGen (RunStep documentCodec)
        (Installation.started { files := ⟨some unstamped, none⟩ } smallSetup true) s' ∧
      ∃ P, s'.process = some ⟨smallSetup, true, P⟩ ∧ ¬ FailsToStart P := by
  constructor
  · rintro payload ⟨agent_id, agent_secret, dashboard_url, registered_at, rfl⟩ h
    simp [unstamped, credentialsPayload] at h
  · refine ⟨_, @DiskPool.runSteps_calls unstampedScene smallSetup true unstampedStart rfl 12, _, rfl, fun hfails => ?_⟩
    have hstarted : (unstampedStart.calls unstampedScene 12).pool.shared.started.length = 1 := by decide +kernel
    have hnone : (unstampedStart.calls unstampedScene 12).pool.shared.started = [] := hfails.1
    rw [hnone] at hstarted
    cases hstarted

/-- An environment for a first start. -/
def firstEnv : Env := fun name =>
  if name = "DASHBOARD_URL" then some "u"
  else if name = "REGISTRATION_TOKEN" then some "t"
  else if name = "AGENT_HOSTNAME" then some "h"
  else none

def firstSetup : Setup := { smallSetup with env := firstEnv }

/-- A dashboard that registers the agent. -/
def registeringScene : Scene where
  credentials := .null
  register := some ⟨201, .json (.obj [("agent_id", .str "a"), ("agent_secret", .str "s"), ("registered_at", .str "r")])⟩
  get_config := some ⟨200, .json (.obj [])⟩
  pending_reports := some []

/-- A first start on an empty directory. -/
def firstStart : DiskPool := { files := ⟨none, none⟩, pool := .initial firstSetup true }

/-- What it saves before it is killed. -/
def savedRecord : Dict := credentialsPayload (.str "a") (.str "s") (.str "u") (.str "r")

/-- The next start, on the file that is left. -/
def restart : DiskPool :=
  { files := ⟨some (.obj savedRecord), none⟩, pool := .initial smallSetup true, registrations := 1 }

/-- The first start registers, installs the file and is killed, and another agent is started. -/
theorem installedOn_restart : InstalledOn documentCodec ⟨none, none⟩ (restart.running smallSetup true) := by
  have hfirst : InstallSteps documentCodec (firstStart.running firstSetup true)
      ((firstStart.calls registeringScene 10).running firstSetup true) :=
    DiskPool.installSteps_calls rfl 10
  have hsaved : (firstStart.calls registeringScene 10).files.agent_json = some (.obj savedRecord) := by decide +kernel
  have honce : (firstStart.calls registeringScene 10).registrations = 1 := by decide +kernel
  have hkilled : InstalledOn documentCodec ⟨none, none⟩
      ⟨⟨(firstStart.calls registeringScene 10).files.agent_json, none⟩, none,
        (firstStart.calls registeringScene 10).registrations⟩ :=
    (Relation.ReflTransGen.head (.start rfl) hfirst).tail (.stop nofun)
  rw [hsaved, honce] at hkilled
  exact hkilled.tail (.start rfl)

/-- The second start finds the identity of the first and does not register; and a directory whose file holds no object
fails to start. -/
theorem identity_stability_restart :
    (∃ s, InstalledOn documentCodec ⟨none, none⟩ s ∧
      (∃ P, s.process = some ⟨smallSetup, true, P⟩ ∧ P.shared.started.length = 1) ∧
      ∀ s', InstallSteps documentCodec s s' → s'.files.agent_json = some (.obj savedRecord) ∧ s'.registrations = 1) ∧
    ∃ s', Relation.ReflTransGen (RunStep documentCodec)
        (Installation.started { files := ⟨some .null, none⟩ } smallSetup true) s' ∧
      ∃ P, s'.process = some ⟨smallSetup, true, P⟩ ∧ FailsToStart P ∧
        P.threads .main = some (.ret (some exitBootstrapFailure)) := by
  constructor
  · have hsteps : InstallSteps documentCodec (restart.running smallSetup true)
        ((restart.calls registeringScene 12).running smallSetup true) :=
      DiskPool.installSteps_calls rfl 12
    have hstarted : (restart.calls registeringScene 12).pool.shared.started.length = 1 := by decide +kernel
    refine ⟨_, installedOn_restart.trans hsteps, ⟨_, rfl, hstarted⟩, fun s' hs' => ?_⟩
    exact (identity_stability installedOn_restart).1 (.obj savedRecord) rfl s' (hsteps.trans hs')
  · have hbad : ¬ Complete (documentCodec.load .null) := by
      rintro ⟨d, h, -⟩
      cases h
    let nullStart : DiskPool := { files := ⟨some .null, none⟩, pool := .initial smallSetup true }
    have hsteps := @DiskPool.runSteps_calls { credentials := .null } smallSetup true nullStart rfl 3
    obtain ⟨-, -, hrefused⟩ := @identity_stability Json documentCodec ⟨some .null, none⟩ _ .refl
    obtain ⟨P, hproc, hfails⟩ := hrefused .null rfl hbad rfl smallSetup (by decide) true _ hsteps
    obtain ⟨-, -, rfl⟩ := AgentProcess.mk.inj (Option.some.inj hproc)
    exact ⟨_, hsteps, _, rfl, hfails, rfl⟩

end CertWatch
