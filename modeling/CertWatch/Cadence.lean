/-
# `CertWatch.Cadence` — no catch-up: the rounds of a thread, and the full waits between them.

The heartbeat thread, the check thread and the NetBox thread work in rounds: a heartbeat, a cycle, a sync.  Between two
rounds each waits out the interval of the config in force, however long the round before took, and waits it out in full
or does no round any more.
-/
import Mathlib.Data.List.Chain
import CertWatch.FirstSync
import CertWatch.Telemetry

namespace CertWatch

open CertWatch.Lib

/-! ## Rounds and waits -/

/-- The threads that work in rounds. -/
inductive RoundThread where
  | heartbeat
  | check
  | netbox

def RoundThread.id : RoundThread → ThreadId
  | .heartbeat => .heartbeat
  | .check => .check
  | .netbox => .netbox

/-- What the interval of a thread is called in the config. -/
def RoundThread.intervalKey : RoundThread → String
  | .heartbeat => "heartbeat_seconds"
  | .check => "check_seconds"
  | .netbox => "netbox_sync_seconds"

/-- The call that a round is known by: the heartbeat, the look at the hosts of a cycle, the fetch of a sync. -/
def RoundThread.begins : RoundThread → AgentOp → Bool
  | .heartbeat, .heartbeat _ => true
  | .check, .hostsSnapshot => true
  | .netbox, .sync .fetchBegins => true
  | _, _ => false

/-- A wait that did not pass in full, or a look that found the shutdown event set. -/
def stopsRounds : AgentCall → Bool
  | ⟨.isSet .shutdown, .ok isSet⟩ => isSet
  | ⟨.waitFor _, .ok woke_early⟩ => woke_early
  | ⟨.waitFor _, .error _⟩ => true
  | _ => false

/-- What a thread's calls mean for its pace. -/
inductive Mark where
  | round
  | rest
  deriving DecidableEq

def RoundThread.markOf (thread : RoundThread) : AgentCall → Option Mark
  | ⟨.waitFor _, .ok false⟩ => some .rest
  | c => if thread.begins c.op then some .round else none

/-- The rounds and the full waits of a thread, in order. -/
def RoundThread.marks (thread : RoundThread) (cs : List AgentCall) : List Mark := cs.filterMap thread.markOf

/-! ## The monitor -/

/-- Where a thread is between two rounds. -/
inductive Pace where
  /-- No round since the last full wait, or since the start. -/
  | rested
  /-- And it has seen since that no shutdown was asked for. -/
  | ready
  /-- In a round, or after it. -/
  | busy
  | over
  deriving DecidableEq

def Pace.next (thread : RoundThread) (φ : Pace) : AgentCall → Pace
  | ⟨.isSet .shutdown, .ok false⟩ => if φ = .rested then .ready else φ
  | ⟨.waitFor _, .ok false⟩ => .rested
  | c => if stopsRounds c then .over else if thread.begins c.op then .busy else φ

/-- A round begins only when the thread is ready for it, and a wait follows the round and a look at the config. -/
def paceMonitor (rt : Runtime) (thread : RoundThread) : Monitor agentSig PyExc (Pace × Option AgentCall) where
  possible := Possible
  allows q o := (thread.begins o = true → q.1 = .ready) ∧ ∀ interval, o = .waitFor interval →
    q.1 = .busy ∧ ∃ config, q.2 = some ⟨.configSnapshot, .ok config⟩ ∧
      intervalSeconds rt thread.intervalKey config = .ok interval
  next q o r := (q.1.next thread ⟨o, r⟩, some ⟨o, r⟩)

/-- A wait, or a look at the shutdown event. -/
def AgentOp.pauses : AgentOp → Bool
  | .isSet .shutdown => true
  | .waitFor _ => true
  | _ => false

/-- The call does not count for the thread's pace. -/
def RoundThread.quiet (thread : RoundThread) (o : AgentOp) : Bool := !o.pauses && !thread.begins o

section

variable {rt : Runtime} {thread : RoundThread} {α : Type}

theorem pauses_begins {o : AgentOp} (h : thread.begins o = true) : o.pauses = false := by
  cases thread <;> cases o <;> first | rfl | cases h

theorem next_of_not_pauses {o : AgentOp} (h : o.pauses = false) (φ : Pace) (r : Except PyExc o.Ret) :
    φ.next thread ⟨o, r⟩ = if thread.begins o then .busy else φ := by
  cases o with
  | isSet event => cases event <;> first | rfl | cases h
  | waitFor _ => cases h
  | _ => rfl

theorem next_quiet {o : AgentOp} (h : thread.quiet o = true) (φ : Pace) (r : Except PyExc o.Ret) :
    φ.next thread ⟨o, r⟩ = φ := by
  obtain ⟨hpauses, hbegins⟩ : o.pauses = false ∧ thread.begins o = false := by
    simpa [RoundThread.quiet] using h
  rw [next_of_not_pauses hpauses, hbegins]
  rfl

theorem allows_quiet {o : AgentOp} (h : thread.quiet o = true) (q : Pace × Option AgentCall) :
    (paceMonitor rt thread).allows q o := by
  constructor
  · intro hbegins
    simp [RoundThread.quiet, hbegins] at h
  · rintro interval rfl
    cases h

/-- Calls that are none of the thread's pace. -/
abbrev RoundThread.Quiet (thread : RoundThread) (p : Agent α) : Prop := p.Only fun o : AgentOp => thread.quiet o = true

theorem quiet_call {o : AgentOp} (h : thread.quiet o = true) : thread.Quiet (agentCall o) := Prog.only_perform h

theorem quiet_of_processing {p : Agent α} (h : Processing p) : thread.Quiet p := by
  refine h.mono fun o ho => ?_
  cases o <;> first | (cases thread <;> rfl) | cases ho

theorem pace_quiet {p : Agent α} (h : thread.Quiet p) {φ : Pace} {q : Pace × Option AgentCall} (hq : q.1 = φ) :
    p.Obeys (paceMonitor rt thread) (fun q' _ => q'.1 = φ) q :=
  h.obeys_invariant (I := fun q => q.1 = φ)
    (fun q _ hq ho => ⟨allows_quiet ho q, fun r _ => (next_quiet ho q.1 r).trans hq⟩) (fun _ _ => trivial) hq

/-- A look at the shutdown event when rested. -/
theorem pace_isSet {q : Pace × Option AgentCall} (hq : q.1 = .rested) :
    (agentCall (.isSet .shutdown)).Obeys (paceMonitor rt thread)
      (fun q' x => x = .ok false → q'.1 = .ready) q := by
  refine Prog.obeys_perform.mpr ⟨⟨fun hbegins => ?_, nofun⟩, ?_⟩
  · cases thread <;> cases hbegins
  · rintro r - rfl
    show (if q.1 = Pace.rested then Pace.ready else q.1) = _
    rw [if_pos hq]

/-- The wait after a round. -/
theorem pace_waitInterval (thread : RoundThread) {q : Pace × Option AgentCall} (hq : q.1 = .busy) :
    (waitInterval rt thread.intervalKey).Obeys (paceMonitor rt thread)
      (fun q' x => x = .ok false → q'.1 = .rested) q := by
  have hlook : thread.quiet .configSnapshot = true := by cases thread <;> rfl
  unfold waitInterval currentInterval
  refine Prog.obeys_bind.mpr (Prog.obeys_bind.mpr (Prog.obeys_perform.mpr ⟨allows_quiet hlook q, fun r _ => ?_⟩))
  cases r with
  | error e => exact nofun
  | ok config =>
  refine Prog.obeys_ofExcept.mpr ?_
  cases hinterval : intervalSeconds rt thread.intervalKey config with
  | error e => exact nofun
  | ok interval =>
    refine Prog.obeys_perform.mpr ⟨⟨fun hbegins => ?_, ?_⟩, ?_⟩
    · cases thread <;> cases hbegins
    · rintro interval' ⟨⟩
      exact ⟨(next_quiet hlook q.1 (.ok config)).trans hq, config, rfl, hinterval⟩
    · rintro r - rfl
      rfl

/-- The call that begins a round. -/
theorem pace_begins {o : AgentOp} (ho : thread.begins o = true) {q : Pace × Option AgentCall} (hq : q.1 = .ready) :
    (agentCall o).Obeys (paceMonitor rt thread) (fun q' _ => q'.1 = .busy) q := by
  refine Prog.obeys_perform.mpr ⟨⟨fun _ => hq, ?_⟩, fun r _ => ?_⟩
  · rintro interval rfl
    cases thread <;> cases ho
  · show q.1.next thread ⟨o, r⟩ = _
    rw [next_of_not_pauses (pauses_begins ho), ho]
    rfl

end

/-! ## The three loops -/

section

variable (rt : Runtime) (client : DashboardClient)

/-- What is said of a program that starts where no round is under way. -/
abbrev RoundThread.KeepsPace (rt : Runtime) (thread : RoundThread) {α : Type} (p : Agent α) : Prop :=
  ∀ q : Pace × Option AgentCall, q.1 = .rested → p.Obeys (paceMonitor rt thread) (fun _ _ => True) q

/-- The head of a loop: it is left, or a round may begin. -/
theorem keepsPace_look {thread : RoundThread} {α : Type} {a : α} {going : Agent α}
    (h : ∀ q : Pace × Option AgentCall, q.1 = .ready → going.Obeys (paceMonitor rt thread) (fun _ _ => True) q) :
    thread.KeepsPace rt
      ((agentCall (.isSet .shutdown)).bind fun stopping => if stopping then .ret a else going) := by
  intro q hq
  refine (pace_isSet hq).bind (fun q₁ stopping hq₁ => ?_) fun _ _ _ => trivial
  cases stopping with
  | true => trivial
  | false => exact h q₁ (hq₁ rfl)

/-- The end of a round: the loop is left, or goes on after a full wait. -/
theorem pace_rest {thread : RoundThread} {α : Type} {a : α} {next : Agent α} (h : thread.KeepsPace rt next)
    {q : Pace × Option AgentCall} (hq : q.1 = .busy) :
    ((waitInterval rt thread.intervalKey).bind fun woke_early => if woke_early then .ret a else next).Obeys
      (paceMonitor rt thread) (fun _ _ => True) q := by
  refine (pace_waitInterval thread hq).bind (fun q₁ woke_early hq₁ => ?_) fun _ _ _ => trivial
  cases woke_early with
  | true => trivial
  | false => exact h q₁ (hq₁ rfl)

theorem pace_doHeartbeat (agent_version : String) (process_started_at : Rat) {q : Pace × Option AgentCall}
    (hq : q.1 = .ready) : (doHeartbeat agent_version client process_started_at).Obeys (paceMonitor rt .heartbeat)
      (fun q' x => x = .ok () → q'.1 = .busy) q := by
  have hbuild : RoundThread.heartbeat.Quiet (buildHeartbeatArgs agent_version process_started_at) := by
    refine (quiet_call rfl).bind fun config => (quiet_call rfl).bind fun stats => (quiet_call rfl).bind fun now => ?_
    refine (quiet_call rfl).bind fun sent_at => (Prog.only_ofExcept _).bind fun _ => ?_
    exact (Prog.only_ofExcept _).bind fun _ => trivial
  refine (pace_quiet hbuild hq).bind (fun q₁ args hq₁ => ?_) fun _ _ _ => nofun
  have hsend : (sendHeartbeat client args).Obeys (paceMonitor rt .heartbeat) (fun q' _ => q'.1 = .busy) q₁ :=
    obeys_request.mpr (pace_begins rfl hq₁)
  refine hsend.attempt_bind fun q₂ answer hq₂ => ?_
  cases answer with
  | ok response =>
    exact (pace_quiet (quiet_of_processing (processing_processResponse client response)) hq₂).mono fun _ _ h _ => h
  | error e =>
    cases e with
    | dashboard e =>
      show (if e.kind = .auth then signalAuthError.bind fun _ => .raise shutdownRequested else .ret () :
        Agent Unit).Obeys _ _ _
      split_ifs
      · have hsignal : RoundThread.heartbeat.Quiet signalAuthError := quiet_of_processing processing_signalAuthError
        exact (pace_quiet hsignal hq₂).bind (fun _ _ _ => nofun) fun _ _ _ => nofun
      · exact fun _ => hq₂
    | _ => exact nofun

theorem pace_heartbeatLoop (agent_version : String) (process_started_at : Rat) (fuel : Nat) :
    RoundThread.heartbeat.KeepsPace rt (heartbeatLoop rt agent_version client process_started_at fuel) := by
  induction fuel with
  | zero => exact fun _ _ => trivial
  | succ fuel ih =>
    refine keepsPace_look rt fun q hq => ?_
    refine (pace_doHeartbeat rt client agent_version process_started_at hq).attempt_bind fun q₁ tick hq₁ => ?_
    cases tick with
    | error e =>
      show (if e = shutdownRequested then .ret () else .raise e : Agent Unit).Obeys _ _ _
      split_ifs <;> trivial
    | ok u => exact pace_rest rt ih (hq₁ rfl)

theorem pace_cycleAndStats (report_type : String) (fuel : Nat) {q : Pace × Option AgentCall} (hq : q.1 = .ready) :
    (cycleAndStats rt client report_type fuel).Obeys (paceMonitor rt .check) (fun q' _ => q'.1 = .busy) q := by
  have hround : (agentCall .hostsSnapshot).Obeys (paceMonitor rt .check) (fun q' _ => q'.1 = .busy) q :=
    pace_begins rfl hq
  refine hround.bind (fun q₁ netbox_hosts hq₁ => ?_) fun _ _ h => h
  refine pace_quiet ((quiet_call rfl).bind fun config => ?_) hq₁
  refine (Prog.only_embed cycleCalls (fun o => ?_) _).bind fun cycle_result => ?_
  · cases o <;> rfl
  · exact (Prog.only_ofExcept _).bind fun succeeded => (Prog.only_ofExcept _).bind fun failed =>
      (quiet_call rfl).bind fun _ => trivial

theorem pace_checkLoop (fuel : Nat) (is_first_cycle : Bool) :
    RoundThread.check.KeepsPace rt (checkLoop rt client fuel is_first_cycle) := by
  induction fuel generalizing is_first_cycle with
  | zero => exact fun _ _ => trivial
  | succ fuel ih =>
    refine keepsPace_look rt fun q hq => ?_
    refine (pace_cycleAndStats rt client _ fuel hq).attempt_bind fun q₁ outcome hq₁ => ?_
    -- every failed cycle but one that a 401 ends is followed by a wait like any other
    show (if isAuthFailure outcome = true then signalAuthError else _ : Agent Unit).Obeys _ _ _
    split_ifs
    · exact (pace_quiet (quiet_of_processing processing_signalAuthError) hq₁).mono fun _ _ _ => trivial
    · exact pace_rest rt (ih _) hq₁

/-- What the monitor sees of a sync. -/
abbrev syncPace : Monitor syncSig PyExc (Pace × Option AgentCall) := (paceMonitor rt .netbox).comap syncCalls

/-- A part of a sync that begins no fetch. -/
abbrev SyncQuiet {α : Type} (p : Sync α) : Prop :=
  p.Only fun o : SyncOp => RoundThread.netbox.quiet (.sync o) = true

theorem syncQuiet_of_leaves {α : Type} {p : Sync α}
    (h : p.Only fun o : SyncOp => (AgentOp.sync o).leavesGate = true) : SyncQuiet p := by
  refine h.mono fun o ho => ?_
  cases o <;> first | rfl | cases ho

theorem syncQuiet_call {o : SyncOp} (h : RoundThread.netbox.quiet (.sync o) = true) : SyncQuiet (syncCall o) :=
  Prog.only_perform h

theorem pace_syncQuiet {α : Type} {p : Sync α} (h : SyncQuiet p) {φ : Pace} {q : Pace × Option AgentCall}
    (hq : q.1 = φ) : p.Obeys (syncPace rt) (fun q' _ => q'.1 = φ) q :=
  h.obeys_invariant (M := syncPace rt) (I := fun q : Pace × Option AgentCall => q.1 = φ)
    (fun q o hq ho => ⟨allows_quiet (o := .sync o) ho q, fun _ _ => (next_quiet ho q.1 _).trans hq⟩)
    (fun _ _ => trivial) hq

attribute [local irreducible] strip in
/-- A sync is one round, however it ends. -/
theorem pace_runNetboxSync (netbox_client : NetBoxClient) (fuel : Nat) {q : Pace × Option AgentCall}
    (hq : q.1 = .ready) : ((runNetboxSync client true netbox_client none fuel).embed syncCalls).Obeys
      (paceMonitor rt .netbox) (fun q' _ => q'.1 = .busy) q := by
  refine Prog.Obeys.embed (Prog.obeys_bind.mpr (Prog.obeys_perform.mpr ⟨allows_quiet rfl q, fun r hr => ?_⟩))
  obtain ⟨s, us, rfl⟩ := possible_sync hr
  -- the timestamp before the fetch is no round yet
  have hready : ((syncPace rt).next q .utcNowIso (.ok (utcNowIso us))).1 = .ready := by
    show q.1.next .netbox ⟨.sync .utcNowIso, .ok (utcNowIso us)⟩ = _
    rw [next_quiet rfl, hq]
  have hfetch : (netbox_client.fetchHosts fuel).Obeys (syncPace rt) (fun q' _ => q'.1 = .busy)
      ((syncPace rt).next q .utcNowIso (.ok (utcNowIso us))) := by
    refine Prog.obeys_bind.mpr (Prog.obeys_perform.mpr ⟨⟨fun _ => hready, nofun⟩, fun r hr => ?_⟩)
    obtain ⟨s, rfl⟩ := possible_sync hr
    refine pace_syncQuiet rt ?_ rfl
    refine (syncQuiet_of_leaves (leaves_wrapNetBoxError (leaves_parseFilterExpr _))).bind fun filter_kwargs => ?_
    refine Prog.Only.bind (syncQuiet_of_leaves (leaves_wrapNetBoxError ?_)) fun devices => ?_
    · exact (leaves_syncCall rfl).bind fun _ => leaves_listDevices fuel
    · exact (Prog.only_ofExcept _).bind fun hosts => (syncQuiet_call rfl).bind fun _ => trivial
  refine hfetch.attempt_bind fun q' fetched hq' => pace_syncQuiet rt ?_ hq'
  split
  · trivial
  · trivial
  · exact (syncQuiet_call rfl).bind fun _ => syncQuiet_of_leaves (leaves_submitWithRetry _ _ _ _)

theorem openGateUnless_keepsQuiet (first_sync_completed : Bool) :
    RoundThread.netbox.Quiet (openGateUnless first_sync_completed) := by
  unfold openGateUnless
  split_ifs
  · trivial
  · exact quiet_call rfl

theorem pace_syncLoop (netbox_client : NetBoxClient) (fuel : Nat) (first_sync_completed : Bool) :
    RoundThread.netbox.KeepsPace rt (syncLoop rt client netbox_client fuel first_sync_completed) := by
  induction fuel generalizing first_sync_completed with
  | zero => exact fun _ _ => trivial
  | succ fuel ih =>
    refine keepsPace_look rt fun q₁ hq₁ => ?_
    refine (pace_runNetboxSync rt client netbox_client fuel hq₁).attempt_bind fun q₂ outcome hq₂ => ?_
    show (if isAuthFailure outcome = true then _ else _ : Agent (Except PyExc Unit × Bool)).Obeys _ _ _
    split_ifs
    · have hsignal : RoundThread.netbox.Quiet signalAuthError := quiet_of_processing processing_signalAuthError
      exact (pace_quiet hsignal hq₂).bind (fun _ _ _ => trivial) fun _ _ _ => trivial
    have hopen := openGateUnless_keepsQuiet first_sync_completed
    refine (pace_quiet hopen hq₂).bind (fun q₃ _ hq₃ => ?_) fun _ _ _ => trivial
    -- here the loop looks at the exceptions of the wait itself
    refine (pace_waitInterval .netbox hq₃).attempt_bind fun q₄ waited hq₄ => ?_
    split
    · trivial
    · trivial
    · exact ih true q₄ (hq₄ rfl)

/-- The catch-all around a loop is none of its pace. -/
theorem pace_guardLoop {thread : RoundThread} {event : String} {loop : Agent Unit} (h : thread.KeepsPace rt loop) :
    thread.KeepsPace rt (guardLoop event loop) := by
  intro q hq
  refine Prog.obeys_tryCatch.mpr ((h q hq).mono fun q' x _ => ?_)
  cases x with
  | ok u => trivial
  | error e =>
    have hcatch : thread.Quiet ((agentCall (.unhandledException event)).bind fun _ => agentCall (.set .shutdown)) :=
      (quiet_call (by cases thread <;> rfl)).bind fun _ => quiet_call (by cases thread <;> rfl)
    exact (pace_quiet hcatch rfl).mono fun _ _ _ => trivial

end

/-- **Each of the three threads keeps its pace.** -/
theorem pace_mayRun {setup : Setup} {thread : RoundThread} {p₀ : Agent (Option Int)} (h : MayRun setup thread.id p₀) :
    p₀.Obeys (paceMonitor setup.rt thread) (fun _ _ => True) (.rested, none) := by
  rcases h with ⟨hid, -⟩ | ⟨spec, hid, rfl⟩
  · cases thread <;> cases hid
  suffices hkeeps : thread.KeepsPace setup.rt (threadProgram setup spec) from
    (hkeeps (.rested, none) rfl).bind (fun _ _ _ => trivial) fun _ _ _ => trivial
  cases spec with
  | heartbeat client process_started_at =>
    obtain rfl : thread = .heartbeat := by
      cases thread <;> first | rfl | cases hid
    exact pace_guardLoop setup.rt (pace_heartbeatLoop setup.rt client _ _ _)
  | check client =>
    obtain rfl : thread = .check := by
      cases thread <;> first | rfl | cases hid
    have hgate : RoundThread.check.Quiet waitForFirstNetboxSync := by
      refine (quiet_call rfl).bind fun fired => ?_
      split_ifs
      · trivial
      · exact (quiet_call rfl).bind fun _ => (quiet_call rfl).bind fun _ => trivial
    intro q hq
    refine (pace_quiet hgate hq).bind (fun q' _ hq' => ?_) fun _ _ _ => trivial
    exact pace_guardLoop setup.rt (pace_checkLoop setup.rt client _ true) q' hq'
  | netbox client netbox_client =>
    obtain rfl : thread = .netbox := by
      cases thread <;> first | rfl | cases hid
    intro q hq
    refine (pace_syncLoop setup.rt client netbox_client _ false q hq).bind (fun q' left _ => ?_) fun _ _ _ => trivial
    -- what the thread does on its way out
    have hleave : RoundThread.netbox.Quiet
        ((guardLoop "netbox_sync_thread_unhandled_exception" (.ofExcept left.1)).bind fun _ =>
          openGateUnless left.2) := by
      refine Prog.Only.bind ((Prog.only_ofExcept _).tryCatch fun e => ?_) fun _ => openGateUnless_keepsQuiet left.2
      exact (quiet_call rfl).bind fun _ => quiet_call rfl
    exact (pace_quiet hleave rfl).mono fun _ _ _ => trivial
  | worker worker_id client netbox_client =>
    cases thread <;> cases hid

/-! ## What is lawful for the monitor -/

section

variable {rt : Runtime} {thread : RoundThread}

/-- The last mark that a thread with this pace has left. -/
def Pace.lastMark : Pace → Mark
  | .busy => .round
  | _ => .rest

/-- Rounds and full waits alternate, and the last of them fits the pace. -/
structure Alternating (φ : Pace) (marks : List Mark) : Prop where
  chain : (Mark.rest :: marks).IsChain (fun a b => a ≠ b)
  last : φ ≠ .over → (Mark.rest :: marks).getLast? = some φ.lastMark

theorem alternating_concat {φ ψ : Pace} {marks : List Mark} {a : Mark} (h : Alternating φ marks) (hφ : φ ≠ .over)
    (hne : φ.lastMark ≠ a) (hψ : ψ.lastMark = a) : Alternating ψ (marks ++ [a]) where
  chain := by
    rw [← List.cons_append, List.isChain_append]
    refine ⟨h.chain, .singleton a, fun x hx y hy => ?_⟩
    rw [h.last hφ] at hx
    cases hx
    cases hy
    exact hne
  last _ := by
    rw [← List.cons_append, List.getLast?_concat, hψ]

theorem Alternating.mono {φ ψ : Pace} {marks : List Mark} (h : Alternating φ marks)
    (hlast : ψ ≠ .over → φ ≠ .over ∧ φ.lastMark = ψ.lastMark) : Alternating ψ marks where
  chain := h.chain
  last hψ := by
    rw [← (hlast hψ).2]
    exact h.last (hlast hψ).1

theorem markOf_of_not_pauses {o : AgentOp} (h : o.pauses = false) (r : Except PyExc o.Ret) :
    thread.markOf ⟨o, r⟩ = if thread.begins o then some .round else none := by
  cases o with
  | waitFor _ => cases h
  | _ => rfl

theorem eq_of_pauses {o : AgentOp} (h : o.pauses = true) :
    o = .isSet .shutdown ∨ ∃ interval, o = .waitFor interval := by
  unfold AgentOp.pauses at h
  split at h
  · exact .inl rfl
  · exact .inr ⟨_, rfl⟩
  · cases h

/-- After this a thread does no round any more. -/
theorem next_of_stops {c : AgentCall} (h : stopsRounds c = true) (φ : Pace) :
    φ.next thread c = .over ∧ thread.markOf c = none := by
  unfold stopsRounds at h
  split at h
  · cases h
    cases thread <;> exact ⟨rfl, rfl⟩
  · cases h
    cases thread <;> exact ⟨rfl, rfl⟩
  · cases thread <;> exact ⟨rfl, rfl⟩
  · cases h

/-- One allowed call. -/
theorem Alternating.step {q : Pace × Option AgentCall} {marks : List Mark} (h : Alternating q.1 marks) {o : AgentOp}
    (ho : (paceMonitor rt thread).allows q o) (r : Except PyExc o.Ret) :
    Alternating (q.1.next thread ⟨o, r⟩) (marks ++ (thread.markOf ⟨o, r⟩).toList) := by
  by_cases hstops : stopsRounds ⟨o, r⟩ = true
  · obtain ⟨hover, hnone⟩ := next_of_stops hstops q.1
    rw [hover, hnone, Option.toList_none, List.append_nil]
    exact h.mono fun hne => absurd rfl hne
  obtain ⟨hround, hwait⟩ := ho
  cases hpauses : o.pauses with
  | false =>
    rw [next_of_not_pauses hpauses, markOf_of_not_pauses hpauses]
    split_ifs with hbegins
    · have hready := hround hbegins
      exact alternating_concat h (hready ▸ nofun) (hready ▸ nofun) rfl
    · rwa [Option.toList_none, List.append_nil]
  | true =>
    rcases eq_of_pauses hpauses with rfl | ⟨interval, rfl⟩
    · have hnone : thread.markOf ⟨.isSet .shutdown, r⟩ = none := by
        cases thread <;> rfl
      rw [hnone, Option.toList_none, List.append_nil]
      rcases r with e | _ | _
      · have hsame : q.1.next thread ⟨.isSet .shutdown, .error e⟩ = q.1 := by
          cases thread <;> rfl
        rwa [hsame]
      · show Alternating (if q.1 = .rested then .ready else q.1) marks
        split_ifs with hrested
        · exact h.mono fun _ => hrested ▸ ⟨nofun, rfl⟩
        · exact h
      · exact absurd rfl hstops
    · obtain ⟨hbusy, -⟩ := hwait interval rfl
      rcases r with e | _ | _
      · exact absurd rfl hstops
      · exact alternating_concat h (hbusy ▸ nofun) (hbusy ▸ nofun) rfl
      · exact absurd rfl hstops

theorem lawful_alternating {cs : List AgentCall} (h : (paceMonitor rt thread).Lawful (.rested, none) cs) :
    Alternating ((paceMonitor rt thread).after (.rested, none) cs).1 (thread.marks cs) := by
  induction cs using List.reverseRecOn with
  | nil => exact ⟨.singleton _, fun _ => rfl⟩
  | append_singleton cs c ih =>
    obtain ⟨hcs, hallows, -⟩ := (paceMonitor rt thread).lawful_concat.mp h
    have hmarks : thread.marks (cs ++ [c]) = thread.marks cs ++ (thread.markOf c).toList := by
      unfold RoundThread.marks
      cases hc : thread.markOf c <;> simp [hc]
    rw [(paceMonitor rt thread).after_concat, hmarks]
    exact (ih hcs).step hallows c.answer

/-- Who is done stays done. -/
theorem lawful_over {last : Option AgentCall} {cs : List AgentCall}
    (h : (paceMonitor rt thread).Lawful (.over, last) cs) :
    ∀ c ∈ cs, thread.begins c.op = false ∧ ∀ interval, c.op ≠ .waitFor interval := by
  induction cs generalizing last with
  | nil => exact fun c hc => absurd hc List.not_mem_nil
  | cons c cs ih =>
    obtain ⟨⟨hround, hwait⟩, -, hcs⟩ := h
    have hbegins : thread.begins c.op = false := Bool.eq_false_iff.mpr fun hbegins => nomatch hround hbegins
    have hwaits : ∀ interval, c.op ≠ .waitFor interval := fun interval hinterval => nomatch (hwait interval hinterval).1
    have hover : Pace.over.next thread c = .over := by
      obtain ⟨o, r⟩ := c
      cases hpauses : o.pauses with
      | false =>
        rw [next_of_not_pauses hpauses, hbegins]
        rfl
      | true =>
        rcases eq_of_pauses hpauses with rfl | ⟨interval, rfl⟩
        · rcases r with e | _ | _ <;> cases thread <;> rfl
        · exact absurd rfl (hwaits interval)
    have hrest : (paceMonitor rt thread).Lawful (.over, some c) cs := by
      rw [← hover]
      exact hcs
    intro c' hc'
    rcases List.mem_cons.mp hc' with rfl | hc'
    · exact ⟨hbegins, hwaits⟩
    · exact ih hrest c' hc'

/-- The monitor remembers the last call. -/
theorem after_last (cs : List AgentCall) : ((paceMonitor rt thread).after (.rested, none) cs).2 = cs.getLast? := by
  induction cs using List.reverseRecOn with
  | nil => rfl
  | append_singleton cs c ih =>
    rw [(paceMonitor rt thread).after_concat, List.getLast?_concat]
    rfl

end

/-! ## Every run -/

/-- The pace of a thread in a run.  A wait is the loop's wait for its interval, and a look is the one at the shutdown
event at the head of the loop; the gate before the first cycle and the waits of a retry loop are neither. -/
structure KeptPace (rt : Runtime) (thread : RoundThread) (log : List (ThreadId × AgentCall)) : Prop where
  /-- Rounds and full waits alternate, beginning with a round. -/
  alternate : (Mark.rest :: thread.marks (ownEvents thread.id log)).IsChain (fun a b => a ≠ b)
  /-- Each wait is for the interval of the config that was in force when the round was over. -/
  waits : ∀ pre interval r post, log = pre ++ (thread.id, ⟨.waitFor interval, r⟩) :: post →
    ∃ moment config rest, pre = moment ++ (thread.id, ⟨.configSnapshot, .ok config⟩) :: rest ∧
      ownEvents thread.id rest = [] ∧ (installs moment).getLast? = some config ∧
      intervalSeconds rt thread.intervalKey config = .ok interval
  /-- A wait that is cut short, and a look that finds the shutdown event set, end the rounds. -/
  ends : ∀ pre c post, log = pre ++ (thread.id, c) :: post → stopsRounds c = true →
    ∀ c', (thread.id, c') ∈ post → thread.begins c'.op = false ∧ ∀ interval, c'.op ≠ .waitFor interval

variable {setup : Setup} {main_thread : Bool} {Meets : AgentLabel → AgentPool → Prop} {P : AgentPool}

/-- The calls of a thread are lawful for its pace. -/
theorem ReachableBy.pace_lawful (h : ReachableBy setup main_thread Meets P) (thread : RoundThread) :
    (paceMonitor setup.rt thread).Lawful (.rested, none) (ownEvents thread.id P.shared.log) := by
  cases hthread : P.threads thread.id with
  | none =>
    rw [h.traced.of_none hthread]
    trivial
  | some p => exact (h.follows (fun _ _ => id) (fun _ => pace_mayRun) hthread).1

/-- **No catch-up**: in every run, under any interleaving, between two rounds of a thread lies exactly one wait of its
loop, in full, for the interval of the config then in force; no such wait comes before the first round, and after one
that is cut short, or a look at the head of the loop that finds the shutdown event set, there is no round any more. -/
theorem rounds_keep_pace (h : ReachableBy setup main_thread Meets P) (thread : RoundThread) :
    KeptPace setup.rt thread P.shared.log where
  alternate := (lawful_alternating (h.pace_lawful thread)).chain
  waits := by
    intro pre interval r post hlog
    have hlawful := h.pace_lawful thread
    rw [hlog, ownEvents_append, ownEvents_cons_self] at hlawful
    obtain ⟨-, ⟨-, hwait⟩, -, -⟩ := (paceMonitor setup.rt thread).lawful_at.mp hlawful
    obtain ⟨-, config, hlast, hinterval⟩ := hwait interval rfl
    rw [after_last] at hlast
    obtain ⟨own, hown⟩ := List.getLast?_eq_some_iff.mp hlast
    obtain ⟨moment, rest, rfl, -, hrest⟩ := split_of_ownEvents hown
    refine ⟨moment, config, rest, rfl, hrest, ?_, hinterval⟩
    exact h.snapshot_latest (hlog.trans (List.append_assoc _ _ _))
  ends := by
    intro pre c post hlog hstops c' hc'
    have hlawful := h.pace_lawful thread
    rw [hlog, ownEvents_append, ownEvents_cons_self] at hlawful
    obtain ⟨-, -, -, hpost⟩ := (paceMonitor setup.rt thread).lawful_at.mp hlawful
    rw [(paceMonitor setup.rt thread).after_concat] at hpost
    have hover : ∀ q, (paceMonitor setup.rt thread).next q c.op c.answer = (.over, some c) := fun q =>
      Prod.ext (next_of_stops hstops q.1).1 rfl
    rw [hover] at hpost
    exact lawful_over hpost c' (mem_ownEvents_iff.mpr hc')

/-- A dashboard that has a config with an interval, and nothing to ask for. -/
def quietScene : Scene where
  credentials := registered
  get_config := some ⟨200, .json (.obj [("config_version", .int 1),
    ("intervals", .obj [("heartbeat_seconds", .int 15)])])⟩
  heartbeat := some ⟨200, .json (.obj [])⟩
  pending_reports := some []

/-- The heartbeat thread has sent its second heartbeat. -/
def twoHeartbeats : AgentPool :=
  (AgentPool.initial smallSetup true).moves smallSetup quietScene [.calls .main 13, .begins 0, .calls .heartbeat 14]

/-- One full wait lies between the two. -/
theorem rounds_keep_pace_twoHeartbeats : KeptPace smallSetup.rt .heartbeat twoHeartbeats.shared.log ∧
    RoundThread.heartbeat.marks (ownEvents .heartbeat twoHeartbeats.shared.log) = [.round, .rest, .round] := by
  have hreachable : Reachable smallSetup true twoHeartbeats := (alive_initial.moves _).reachable
  exact ⟨rounds_keep_pace hreachable .heartbeat, by decide +kernel⟩

end CertWatch
