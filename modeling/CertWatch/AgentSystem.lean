/-
# `CertWatch.AgentSystem` — one agent process: its threads interleaved, its signals, its shutdown from outside.

A run interleaves the threads call by call.  A thread that was started begins at any later time; a signal runs
its handler, or ends the process when none is installed; whoever holds the runner may set its `shutdown_event`.

What holds of every run is derived in two steps.  A monitor says what one thread's program can do, whatever it is
answered; `Reachable.follows` says that in every reachable state each thread's part of the log is lawful for its
monitor, and what is left of the thread obeys from there.
-/
import CertWatch.Runner
import CertWatch.Lib.Monitor

namespace CertWatch

open CertWatch.Lib

/-! ## Steps -/

/-- The threads of a process and what they share; only the main thread's result is looked at. -/
abbrev AgentPool := Pool ThreadId agentSig PyExc (Option Int) AgentState

/-- The program of a thread. -/
def threadProgram (setup : Setup) : ThreadSpec → Agent Unit
  | .heartbeat client process_started_at =>
    heartbeatThread setup.rt setup.agent_version client process_started_at setup.fuel
  | .worker _ client netbox_client => workerLoop setup.rt client netbox_client setup.fuel
  | .check client => certCheckThread setup.rt client setup.fuel
  | .netbox client netbox_client => netboxSyncThread setup.rt client netbox_client setup.fuel

/-- A thread in the pool. -/
def agentProgram (setup : Setup) (thread : ThreadSpec) : Agent (Option Int) :=
  (threadProgram setup thread).bind fun _ => .ret none

/-- The main thread in the pool. -/
def mainProgram (setup : Setup) : Agent (Option Int) := (runAgent setup).bind fun code => .ret (some code)

/-- The handler of a signal, or its default action: the process ends. -/
def AgentState.receive (s : AgentState) (signum : Signal) : AgentState :=
  if signum ∈ s.handlers then { s with shutdown := true, signaled := true } else { s with killed := true }

/-- The exposed `shutdown_event` is set from outside. -/
def AgentState.request (s : AgentState) : AgentState := { s with shutdown := true, requested := true }

/-- What happens in one step. -/
inductive AgentLabel where
  | call (i : ThreadId)
  | begins (thread : ThreadSpec)
  | signal (signum : Signal)
  | request

/-- One step of the process. -/
inductive AgentStep (setup : Setup) : AgentLabel → AgentPool → AgentPool → Prop where
  | call {i : ThreadId} {P P' : AgentPool} : Pool.Step agentExec i P P' → AgentStep setup (.call i) P P'
  | begins {thread : ThreadSpec} {P : AgentPool} : thread ∈ P.shared.started → P.threads thread.id = none →
      AgentStep setup (.begins thread) P (P.spawn thread.id (agentProgram setup thread))
  | signal {signum : Signal} {P : AgentPool} : P.shared.killed = false → P.shared.main_thread = true →
      AgentStep setup (.signal signum) P { P with shared := P.shared.receive signum }
  | request {P : AgentPool} : AgentStep setup .request P { P with shared := P.shared.request }

/-- A process that is about to execute `run`, on the main thread or on another one. -/
def AgentPool.initial (setup : Setup) (main_thread : Bool) : AgentPool where
  threads := Function.update (fun _ => none) .main (some (mainProgram setup))
  shared := { main_thread }

theorem threads_initial_main {setup : Setup} {main_thread : Bool} :
    (AgentPool.initial setup main_thread).threads .main = some (mainProgram setup) := by
  simp only [AgentPool.initial, Function.update_self]

theorem threads_initial_ne {setup : Setup} {main_thread : Bool} {i : ThreadId} (h : i ≠ .main) :
    (AgentPool.initial setup main_thread).threads i = none := by
  simp only [AgentPool.initial, Function.update_of_ne h]

/-- The states of the runs whose steps all meet a condition. -/
inductive ReachableBy (setup : Setup) (main_thread : Bool) (Meets : AgentLabel → AgentPool → Prop) :
    AgentPool → Prop where
  | initial : ReachableBy setup main_thread Meets (.initial setup main_thread)
  | step {label : AgentLabel} {P P' : AgentPool} : ReachableBy setup main_thread Meets P → Meets label P →
      AgentStep setup label P P' → ReachableBy setup main_thread Meets P'

/-- The states of all runs. -/
abbrev Reachable (setup : Setup) (main_thread : Bool) : AgentPool → Prop :=
  ReachableBy setup main_thread fun _ _ => True

variable {setup : Setup} {main_thread : Bool} {Meets : AgentLabel → AgentPool → Prop} {P P' : AgentPool}

/-! ## Every thread on its trace -/

/-- The programs that a thread may be given. -/
def MayRun (setup : Setup) (i : ThreadId) (p : Agent (Option Int)) : Prop :=
  (i = .main ∧ p = mainProgram setup) ∨ ∃ thread : ThreadSpec, thread.id = i ∧ p = agentProgram setup thread

theorem log_receive (s : AgentState) (signum : Signal) : (s.receive signum).log = s.log := by
  unfold AgentState.receive
  split_ifs <;> rfl

theorem log_effect (s : AgentState) (o : AgentOp) (r : Except PyExc o.Ret) : (effect s o r).log = s.log := by
  unfold effect
  split
  · rename_i event _
    cases event <;> rfl
  all_goals rfl

theorem log_agentExec (i : ThreadId) (o : AgentOp) (s : AgentState) (r : Except PyExc o.Ret) (s' : AgentState)
    (h : agentExec i o s r s') : s'.log = s.log ++ [(i, ⟨o, r⟩)] := by
  obtain ⟨-, -, rfl⟩ := h
  show (effect s o r).log ++ _ = _
  rw [log_effect]

/-- **Every thread of a reachable state stands where its own calls have taken its program.** -/
theorem ReachableBy.traced (h : ReachableBy setup main_thread Meets P) :
    P.Traced (MayRun setup) AgentState.log := by
  induction h with
  | initial =>
    intro i
    by_cases hi : i = .main
    · subst hi
      rw [threads_initial_main]
      exact ⟨mainProgram setup, Or.inl ⟨rfl, rfl⟩, .nil _⟩
    · rw [threads_initial_ne hi]
      rfl
  | step _ _ hstep ih =>
    cases hstep with
    | call hcall => exact ih.step log_agentExec hcall
    | begins _ hnone => exact ih.spawn hnone (Or.inr ⟨_, rfl, rfl⟩)
    | signal _ _ => exact ih.shared (log_receive _ _)
    | request => exact ih.shared rfl

/-! ## What answers can be -/

theorem ReachableBy.possible (h : ReachableBy setup main_thread Meets P) {i : ThreadId} {c : AgentCall}
    (hc : (i, c) ∈ P.shared.log) : Possible c.op c.answer := by
  induction h with
  | initial => cases hc
  | @step label P P' _ _ hstep ih =>
    cases hstep with
    | call hcall =>
      cases hcall with
      | call hi hex =>
        rw [show AgentState.log _ = _ from log_agentExec _ _ _ _ _ hex] at hc
        rcases List.mem_append.mp hc with hc | hc
        · exact ih hc
        · obtain ⟨-, rfl⟩ := Prod.mk.inj (List.mem_singleton.mp hc)
          exact ⟨_, hex.2.1⟩
    | begins _ _ => exact ih hc
    | signal _ _ =>
      rw [show AgentState.log _ = _ from log_receive _ _] at hc
      exact ih hc
    | request => exact ih hc

/-- **One program's monitor speaks about every interleaving**: what thread `i` has called is lawful, and what is
left of it obeys from where its calls have taken the monitor. -/
theorem ReachableBy.follows (h : ReachableBy setup main_thread Meets P) {Q : Type} {M : Monitor agentSig PyExc Q}
    {F : Q → Except PyExc (Option Int) → Prop} {q : Q} {i : ThreadId} {p : Agent (Option Int)}
    (hM : ∀ o r, Possible o r → M.possible o r) (hprogram : ∀ p₀, MayRun setup i p₀ → p₀.Obeys M F q)
    (hi : P.threads i = some p) :
    M.Lawful q (ownEvents i P.shared.log) ∧ p.Obeys M F (M.after q (ownEvents i P.shared.log)) := by
  obtain ⟨p₀, hp₀, htrace⟩ := h.traced.of_some hi
  refine (hprogram p₀ hp₀).trace (fun c hc => hM _ _ ?_) htrace
  exact h.possible (mem_ownEvents_iff.mp hc)

end CertWatch
