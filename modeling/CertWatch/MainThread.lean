/-
# `CertWatch.MainThread` — what the main thread does between its first `start` and its return.

Once a thread is started, `run` only starts the others, waits for the shutdown event, joins, and looks at
`auth_error_event` as its very last call.  The monitor counts these calls down and keeps the two answers that the
exit code depends on.
-/
import CertWatch.ThreadCalls
import CertWatch.Lib.Monitor

namespace CertWatch

open CertWatch.Lib

/-! ## The monitor -/

/-- What the main thread has done. -/
structure MainView where
  /-- How many calls are left, once a thread is started. -/
  left : Option Nat := none
  /-- It has found the shutdown event set. -/
  woken : Bool := false
  /-- What it found `auth_error_event` to be. -/
  read : Option Bool := none

/-- The calls of the main thread once it has started a thread. -/
def AgentOp.isLeaving : AgentOp → Bool
  | .start _ => true
  | .wait .shutdown none => true
  | .now => true
  | .join _ => true
  | .isSet .authError => true
  | _ => false

/-- The calls that are left after one more. -/
def MainView.leftAfter (total : Nat) : Option Nat → AgentOp → Option Nat
  | some n, _ => some (n - 1)
  | none, .start _ => some total
  | none, _ => none

def MainView.next (total : Nat) (q : MainView) : (o : AgentOp) → Except PyExc o.Ret → MainView
  | .isSet .shutdown, .ok b => { q with left := leftAfter total q.left (.isSet .shutdown), woken := q.woken || b }
  | .wait .shutdown t, .ok b => { q with left := leftAfter total q.left (.wait .shutdown t), woken := q.woken || b }
  | .isSet .authError, .ok b => { q with left := leftAfter total q.left (.isSet .authError), read := some b }
  | o, _ => { q with left := leftAfter total q.left o }

/-- Every call counts down. -/
theorem left_next_eq (total : Nat) (q : MainView) (o : AgentOp) (r : Except PyExc o.Ret) :
    (MainView.next total q o r).left = MainView.leftAfter total q.left o := by
  unfold MainView.next
  split <;> rfl

/-- After the first `start` at most `total` calls follow, none of which is of any other kind; after the look at
`auth_error_event`, none at all. -/
def mainMonitor (total : Nat) : Monitor agentSig PyExc MainView where
  possible := Possible
  allows q o := q.read = none ∧ ∀ n, q.left = some n → 0 < n ∧ o.isLeaving = true
  next := MainView.next total
  mayHang q := q.left = none

/-- The exit code that the flag stands for. -/
def exitCode (auth_error : Bool) : Int := if auth_error then exitAuthError else exitClean

/-- How `run` ends: with the code of the flag it read last, if a thread was started; with 0 only after it has found
the shutdown event set and the flag unset. -/
def MainEnds (q : MainView) : Except PyExc Int → Prop
  | .ok code => (q.left ≠ none → ∃ b, q.read = some b ∧ code = exitCode b) ∧
      (code = exitClean → q.woken = true ∧ q.read = some false)
  | .error _ => q.left = none

/-! ## Before the first thread is started -/

variable {α : Type} {total : Nat}

/-- Bootstrap and replay leave the view as it is at the start. -/
theorem obeys_startup {p : Agent α} (h : StartupCalls p) :
    p.Obeys (mainMonitor total) (fun q _ => q = {}) {} := by
  refine h.obeys (fun o ho => ⟨⟨rfl, fun n hn => by cases hn⟩, fun r _ => ?_⟩) rfl
  show MainView.next total {} o r = {}
  cases o with
  | isSet _ | wait _ _ | start _ => cases ho
  | _ => rfl

/-- One call of another kind. -/
theorem obeys_quietCall {o : AgentOp} (h : ∀ r, MainView.next total {} o r = {}) :
    (agentCall o).Obeys (mainMonitor total) (fun q _ => q = {}) {} :=
  Prog.obeys_perform.mpr ⟨⟨rfl, fun n hn => by cases hn⟩, fun r _ => h r⟩

theorem obeys_openGateUnless (first_sync_completed : Bool) :
    (openGateUnless first_sync_completed).Obeys (mainMonitor total) (fun q _ => q = {}) {} := by
  unfold openGateUnless
  split_ifs
  · rfl
  · exact obeys_quietCall fun _ => rfl

theorem obeys_installSignalHandlers :
    installSignalHandlers.Obeys (mainMonitor total) (fun q _ => q = {}) {} := by
  have hinstall : ((agentCall (.signal .sigterm)).bind fun _ => agentCall (.signal .sigint)).Obeys
      (mainMonitor total) (fun q _ => q = {}) {} := by
    refine (obeys_quietCall fun _ => rfl).bind (fun q _ hq => ?_) fun _ _ => id
    rw [hq]
    exact obeys_quietCall fun _ => rfl
  refine Prog.obeys_tryCatch.mpr (hinstall.mono fun q x hx => ?_)
  cases x with
  | ok u => exact hx
  | error e => cases e <;> exact hx

/-! ## From the first `start` on -/

/-- The view with so many calls left. -/
def leaving (n : Nat) (woken : Bool) : MainView := { left := some n, woken }

/-- One of the calls in which the count goes down and nothing else happens. -/
theorem obeys_leavingCall {o : AgentOp} {n : Nat} {woken : Bool} {F : MainView → Except PyExc o.Ret → Prop}
    (ho : o.isLeaving = true) (hnext : ∀ r, MainView.next total (leaving (n + 1) woken) o r = leaving n woken)
    (hF : ∀ r, Possible o r → F (leaving n woken) r) :
    (agentCall o).Obeys (mainMonitor total) F (leaving (n + 1) woken) := by
  refine Prog.obeys_perform.mpr ⟨⟨rfl, fun m hm => ?_⟩, fun r hr => ?_⟩
  · obtain rfl : n + 1 = m := Option.some.inj hm
    exact ⟨by omega, ho⟩
  · show F (MainView.next total _ o r) r
    rw [hnext r]
    exact hF r hr

/-- Starting the other threads. -/
theorem obeys_startEach (threads : List ThreadSpec) (n : Nat) :
    (startEach threads).Obeys (mainMonitor total) (fun q x => q = leaving n false ∧ x = .ok ())
      (leaving (threads.length + n) false) := by
  induction threads with
  | nil =>
    rw [List.length_nil, Nat.zero_add]
    exact ⟨rfl, rfl⟩
  | cons thread threads ih =>
    have hlength : (thread :: threads).length + n = threads.length + n + 1 := by
      rw [List.length_cons]
      omega
    rw [hlength]
    refine Prog.obeys_bind.mpr (obeys_leavingCall rfl (fun r => rfl) fun r hr => ?_)
    obtain ⟨s, rfl⟩ := hr
    exact ih

theorem obeys_joinEach (threads : List ThreadId) (n : Nat) (woken : Bool) :
    (joinEach threads).Obeys (mainMonitor total) (fun q x => q = leaving n woken ∧ x = .ok ())
      (leaving (threads.length + n) woken) := by
  induction threads with
  | nil =>
    rw [List.length_nil, Nat.zero_add]
    exact ⟨rfl, rfl⟩
  | cons thread threads ih =>
    have hlength : (thread :: threads).length + n = threads.length + n + 1 := by
      rw [List.length_cons]
      omega
    rw [hlength]
    refine Prog.obeys_bind.mpr (obeys_leavingCall rfl (fun r => rfl) fun r hr => ?_)
    obtain ⟨s, rfl⟩ := hr
    exact ih

/-- The look at the flag is the last call. -/
theorem obeys_finalExitCode {q : MainView} (hread : q.read = none) (hwoken : q.woken = true)
    (hleft : ∀ n, q.left = some n → 0 < n) : finalExitCode.Obeys (mainMonitor total) MainEnds q := by
  refine Prog.obeys_bind.mpr (Prog.obeys_perform.mpr ⟨⟨hread, fun n hn => ⟨hleft n hn, rfl⟩⟩, fun r hr => ?_⟩)
  obtain ⟨s, rfl⟩ := hr
  refine ⟨fun _ => ⟨s.auth_error, rfl, rfl⟩, fun hclean => ⟨hwoken, ?_⟩⟩
  show some s.auth_error = some false
  cases hauth : s.auth_error with
  | false => rfl
  | true =>
    have hcode : (if s.auth_error then exitAuthError else exitClean) = exitClean := hclean
    rw [hauth] at hcode
    exact absurd hcode (by decide)

theorem obeys_shutdownAgent (threads : List ThreadSpec) (spare : Nat) :
    (shutdownAgent threads).Obeys (mainMonitor total) MainEnds (leaving (threads.length + (spare + 2) + 1) true) := by
  refine Prog.obeys_bind.mpr (obeys_leavingCall rfl (fun r => rfl) fun r hr => ?_)
  obtain ⟨s, t, rfl⟩ := hr
  rw [Prog.thenObeys_ok]
  have hjoin := @obeys_joinEach total (threads.map ThreadSpec.id) (spare + 2) true
  rw [List.length_map] at hjoin
  refine hjoin.bind (fun q _ hq => ?_) fun _ _ he => by cases he.2
  rw [hq.1]
  refine Prog.obeys_bind.mpr (obeys_leavingCall rfl (fun r => rfl) fun r hr => ?_)
  obtain ⟨s, t, rfl⟩ := hr
  refine obeys_finalExitCode rfl rfl fun n hn => ?_
  obtain rfl : spare + 1 = n := Option.some.inj hn
  omega

/-- The first `start` leaves as many calls as the rest of the run makes, or more. -/
theorem obeys_startAndWait (thread : ThreadSpec) (threads : List ThreadSpec)
    (htotal : 2 * threads.length + 5 ≤ total) :
    (startAndWait (thread :: threads)).Obeys (mainMonitor total) MainEnds {} := by
  obtain ⟨spare, rfl⟩ := Nat.exists_eq_add_of_le htotal
  refine obeys_installSignalHandlers.bind (fun q _ hq => ?_) fun q e hq => congrArg MainView.left hq
  rw [hq]
  have hstart : (startEach (thread :: threads)).Obeys (mainMonitor (2 * threads.length + 5 + spare))
      (fun q x => q = leaving (threads.length + 5 + spare) false ∧ x = .ok ()) {} := by
    refine Prog.obeys_bind.mpr (Prog.obeys_perform.mpr ⟨⟨rfl, fun n hn => by cases hn⟩, fun r hr => ?_⟩)
    obtain ⟨s, rfl⟩ := hr
    rw [Prog.thenObeys_ok]
    have hrest := @obeys_startEach (2 * threads.length + 5 + spare) threads (threads.length + 5 + spare)
    rw [show threads.length + (threads.length + 5 + spare) = 2 * threads.length + 5 + spare by omega] at hrest
    exact hrest
  refine hstart.bind (fun q _ hq => ?_) fun _ _ he => by cases he.2
  rw [hq.1]
  refine Prog.obeys_bind.mpr (Prog.obeys_perform.mpr ⟨⟨rfl, fun n hn => ?_⟩, fun r hr => ?_⟩)
  · obtain rfl : threads.length + 5 + spare = n := Option.some.inj hn
    exact ⟨by omega, rfl⟩
  · -- the wait has no timeout, so it returned because the event is set
    obtain ⟨s, rfl, hset⟩ := hr
    rw [Prog.thenObeys_ok, hset rfl]
    have hshutdown := @obeys_shutdownAgent (2 * threads.length + 5 + spare) (thread :: threads) spare
    rw [show (thread :: threads).length + (spare + 2) + 1 = threads.length + 5 + spare - 1 by
      rw [List.length_cons]
      omega] at hshutdown
    exact hshutdown

/-! ## The whole run -/

/-- How many calls follow the first `start`, at most. -/
def callsAfterStart (setup : Setup) : Nat := 2 * setup.num_workers + 9

theorem length_agentThreads (num_workers : Nat) (client : DashboardClient) (netbox_client : Option NetBoxClient)
    (process_started_at : Rat) :
    (agentThreads num_workers client netbox_client process_started_at).length ≤ num_workers + 3 := by
  cases netbox_client <;> simp [agentThreads]

theorem obeys_buildAndStart (setup : Setup) (result : BootstrapResult) (process_started_at : Rat) :
    (buildAndStart setup result process_started_at).Obeys (mainMonitor (callsAfterStart setup)) MainEnds {} := by
  unfold buildAndStart
  generalize buildNetboxClientIfConfigured setup.env = built
  refine (obeys_quietCall fun _ => rfl).bind (fun q _ hq => ?_) fun q e hq => congrArg MainView.left hq
  rw [hq]
  refine Prog.obeys_bind.mpr (Prog.obeys_ofExcept.mpr ?_)
  cases built with
  | error e => rfl
  | ok netbox_client =>
    rw [Prog.thenObeys_ok]
    refine (obeys_openGateUnless _).bind (fun q _ hq => ?_) fun q e hq => congrArg MainView.left hq
    rw [hq]
    refine obeys_startAndWait _ _ ?_
    have hlength := length_agentThreads setup.num_workers result.client netbox_client process_started_at
    change _ + 1 ≤ _ at hlength
    unfold callsAfterStart
    omega

/-- **What the main thread does**, whatever it is answered. -/
theorem obeys_runAgent (setup : Setup) :
    (runAgent setup).Obeys (mainMonitor (callsAfterStart setup)) MainEnds {} := by
  refine (obeys_startup (startup_agentCall rfl)).bind (fun q process_started_at hq => ?_) fun q e hq =>
    congrArg MainView.left hq
  rw [hq]
  refine (obeys_startup (startup_bootstrap _ _ _ _)).attempt_bind fun q bootstrapped hq => ?_
  rw [hq]
  cases bootstrapped with
  | error e => exact ⟨fun h => absurd rfl h, fun h => absurd h (by decide)⟩
  | ok result =>
    refine (obeys_startup (Prog.only_embed queueCalls (fun _ => rfl) _)).attempt_bind fun q replayed hq => ?_
    rw [hq]
    split_ifs
    · exact ⟨fun h => absurd rfl h, fun h => absurd h (by decide)⟩
    refine Prog.obeys_bind.mpr (Prog.obeys_perform.mpr ⟨⟨rfl, fun n hn => by cases hn⟩, fun r hr => ?_⟩)
    obtain ⟨s, rfl⟩ := hr
    rw [Prog.thenObeys_ok]
    show (if s.shutdown = true then _ else _ : Agent Int).Obeys _ _ { ({} : MainView) with woken := s.shutdown }
    split_ifs with hset
    · exact obeys_finalExitCode rfl hset fun n hn => by cases hn
    rw [Bool.eq_false_iff.mpr hset]
    exact obeys_buildAndStart setup result process_started_at

/-- How the main thread ends in the pool. -/
def MainReturns (q : MainView) (x : Except PyExc (Option Int)) : Prop :=
  ∃ y, MainEnds q y ∧ x = y.map some

theorem obeys_mainProgram (setup : Setup) :
    (mainProgram setup).Obeys (mainMonitor (callsAfterStart setup)) MainReturns {} :=
  (obeys_runAgent setup).bind (fun _ code hq => ⟨.ok code, hq, rfl⟩) fun _ e hq => ⟨.error e, hq, rfl⟩

end CertWatch
