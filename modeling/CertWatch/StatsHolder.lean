/-
# `CertWatch.StatsHolder` — `StatsState` under its lock, field by field.

The agent's threads write the telemetry and read it while the others do.  Each method takes the lock and makes one
access for each field; here the accesses of all threads are interleaved in any way that the lock allows.  A snapshot
never mixes two cycles: it has the fields of the last cycle and of the last sync that were recorded before it.
-/
import CertWatch.Agent
import CertWatch.Lib.Locked

namespace CertWatch

open CertWatch.Lib

/-! ## The fields -/

inductive StatsField where
  | hosts_monitored
  | last_check_completed_at
  | last_check_duration_seconds
  | last_netbox_sync_at
  | checks_succeeded_last_cycle
  | checks_failed_last_cycle
  deriving DecidableEq, Repr

/-- What a field holds, unless it is `None`. -/
abbrev StatsField.Value : StatsField → Type
  | .hosts_monitored => Nat
  | .last_check_completed_at => String
  | .last_check_duration_seconds => Int
  | .last_netbox_sync_at => String
  | .checks_succeeded_last_cycle => Nat
  | .checks_failed_last_cycle => Nat

def StatsState.read (s : StatsState) : (f : StatsField) → Option f.Value
  | .hosts_monitored => s.hosts_monitored
  | .last_check_completed_at => s.last_check_completed_at
  | .last_check_duration_seconds => s.last_check_duration_seconds
  | .last_netbox_sync_at => s.last_netbox_sync_at
  | .checks_succeeded_last_cycle => s.checks_succeeded_last_cycle
  | .checks_failed_last_cycle => s.checks_failed_last_cycle

def StatsState.write (s : StatsState) : (f : StatsField) → f.Value → StatsState
  | .hosts_monitored, v => { s with hosts_monitored := some v }
  | .last_check_completed_at, v => { s with last_check_completed_at := some v }
  | .last_check_duration_seconds, v => { s with last_check_duration_seconds := some v }
  | .last_netbox_sync_at, v => { s with last_netbox_sync_at := some v }
  | .checks_succeeded_last_cycle, v => { s with checks_succeeded_last_cycle := some v }
  | .checks_failed_last_cycle, v => { s with checks_failed_last_cycle := some v }

/-- An access to a field. -/
inductive StatsAccess where
  | read (f : StatsField)
  | write (f : StatsField) (v : f.Value)

/-- What each access returns. -/
abbrev StatsAccess.Ret : StatsAccess → Type
  | .read f => Option f.Value
  | .write _ _ => Unit

abbrev statsAccessSig : Sig := ⟨StatsAccess, StatsAccess.Ret⟩

/-- What it does. -/
def StatsState.access : (o : StatsAccess) → StatsState → Except PyExc o.Ret × StatsState
  | .read f, s => (.ok (s.read f), s)
  | .write f v, s => (.ok (), s.write f v)

/-! ## The methods -/

inductive StatsMethod where
  | recordCheckCycle (cycle : CheckCycleStats)
  | recordNetboxSync (completed_at : String)
  | snapshotForHeartbeat

/-- What each method returns. -/
abbrev StatsMethod.Ret : StatsMethod → Type
  | .snapshotForHeartbeat => Option Dict
  | _ => Unit

abbrev statsSig : Sig := ⟨StatsMethod, StatsMethod.Ret⟩

/-- What is done under the lock. -/
abbrev StatsProg (α : Type) := Prog statsAccessSig PyExc α

abbrev readField (f : StatsField) : StatsProg (Option f.Value) := Prog.perform (S := statsAccessSig) (.read f)

abbrev writeField (f : StatsField) (v : f.Value) : StatsProg Unit := Prog.perform (S := statsAccessSig) (.write f v)

/-- `record_check_cycle`. -/
def recordCheckCycleBody (cycle : CheckCycleStats) : StatsProg Unit := do
  writeField .hosts_monitored cycle.hosts_monitored
  writeField .last_check_completed_at cycle.completed_at
  writeField .last_check_duration_seconds cycle.duration_seconds
  writeField .checks_succeeded_last_cycle cycle.succeeded
  writeField .checks_failed_last_cycle cycle.failed

/-- `record_netbox_sync`. -/
def recordNetboxSyncBody (completed_at : String) : StatsProg Unit := writeField .last_netbox_sync_at completed_at

/-- `snapshot_for_heartbeat`: all fields are read before the dict is built. -/
def snapshotForHeartbeatBody : StatsProg (Option Dict) := do
  let hosts_monitored ← readField .hosts_monitored
  let last_check_completed_at ← readField .last_check_completed_at
  let last_check_duration_seconds ← readField .last_check_duration_seconds
  let last_netbox_sync_at ← readField .last_netbox_sync_at
  let checks_succeeded_last_cycle ← readField .checks_succeeded_last_cycle
  let checks_failed_last_cycle ← readField .checks_failed_last_cycle
  let read : StatsState := {
    hosts_monitored, last_check_completed_at, last_check_duration_seconds, last_netbox_sync_at
    checks_succeeded_last_cycle, checks_failed_last_cycle }
  return read.snapshotForHeartbeat

/-- The methods of `StatsState` under its lock. -/
def statsHolder : Guarded statsSig statsAccessSig PyExc StatsState where
  body
    | .recordCheckCycle cycle => recordCheckCycleBody cycle
    | .recordNetboxSync completed_at => recordNetboxSyncBody completed_at
    | .snapshotForHeartbeat => snapshotForHeartbeatBody
  access := StatsState.access

/-- What the agent's model makes of a call. -/
def statsSpec : AtomicSpec statsSig PyExc StatsState
  | .recordCheckCycle cycle, s => (.ok (), s.recordCheckCycle cycle)
  | .recordNetboxSync completed_at, s => (.ok (), s.recordNetboxSync completed_at)
  | .snapshotForHeartbeat, s => (.ok s.snapshotForHeartbeat, s)

theorem statsHolder_implements : statsHolder.Implements statsSpec := by
  intro m s
  cases m with
  | recordCheckCycle cycle => rfl
  | recordNetboxSync completed_at => rfl
  | snapshotForHeartbeat => rfl

/-! ## What a snapshot has -/

/-- The telemetry of one cycle and one sync. -/
def StatsState.ofRecords (cycle : Option CheckCycleStats) (sync : Option String) : StatsState where
  hosts_monitored := cycle.map CheckCycleStats.hosts_monitored
  last_check_completed_at := cycle.map CheckCycleStats.completed_at
  last_check_duration_seconds := cycle.map CheckCycleStats.duration_seconds
  last_netbox_sync_at := sync
  checks_succeeded_last_cycle := cycle.map CheckCycleStats.succeeded
  checks_failed_last_cycle := cycle.map CheckCycleStats.failed

theorem StatsState.ofRecords_recordCheckCycle (cycle : Option CheckCycleStats) (sync : Option String)
    (new : CheckCycleStats) : (ofRecords cycle sync).recordCheckCycle new = ofRecords (some new) sync := rfl

theorem StatsState.ofRecords_recordNetboxSync (cycle : Option CheckCycleStats) (sync : Option String)
    (completed_at : String) :
    (ofRecords cycle sync).recordNetboxSync completed_at = ofRecords cycle (some completed_at) := rfl

/-- The cycle that a call records. -/
def recordedCycle (c : Call statsSig PyExc) : Option CheckCycleStats :=
  match c.op with
  | .recordCheckCycle cycle => some cycle
  | _ => none

/-- The sync that a call records. -/
def recordedSync (c : Call statsSig PyExc) : Option String :=
  match c.op with
  | .recordNetboxSync completed_at => some completed_at
  | _ => none

/-- The holder has the last cycle and the last sync that were recorded. -/
theorem statsSpec_after (cs : List (Call statsSig PyExc)) :
    statsSpec.after {} cs = StatsState.ofRecords (lastOf recordedCycle cs) (lastOf recordedSync cs) := by
  induction cs using List.reverseRecOn with
  | nil => rfl
  | append_singleton cs c ih =>
    rw [AtomicSpec.after_concat, ih, lastOf_concat, lastOf_concat]
    obtain ⟨o, r⟩ := c
    cases o with
    | recordCheckCycle cycle => exact StatsState.ofRecords_recordCheckCycle _ _ cycle
    | recordNetboxSync completed_at => exact StatsState.ofRecords_recordNetboxSync _ _ completed_at
    | snapshotForHeartbeat => rfl

variable {ι : Type} [DecidableEq ι]

/-- **A snapshot is never torn.**  However the accesses of the threads are interleaved, there is for each call a moment
between its call and its return such that every snapshot has the fields of the last cycle that was recorded before its
moment, and of the last sync. -/
theorem snapshot_never_torn {V : LockedState statsSig statsAccessSig PyExc StatsState ι}
    (h : V.Reachable statsHolder {}) : (∀ pre i r post,
      V.history = pre ++ (i, .effect ⟨.snapshotForHeartbeat, r⟩) :: post → r = .ok (StatsState.ofRecords
        (lastOf recordedCycle (effects pre)) (lastOf recordedSync (effects pre))).snapshotForHeartbeat) ∧
    ∀ i, ∃ cs, ownEvents i V.history = completeStages cs ++ (V.positions i).stages := by
  refine ⟨fun pre i r post hsplit => ?_, h.stages⟩
  have hanswer := h.answer_eq statsHolder_implements hsplit
  rw [statsSpec_after] at hanswer
  exact hanswer

/-- A cycle of three hosts. -/
def threeChecked : CheckCycleStats where
  hosts_monitored := 3
  completed_at := "2026-01-01T00:00:00Z"
  duration_seconds := 4
  succeeded := 2
  failed := 1

/-- The heartbeat asks for its snapshot while the cycle is written, and has all of it. -/
theorem snapshot_never_torn_waiting : ∃ V : LockedState statsSig statsAccessSig PyExc StatsState Bool,
    V.Reachable statsHolder {} ∧ ∃ pre post, V.history = pre ++ (true, .effect ⟨.snapshotForHeartbeat,
      .ok (StatsState.ofRecords (some threeChecked) none).snapshotForHeartbeat⟩) :: post := by
  have h₀ : LockedState.Reachable statsHolder {}
      ({ state := {} } : LockedState statsSig statsAccessSig PyExc StatsState Bool) := .initial
  -- the first field is written
  have h₁ := h₀.step (.call (i := false) (StatsMethod.recordCheckCycle threeChecked) rfl)
  have h₂ := h₁.step (.acquire (i := false) rfl rfl)
  have h₃ := h₂.step (.access (i := false) rfl)
  have h₄ := h₃.step (.call (i := true) StatsMethod.snapshotForHeartbeat rfl)
  -- and the others, while the heartbeat waits
  have h₅ := h₄.step (.access (i := false) rfl)
  have h₆ := h₅.step (.access (i := false) rfl)
  have h₇ := h₆.step (.access (i := false) rfl)
  have h₈ := h₇.step (.access (i := false) rfl)
  have h₉ := h₈.step (.release (i := false) (m := StatsMethod.recordCheckCycle threeChecked) (x := .ok ()) rfl)
  have h₁₀ := h₉.step (.acquire (i := true) rfl rfl)
  have h₁₁ := h₁₀.step (.access (i := true) rfl)
  have h₁₂ := h₁₁.step (.access (i := true) rfl)
  have h₁₃ := h₁₂.step (.access (i := true) rfl)
  have h₁₄ := h₁₃.step (.access (i := true) rfl)
  have h₁₅ := h₁₄.step (.access (i := true) rfl)
  have h₁₆ := h₁₅.step (.access (i := true) rfl)
  have h₁₇ := h₁₆.step (.release (i := true) (m := StatsMethod.snapshotForHeartbeat) (x := .ok _) rfl)
  obtain ⟨hwhole, -⟩ := snapshot_never_torn h₁₇
  have hsnapshot := hwhole [(false, .called (.recordCheckCycle threeChecked)), (true, .called .snapshotForHeartbeat),
    (false, .effect ⟨.recordCheckCycle threeChecked, .ok ()⟩)] true _ [] rfl
  exact ⟨_, h₁₇, [_, _, _], [], congrArg (fun r => [_, _, _, (true, Stage.effect ⟨_, r⟩)]) hsnapshot⟩

end CertWatch
