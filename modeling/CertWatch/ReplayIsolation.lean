/-
# `CertWatch.ReplayIsolation` — when one file's failure stays that file's.

Replay promises to quarantine what is corrupt and to go on.  It does so for bytes that are no JSON and for
documents that are no object; a file that is not UTF-8 or that `json.load` refuses otherwise, a record with a
missing or ill-typed field or a counter that cannot be written, and an answer that the retry loop cannot digest
instead raise through the loop, and every later report waits for the next start, where the same file raises again.
-/
import CertWatch.ScriptedReplay

namespace CertWatch

open CertWatch.Lib

/-- One replay returns a result and sends every well-formed report that is not an orphan. -/
def Isolated (script : Script) (client : DashboardClient) (shutdown_event : Bool) (registered_at : String)
    (w : World) (fuel : Nat) : Prop :=
  let out := (replayPendingReports client shutdown_event fuel registered_at).run (handle script.env) w
  (∃ result, out.1 = some (.ok result)) ∧
  ∀ p d, suffix p = ".json".toList → HoldsRecord p d w → wellFormed d = true →
    isOrphan d registered_at = .ok false →
      ∃ sub ∈ out.2.submissions, sub.path = p ∧ wireBody (wirePayload d) = .ok sub.body

/-- **Failure isolation, exactly.**  With enough fuel for the retriable answers, a replay returns and sends
every well-formed report that is not an orphan if and only if every report file is contained: neither its
content nor the answer that settles it raises past the body of the loop. -/
theorem isolated_iff_everyContained (script : Script) (client : DashboardClient) (shutdown_event : Bool)
    (registered_at : String) (dir : AList fun _ : String => File) (corrupt : AList fun _ : String => Content)
    (time : Nat) :
    (∃ bound, ∀ fuel, bound ≤ fuel →
      Isolated script client shutdown_event registered_at (World.onDisk dir corrupt time) fuel) ↔
    ∀ p f, suffix p = ".json".toList → dir.lookup p = some f →
      Contained script registered_at p f.content := by
  obtain ⟨bound, hsettles⟩ := replay_settles script client shutdown_event registered_at
    (show (World.onDisk dir corrupt time).submissions = [] from rfl)
  constructor
  · rintro ⟨bound', hiso⟩
    by_contra hnot
    obtain ⟨-, hraise⟩ := hsettles (max bound bound') (Nat.le_max_left _ _)
    obtain ⟨⟨result, hresult⟩, -⟩ := hiso (max bound bound') (Nat.le_max_right _ _)
    exact (hraise hnot).not_returns (P := fun _ => True) ⟨result, hresult, trivial⟩
  · intro hall
    refine ⟨bound, fun fuel hle => ?_⟩
    have hret := (hsettles fuel hle).1 hall
    refine ⟨?_, fun p d hs hd _ horphan => ?_⟩
    · obtain ⟨result, hresult, -⟩ := hret
      exact ⟨result, hresult⟩
    · obtain ⟨f, hf, hc⟩ := hd
      exact replay_returned rfl hret hs hf ⟨hc, horphan⟩

/-! ## A file that is not UTF-8 -/

/-- A well-formed report behind an older file with a byte that is no UTF-8. -/
def behindUndecodable : AList fun _ : String => File :=
  (AList.singleton "a.json" ⟨.refused .undecodable, 1⟩).insert "b.json"
    ⟨.json (.obj [("report_id", .str "b"), ("report_type", .str "scheduled"),
      ("started_at", .str "2026-05-02T14:30:00Z"), ("completed_at", .str "2026-05-02T14:30:01Z"),
      ("action_id", .null), ("checks", .arr []), ("_persisted_at", .str "2026-05-02T14:30:01Z"),
      ("_attempts", .int 0)]), 2⟩

/-- **`UnicodeDecodeError` is no `JSONDecodeError`**: it leaves `load_pending_report` as it is, and the
replay with it. -/
theorem undecodable_blocks_replay :
    ¬ ∀ (script : Script) (client : DashboardClient) (shutdown_event : Bool) (registered_at : String)
        (dir : AList fun _ : String => File) (corrupt : AList fun _ : String => Content) (time : Nat),
        ∃ bound, ∀ fuel, bound ≤ fuel →
          Isolated script client shutdown_event registered_at (World.onDisk dir corrupt time) fuel := by
  intro hclaim
  obtain ⟨bound', hiso⟩ := hclaim acceptAll someClient true "2026-05-01T00:00:00Z"
    behindUndecodable ∅ 0
  obtain ⟨bound, hsettles⟩ := replay_settles acceptAll someClient true
    "2026-05-01T00:00:00Z" (show (World.onDisk behindUndecodable ∅ 0).submissions = [] from rfl)
  obtain ⟨-, hraise⟩ := hsettles (max bound bound') (Nat.le_max_left _ _)
  obtain ⟨⟨result, hresult⟩, -⟩ := hiso (max bound bound') (Nat.le_max_right _ _)
  refine (hraise fun hall => ?_).not_returns (P := fun _ => True) ⟨result, hresult, trivial⟩
  exact hall "a.json" ⟨.refused .undecodable, 1⟩ (by decide) rfl

end CertWatch
