/-
# `CertWatch.Quarantine` — which files replay moves to `corrupt/`.

`load_pending_report` raises one exception for a file that cannot be parsed and for a file that cannot be
read, and the replay loop quarantines on it.  So a read error in the loop's own scan takes a well-formed
report out of the queue for good, while the same error anywhere else is harmless: over any runs of replay,
with kills and failing writes, nothing well-formed is ever moved unless such a scan failed.
-/
import CertWatch.QueueSystem

namespace CertWatch

open CertWatch.Lib

/-! ## What stays in the queue -/

/-- The bytes are a well-formed pending report. -/
def Content.wellFormed : Content → Bool
  | .json (.obj d) => CertWatch.wellFormed d
  | _ => false

/-- From `w₀` on, every well-formed report stays in the queue, well-formed and with its wire fields, until
the dashboard has ended it, and nothing well-formed enters `corrupt/`. -/
structure KeptInQueue (w₀ w : World) : Prop where
  queue : ∀ p d, suffix p = ".json".toList → HoldsRecord p d w₀ → wellFormed d = true →
    (∃ d', HoldsRecord p d' w ∧ wellFormed d' = true ∧ wirePayload d' = wirePayload d) ∨ Answered p w
  corrupt : ∀ target c, w.corrupt.lookup target = some c → c.wellFormed = true →
    w₀.corrupt.lookup target = some c

theorem HoldsRecord.congr {p : String} {d : Dict} {w w' : World} (h : HoldsRecord p d w)
    (hl : w'.lookup p = w.lookup p) : HoldsRecord p d w' := by
  obtain ⟨f, hf, hc⟩ := h
  exact ⟨f, hl.trans hf, hc⟩

theorem HoldsRecord.unique {p : String} {d e : Dict} {w : World} (h : HoldsRecord p d w)
    (h' : HoldsRecord p e w) : d = e := by
  obtain ⟨f, hf, hc⟩ := h
  obtain ⟨g, hg, hc'⟩ := h'
  obtain rfl := Option.some.inj (hf.symm.trans hg)
  rw [hc] at hc'
  exact Json.obj.inj (Content.json.inj hc')

/-- What one step leaves of a well-formed report. -/
def StillQueued (p : String) (wire : Dict) (w : World) : Prop :=
  (∃ d, HoldsRecord p d w ∧ wellFormed d = true ∧ wirePayload d = wire) ∨ Answered p w

theorem StillQueued.congr {p : String} {wire : Dict} {w w' : World} (hl : w'.lookup p = w.lookup p)
    (hlog : w.submissions <+: w'.submissions) (h : StillQueued p wire w) : StillQueued p wire w' := by
  rcases h with ⟨d, hd, hrest⟩ | h
  · exact Or.inl ⟨d, hd.congr hl, hrest⟩
  · exact Or.inr (h.mono hlog)

/-- The retry loop keeps its own report queued. -/
theorem RetryStep.stillQueued {p : String} {wire wire' : Dict} {w w' : World} (h : RetryStep p wire' w w')
    (hq : StillQueued p wire w) : StillQueued p wire w' := by
  cases h with
  | quiet hquiet =>
    exact hq.congr (hquiet.lookup p (ne_tmpFile p)) (hquiet.submissions ▸ List.prefix_refl _)
  | @recount d n f hd hf =>
    rcases hq with ⟨e, he, hwf, hwire⟩ | ha
    · obtain rfl := hd.unique he
      refine Or.inl ⟨_, ⟨f, World.lookup_install_self _ _, hf⟩, wellFormed_recount n hwf, ?_⟩
      rw [wirePayload_recount, hwire]
    · exact Or.inr (ha.mono (List.prefix_refl _))
  | @call sub => exact StillQueued.congr (World.lookup_submitted w sub) (List.prefix_append _ _) hq
  | delete ha => exact Or.inr (ha.mono (List.prefix_refl _))

theorem RetryStep.corrupt {p : String} {wire : Dict} {w w' : World} (h : RetryStep p wire w w') :
    w'.corrupt = w.corrupt := by
  cases h with
  | quiet hq => exact hq.corrupt
  | recount => rfl
  | call => rfl
  | delete => rfl

/-! ## Replays whose scans read every well-formed report -/

/-- Replays only; an `OSError` may hit any read except the scan's read of a well-formed report. -/
def readableScans : Scenario :=
  ⟨fun site c => ¬ (site = .scan ∧ c.wellFormed = true), False⟩

/-- Unreadable content is not a well-formed report. -/
theorem not_wellFormed_of_unreadable {c : Content} (h : Unreadable readableScans.readFails .scan c) :
    c.wellFormed = false := by
  rcases h with rfl | ⟨v, rfl, hv⟩ | h
  · rfl
  · cases v with
    | obj d => cases hv
    | _ => rfl
  · exact Bool.eq_false_iff.mpr fun hwf => h ⟨rfl, hwf⟩

theorem StillQueued.replay {p : String} {wire : Dict} {w w' : World} (hp : suffix p = ".json".toList)
    (h : ReplayStep readableScans.readFails w w') (hq : StillQueued p wire w) : StillQueued p wire w' := by
  obtain ⟨id, hid⟩ := exists_stem_of_suffix (show suffix p = '.' :: ['j', 's', 'o', 'n'] from hp)
  cases h with
  | still => exact hq
  | @stray _ n hn =>
    have hne : p ≠ n := by
      rintro rfl
      rw [hp] at hn
      exact absurd hn (by decide)
    exact hq.congr (World.lookup_remove_ne _ hne) (List.prefix_refl _)
  | @path q _ _ _ hstep =>
    by_cases heq : p = q
    · subst heq
      cases hstep with
      | retry hr => exact hr.stillQueued hq
      | @quarantine _ target f hf hbad =>
        rcases hq with ⟨d, ⟨g, hg, hc⟩, hwf, -⟩ | ha
        · -- a queued report is well-formed, so its scan did not fail
          obtain rfl := Option.some.inj (hf.symm.trans hg)
          have hnot := not_wellFormed_of_unreadable hbad
          rw [hc] at hnot
          rw [show Content.wellFormed (.json (.obj d)) = wellFormed d from rfl, hwf] at hnot
          cases hnot
        · exact Or.inr (ha.mono (List.prefix_refl _))
    · have hl := hstep.untouched id (by rw [show reportFile id = p from hid.symm]; exact heq)
      rw [show reportFile id = p from hid.symm] at hl
      refine hq.congr hl ?_
      cases hstep with
      | retry hr => exact hr.log
      | quarantine => exact List.prefix_refl _

theorem corrupt_replay {w w' : World} (h : ReplayStep readableScans.readFails w w') {target : String}
    {c : Content} (hc : w'.corrupt.lookup target = some c) (hwf : c.wellFormed = true) :
    w.corrupt.lookup target = some c := by
  cases h with
  | still => exact hc
  | stray => exact hc
  | path _ hstep =>
    cases hstep with
    | retry hr => rwa [hr.corrupt] at hc
    | @quarantine _ target' f hf hbad =>
      by_cases heq : target = target'
      · subst heq
        rw [show (w.quarantine _ target f).corrupt.lookup target = some f.content from
          AList.lookup_insert _] at hc
        obtain rfl := Option.some.inj hc
        rw [not_wellFormed_of_unreadable hbad] at hwf
        cases hwf
      · rwa [show (w.quarantine _ target' f).corrupt.lookup target = w.corrupt.lookup target from
          AList.lookup_insert_ne heq] at hc

/-- **Only corrupt content is quarantined, as long as the scans read the well-formed files.**  Over any
sequence of replays on any directory, with kills, failing writes and read errors everywhere else. -/
theorem kept_in_queue_of_readable_scans {dir : AList fun _ : String => File}
    {corrupt : AList fun _ : String => Content} {time : Nat} {s : Sys}
    (h : Sys.Reachable readableScans (World.onDisk dir corrupt time) s) :
    KeptInQueue (World.onDisk dir corrupt time) s.world := by
  refine h.replayInvariant id ?_ ?_ ?_
  · exact ⟨fun p d _ hd hwf => Or.inl ⟨d, hd, hwf, rfl⟩, fun _ _ hc _ => hc⟩
  · rintro w w' ⟨t, -, rfl⟩ ⟨hqueue, hcorrupt⟩
    exact ⟨hqueue, hcorrupt⟩
  · rintro w w' hstep ⟨hqueue, hcorrupt⟩
    refine ⟨fun p d hp hd hwf => ?_, fun target c hc hwf => ?_⟩
    · exact StillQueued.replay hp hstep (hqueue p d hp hd hwf)
    · exact hcorrupt target c (corrupt_replay hstep hc hwf) hwf

/-! ## One transient error -/

/-- A directory with one report as `save_pending_report` left it. -/
def oneReport : AList fun _ : String => File :=
  .singleton "r1.json" ⟨.json (.obj [("report_id", .str "r1"), ("report_type", .str "scheduled"),
    ("started_at", .str "2026-05-02T14:30:00Z"), ("completed_at", .str "2026-05-02T14:30:01Z"),
    ("action_id", .null), ("checks", .arr []), ("_persisted_at", .str "2026-05-02T14:30:01Z"),
    ("_attempts", .int 0)]), 7⟩

/-- The dashboard is down, and `open` fails once with EMFILE at the given read of the report. -/
def tooManyOpenFiles (failing : ReadSite) : Surroundings where
  reply _ _ := none
  readFault site _ := if site = failing then some ⟨.other "OSError", "Too many open files"⟩ else none

/-- The error strikes the re-read of `increment_attempts`: the report stays. -/
theorem kept_in_queue_increment_fault :
    ∃ s, Sys.Reachable readableScans (World.onDisk oneReport ∅ 0) s ∧
      KeptInQueue (World.onDisk oneReport ∅ 0) s.world := by
  have hinit : Sys.Reachable readableScans (World.onDisk oneReport ∅ 0)
      (Sys.init (World.onDisk oneReport ∅ 0)) := .refl
  have hreplay := hinit.scriptedReplay rfl (tooManyOpenFiles .increment)
    (by
      intro site name c hfault hscan
      obtain ⟨rfl, -⟩ := hscan
      cases hfault)
    someClient true 1 "2026-05-01T00:00:00Z"
  exact ⟨_, hreplay, kept_in_queue_of_readable_scans hreplay⟩

/-- What the replay leaves when the error strikes its scan. -/
def afterScanFault : World :=
  (Sys.runEnd (tooManyOpenFiles .scan)
    (replayPendingReports someClient true 1 "2026-05-01T00:00:00Z")
    (World.onDisk oneReport ∅ 0)).2

/-- **The same error in the replay loop's scan ends the report.**  `load_pending_report` reports it as a
corrupt file, and the well-formed report is moved to `corrupt/` without having been sent. -/
theorem scan_fault_quarantines :
    ¬ ∀ (dir : AList fun _ : String => File) (corrupt : AList fun _ : String => Content) (time : Nat)
        (s : Sys), Sys.Reachable ⟨fun _ _ => True, False⟩ (World.onDisk dir corrupt time) s →
        KeptInQueue (World.onDisk dir corrupt time) s.world := by
  intro hclaim
  have hinit : Sys.Reachable ⟨fun _ _ => True, False⟩ (World.onDisk oneReport ∅ 0)
      (Sys.init (World.onDisk oneReport ∅ 0)) := .refl
  have hreplay := hinit.scriptedReplay rfl (tooManyOpenFiles .scan) (fun _ _ _ _ => trivial)
    someClient true 1 "2026-05-01T00:00:00Z"
  have hkept := (hclaim _ _ _ _ hreplay).queue "r1.json" _ (by decide) ⟨_, rfl, rfl⟩ rfl
  rcases hkept with ⟨d, ⟨f, hf, -⟩, -⟩ | ⟨sub, hsub, -⟩
  · have hgone : afterScanFault.lookup "r1.json" = none := by decide
    cases hgone.symm.trans hf
  · have hunsent : afterScanFault.submissions = [] := by decide
    have hmem : sub ∈ afterScanFault.submissions := hsub
    rw [hunsent] at hmem
    cases hmem

end CertWatch
