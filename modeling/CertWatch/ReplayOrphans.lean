/-
# `CertWatch.ReplayOrphans` — the orphan test, and the two clocks it compares.

Replay takes a report for an orphan when its `_persisted_at`, a reading of the agent's clock, sorts before
`registered_at`, a reading of the dashboard's.  With one clock and a second between the events that tells
the old identity's reports from the current one's; with an offset between the clocks, or within one second,
it does not.
-/
import CertWatch.ScriptedReplay

namespace CertWatch

open CertWatch.Lib

/-! ## Histories of one data directory -/

/-- A registration, as the two clocks saw it: the agent's clock when it happened, and the dashboard's, which
stamps `registered_at` and is `offset` microseconds ahead. -/
structure Registration (offset : Int) where
  agent : Instant
  dashboard : Instant
  skew : (dashboard.us : Int) = agent.us + offset

/-- A report that was persisted, with the agent's clock at that time. -/
structure Persisted where
  agent : Instant
  args : ReportArgs

/-- What happens to a data directory. -/
inductive Event (offset : Int) where
  | registered (r : Registration offset)
  | persisted (r : Persisted)

/-- When it happened, by the agent's clock. -/
def Event.at {offset : Int} : Event offset → Nat
  | .registered r => r.agent.us
  | .persisted r => r.agent.us

/-- The report that an event leaves in the queue. -/
def Event.report? {offset : Int} : Event offset → Option Persisted
  | .registered _ => none
  | .persisted r => some r

/-- A history: anything up to the registration that issued the current credentials, and the reports
persisted since.  Events are in order of time and report ids are not used twice. -/
structure History (offset : Int) where
  earlier : List (Event offset)
  current : Registration offset
  since : List Persisted
  inOrder : (earlier.map Event.at ++ current.agent.us :: since.map fun r => r.agent.us).Pairwise (· ≤ ·)
  distinct : ((earlier.filterMap Event.report? ++ since).map fun r => r.args.report_id).Nodup
  named : ∀ r ∈ earlier.filterMap Event.report? ++ since,
    r.args.report_id ≠ "" ∧ '/' ∉ r.args.report_id.toList

namespace History

variable {offset : Int}

/-- The reports persisted before the current credentials were issued. -/
def old (h : History offset) : List Persisted := h.earlier.filterMap Event.report?

/-- `registered_at` of the current credentials. -/
def registeredAt (h : History offset) : String := h.current.dashboard.iso

end History

/-! ## The directory after a history -/

/-- `save_pending_report` at the time the agent's clock shows. -/
def persist (w : World) (r : Persisted) : World :=
  ((savePendingReport r.args.report_id r.args.payload).run (handle { reply := fun _ _ => none })
    (w.setTime r.agent.us)).2

/-- The data directory that a history leaves. -/
def History.world {offset : Int} (h : History offset) : World :=
  (h.old ++ h.since).foldl persist (World.fresh 0)

/-- The record of a report. -/
def Persisted.record (r : Persisted) : Dict := persistedRecord r.args.payload r.agent.iso

theorem persist_eq (w : World) (r : Persisted) :
    persist w r = (w.setTime r.agent.us).written (reportFile r.args.report_id) r.record := by
  have hwrite := @run_atomicWriteJson { reply := fun _ _ => none } (w.setTime r.agent.us)
    (reportFile r.args.report_id) r.record rfl
  have hrun : (savePendingReport r.args.report_id r.args.payload).run (handle { reply := fun _ _ => none })
      (w.setTime r.agent.us) = (some (.ok (reportFile r.args.report_id)),
        (w.setTime r.agent.us).written (reportFile r.args.report_id) r.record) := by
    refine (run_queueCall_bind _ rfl).trans ((run_queueCall_bind _ rfl).trans ?_)
    rw [Prog.bind_eq, Prog.run_bind]
    show Prog.andThen _ _ ((atomicWriteJson (reportFile r.args.report_id) r.record).run _ _) = _
    rw [hwrite]
    rfl
  rw [persist, hrun]

theorem lookup_written_ne (w : World) {p n : String} (payload : Dict) (hn : suffix n = ".json".toList)
    (hne : n ≠ p) (hp : p ≠ "") : (w.written p payload).lookup n = w.lookup n := by
  have htmp : n ≠ tmpFile p := by
    rintro rfl
    rw [suffix_tmpFile hp] at hn
    exact absurd hn (by decide)
  rw [World.written, World.lookup_install_ne _ _ hne htmp, World.lookup_writeOpen_ne _ _ htmp,
    World.lookup_write_ne _ _ htmp]

theorem reportFile_ne_empty (id : String) : reportFile id ≠ "" := by
  intro h
  have hlen := congrArg (fun s => s.toList.length) h
  simp [reportFile, String.toList_append] at hlen

/-- **What is in the directory**: each report under its name, and no other report file. -/
theorem lookup_persistAll (reports : List Persisted) (w : World)
    (hdistinct : (reports.map fun r => r.args.report_id).Nodup) (hnamed : ∀ r ∈ reports, r.args.report_id ≠ "") :
    (∀ r ∈ reports, HoldsRecord (reportFile r.args.report_id) r.record (reports.foldl persist w)) ∧
    (∀ n, suffix n = ".json".toList → (∀ r ∈ reports, n ≠ reportFile r.args.report_id) →
      (reports.foldl persist w).lookup n = w.lookup n) ∧
    (reports.foldl persist w).submissions = w.submissions := by
  induction reports generalizing w with
  | nil => exact ⟨nofun, fun _ _ _ => rfl, rfl⟩
  | cons r rs ih =>
    rw [List.map_cons, List.nodup_cons] at hdistinct
    obtain ⟨hholds, hother, hlog⟩ := ih (persist w r) hdistinct.2 fun q hq => hnamed q (List.mem_cons_of_mem r hq)
    have hsuffix : suffix (reportFile r.args.report_id) = ".json".toList :=
      suffix_reportFile (hnamed r List.mem_cons_self)
    rw [List.foldl_cons]
    refine ⟨fun q hq => ?_, fun n hn hne => ?_, ?_⟩
    · rcases List.mem_cons.mp hq with rfl | hq
      · -- written first, and no later report has its name
        have hkeep : ∀ s ∈ rs, reportFile q.args.report_id ≠ reportFile s.args.report_id := by
          intro s hs heq
          exact hdistinct.1 (List.mem_map.mpr ⟨s, hs, (reportFile_injective heq).symm⟩)
        obtain ⟨f, hf, hc⟩ := holdsRecord_written (w.setTime q.agent.us) (reportFile q.args.report_id) q.record
        refine ⟨f, ?_, hc⟩
        rw [hother _ hsuffix hkeep, persist_eq, hf]
      · exact hholds q hq
    · rw [hother n hn fun q hq => hne q (List.mem_cons_of_mem r hq), persist_eq,
        lookup_written_ne _ _ hn (hne r List.mem_cons_self) (reportFile_ne_empty _)]
      rfl
    · rw [hlog, persist_eq, submissions_written]
      rfl

namespace History

variable {offset : Int} (h : History offset)

theorem holdsRecord_world {r : Persisted} (hr : r ∈ h.old ++ h.since) :
    HoldsRecord (reportFile r.args.report_id) r.record h.world :=
  (lookup_persistAll (h.old ++ h.since) (World.fresh 0) h.distinct fun s hs => (h.named s hs).1).1 r hr

theorem exists_report_of_lookup {n : String} {f : File} (hn : suffix n = ".json".toList)
    (hf : h.world.lookup n = some f) : ∃ r ∈ h.old ++ h.since, n = reportFile r.args.report_id := by
  by_contra hnone
  have hother := (lookup_persistAll (h.old ++ h.since) (World.fresh 0) h.distinct
    fun s hs => (h.named s hs).1).2.1 n hn fun r hr heq => hnone ⟨r, hr, heq⟩
  rw [show h.world.lookup n = _ from hother, World.lookup_fresh] at hf
  cases hf

theorem submissions_world : h.world.submissions = [] :=
  (lookup_persistAll (h.old ++ h.since) (World.fresh 0) h.distinct fun s hs => (h.named s hs).1).2.2

end History

/-! ## The orphan test -/

/-- The test compares the two stamps. -/
theorem isOrphan_record (r : Persisted) (registered_at : Instant) :
    isOrphan r.record registered_at.iso =
      .ok (decide (wholeSeconds r.agent.us < wholeSeconds registered_at.us)) := by
  have hget : Dict.getD r.record "_persisted_at" (.str "") = .str r.agent.iso := by
    rw [Persisted.record, persistedRecord, Dict.getD, Dict.get?_set_ne _ _ (by decide), Dict.get?_set_self]
    rfl
  have htruthy : (Json.str r.agent.iso).truthy = true := by
    simpa [Json.truthy, Instant.iso] using utcNowIso_ne_empty r.agent.us
  simp only [isOrphan, hget, htruthy, if_true, Json.ltStr, Instant.iso_lt_iff]

/-- A report is sent when the agent's clock, at the time it was persisted, showed no earlier second than the
dashboard's stamp. -/
theorem due_record_iff {r : Persisted} {f : File} (hc : f.content = .json (.obj r.record))
    (registered_at : Instant) :
    (∃ d, Due registered_at.iso d f.content) ↔ ¬ wholeSeconds r.agent.us < wholeSeconds registered_at.us := by
  constructor
  · rintro ⟨d, hd, ho⟩ hlt
    rw [hc] at hd
    obtain rfl := Json.obj.inj (Content.json.inj hd)
    rw [isOrphan_record, decide_eq_true hlt] at ho
    cases ho
  · intro hle
    refine ⟨r.record, hc, ?_⟩
    rw [isOrphan_record, decide_eq_false hle]

/-! ## Which identity a report is sent under -/

/-- A replay after the history follows the identity: whatever becomes of it, it sends no report from before
the current credentials, and if it returns it has sent every report from since. -/
def FollowsIdentity {offset : Int} (h : History offset) (script : Script) (client : DashboardClient)
    (shutdown_event : Bool) (fuel : Nat) : Prop :=
  let out := (replayPendingReports client shutdown_event fuel h.registeredAt).run (handle script.env) h.world
  (∀ r ∈ h.old, ∀ sub ∈ out.2.submissions, sub.path ≠ reportFile r.args.report_id) ∧
  ((∃ result, out.1 = some (.ok result)) →
    ∀ r ∈ h.since, ∃ sub ∈ out.2.submissions, sub.path = reportFile r.args.report_id ∧ sub.body = r.args.body)

/-- The stamps tell the identities apart: the agent's clock showed no earlier second than the dashboard's
registration stamp for every report from since, and an earlier one for every report from before. -/
def StampsTellApart {offset : Int} (h : History offset) : Prop :=
  (∀ r ∈ h.since, wholeSeconds h.current.dashboard.us ≤ wholeSeconds r.agent.us) ∧
  (∀ r ∈ h.old, wholeSeconds r.agent.us < wholeSeconds h.current.dashboard.us)

theorem wirePayload_record (r : Persisted) : wirePayload r.record = r.args.payload := by
  rw [Persisted.record, wirePayload_persistedRecord, wirePayload_payload]

theorem sendable_record (r : Persisted) (attempts : Nat) : Sendable acceptAll attempts r.record := by
  refine ⟨⟨0, ?_, fun _ _ => rfl⟩, @requiredFields_of_wireBody _ r.args.body ?_⟩
  · rw [Persisted.record, persistedRecord, Dict.getD, Dict.get?_set_self]
    rfl
  · rw [wirePayload_record, wireBody_payload]

/-- Every report file of a history is contained, when the dashboard accepts. -/
theorem everyContained_world {offset : Int} (h : History offset) :
    EveryContained acceptAll h.registeredAt h.world := by
  intro n f hn hf
  obtain ⟨r, hr, rfl⟩ := h.exists_report_of_lookup hn hf
  obtain ⟨g, hg, hc⟩ := h.holdsRecord_world hr
  obtain rfl := Option.some.inj (hf.symm.trans hg)
  rw [hc]
  have horphan := isOrphan_record r h.current.dashboard
  cases hlt : decide (wholeSeconds r.agent.us < wholeSeconds h.current.dashboard.us) with
  | true =>
    rw [hlt] at horphan
    exact Or.inl horphan
  | false =>
    rw [hlt] at horphan
    exact Or.inr ⟨horphan, sendable_record r _, Or.inl ⟨by decide, [], rfl⟩⟩

/-- A report with an earlier stamp is not sent. -/
theorem not_sent {offset : Int} (h : History offset) {script : Script} {client : DashboardClient}
    {shutdown_event : Bool} {fuel : Nat} {r : Persisted} (hr : r ∈ h.old ++ h.since)
    (hlt : wholeSeconds r.agent.us < wholeSeconds h.current.dashboard.us) :
    Unsent (reportFile r.args.report_id) ((replayPendingReports client shutdown_event fuel h.registeredAt).run
      (handle script.env) h.world).2 := by
  obtain ⟨f, hf, hc⟩ := h.holdsRecord_world hr
  refine replay_skips h.submissions_world (suffix_reportFile (h.named r hr).1) hf fun d hd => ?_
  exact (due_record_iff hc h.current.dashboard).mp ⟨d, hd⟩ hlt

/-- A report with no earlier stamp is sent by every replay that returns. -/
theorem sent {offset : Int} (h : History offset) {script : Script} {client : DashboardClient}
    {shutdown_event : Bool} {fuel : Nat} {r : Persisted} (hr : r ∈ h.old ++ h.since)
    (hle : wholeSeconds h.current.dashboard.us ≤ wholeSeconds r.agent.us)
    (hret : Returns script (replayPendingReports client shutdown_event fuel h.registeredAt) h.world
      fun _ => True) :
    ∃ sub ∈ ((replayPendingReports client shutdown_event fuel h.registeredAt).run
      (handle script.env) h.world).2.submissions,
        sub.path = reportFile r.args.report_id ∧ sub.body = r.args.body := by
  obtain ⟨f, hf, hc⟩ := h.holdsRecord_world hr
  obtain ⟨d, hd⟩ := (due_record_iff hc h.current.dashboard).mpr (Nat.not_lt.mpr hle)
  obtain ⟨sub, hsub, hpath, hbody⟩ :=
    replay_returned h.submissions_world hret (suffix_reportFile (h.named r hr).1) hf hd
  refine ⟨sub, hsub, hpath, ?_⟩
  obtain rfl : r.record = d := Json.obj.inj (Content.json.inj (hc.symm.trans hd.1))
  rw [wirePayload_record, wireBody_payload] at hbody
  exact (Except.ok.inj hbody).symm

/-- A history after which the identity is followed, by the clocks: a replay against a dashboard that accepts
everything returns, so it shows both directions. -/
theorem stampsTellApart_of_follows {offset : Int} {h : History offset}
    (hfollows : ∀ fuel, FollowsIdentity h acceptAll someClient true fuel) :
    StampsTellApart h := by
  obtain ⟨bound, hsettles⟩ := replay_settles acceptAll someClient true h.registeredAt
    h.submissions_world
  have hret := (hsettles bound (Nat.le_refl _)).1 (everyContained_world h)
  obtain ⟨hold, hsince⟩ := hfollows bound
  refine ⟨fun r hr => ?_, fun r hr => ?_⟩
  · by_contra hlt
    obtain ⟨sub, hsub, hpath, -⟩ := hsince (hret.imp fun _ => And.left) r hr
    exact not_sent h (List.mem_append_right _ hr) (Nat.not_le.mp hlt) sub hsub hpath
  · by_contra hge
    obtain ⟨sub, hsub, hpath, -⟩ := sent h (List.mem_append_left _ hr) (Nat.not_lt.mp hge) hret
    exact hold r hr sub hsub hpath

/-- **The orphan test follows the identity exactly when the stamps do.** -/
theorem followsIdentity_iff_stampsTellApart {offset : Int} (h : History offset) :
    (∀ script client shutdown_event fuel, FollowsIdentity h script client shutdown_event fuel) ↔
      StampsTellApart h := by
  constructor
  · intro hfollows
    exact stampsTellApart_of_follows (hfollows acceptAll _ _)
  · rintro ⟨hsince, hold⟩ script client shutdown_event fuel
    refine ⟨fun r hr => not_sent h (List.mem_append_left _ hr) (hold r hr), fun hret r hr => ?_⟩
    refine sent h (List.mem_append_right _ hr) (hsince r hr) ?_
    obtain ⟨result, hresult⟩ := hret
    exact ⟨result, hresult, trivial⟩

/-! ## A dashboard whose clock is ahead -/

/-- A minute after noon of 2 May 2026 by the agent's clock, and the same minute an hour later. -/
def minutePastNoon : Instant := ⟨63913320060000000, by decide, by decide⟩

def noonReading : Instant := ⟨63913320000000000, by decide, by decide⟩

def oneReading : Instant := ⟨63913323600000000, by decide, by decide⟩

/-- The dashboard's clock is an hour ahead; a report is persisted a minute after the first registration. -/
def hourAhead : History 3600000000 where
  earlier := []
  current := ⟨noonReading, oneReading, by decide⟩
  since := [⟨minutePastNoon, ⟨"r1", "scheduled", "2026-05-02T12:01:00Z", "2026-05-02T12:01:00Z", none, []⟩⟩]
  inOrder := by decide
  distinct := by decide
  named := by decide

/-- **An offset between the clocks makes a current report an orphan**: the agent's own report of a minute
after its registration carries a stamp before `registered_at`, and no replay sends it. -/
theorem offset_orphans_current_report :
    ¬ ∀ (offset : Int) (h : History offset) (script : Script) (client : DashboardClient)
        (shutdown_event : Bool) (fuel : Nat), FollowsIdentity h script client shutdown_event fuel := by
  intro hclaim
  have hle := (stampsTellApart_of_follows (hclaim _ hourAhead acceptAll _ _)).1 _ List.mem_cons_self
  exact absurd hle (by decide)

end CertWatch
