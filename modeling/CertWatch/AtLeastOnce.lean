/-
# `CertWatch.AtLeastOnce` — no report that was ever sent is lost.

The run invariant of the queue, over every interleaving of callers, every crash point, every restart and
every failure of a write or of a message: each file of the queue still carries the wire fields its caller
passed, and each report that was sent is still on disk or has been answered by a status that ends it.
-/
import CertWatch.QueueSystem

namespace CertWatch

open CertWatch.Lib

/-! ## The invariant -/

/-- Every report's file holds a record with the wire fields that were passed under that id. -/
def FilesPassed (passed : String → Option ReportArgs) (w : World) : Prop :=
  ∀ id f, w.lookup (reportFile id) = some f →
    ∃ args, passed id = some args ∧ Holds (reportFile id) args.payload w

/-- Every submission carried what was passed, and its report is on disk or done with. -/
def SentKept (passed : String → Option ReportArgs) (w : World) : Prop :=
  ∀ s ∈ w.submissions, ∃ id args, passed id = some args ∧ s.path = reportFile id ∧
    wireBody args.payload = .ok s.body ∧ (Holds (reportFile id) args.payload w ∨ Answered (reportFile id) w)

def QueueInv (passed : String → Option ReportArgs) (w : World) : Prop :=
  FilesPassed passed w ∧ SentKept passed w

/-- A file holds one record only. -/
theorem Holds.unique {p : String} {a b : Dict} {w : World} (ha : Holds p a w) (hb : Holds p b w) : a = b := by
  obtain ⟨d, ⟨f, hf, hc⟩, rfl⟩ := ha
  obtain ⟨e, ⟨g, hg, hd⟩, rfl⟩ := hb
  obtain rfl := Option.some.inj (hf.symm.trans hg)
  rw [hc] at hd
  rw [Json.obj.inj (Content.json.inj hd)]

theorem Holds.congr {p : String} {wire : Dict} {w w' : World} (h : Holds p wire w)
    (hl : w'.lookup p = w.lookup p) : Holds p wire w' := by
  obtain ⟨d, ⟨f, hf, hc⟩, hw⟩ := h
  exact ⟨d, ⟨f, hl.trans hf, hc⟩, hw⟩

/-- A report that is on disk stays on disk with its wire fields, unless it was answered. -/
theorem RetryStep.kept {p : String} {wire payload : Dict} {w w' : World} (h : RetryStep p wire w w')
    (hp : Holds p payload w) : Holds p payload w' ∨ Answered p w' := by
  cases h with
  | quiet hq => exact Or.inl (hp.tmpOnly hq)
  | @recount d n f hd hf =>
    have hwire : wirePayload d = payload := Holds.unique ⟨d, hd, rfl⟩ hp
    refine Or.inl ⟨_, ⟨f, World.lookup_install_self _ _, hf⟩, ?_⟩
    rw [wirePayload_recount, hwire]
  | call => exact Or.inl (hp.congr rfl)
  | delete ha => exact Or.inr (ha.mono (List.prefix_refl _))

/-- A file that is there after a step of the retry loop was there before, with the same wire fields. -/
theorem RetryStep.present {p : String} {wire : Dict} {w w' : World} (h : RetryStep p wire w w') {f : File}
    (hf : w'.lookup p = some f) :
    (∃ g, w.lookup p = some g) ∧ ∀ payload, Holds p payload w → Holds p payload w' := by
  cases h with
  | quiet hq =>
    rw [hq.lookup p (ne_tmpFile p)] at hf
    exact ⟨⟨f, hf⟩, fun _ hp => hp.tmpOnly hq⟩
  | @recount d n g hd hg =>
    refine ⟨hd.imp fun _ hg => hg.1, fun payload hp => ?_⟩
    have hwire : wirePayload d = payload := Holds.unique ⟨d, hd, rfl⟩ hp
    refine ⟨_, ⟨g, World.lookup_install_self _ _, hg⟩, ?_⟩
    rw [wirePayload_recount, hwire]
  | call => exact ⟨⟨f, hf⟩, fun _ hp => hp.congr rfl⟩
  | delete =>
    rw [World.lookup_remove_self] at hf
    cases hf

/-! ## Every step keeps it -/

/-- What another report's step leaves of this one. -/
theorem kept_of_untouched {p q : String} {wire : Dict} {id : String} {w w' : World} (hp : p = reportFile id)
    (hne : p ≠ q) (hu : Untouched q w w') (hlog : w.submissions <+: w'.submissions)
    (h : Holds p wire w ∨ Answered p w) : Holds p wire w' ∨ Answered p w' := by
  subst hp
  rcases h with h | h
  · exact Or.inl (h.congr (hu id hne))
  · exact Or.inr (h.mono hlog)

/-- The retry loop keeps the invariant. -/
theorem QueueInv.retry {passed : String → Option ReportArgs} {id : String} {wire : Dict} {w w' : World}
    (hinv : QueueInv passed w) (h : RetryStep (reportFile id) wire w w') : QueueInv passed w' := by
  obtain ⟨hfiles, hsent⟩ := hinv
  have hfiles' : FilesPassed passed w' := by
    intro other f hf
    by_cases heq : other = id
    · subst heq
      obtain ⟨⟨g, hg⟩, hkeep⟩ := h.present hf
      obtain ⟨args, hargs, hh⟩ := hfiles other g hg
      exact ⟨args, hargs, hkeep _ hh⟩
    · have hne : reportFile other ≠ reportFile id := fun hr => heq (reportFile_injective hr)
      rw [h.untouched other hne] at hf
      obtain ⟨a, ha, hh⟩ := hfiles other f hf
      exact ⟨a, ha, hh.congr (h.untouched other hne)⟩
  refine ⟨hfiles', ?_⟩
  have hold : ∀ s ∈ w.submissions, ∃ id args, passed id = some args ∧ s.path = reportFile id ∧
      wireBody args.payload = .ok s.body ∧
        (Holds (reportFile id) args.payload w' ∨ Answered (reportFile id) w') := by
    intro s hs
    obtain ⟨i, a, ha, hpath, hbody, hk⟩ := hsent s hs
    refine ⟨i, a, ha, hpath, hbody, ?_⟩
    -- a report is kept by its own loop, and left alone by any other
    by_cases heq : i = id
    · subst heq
      rcases hk with hk | hk
      · exact h.kept hk
      · exact Or.inr (hk.mono h.log)
    · exact kept_of_untouched rfl (fun hr => heq (reportFile_injective hr)) h.untouched h.log hk
  intro s hs
  cases h with
  | quiet hq => exact hold s (hq.submissions ▸ hs)
  | recount => exact hold s hs
  | delete => exact hold s hs
  | @call sub hholds hpath hbody =>
    rcases List.mem_append.mp hs with hs | hs
    · exact hold s hs
    · -- the new submission: the record on disk is the one that was passed
      obtain rfl := List.mem_singleton.mp hs
      obtain ⟨args, hargs, hon⟩ : ∃ args, passed id = some args ∧ Holds (reportFile id) args.payload w := by
        obtain ⟨d, ⟨f, hf, -⟩, -⟩ := hholds
        exact hfiles id f hf
      obtain rfl := Holds.unique hholds hon
      exact ⟨id, args, hargs, hpath, hbody, Or.inl (hon.congr rfl)⟩

/-- A fresh submission keeps the invariant: what it installs is the record it was passed. -/
theorem QueueInv.submit {passed : String → Option ReportArgs} {id : String} {args : ReportArgs}
    {w w' : World} (hinv : QueueInv passed w) (hargs : passed id = some args)
    (h : SubmitStep (reportFile id) args.payload w w') : QueueInv passed w' := by
  cases h with
  | retry hr => exact hinv.retry hr
  | @persist persisted_at f hf =>
    have hnew : Holds (reportFile id) args.payload (w.install (tmpFile (reportFile id)) (reportFile id) f) := by
      refine ⟨_, ⟨f, World.lookup_install_self _ _, hf⟩, ?_⟩
      rw [wirePayload_persistedRecord, wirePayload_payload]
    have hu : Untouched (reportFile id) w (w.install (tmpFile (reportFile id)) (reportFile id) f) :=
      SubmitStep.untouched (SubmitStep.persist hf)
    refine ⟨fun other g hg => ?_, fun s hs => ?_⟩
    · by_cases heq : other = id
      · subst heq
        exact ⟨args, hargs, hnew⟩
      · have hne : reportFile other ≠ reportFile id := fun hr => heq (reportFile_injective hr)
        rw [hu other hne] at hg
        obtain ⟨a, ha, hh⟩ := hinv.1 other g hg
        exact ⟨a, ha, hh.congr (hu other hne)⟩
    · obtain ⟨i, a, ha, hpath, hbody, hk⟩ := hinv.2 s hs
      refine ⟨i, a, ha, hpath, hbody, ?_⟩
      by_cases heq : i = id
      · subst heq
        obtain rfl : a = args := Option.some.inj (ha.symm.trans hargs)
        exact Or.inl hnew
      · exact kept_of_untouched rfl (fun hr => heq (reportFile_injective hr)) hu (List.prefix_refl _) hk

/-- The scenario of the delivery guarantee: reads of an intact file succeed, everything else may fail. -/
def intactReads : Scenario := ⟨fun _ _ => False, True⟩

/-- Replay keeps the invariant; nothing is quarantined, since every file reads as a record. -/
theorem QueueInv.replay {passed : String → Option ReportArgs} {w w' : World} (hinv : QueueInv passed w)
    (h : ReplayStep intactReads.readFails w w') : QueueInv passed w' := by
  cases h with
  | still => exact hinv
  | @stray _ n hn =>
    have hu : ∀ id, (w.remove n).lookup (reportFile id) = w.lookup (reportFile id) := by
      intro id
      refine World.lookup_remove_ne _ ?_
      obtain ⟨stem, rfl⟩ := exists_stem_of_suffix (show suffix n = '.' :: ['t', 'm', 'p'] from hn)
      exact reportFile_ne_tmpFile id stem
    refine ⟨fun id f hf => ?_, fun s hs => ?_⟩
    · rw [hu id] at hf
      obtain ⟨a, ha, hh⟩ := hinv.1 id f hf
      exact ⟨a, ha, hh.congr (hu id)⟩
    · obtain ⟨i, a, ha, hpath, hbody, hk⟩ := hinv.2 s hs
      exact ⟨i, a, ha, hpath, hbody, hk.imp (fun hh => hh.congr (hu i)) id⟩
  | @path p _ _ hp hstep =>
    obtain ⟨id, rfl⟩ := exists_stem_of_suffix (show suffix p = '.' :: ['j', 's', 'o', 'n'] from hp)
    cases hstep with
    | retry hr => exact hinv.retry hr
    | @quarantine _ target f hf hbad =>
      obtain ⟨args, -, d, ⟨g, hg, hc⟩, -⟩ := hinv.1 id f hf
      obtain rfl := Option.some.inj (hf.symm.trans hg)
      rcases hbad with hn | ⟨v, hv, hobj⟩ | hfalse
      · rw [hc] at hn
        cases hn
      · rw [hc] at hv
        obtain rfl := Content.json.inj hv
        cases hobj
      · exact hfalse.elim

/-- The run lemma of the queue. -/
theorem queueInv_of_reachable {t : Nat} {s : Sys} (h : Sys.Reachable intactReads (World.fresh t) s) :
    QueueInv s.passed s.world := by
  refine h.invariant ⟨fun id f hf => absurd hf nofun, nofun⟩ ?_ ?_
  · rintro passed passed' w hg ⟨hfiles, hsent⟩
    refine ⟨fun id f hf => ?_, fun s hs => ?_⟩
    · obtain ⟨args, hargs, hh⟩ := hfiles id f hf
      exact ⟨args, hg id args hargs, hh⟩
    · obtain ⟨id, args, hargs, hrest⟩ := hsent s hs
      exact ⟨id, args, hg id args hargs, hrest⟩
  · intro passed w w' _ hmove hinv
    cases hmove with
    | tick ht =>
      obtain ⟨t', -, rfl⟩ := ht
      exact hinv
    | thread id hs =>
      obtain ⟨args, hargs, hstep⟩ := hs
      exact hinv.submit hargs hstep
    | replay hs => exact hinv.replay hs

/-! ## At-least-once delivery -/

/-- The report's file parses to a record whose six wire fields are the ones its caller passed. -/
def PersistedAs (args : ReportArgs) (w : World) : Prop :=
  ∃ f, ∃ d : Dict, w.lookup (reportFile args.report_id) = some f ∧ f.content = .json (.obj d) ∧
    ∀ k ∈ wireFields, d.get? k = args.payload.get? k

/-- The dashboard has answered a submission of this report id with 2xx, 409, 400 or 413. -/
def Concluded (report_id : String) (w : World) : Prop :=
  ∃ sub ∈ w.submissions, sub.body.report_id = .str report_id ∧
    ∃ status, sub.answer = some status ∧ EndsReport status

theorem Holds.persistedAs {args : ReportArgs} {w : World}
    (h : Holds (reportFile args.report_id) args.payload w) : PersistedAs args w := by
  obtain ⟨d, ⟨f, hf, hc⟩, hwire⟩ := h
  refine ⟨f, d, hf, hc, fun k hk => ?_⟩
  calc d.get? k = (wirePayload d).get? k := (Dict.get?_restrict_of_mem hk).symm
    _ = args.payload.get? k := by rw [hwire]

/-- **At-least-once delivery.**  In every state that any sequence of processes, callers, crashes, lost
messages and failing writes leads to, each report for which `submit_report` was called was called with
what its caller passed, and it is on disk with those fields or has been answered for good.  Moreover no
step made for one report moves another report's file: not a thread's, not one of replay's, and not one of
the replay loop's body for a path, whatever state it is started in. -/
theorem at_least_once {t : Nat} {s : Sys} (h : Sys.Reachable intactReads (World.fresh t) s) :
    (∀ sub ∈ s.world.submissions, ∃ args, s.passed args.report_id = some args ∧ sub.body = args.body ∧
      (PersistedAs args s.world ∨ Concluded args.report_id s.world)) ∧
    (∀ id pool, s.phase = .serving → Pool.Step (fun _ => exec intactReads.readFails) id s.pool pool →
      Untouched (reportFile id) s.world pool.shared) ∧
    (∀ prog prog' w, s.phase = .replaying prog →
      Prog.Step (exec intactReads.readFails) (prog, s.world) (prog', w) → ∃ p, Untouched p s.world w) ∧
    (∀ client shutdown_event fuel registered_at p w,
      (replayOne client shutdown_event fuel registered_at p).wp (exec intactReads.readFails) Tick
        (Untouched p) (fun _ _ => True) w) := by
  have hd := Sys.Reachable.disciplined h
  obtain ⟨-, hsent⟩ := queueInv_of_reachable h
  refine ⟨fun sub hsub => ?_, fun id pool _ hcall => ?_, fun prog prog' w hphase hcall => ?_, ?_⟩
  · obtain ⟨id, args, hargs, hpath, hbody, hkept⟩ := hsent sub hsub
    obtain rfl := hd.named id args hargs
    refine ⟨args, hargs, (Except.ok.inj hbody).symm, ?_⟩
    rcases hkept with hheld | ⟨sub', hsub', hpath', status, hanswer, hends⟩
    · exact Or.inl hheld.persistedAs
    · -- the answered submission was made for the same file, so it carried the same id
      right
      obtain ⟨id', args', hargs', hp', hbody', -⟩ := hsent sub' hsub'
      obtain rfl : id' = args.report_id := reportFile_injective (hp'.symm.trans hpath')
      obtain rfl : args' = args := Option.some.inj (hargs'.symm.trans hargs)
      refine ⟨sub', hsub', ?_, status, hanswer, hends⟩
      rw [← Except.ok.inj hbody']
  · obtain ⟨⟨args, -, hs⟩, -⟩ := Pool.ok_step (fun _ => Others.refl _) (fun _ _ _ _ => Others.trans)
      (fun _ _ _ _ _ _ => trivial)
      (fun i j hij _ _ ⟨_, _, hs⟩ => SubmitStep.others hij hs) hd.threads hcall
    exact hs.untouched
  · exact (Prog.wp_step Tick.refl (hd.replay prog hphase) hcall).1.untouched
  · intro client shutdown_event fuel registered_at p w
    exact Prog.wp_weaken (fun _ _ ht => ht) (fun _ _ hs => hs.untouched) (wp_replayOne_alone p w)

/-- A first report whose request is lost and whose retry meets a 503. -/
def firstReport : ReportArgs :=
  ⟨"r1", "scheduled", "2026-05-02T14:30:00Z", "2026-05-02T14:30:01Z", none, []⟩

/-- A dashboard that is unreachable once and then answers 503. -/
def flakyDashboard : Surroundings :=
  { reply := fun _ n => if n = 0 then none else some ⟨503, .notJson⟩ }

theorem at_least_once_flaky : ∃ s, Sys.Reachable intactReads (World.fresh 0) s ∧
    s.world.submissions.length = 2 ∧
    ∀ sub ∈ s.world.submissions, ∃ args, s.passed args.report_id = some args ∧ sub.body = args.body ∧
      (PersistedAs args s.world ∨ Concluded args.report_id s.world) := by
  have hinit : Sys.Reachable intactReads (World.fresh 0) (Sys.init (World.fresh 0)) := .refl
  have hreplay := hinit.scriptedReplay rfl flakyDashboard nofun someClient true 2
    "2026-05-01T00:00:00Z"
  have hserve := hreplay.step (.serve trivial rfl id)
  have hsubmit := hserve.scriptedSubmit rfl flakyDashboard nofun someClient true 2
    firstReport rfl (by decide)
  exact ⟨_, hsubmit, by decide, (at_least_once hsubmit).1⟩

end CertWatch
