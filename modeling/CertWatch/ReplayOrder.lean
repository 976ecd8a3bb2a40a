/-
# `CertWatch.ReplayOrder` — in which order a replay sends what it finds.

The replay sorts by modification time, and `increment_attempts` rewrites a file before every attempt, so
the time it sorts by is that of the last attempt.  When the last writes of the queued files still lie in
the order in which the files were first persisted, the replay's first attempts are in that order, whatever
it rewrites on the way; when an older report was retried after a newer one was written, they are not.
-/
import CertWatch.AtLeastOnce
import CertWatch.Lib.Earlier

namespace CertWatch

open CertWatch.Lib

/-! ## Order of the queue and order of a replay -/

/-- The last writes of the queued reports lie strictly in the order of their first persistence: no report
was rewritten at or after the last write of a later one. -/
def InPersistOrder (w : World) : Prop :=
  ∀ e ∈ w.dir.entries, ∀ e' ∈ w.dir.entries, suffix e.1 = ".json".toList → suffix e'.1 = ".json".toList →
    Earlier w.persisted e.1 e'.1 → e.2.mtime < e'.2.mtime

instance (w : World) : Decidable (InPersistOrder w) := by unfold InPersistOrder; infer_instance

/-- The files submitted for since the log had `n₀` entries, in order. -/
def sentSince (n₀ : Nat) (w : World) : List String := (w.submissions.drop n₀).map (·.path)

/-- A replay that starts in `s` and has got as far as the last state. -/
inductive Sys.ReplayRun (sc : Scenario) (s : Sys) : Sys → Prop where
  | start (client : DashboardClient) (shutdown_event : Bool) (fuel : Nat) (registered_at : String) :
      s.phase = .down →
      ReplayRun sc s (s.inPhase (.replaying (replayPendingReports client shutdown_event fuel registered_at)))
  | step {s₁ s₂ : Sys} {prog : Queue ReplayResult} : ReplayRun sc s s₁ → Sys.Step sc s₁ s₂ →
      s₂.phase = .replaying prog → ReplayRun sc s s₂

/-- The first attempts made so far are in the order in which the reports were first persisted. -/
def FirstAttemptsInOrder (n₀ : Nat) (w : World) : Prop :=
  ∀ p q, p ∈ sentSince n₀ w → q ∈ sentSince n₀ w → Earlier w.persisted p q → Earlier (sentSince n₀ w) p q

theorem InPersistOrder.mtime_lt {w : World} (h : InPersistOrder w) {p q : String} {f g : File}
    (hp : suffix p = ".json".toList) (hq : suffix q = ".json".toList) (hf : w.lookup p = some f)
    (hg : w.lookup q = some g) (hpq : Earlier w.persisted p q) : f.mtime < g.mtime :=
  h ⟨p, f⟩ (AList.mem_lookup_iff.mp hf) ⟨q, g⟩ (AList.mem_lookup_iff.mp hg) hp hq hpq

theorem inPersistOrder_of_lookup {w w' : World} (h : InPersistOrder w) (hpersisted : w'.persisted = w.persisted)
    (hl : ∀ n, suffix n = ".json".toList → w'.lookup n = w.lookup n) : InPersistOrder w' := by
  intro e he e' he' hs hs' hearlier
  have hf : w.lookup e.1 = some e.2 := (hl e.1 hs) ▸ (AList.mem_lookup_iff.mpr he)
  have hg : w.lookup e'.1 = some e'.2 := (hl e'.1 hs') ▸ (AList.mem_lookup_iff.mpr he')
  exact h.mtime_lt hs hs' hf hg (hpersisted ▸ hearlier)

/-! ## Every queued report is in the log of first persistence -/

def NamesPersisted (w : World) : Prop :=
  ∀ id f, w.lookup (reportFile id) = some f → reportFile id ∈ w.persisted

theorem persisted_install (w : World) (tmp p : String) (f : File) :
    w.persisted <+: (w.install tmp p f).persisted ∧ p ∈ (w.install tmp p f).persisted := by
  unfold World.install
  simp only
  split_ifs with h
  · exact ⟨List.prefix_refl _, h⟩
  · exact ⟨List.prefix_append _ _, List.mem_append_right _ List.mem_cons_self⟩

/-- A step of the retry loop neither adds a report nor, for a known one, touches the log of persistence. -/
theorem RetryStep.persisted {id : String} {wire : Dict} {w w' : World}
    (h : RetryStep (reportFile id) wire w w') (hn : NamesPersisted w) :
    w'.persisted = w.persisted ∧ NamesPersisted w' := by
  have hsame : w'.persisted = w.persisted := by
    cases h with
    | quiet hq => exact hq.persisted
    | recount hd =>
      obtain ⟨f, hf, -⟩ := hd
      exact if_pos (hn id f hf)
    | call => rfl
    | delete => rfl
  refine ⟨hsame, fun other f hf => ?_⟩
  rw [hsame]
  by_cases heq : other = id
  · subst heq
    cases h with
    | quiet hq =>
      rw [hq.lookup _ (ne_tmpFile _)] at hf
      exact hn other f hf
    | recount hd =>
      obtain ⟨g, hg, -⟩ := hd
      exact hn other g hg
    | call => exact hn other f hf
    | delete =>
      rw [World.lookup_remove_self] at hf
      cases hf
  · rw [h.untouched other fun hr => heq (reportFile_injective hr)] at hf
    exact hn other f hf

theorem SubmitStep.namesPersisted {id : String} {wire : Dict} {w w' : World}
    (h : SubmitStep (reportFile id) wire w w') (hn : NamesPersisted w) : NamesPersisted w' := by
  cases h with
  | retry hr => exact (hr.persisted hn).2
  | @persist persisted_at f hc =>
    have hu : Untouched (reportFile id) w (w.install (tmpFile (reportFile id)) (reportFile id) f) :=
      SubmitStep.untouched (SubmitStep.persist hc)
    obtain ⟨hgrows, hmem⟩ := persisted_install w (tmpFile (reportFile id)) (reportFile id) f
    intro other g hg
    by_cases heq : other = id
    · subst heq
      exact hmem
    · rw [hu other fun hr => heq (reportFile_injective hr)] at hg
      exact hgrows.subset (hn other g hg)

theorem NamesPersisted.remove {w : World} (hn : NamesPersisted w) (n : String) : NamesPersisted (w.remove n) := by
  intro id f hf
  by_cases heq : reportFile id = n
  · subst heq
    rw [World.lookup_remove_self] at hf
    cases hf
  · rw [World.lookup_remove_ne _ heq] at hf
    exact hn id f hf

theorem PathStep.persisted {readFails : ReadSite → Content → Prop} {id : String} {w w' : World}
    (h : PathStep readFails (reportFile id) w w') (hn : NamesPersisted w) :
    w'.persisted = w.persisted ∧ NamesPersisted w' := by
  cases h with
  | retry hr => exact hr.persisted hn
  | quarantine => exact ⟨rfl, fun i g hg => hn.remove (reportFile id) i g hg⟩

theorem namesPersisted_of_reachable {sc : Scenario} {t : Nat} {s : Sys}
    (h : Sys.Reachable sc (World.fresh t) s) : NamesPersisted s.world := by
  refine h.invariant (I := fun _ w => NamesPersisted w) ?_ (fun _ _ _ _ hn => hn) ?_
  · intro id f hf
    rw [World.lookup_fresh] at hf
    cases hf
  intro passed w w' _ hmove hn
  cases hmove with
  | tick ht =>
    obtain ⟨t', -, rfl⟩ := ht
    exact hn
  | thread id hs =>
    obtain ⟨args, -, hstep⟩ := hs
    exact hstep.namesPersisted hn
  | replay hs =>
    cases hs with
    | still => exact hn
    | stray => exact hn.remove _
    | path hp hstep =>
      obtain ⟨id, rfl⟩ := exists_stem_of_suffix (show suffix _ = '.' :: ['j', 's', 'o', 'n'] from hp)
      exact (hstep.persisted hn).2

/-! ## What a replay has sent while it drains the queue -/

/-- Since the log had `n₀` entries and `P` was persisted: nothing new was persisted, what was sent is
sorted by first persistence, and all of it satisfies `ok`. -/
structure Draining (n₀ : Nat) (P : List String) (ok : String → Prop) (w : World) : Prop where
  persisted : w.persisted = P
  named : NamesPersisted w
  length : n₀ ≤ w.submissions.length
  sorted : (sentSince n₀ w).Pairwise fun a b => a = b ∨ Earlier P a b
  sent : ∀ a ∈ sentSince n₀ w, ok a

namespace Draining

variable {n₀ : Nat} {P : List String} {ok ok' : String → Prop}

theorem mono {w : World} (h : Draining n₀ P ok w) (hok : ∀ a, ok a → ok' a) : Draining n₀ P ok' w :=
  ⟨h.persisted, h.named, h.length, h.sorted, fun a ha => hok a (h.sent a ha)⟩

theorem tick {w w' : World} (ht : Tick w w') (h : Draining n₀ P ok w) : Draining n₀ P ok w' := by
  obtain ⟨t, -, rfl⟩ := ht
  exact ⟨h.persisted, h.named, h.length, h.sorted, h.sent⟩

/-- A step that sends nothing. -/
theorem of_same_log {w w' : World} (h : Draining n₀ P ok w) (hpersisted : w'.persisted = w.persisted)
    (hnamed : NamesPersisted w') (hlog : w'.submissions = w.submissions) : Draining n₀ P ok w' := by
  have hsent : sentSince n₀ w' = sentSince n₀ w := by rw [sentSince, hlog]; rfl
  exact ⟨hpersisted.trans h.persisted, hnamed, hlog ▸ h.length, hsent ▸ h.sorted, hsent ▸ h.sent⟩

/-- Sending the file whose turn it is keeps the log sorted. -/
theorem call {w : World} {s : Submission} (h : Draining n₀ P ok w) (hself : ok s.path)
    (hturn : ∀ a, ok a → a = s.path ∨ Earlier P a s.path) : Draining n₀ P ok (w.submitted s) := by
  have hsent : sentSince n₀ (w.submitted s) = sentSince n₀ w ++ [s.path] := by
    unfold sentSince World.submitted
    simp only
    rw [List.drop_append_of_le_length h.length, List.map_append, List.map_singleton]
  refine ⟨h.persisted, h.named, ?_, ?_, ?_⟩
  · exact h.length.trans (List.prefix_append _ _).length_le
  · rw [hsent, List.pairwise_append]
    refine ⟨h.sorted, List.pairwise_singleton _ _, fun a ha b hb => ?_⟩
    obtain rfl := List.mem_singleton.mp hb
    exact hturn a (h.sent a ha)
  · intro a ha
    rw [hsent] at ha
    rcases List.mem_append.mp ha with ha | ha
    · exact h.sent a ha
    · rw [List.mem_singleton.mp ha]
      exact hself

/-- **Draining one file.**  No step made for the file whose turn it is disturbs the order. -/
theorem pathStep {readFails : ReadSite → Content → Prop} {p : String} (hp : suffix p = ".json".toList)
    {w w' : World} (h : Draining n₀ P ok w) (hself : ok p) (hturn : ∀ a, ok a → a = p ∨ Earlier P a p)
    (hstep : PathStep readFails p w w') : Draining n₀ P ok w' := by
  obtain ⟨id, rfl⟩ := exists_stem_of_suffix (show suffix p = '.' :: ['j', 's', 'o', 'n'] from hp)
  obtain ⟨hpersisted, hnamed⟩ := @PathStep.persisted readFails id w w' hstep h.named
  cases hstep with
  | quarantine => exact h.of_same_log hpersisted hnamed rfl
  | retry hr =>
    cases hr with
    | quiet hq => exact h.of_same_log hpersisted hnamed hq.submissions
    | recount => exact h.of_same_log hpersisted hnamed rfl
    | delete => exact h.of_same_log hpersisted hnamed rfl
    | @call s _ hpath _ => exact h.call (hpath ▸ hself) (by rw [hpath]; exact hturn)

end Draining

/-- The guarantee of a replay: every call leaves a sorted log. -/
def KeepsSorted (n₀ : Nat) (P : List String) (_ w' : World) : Prop :=
  w'.persisted = P ∧ (sentSince n₀ w').Pairwise fun a b => a = b ∨ Earlier P a b

/-- What may have been sent while the replay is busy with `p` and `ps` is still to come. -/
def InHand (P : List String) (p : String) (ps : List String) (a : String) : Prop :=
  (a = p ∨ Earlier P a p) ∧ ∀ q ∈ ps, Earlier P a q

/-- **Draining the queue**: the paths come in the order of first persistence, so the log does too. -/
theorem wp_replayPaths_sorted {readFails : ReadSite → Content → Prop} {client : DashboardClient}
    {shutdown_event : Bool} {fuel : Nat} {registered_at : String} {n₀ : Nat} {P paths : List String}
    (hpaths : ∀ p ∈ paths, suffix p = ".json".toList) (hP : paths.Pairwise (Earlier P))
    (result : ReplayResult) {w : World} (h : Draining n₀ P (fun a => ∀ q ∈ paths, Earlier P a q) w) :
    (replayPaths client shutdown_event fuel registered_at paths result).wp (exec readFails) Tick
      (KeepsSorted n₀ P) (fun _ _ => True) w := by
  induction paths generalizing result w with
  | nil => trivial
  | cons p ps ih =>
    rw [List.pairwise_cons] at hP
    simp only [replayPaths, Prog.bind_eq, Prog.wp_bind]
    refine Prog.wp_mono ?_ (wp_shutdownSet (fun _ _ ht hs => Draining.tick ht hs)
      (fun s hs => ⟨hs.persisted, hs.sorted⟩) h)
    rintro (e | interrupted) s₁ h₁
    · trivial
    rw [Prog.thenPost_ok]
    split_ifs
    · trivial
    rw [Prog.wp_bind]
    -- while `p` is in hand, the log may also end with `p` itself
    have hstart : Draining n₀ P (InHand P p ps) s₁ :=
      h₁.mono fun a ha => ⟨Or.inr (ha p List.mem_cons_self), fun q hq => ha q (List.mem_cons_of_mem p hq)⟩
    have hbase : (replayOne client shutdown_event fuel registered_at p).wp (exec readFails) Tick
        (PathStep readFails p) (fun _ _ => True) s₁ := wp_replayOne_alone p s₁
    have hpath : ∀ a b, Draining n₀ P (InHand P p ps) a → PathStep readFails p a b →
        Draining n₀ P (InHand P p ps) b := fun a b hs hstep =>
      hs.pathStep (hpaths p List.mem_cons_self) ⟨Or.inl rfl, hP.1⟩ (fun _ ha => ha.1) hstep
    have hone := Prog.wp_invariant (fun _ _ hs ht => Draining.tick ht hs) hpath hstart hbase
    refine Prog.wp_mono ?_ (Prog.wp_weaken (fun _ _ ht => ht)
      (fun _ _ hg => (⟨hg.2.2.persisted, hg.2.2.sorted⟩ : KeepsSorted n₀ P _ _)) hone)
    rintro (e | outcome) s₂ ⟨-, h₂⟩
    · trivial
    rw [Prog.thenPost_ok]
    split_ifs
    · trivial
    · exact ih (fun q hq => hpaths q (List.mem_cons_of_mem p hq)) hP.2 _ (h₂.mono fun a ha => ha.2)

/-- The whole replay: listing sorts the queue by last write, which is the order of first persistence. -/
theorem wp_replayPendingReports_sorted {readFails : ReadSite → Content → Prop} {client : DashboardClient}
    {shutdown_event : Bool} {fuel : Nat} {registered_at : String} {w : World} (hn : NamesPersisted w)
    (hord : InPersistOrder w) :
    (replayPendingReports client shutdown_event fuel registered_at).wp (exec readFails) Tick
      (KeepsSorted w.submissions.length w.persisted) (fun _ _ => True) w := by
  generalize hn₀ : w.submissions.length = n₀
  generalize hP : w.persisted = P
  -- carried until the queue is listed: nothing sent yet, and the order of the queue
  have hcarry : ∀ s s', Tick s s' → (Draining n₀ P (fun _ => False) s ∧ InPersistOrder s) →
      Draining n₀ P (fun _ => False) s' ∧ InPersistOrder s' := by
    rintro s s' ht ⟨hd, ho⟩
    refine ⟨hd.tick ht, ?_⟩
    obtain ⟨t, -, rfl⟩ := ht
    exact ho
  have hidle : ∀ s, (Draining n₀ P (fun _ => False) s ∧ InPersistOrder s) → KeepsSorted n₀ P s s :=
    fun s hs => ⟨hs.1.persisted, hs.1.sorted⟩
  have hinit : Draining n₀ P (fun _ => False) w ∧ InPersistOrder w := by
    have hnone : sentSince n₀ w = [] := by
      rw [sentSince, ← hn₀, List.drop_length]
      rfl
    exact ⟨⟨hP, hn, hn₀.ge, hnone ▸ List.Pairwise.nil, hnone ▸ nofun⟩, hord⟩
  simp only [replayPendingReports, Prog.bind_eq, Prog.wp_bind]
  refine Prog.wp_mono ?_ (wp_cleanupStrayTmpFiles hcarry hidle ?_ hinit)
  · rintro (e | stray) s₁ h₁
    · trivial
    rw [Prog.thenPost_ok, Prog.wp_bind]
    refine Prog.wp_mono ?_ (wp_listPendingReportPaths hcarry hidle h₁)
    rintro (e | paths) s₂ ⟨⟨hd, ho⟩, hlisted⟩
    · trivial
    have hl := hlisted paths rfl
    have hsuffix : ∀ p ∈ paths, suffix p = ".json".toList := fun p hp => ((hl.mem_iff p).mp hp).1
    have hmem : ∀ p ∈ paths, p ∈ P := by
      intro p hp
      obtain ⟨hps, f, hf⟩ := (hl.mem_iff p).mp hp
      obtain ⟨id, rfl⟩ := exists_stem_of_suffix (show suffix p = '.' :: ['j', 's', 'o', 'n'] from hps)
      exact hd.persisted ▸ hd.named id f hf
    refine wp_replayPaths_sorted hsuffix ?_ _ (hd.mono fun _ hfalse => hfalse.elim)
    -- sorted by last write and distinct, so sorted by first persistence
    refine (hl.sorted.and hl.nodup).imp_of_mem fun {a b} ha hb hab => ?_
    obtain ⟨hsa, f, hf⟩ := (hl.mem_iff a).mp ha
    obtain ⟨hsb, g, hg⟩ := (hl.mem_iff b).mp hb
    rcases earlier_total (hmem a ha) (hmem b hb) hab.2 with h | h
    · exact h
    · have hlt := ho.mtime_lt hsb hsa hg hf (hd.persisted.symm ▸ h)
      have hle := hab.1 f g hf hg
      omega
  · rintro s n hstray ⟨hd, ho⟩
    have hs' : Draining n₀ P (fun _ => False) (s.remove n) :=
      hd.of_same_log rfl (hd.named.remove n) rfl
    refine ⟨⟨hs'.persisted, hs'.sorted⟩, hs', inPersistOrder_of_lookup ho rfl fun m hm => ?_⟩
    refine World.lookup_remove_ne _ ?_
    rintro rfl
    rw [hm] at hstray
    exact absurd hstray (by decide)

/-- Along a replay that starts in `s`, the program keeps its guarantee and the log stays sorted. -/
theorem ReplayRun.keepsSorted {sc : Scenario} {s s' : Sys} (hn : NamesPersisted s.world)
    (hord : InPersistOrder s.world) (h : Sys.ReplayRun sc s s') :
    KeepsSorted s.world.submissions.length s.world.persisted s.world s'.world ∧
      ∃ prog, s'.phase = .replaying prog ∧ prog.wp (exec sc.readFails) Tick
        (KeepsSorted s.world.submissions.length s.world.persisted) (fun _ _ => True) s'.world := by
  induction h with
  | start client shutdown_event fuel registered_at _ =>
    refine ⟨⟨rfl, ?_⟩, _, rfl, wp_replayPendingReports_sorted hn hord⟩
    rw [sentSince, Sys.world_inPhase, List.drop_length]
    exact List.Pairwise.nil
  | @step s₁ s₂ q _ hstep hphase ih =>
    obtain ⟨hkeeps, prog, hprog, hwp⟩ := ih
    cases hstep with
    | @tick t ht =>
      exact ⟨hkeeps, prog, hprog, Prog.wp_rely (fun _ _ _ => Tick.trans) (fun _ _ _ _ _ => trivial)
        ⟨t, ht, rfl⟩ hwp⟩
    | start _ _ _ _ hdown =>
      rw [hprog] at hdown
      cases hdown
    | @replayCall prog₁ prog' w hp hcall =>
      obtain rfl : prog₁ = prog := Phase.replaying.inj (hp.symm.trans hprog)
      obtain ⟨hg, hwp'⟩ := Prog.wp_step Tick.refl hwp hcall
      exact ⟨hg, prog', rfl, hwp'⟩
    | serve => cases hphase
    | submit _ _ _ hserving =>
      rw [hprog] at hserving
      cases hserving
    | threadCall hserving =>
      rw [hprog] at hserving
      cases hserving
    | kill => cases hphase

/-- **Replay is chronological when the last writes are.**  After any history over one data directory, with
crashes and failures anywhere: a replay that finds the queue's last writes in the order of first
persistence makes its first attempts in that order. -/
theorem replay_chronological {sc : Scenario} {t : Nat} {s s' : Sys}
    (h : Sys.Reachable sc (World.fresh t) s) (hord : InPersistOrder s.world) (hrun : Sys.ReplayRun sc s s') :
    FirstAttemptsInOrder s.world.submissions.length s'.world := by
  obtain ⟨⟨hpersisted, hsorted⟩, -⟩ := ReplayRun.keepsSorted (namesPersisted_of_reachable h) hord hrun
  intro p q hp hq hpq
  rw [hpersisted] at hpq
  have hne : p ≠ q := by
    rintro rfl
    exact hpq.asymm hpq
  exact earlier_of_sorted hsorted hp hq hne hpq.asymm

/-! ## A retry in between -/

theorem Sys.ReplayRun.steps {sc : Scenario} {s s₁ : Sys} {prog : Queue ReplayResult}
    {q : Queue ReplayResult × World} (h : Sys.ReplayRun sc s s₁) (hphase : s₁.phase = .replaying prog)
    (hs : Prog.Steps (exec sc.readFails) (prog, s₁.world) q) :
    Sys.ReplayRun sc s ((s₁.withWorld q.2).inPhase (.replaying q.1)) := by
  induction hs with
  | refl =>
    obtain ⟨phase, pool, passed⟩ := s₁
    obtain rfl : phase = .replaying prog := hphase
    exact h
  | tail _ hstep ih => exact .step ih (.replayCall rfl hstep) rfl

/-- A replay that runs as the script says. -/
theorem Sys.ReplayRun.scripted {sc : Scenario} {s : Sys} (hdown : s.phase = .down) (env : Surroundings)
    (henv : ∀ site name c, (env.readFault site name).isSome → sc.readFails site c)
    (client : DashboardClient) (shutdown_event : Bool) (fuel : Nat) (registered_at : String) :
    ∃ s', Sys.ReplayRun sc s s' ∧ s'.world =
      (Sys.runEnd env (replayPendingReports client shutdown_event fuel registered_at) s.world).2 := by
  have hstart : Sys.ReplayRun sc s _ := .start client shutdown_event fuel registered_at hdown
  exact ⟨_, hstart.steps rfl (Sys.runEnd_steps henv _ _), rfl⟩

theorem intactReads_serves : intactReads.serves := trivial

/-- A dashboard that cannot be reached, and one that accepts everything. -/
def unreachable : Surroundings where
  reply _ _ := none

def accepting : Surroundings where
  reply _ _ := some ⟨200, .json (.obj [])⟩

theorem noReadFault (site : ReadSite) (name : String) (c : Content)
    (h : (accepting.readFault site name).isSome) : intactReads.readFails site c := by
  cases h

def someReport (report_id : String) : ReportArgs :=
  ⟨report_id, "scheduled", "2026-05-02T14:30:00Z", "2026-05-02T14:30:01Z", none, []⟩

/-- Noon of 2 May 2026, in microseconds. -/
def noon : Nat := 63913320000000000

/-- One attempt to submit a report at time `t`, and one replay at time `t` that gets through one attempt
per file; the dashboard answers as in `env`. -/
def submitAt (t : Nat) (report_id : String) (w : World) : World :=
  (Sys.runEnd unreachable (submitReportWithRetry someClient true 1 (someReport report_id)) (w.setTime t)).2

def replayAt (env : Surroundings) (t : Nat) (w : World) : World :=
  (Sys.runEnd env (replayPendingReports someClient true 1 "2026-05-01T00:00:00Z") (w.setTime t)).2

/-- Two reports, persisted one after the other and tried once each. -/
def twoQueued : World :=
  submitAt (noon + 2) "b" (submitAt (noon + 1) "a" (replayAt unreachable noon (World.fresh 0)))

theorem reachable_twoQueued : ∃ s, Sys.Reachable intactReads (World.fresh 0) s ∧ s.phase = .down ∧
    s.world = twoQueued := by
  have h₀ : Sys.Reachable intactReads (World.fresh 0) (Sys.init (World.fresh 0)) := .refl
  have h₁ := (h₀.step (.tick (t := noon) (by decide))).scriptedReplay rfl unreachable nofun someClient true 1
    "2026-05-01T00:00:00Z"
  have h₂ := ((h₁.step (.serve intactReads_serves rfl id)).step (.tick (t := noon + 1) (by decide))).scriptedSubmit
    rfl unreachable
    nofun someClient true 1 (someReport "a") rfl (by decide)
  have h₃ := (h₂.step (.tick (t := noon + 2) (by decide))).scriptedSubmit rfl unreachable nofun someClient true 1
    (someReport "b") rfl (by decide)
  exact ⟨_, h₃.step .kill, rfl, rfl⟩

/-- Nothing was rewritten out of turn: the replay sends the first report first. -/
theorem replay_chronological_twoQueued : ∃ s s', Sys.Reachable intactReads (World.fresh 0) s ∧
    Sys.ReplayRun intactReads s s' ∧ sentSince s.world.submissions.length s'.world = ["a.json", "b.json"] ∧
    FirstAttemptsInOrder s.world.submissions.length s'.world := by
  obtain ⟨s, hs, hdown, hworld⟩ := reachable_twoQueued
  obtain ⟨s', hrun, hworld'⟩ := Sys.ReplayRun.scripted hdown accepting noReadFault someClient true 1
    "2026-05-01T00:00:00Z"
  have hord : InPersistOrder s.world := by
    rw [hworld]
    decide
  refine ⟨s, s', hs, hrun, ?_, replay_chronological hs hord hrun⟩
  rw [hworld', hworld]
  decide

/-- The next process retries the first report once and is killed in its backoff. -/
def firstRetried : World := replayAt unreachable (noon + 3) twoQueued

theorem reachable_firstRetried : ∃ s, Sys.Reachable intactReads (World.fresh 0) s ∧ s.phase = .down ∧
    s.world = firstRetried := by
  obtain ⟨s, hs, hdown, hworld⟩ := reachable_twoQueued
  have hlater : s.world.time ≤ noon + 3 := by
    rw [hworld]
    decide
  have hretry := (hs.step (.tick hlater)).scriptedReplay hdown unreachable nofun someClient true 1
    "2026-05-01T00:00:00Z"
  refine ⟨_, hretry.step .kill, rfl, ?_⟩
  show replayAt unreachable (noon + 3) s.world = firstRetried
  rw [hworld, firstRetried]

/-- **A retry reorders the replay after it**: the first report's file was rewritten later than the second
one's, so the next replay sends the second report first. -/
theorem retry_reorders_replay :
    ¬ ∀ (t : Nat) (s s' : Sys), Sys.Reachable intactReads (World.fresh t) s →
        Sys.ReplayRun intactReads s s' → FirstAttemptsInOrder s.world.submissions.length s'.world := by
  intro hclaim
  obtain ⟨s, hs, hdown, hworld⟩ := reachable_firstRetried
  obtain ⟨s', hrun, hworld'⟩ := Sys.ReplayRun.scripted hdown accepting noReadFault someClient true 1
    "2026-05-01T00:00:00Z"
  rw [hworld] at hworld'
  have hsent : sentSince s.world.submissions.length s'.world = ["b.json", "a.json"] := by
    rw [hworld', hworld]
    decide
  have hpersisted : s'.world.persisted = ["a.json", "b.json"] := by
    rw [hworld']
    decide
  have h := hclaim 0 s s' hs hrun "a.json" "b.json"
  rw [hpersisted, hsent] at h
  exact absurd (h (by decide) (by decide) (by decide)) (by decide)

end CertWatch
