/-
# `CertWatch.ScriptedReplay` — a whole replay, when only file contents and answers vary.

Each file has one fate: it is left or quarantined, it is sent until an answer settles it, or something
raises that the replay loop does not catch.  `Contained` says which contents and settling answers keep to
the first two, and `replay_settles` that replay ends normally exactly when every file is contained.
-/
import CertWatch.QueueSystem
import CertWatch.ScriptedRetry

namespace CertWatch

open CertWatch.Lib

/-! ## What one file may do to a replay -/

/-- Nothing that the file holds, and nothing that is answered to it, leaves the body of the replay loop as
an exception. -/
def Contained (script : Script) (registered_at path : String) : Content → Prop
  | .refused _ => False
  | .json (.obj d) =>
    isOrphan d registered_at = .ok true ∨
    (isOrphan d registered_at = .ok false ∧ Sendable script (script.retries path + 1) d ∧
      Digested (wirePayload d) (script.settled path))
  | _ => True

/-- Replay has something to send: the file holds a record that is not an orphan. -/
def Due (registered_at : String) (d : Dict) (c : Content) : Prop :=
  c = .json (.obj d) ∧ isOrphan d registered_at = .ok false

/-! ## One file of a replay -/

section File

variable {script : Script} {client : DashboardClient} {shutdown_event : Bool} {fuel : Nat}
  {registered_at : String} {w : World} {p : String} {f : File}

/-- No read fails in a script. -/
theorem script_exec (script : Script) (o : QueueOp) (w : World) :
    exec (fun _ _ => False) o w (handle script.env o w).1 (handle script.env o w).2 :=
  handle_exec (fun _ _ _ h => by cases h) o w

theorem run_quarantineCorrupt (hf : w.lookup p = some f) :
    ∃ target, (quarantineCorrupt p).run (handle script.env) w = (some (.ok target), w.quarantine p target f) := by
  let target := p ++ "." ++ filenameTimestamp (utcNowIso w.time)
  have hrename : handle script.env (.rename p target) w = (.ok (), w.quarantine p target f) := by
    simp only [handle, hf]
  refine ⟨target, ?_⟩
  refine (run_queueCall_bind _ rfl).trans ((run_queueCall_bind _ rfl).trans ?_)
  exact run_queueCall_bind _ hrename

/-- A file that is not a record is quarantined; the log of submissions stays. -/
theorem run_replayOne_corrupt {cause : CorruptCause} (hf : w.lookup p = some f)
    (hc : f.content.record = .error (.pendingReportCorrupt cause)) :
    ∃ target, (replayOne client shutdown_event fuel registered_at p).run (handle script.env) w =
      (some (.ok .corrupt), w.quarantine p target f) := by
  have hload := @run_loadPendingReport script.env w p .scan f rfl hf
  obtain ⟨target, hq⟩ := @run_quarantineCorrupt script w p f hf
  refine ⟨target, ?_⟩
  rw [hc] at hload
  simp only [replayOne, Prog.bind_eq, Prog.run_bind, Prog.run_attempt, hload, Option.map_some, Prog.andThen_ok,
    hq]
  rfl

/-- What `json.load` refuses raises through the loop. -/
theorem run_replayOne_refused {why : LoadRefusal} (hf : w.lookup p = some f) (hc : f.content = .refused why) :
    (replayOne client shutdown_event fuel registered_at p).run (handle script.env) w =
      (some (.error why.exc), w) := by
  have hload := @run_loadPendingReport script.env w p .scan f rfl hf
  rw [hc] at hload
  simp only [replayOne, Prog.bind_eq, Prog.run_bind, Prog.run_attempt, hload, Content.record, Option.map_some,
    Prog.andThen_ok]
  cases why <;> rfl

/-- From a record on, the orphan test decides. -/
theorem run_replayOne_record {d : Dict} (hf : w.lookup p = some f) (hc : f.content = .json (.obj d)) :
    (replayOne client shutdown_event fuel registered_at p).run (handle script.env) w =
      match isOrphan d registered_at with
      | .error e => (some (.error e), w)
      | .ok true => (some (.ok .orphan), w)
      | .ok false =>
        let out := (retryLoopForPath client shutdown_event p (wirePayload d) 0 fuel).run (handle script.env) w
        (out.1.map fun x => x.map fun r => if r.status = .shutdown then .shutdown else .replayed, out.2) := by
  have hload := @run_loadPendingReport script.env w p .scan f rfl hf
  rw [hc] at hload
  simp only [replayOne, Prog.bind_eq, Prog.run_bind, Prog.run_attempt, hload, Option.map_some, Prog.andThen_ok,
    Content.record, Prog.run_ofExcept]
  cases isOrphan d registered_at with
  | error e => rfl
  | ok orphan =>
    cases orphan with
    | true => rfl
    | false =>
      rw [Prog.andThen_ok]
      refine (run_queueCall_bind _ rfl).trans ?_
      rw [Prog.run_bind]
      generalize (retryLoopForPath client shutdown_event p (wirePayload d) 0 fuel).run (handle script.env) w = out
      obtain ⟨x, w'⟩ := out
      rcases x with _ | _ | r <;> rfl

/-- **One file**: the body of the replay loop ends normally exactly when the file is contained. -/
theorem replayOne_settles (hf : w.lookup p = some f) (hcalls : w.callsFor p = 0)
    (hfuel : script.retries p < fuel) :
    (Contained script registered_at p f.content →
      Returns script (replayOne client shutdown_event fuel registered_at p) w fun o => o ≠ .shutdown) ∧
    (¬ Contained script registered_at p f.content →
      Raises script (replayOne client shutdown_event fuel registered_at p) w) := by
  have hcorrupt : ∀ cause, f.content.record = .error (.pendingReportCorrupt cause) →
      Returns script (replayOne client shutdown_event fuel registered_at p) w fun o => o ≠ .shutdown := by
    intro cause hc
    obtain ⟨target, hrun⟩ := @run_replayOne_corrupt script client shutdown_event fuel registered_at w p f cause hf hc
    exact ⟨.corrupt, by rw [hrun], by rintro ⟨⟩⟩
  cases hc : f.content with
  | notJson =>
    rw [hc] at hcorrupt
    exact ⟨fun _ => hcorrupt _ rfl, fun h => absurd trivial h⟩
  | refused why => exact ⟨fun h => h.elim, fun _ => ⟨_, by rw [run_replayOne_refused hf hc]⟩⟩
  | json v =>
    cases v with
    | obj d =>
      have hrun := @run_replayOne_record script client shutdown_event fuel registered_at w p f d hf hc
      simp only [Contained, Returns, Raises, hrun]
      cases ho : isOrphan d registered_at with
      | error e =>
        refine ⟨fun h => ?_, fun _ => ⟨e, rfl⟩⟩
        rcases h with h | ⟨h, -⟩ <;> cases h
      | ok orphan =>
        cases orphan with
        | true => exact ⟨fun _ => ⟨.orphan, rfl, by rintro ⟨⟩⟩, fun h => absurd (Or.inl rfl) h⟩
        | false =>
          obtain ⟨hret, hraise⟩ := @settles_record script client shutdown_event w p d 0 fuel
            ⟨f, hf, hc⟩ hcalls hfuel
          refine ⟨fun h => ?_, fun h => ?_⟩
          · rcases h with h | ⟨-, h⟩
            · cases h
            obtain ⟨r, hr, hs⟩ := hret h
            refine ⟨.replayed, ?_, by rintro ⟨⟩⟩
            simp only [hr, Option.map_some, Except.map, if_neg hs]
          · obtain ⟨e, he⟩ := hraise fun hgood => h (Or.inr ⟨rfl, hgood⟩)
            refine ⟨e, ?_⟩
            simp only [he, Option.map_some, Except.map]
    | _ =>
      rw [hc] at hcorrupt
      exact ⟨fun _ => hcorrupt _ rfl, fun h => absurd trivial h⟩

/-- A body that returned sent the record that was due, and the loop goes on. -/
theorem replayOne_returned {outcome : ReplayOutcome} (hf : w.lookup p = some f)
    (hr : ((replayOne client shutdown_event fuel registered_at p).run (handle script.env) w).1 =
      some (.ok outcome)) :
    outcome ≠ .shutdown ∧ ∀ d, Due registered_at d f.content →
      ∃ sub ∈ ((replayOne client shutdown_event fuel registered_at p).run (handle script.env) w).2.submissions,
        sub.path = p ∧ wireBody (wirePayload d) = .ok sub.body := by
  have hcorrupt : ∀ cause, f.content.record = .error (.pendingReportCorrupt cause) → outcome ≠ .shutdown := by
    intro cause hc
    obtain ⟨target, hrun⟩ := @run_replayOne_corrupt script client shutdown_event fuel registered_at w p f cause hf hc
    rw [hrun] at hr
    obtain rfl := Except.ok.inj (Option.some.inj hr)
    exact nofun
  cases hc : f.content with
  | notJson => exact ⟨hcorrupt _ (by rw [hc]; rfl), fun d h => nomatch h.1⟩
  | refused why =>
    -- the error is nobody's to catch, so the body has not returned
    rw [run_replayOne_refused hf hc] at hr
    cases hr
  | json v =>
    cases v with
    | obj d =>
      rw [run_replayOne_record hf hc] at hr ⊢
      cases ho : isOrphan d registered_at with
      | error e =>
        rw [ho] at hr
        cases hr
      | ok orphan =>
        rw [ho] at hr
        cases orphan with
        | true =>
          -- an orphan is passed over, and is not due
          obtain rfl := Except.ok.inj (Option.some.inj hr)
          refine ⟨nofun, fun e h => ?_⟩
          obtain ⟨he, ho'⟩ := h
          obtain rfl := Json.obj.inj (Content.json.inj he)
          rw [ho] at ho'
          cases ho'
        | false =>
          obtain ⟨x, hx, hmap⟩ := Option.map_eq_some_iff.mp hr
          cases x with
          | error e => cases hmap
          | ok r =>
            obtain ⟨hs, hsent⟩ := retryLoop_sent fuel ⟨f, hf, hc⟩ hx
            obtain rfl := Except.ok.inj hmap
            refine ⟨?_, fun e h => ?_⟩
            · show (if r.status = .shutdown then ReplayOutcome.shutdown else .replayed) ≠ .shutdown
              rw [if_neg hs]
              exact nofun
            · obtain rfl := Json.obj.inj (Content.json.inj h.1)
              exact hsent
    | _ => exact ⟨hcorrupt _ (by rw [hc]; rfl), fun d h => nomatch h.1⟩

/-- A file with nothing due is not sent. -/
theorem replayOne_skips (hf : w.lookup p = some f) (hdue : ∀ d, ¬ Due registered_at d f.content) :
    ((replayOne client shutdown_event fuel registered_at p).run (handle script.env) w).2.submissions =
      w.submissions := by
  have hcorrupt : ∀ cause, f.content.record = .error (.pendingReportCorrupt cause) →
      ((replayOne client shutdown_event fuel registered_at p).run (handle script.env) w).2.submissions =
        w.submissions := by
    intro cause hc
    obtain ⟨target, hrun⟩ := @run_replayOne_corrupt script client shutdown_event fuel registered_at w p f cause hf hc
    rw [hrun]
    rfl
  cases hc : f.content with
  | notJson => exact hcorrupt _ (by rw [hc]; rfl)
  | refused why => rw [run_replayOne_refused hf hc]
  | json v =>
    cases v with
    | obj d =>
      rw [run_replayOne_record hf hc]
      cases ho : isOrphan d registered_at with
      | error e => rfl
      | ok orphan =>
        cases orphan with
        | true => rfl
        | false => exact absurd ⟨hc, ho⟩ (hdue d)
    | _ => exact hcorrupt _ (by rw [hc]; rfl)

end File

/-! ## What one file leaves of the others -/

/-- No other report's file and no other report's submissions differ. -/
structure Elsewhere (p : String) (w w' : World) : Prop where
  lookup : Untouched p w w'
  calls : ∀ q, q ≠ p → ∀ sub, sub.path = q → (sub ∈ w'.submissions ↔ sub ∈ w.submissions)

theorem Elsewhere.refl (p : String) (w : World) : Elsewhere p w w := ⟨fun _ _ => rfl, fun _ _ _ _ => Iff.rfl⟩

theorem Elsewhere.trans {p : String} {a b c : World} (h : Elsewhere p a b) (h' : Elsewhere p b c) :
    Elsewhere p a c where
  lookup other hne := (h'.lookup other hne).trans (h.lookup other hne)
  calls q hne sub hsub := (h'.calls q hne sub hsub).trans (h.calls q hne sub hsub)

theorem RetryStep.elsewhere {p : String} {wire : Dict} {w w' : World} (h : RetryStep p wire w w') :
    Elsewhere p w w' := by
  refine ⟨h.untouched, fun q hne sub hsub => ?_⟩
  cases h with
  | quiet hq => rw [hq.submissions]
  | recount => exact Iff.rfl
  | delete => exact Iff.rfl
  | @call s _ hpath _ =>
    refine ⟨fun hmem => ?_, fun hmem => List.mem_append_left _ hmem⟩
    rcases List.mem_append.mp hmem with hmem | hmem
    · exact hmem
    · obtain rfl := List.mem_singleton.mp hmem
      exact absurd (hsub.symm.trans hpath) hne

theorem PathStep.elsewhere {readFails : ReadSite → Content → Prop} {p : String} {w w' : World}
    (h : PathStep readFails p w w') : Elsewhere p w w' := by
  cases h with
  | retry hr => exact hr.elsewhere
  | quarantine => exact ⟨fun other hne => World.lookup_quarantine_ne _ _ hne, fun _ _ _ _ => Iff.rfl⟩

/-- A file has not been sent. -/
def Unsent (p : String) (w : World) : Prop := ∀ sub ∈ w.submissions, sub.path ≠ p

theorem callsFor_of_unsent {p : String} {w : World} (h : Unsent p w) : w.callsFor p = 0 := by
  unfold World.callsFor
  rw [List.countP_eq_zero]
  intro sub hsub
  simpa using h sub hsub

theorem Elsewhere.unsent {p q : String} {w w' : World} (h : Elsewhere p w w') (hne : q ≠ p)
    (hq : Unsent q w) : Unsent q w' :=
  fun sub hsub hpath => hq sub ((h.calls q hne sub hpath).mp hsub) hpath

section Paths

variable {script : Script} {client : DashboardClient} {shutdown_event : Bool} {fuel : Nat}
  {registered_at : String}

theorem replayOne_elsewhere (p : String) (w : World) :
    Elsewhere p w ((replayOne client shutdown_event fuel registered_at p).run (handle script.env) w).2 := by
  have hsteps := (Prog.wp_run (script_exec script) Tick.refl
    (replayOne client shutdown_event fuel registered_at p) (wp_replayOne_alone p w)).1
  generalize ((replayOne client shutdown_event fuel registered_at p).run (handle script.env) w).2 = w' at hsteps
  induction hsteps with
  | refl => exact Elsewhere.refl p w
  | tail _ hstep ih => exact ih.trans hstep.elsewhere

/-! ## The loop over the files -/

/-- The files that the loop has still to visit, as they were found and not sent yet. -/
structure Waiting (paths : List String) (w : World) : Prop where
  nodup : paths.Nodup
  json : ∀ p ∈ paths, suffix p = ".json".toList
  present : ∀ p ∈ paths, ∃ f, w.lookup p = some f
  unsent : ∀ p ∈ paths, Unsent p w

/-- A step for the file in hand leaves the rest waiting, with the same contents. -/
theorem Waiting.rest {p : String} {ps : List String} {w w' : World} (h : Waiting (p :: ps) w)
    (he : Elsewhere p w w') : Waiting ps w' ∧ ∀ q ∈ ps, w'.lookup q = w.lookup q := by
  have hne : ∀ q ∈ ps, q ≠ p := by
    rintro q hq rfl
    exact (List.nodup_cons.mp h.nodup).1 hq
  have hlookup : ∀ q ∈ ps, w'.lookup q = w.lookup q := by
    intro q hq
    have hs := h.json q (List.mem_cons_of_mem p hq)
    obtain ⟨id, rfl⟩ := exists_stem_of_suffix (show suffix q = '.' :: ['j', 's', 'o', 'n'] from hs)
    exact he.lookup id (hne _ hq)
  refine ⟨⟨(List.nodup_cons.mp h.nodup).2, fun q hq => h.json q (List.mem_cons_of_mem p hq), fun q hq => ?_,
    fun q hq => he.unsent (hne q hq) (h.unsent q (List.mem_cons_of_mem p hq))⟩, hlookup⟩
  obtain ⟨f, hf⟩ := h.present q (List.mem_cons_of_mem p hq)
  exact ⟨f, (hlookup q hq).trans hf⟩

/-- Every file in the list is contained. -/
def AllContained (script : Script) (registered_at : String) (paths : List String) (w : World) : Prop :=
  ∀ p ∈ paths, ∀ f, w.lookup p = some f → Contained script registered_at p f.content

theorem run_shutdownSet (w : World) :
    (shutdownSet shutdown_event).run (handle script.env) w = (some (.ok false), w) := by
  cases shutdown_event <;> rfl

/-- One turn of the loop, by what its body did. -/
theorem run_replayPaths_cons (p : String) (ps : List String) (result : ReplayResult) (w : World) :
    (replayPaths client shutdown_event fuel registered_at (p :: ps) result).run (handle script.env) w =
      Prog.andThen (handle script.env) (fun outcome =>
        if outcome = .shutdown then pure (outcome.count result)
        else replayPaths client shutdown_event fuel registered_at ps (outcome.count result))
        ((replayOne client shutdown_event fuel registered_at p).run (handle script.env) w) := by
  simp only [replayPaths, Prog.bind_eq, Prog.run_bind, run_shutdownSet, Prog.andThen_ok, Bool.false_eq_true,
    if_false]

/-- **The loop over the files**: it ends normally exactly when every file is contained, and then every due
record was sent. -/
theorem replayPaths_settles {paths : List String} (result : ReplayResult) {w : World} (hw : Waiting paths w)
    (hfuel : ∀ p ∈ paths, script.retries p < fuel) :
    (AllContained script registered_at paths w →
      Returns script (replayPaths client shutdown_event fuel registered_at paths result) w fun _ => True) ∧
    (¬ AllContained script registered_at paths w →
      Raises script (replayPaths client shutdown_event fuel registered_at paths result) w) := by
  induction paths generalizing result w with
  | nil => exact ⟨fun _ => ⟨result, rfl, trivial⟩, fun h => absurd nofun h⟩
  | cons p ps ih =>
    obtain ⟨f, hf⟩ := hw.present p List.mem_cons_self
    have hrun := @run_replayPaths_cons script client shutdown_event fuel registered_at p ps result w
    obtain ⟨hret, hraise⟩ := @replayOne_settles script client shutdown_event fuel registered_at w p f hf
      (callsFor_of_unsent (hw.unsent p List.mem_cons_self)) (hfuel p List.mem_cons_self)
    have helse := @replayOne_elsewhere script client shutdown_event fuel registered_at p w
    simp only [Returns, Raises] at hret hraise
    generalize (replayOne client shutdown_event fuel registered_at p).run (handle script.env) w = out
      at hrun helse hret hraise
    obtain ⟨x, w₁⟩ := out
    obtain ⟨hrest, hsame⟩ := hw.rest helse
    by_cases hp : Contained script registered_at p f.content
    · obtain ⟨outcome, hx, hne⟩ := hret hp
      obtain rfl : x = some (.ok outcome) := hx
      rw [Prog.andThen_ok, if_neg hne] at hrun
      -- the other files are as they were, so what is left to decide is about them alone
      have hiff : AllContained script registered_at (p :: ps) w ↔ AllContained script registered_at ps w₁ := by
        refine ⟨fun h q hq g hg => ?_, fun h q hq g hg => ?_⟩
        · rw [hsame q hq] at hg
          exact h q (List.mem_cons_of_mem p hq) g hg
        · rcases List.mem_cons.mp hq with rfl | hq
          · obtain rfl := Option.some.inj (hf.symm.trans hg)
            exact hp
          · rw [← hsame q hq] at hg
            exact h q hq g hg
      rw [hiff]
      simp only [Returns, Raises, hrun]
      exact ih (outcome.count result) hrest fun q hq => hfuel q (List.mem_cons_of_mem p hq)
    · -- the first file that is not contained ends the loop for all that come after it
      obtain ⟨e, hx⟩ := hraise hp
      obtain rfl : x = some (.error e) := hx
      refine ⟨fun h => absurd (h p List.mem_cons_self f hf) hp, fun _ => ⟨e, ?_⟩⟩
      rw [hrun]
      rfl

/-- The loop sends no file that it does not visit. -/
theorem replayPaths_unsent {paths : List String} (result : ReplayResult) {w : World} {p : String}
    (hp : p ∉ paths) (h : Unsent p w) :
    Unsent p ((replayPaths client shutdown_event fuel registered_at paths result).run (handle script.env) w).2 := by
  induction paths generalizing result w with
  | nil => exact h
  | cons q qs ih =>
    rw [List.mem_cons, not_or] at hp
    rw [run_replayPaths_cons]
    have h₁ := (@replayOne_elsewhere script client shutdown_event fuel registered_at q w).unsent hp.1 h
    generalize (replayOne client shutdown_event fuel registered_at q).run (handle script.env) w = out at h₁
    obtain ⟨x, w₁⟩ := out
    rcases x with _ | _ | outcome
    · exact h₁
    · exact h₁
    · rw [Prog.andThen_ok]
      split_ifs
      · exact h₁
      · exact ih _ hp.2 h₁

/-- **Who is not sent**: whatever becomes of the replay, a file with nothing due is not. -/
theorem replayPaths_skips {paths : List String} (result : ReplayResult) {w : World} (hw : Waiting paths w)
    {p : String} (hp : p ∈ paths) {f : File} (hf : w.lookup p = some f)
    (hnone : ∀ d, ¬ Due registered_at d f.content) :
    Unsent p ((replayPaths client shutdown_event fuel registered_at paths result).run (handle script.env) w).2 := by
  induction paths generalizing result w with
  | nil => cases hp
  | cons q qs ih =>
    rw [run_replayPaths_cons]
    have helse := @replayOne_elsewhere script client shutdown_event fuel registered_at q w
    have hskips := @replayOne_skips script client shutdown_event fuel registered_at w q
    generalize (replayOne client shutdown_event fuel registered_at q).run (handle script.env) w = out
      at helse hskips
    obtain ⟨x, w₁⟩ := out
    obtain ⟨hrest, hsame⟩ := hw.rest helse
    have hunsent₁ : Unsent p w₁ := by
      by_cases heq : p = q
      · subst heq
        intro sub hsub
        rw [show w₁.submissions = w.submissions from hskips hf hnone] at hsub
        exact hw.unsent p List.mem_cons_self sub hsub
      · exact helse.unsent heq (hw.unsent p hp)
    rcases x with _ | _ | outcome
    · exact hunsent₁
    · exact hunsent₁
    rw [Prog.andThen_ok]
    split_ifs
    · exact hunsent₁
    rcases List.mem_cons.mp hp with rfl | hp
    · exact replayPaths_unsent _ (List.nodup_cons.mp hw.nodup).1 hunsent₁
    · exact ih _ hrest hp ((hsame p hp).trans hf)

/-- **Who is sent**: when the replay returned, every record that was due. -/
theorem replayPaths_returned {paths : List String} (result : ReplayResult) {w : World} (hw : Waiting paths w)
    (hret : Returns script (replayPaths client shutdown_event fuel registered_at paths result) w fun _ => True)
    {p : String} (hp : p ∈ paths) {f : File} (hf : w.lookup p = some f) {d : Dict}
    (hdue : Due registered_at d f.content) :
    ∃ sub ∈ ((replayPaths client shutdown_event fuel registered_at paths result).run
      (handle script.env) w).2.submissions, sub.path = p ∧ wireBody (wirePayload d) = .ok sub.body := by
  induction paths generalizing result w with
  | nil => cases hp
  | cons q qs ih =>
    obtain ⟨g, hg⟩ := hw.present q List.mem_cons_self
    have hone := @replayOne_returned script client shutdown_event fuel registered_at w q g
    have helse := @replayOne_elsewhere script client shutdown_event fuel registered_at q w
    simp only [Returns, run_replayPaths_cons] at hret ⊢
    generalize (replayOne client shutdown_event fuel registered_at q).run (handle script.env) w = out
      at hret hone helse
    obtain ⟨x, w₁⟩ := out
    obtain ⟨hrest, hsame⟩ := hw.rest helse
    rcases x with _ | _ | outcome
    · obtain ⟨r, hr, -⟩ := hret
      cases hr
    · obtain ⟨r, hr, -⟩ := hret
      cases hr
    obtain ⟨hne, hsent⟩ := hone hg rfl
    rw [Prog.andThen_ok, if_neg hne] at hret ⊢
    rcases List.mem_cons.mp hp with rfl | hp
    · obtain rfl := Option.some.inj (hf.symm.trans hg)
      obtain ⟨sub, hsub, hmade⟩ := hsent d hdue
      exact ⟨sub, (run_log _ _).subset hsub, hmade⟩
    · exact ih _ hrest hret hp ((hsame p hp).trans hf)

/-! ## The whole replay -/

theorem run_unlinkAll (names : List String) (w : World) :
    ∃ deleted w', (unlinkAll names).run (handle script.env) w = (some (.ok deleted), w') := by
  induction names generalizing w with
  | nil => exact ⟨[], w, rfl⟩
  | cons n ns ih =>
    simp only [unlinkAll, Prog.bind_eq, Prog.run_bind, Prog.run_tryCatch]
    cases hf : w.lookup n with
    | none =>
      have hcall : handle script.env (.unlink n) w = (.error fileNotFound, w) := by simp only [handle, hf]
      obtain ⟨deleted, w', hrest⟩ := ih w
      rw [show Prog.run (handle script.env) (queueCall (.unlink n)) w = _ from run_queueCall hcall]
      refine ⟨deleted, w', ?_⟩
      simp only [Prog.andThen_error, Prog.orElse_error, fileNotFound, Prog.pure_eq, Prog.run_ret,
        Prog.andThen_ok, Bool.false_eq_true, if_false]
      rw [Prog.run_bind, hrest]
      rfl
    | some f =>
      have hcall : handle script.env (.unlink n) w = (.ok (), w.remove n) := by simp only [handle, hf]
      obtain ⟨deleted, w', hrest⟩ := ih (w.remove n)
      rw [show Prog.run (handle script.env) (queueCall (.unlink n)) w = _ from run_queueCall hcall]
      refine ⟨n :: deleted, w', ?_⟩
      simp only [Prog.andThen_ok, Prog.pure_eq, Prog.run_ret, Prog.orElse_ok, if_true]
      rw [Prog.run_bind, hrest]
      rfl

/-- Cleaning up leaves every report and the log as they are. -/
theorem run_cleanupStrayTmpFiles (w : World) :
    ∃ stray w', cleanupStrayTmpFiles.run (handle script.env) w = (some (.ok stray), w') ∧
      w'.submissions = w.submissions ∧ ∀ n, suffix n = ".json".toList → w'.lookup n = w.lookup n := by
  obtain ⟨stray, w', hrun⟩ :=
    @run_unlinkAll script (w.dir.keys.filter fun n => suffix n = ".tmp".toList) w
  have hcleanup : cleanupStrayTmpFiles.run (handle script.env) w = (some (.ok stray), w') :=
    (run_queueCall_bind _ rfl).trans hrun
  refine ⟨stray, w', hcleanup, ?_⟩
  have hpost := (Prog.wp_run (script_exec script) Tick.refl (G := fun _ _ => True)
    cleanupStrayTmpFiles
    (wp_cleanupStrayTmpFiles (P := fun s => s.submissions = w.submissions ∧
      ∀ n, suffix n = ".json".toList → s.lookup n = w.lookup n) ?_ (fun _ _ => trivial) ?_ ⟨rfl, fun _ _ => rfl⟩)).2
    (.ok stray) (by rw [hcleanup])
  · rw [hcleanup] at hpost
    exact hpost
  · rintro s s' ⟨t, -, rfl⟩ hs
    exact hs
  · rintro s n hn ⟨hsub, hlook⟩
    refine ⟨trivial, hsub, fun m hm => ?_⟩
    rw [← hlook m hm]
    refine World.lookup_remove_ne s ?_
    rintro rfl
    rw [hm] at hn
    exact absurd hn (by decide)

theorem run_statAll {names : List String} {w : World} (h : ∀ n ∈ names, ∃ f, w.lookup n = some f) :
    ∃ keyed, (statAll names).run (handle script.env) w = (some (.ok keyed), w) := by
  induction names with
  | nil => exact ⟨[], rfl⟩
  | cons n ns ih =>
    obtain ⟨f, hf⟩ := h n List.mem_cons_self
    obtain ⟨rest, hrest⟩ := ih fun m hm => h m (List.mem_cons_of_mem n hm)
    have hcall : handle script.env (.statMtime n) w = (.ok f.mtime, w) := by simp only [handle, hf]
    refine ⟨(n, f.mtime) :: rest, (run_queueCall_bind _ hcall).trans ?_⟩
    simp only [Prog.bind_eq, Prog.run_bind, hrest, Prog.andThen_ok]
    rfl

theorem run_listPendingReportPaths (w : World) :
    ∃ paths, listPendingReportPaths.run (handle script.env) w = (some (.ok paths), w) ∧ Listed w paths := by
  obtain ⟨keyed, hstat⟩ := @run_statAll script (w.dir.keys.filter fun n => suffix n = ".json".toList) w
    fun n hn => (World.mem_keys_iff w).mp (mem_filter_suffix.mp hn).1
  have hlist : listPendingReportPaths.run (handle script.env) w = (some (.ok (sortByMtime keyed)), w) := by
    refine (run_queueCall_bind _ rfl).trans ?_
    simp only [Prog.bind_eq, Prog.run_bind]
    rw [show Prog.run (handle script.env) (statAll _) w = _ from hstat]
    rfl
  refine ⟨_, hlist, ?_⟩
  have hpost := (Prog.wp_run (script_exec script) Tick.refl (G := fun _ _ => True) listPendingReportPaths
    (wp_listPendingReportPaths (P := fun _ => True) (fun _ _ _ _ => trivial) (fun _ _ => trivial) trivial)).2
    (.ok (sortByMtime keyed)) (by rw [hlist])
  rw [hlist] at hpost
  exact hpost.2 _ rfl

/-- Every file that is a pending report is contained. -/
def EveryContained (script : Script) (registered_at : String) (w : World) : Prop :=
  ∀ p f, suffix p = ".json".toList → w.lookup p = some f →
    Contained script registered_at p f.content

theorem retries_bounded (script : Script) (paths : List String) :
    ∃ bound, ∀ p ∈ paths, script.retries p < bound := by
  induction paths with
  | nil => exact ⟨0, nofun⟩
  | cons p ps ih =>
    obtain ⟨bound, hbound⟩ := ih
    refine ⟨max bound (script.retries p + 1), fun q hq => ?_⟩
    rcases List.mem_cons.mp hq with rfl | hq
    · omega
    · have := hbound q hq
      omega

/-- The loop that a replay gets to: over the report files, as they are. -/
theorem run_replay_eq (script : Script) (client : DashboardClient) (shutdown_event : Bool)
    (registered_at : String) {w : World} (hw : w.submissions = []) :
    ∃ paths w₁, Waiting paths w₁ ∧
      (∀ p f, (p ∈ paths ∧ w₁.lookup p = some f) ↔ (suffix p = ".json".toList ∧ w.lookup p = some f)) ∧
      ∀ fuel, (replayPendingReports client shutdown_event fuel registered_at).run (handle script.env) w =
        (replayPaths client shutdown_event fuel registered_at paths {}).run (handle script.env) w₁ := by
  obtain ⟨stray, w₁, hcleanup, hlog, hsame⟩ := @run_cleanupStrayTmpFiles script w
  obtain ⟨paths, hlist, hlisted⟩ := @run_listPendingReportPaths script w₁
  refine ⟨paths, w₁, ?_, fun p f => ?_, fun fuel => ?_⟩
  · refine ⟨hlisted.nodup, fun p hp => ((hlisted.mem_iff p).mp hp).1, fun p hp => ((hlisted.mem_iff p).mp hp).2,
      fun p _ sub hsub => ?_⟩
    rw [hlog, hw] at hsub
    cases hsub
  · rw [hlisted.mem_iff p]
    constructor
    · rintro ⟨⟨hs, -⟩, hf⟩
      exact ⟨hs, (hsame p hs).symm.trans hf⟩
    · rintro ⟨hs, hf⟩
      have hf₁ := (hsame p hs).trans hf
      exact ⟨⟨hs, f, hf₁⟩, hf₁⟩
  · simp only [replayPendingReports, Prog.bind_eq, Prog.run_bind, hcleanup, Prog.andThen_ok, hlist]

/-- **The whole replay**, with enough fuel for the retries of its files, ends normally exactly when every
report file is contained. -/
theorem replay_settles (script : Script) (client : DashboardClient) (shutdown_event : Bool)
    (registered_at : String) {w : World} (hw : w.submissions = []) :
    ∃ bound, ∀ fuel, bound ≤ fuel →
      (EveryContained script registered_at w →
        Returns script (replayPendingReports client shutdown_event fuel registered_at) w fun _ => True) ∧
      (¬ EveryContained script registered_at w →
        Raises script (replayPendingReports client shutdown_event fuel registered_at) w) := by
  obtain ⟨paths, w₁, hwaiting, hfiles, hrun⟩ := run_replay_eq script client shutdown_event registered_at hw
  obtain ⟨bound, hbound⟩ := retries_bounded script paths
  refine ⟨bound, fun fuel hle => ?_⟩
  have hiff : EveryContained script registered_at w ↔ AllContained script registered_at paths w₁ := by
    constructor
    · intro h p hp f hf
      obtain ⟨hs, hf'⟩ := (hfiles p f).mp ⟨hp, hf⟩
      exact h p f hs hf'
    · intro h p f hs hf
      obtain ⟨hp, hf'⟩ := (hfiles p f).mpr ⟨hs, hf⟩
      exact h p hp f hf'
  simp only [hiff, Returns, Raises, hrun]
  exact replayPaths_settles {} hwaiting fun p hp => Nat.lt_of_lt_of_le (hbound p hp) hle

/-- A replay that returned has sent every record that was due. -/
theorem replay_returned {w : World} (hw : w.submissions = [])
    (hret : Returns script (replayPendingReports client shutdown_event fuel registered_at) w fun _ => True)
    {p : String} (hp : suffix p = ".json".toList) {f : File} (hf : w.lookup p = some f) {d : Dict}
    (hdue : Due registered_at d f.content) :
    ∃ sub ∈ ((replayPendingReports client shutdown_event fuel registered_at).run
      (handle script.env) w).2.submissions, sub.path = p ∧ wireBody (wirePayload d) = .ok sub.body := by
  obtain ⟨paths, w₁, hwaiting, hfiles, hrun⟩ := run_replay_eq script client shutdown_event registered_at hw
  obtain ⟨hmem, hf₁⟩ := (hfiles p f).mpr ⟨hp, hf⟩
  simp only [Returns, hrun] at hret ⊢
  exact replayPaths_returned {} hwaiting hret hmem hf₁ hdue

/-- No replay, however it ends, sends a file with nothing due. -/
theorem replay_skips {w : World} (hw : w.submissions = []) {p : String} (hp : suffix p = ".json".toList)
    {f : File} (hf : w.lookup p = some f) (hnone : ∀ d, ¬ Due registered_at d f.content) :
    Unsent p ((replayPendingReports client shutdown_event fuel registered_at).run (handle script.env) w).2 := by
  obtain ⟨paths, w₁, hwaiting, hfiles, hrun⟩ := run_replay_eq script client shutdown_event registered_at hw
  obtain ⟨hmem, hf₁⟩ := (hfiles p f).mpr ⟨hp, hf⟩
  rw [hrun]
  exact replayPaths_skips {} hwaiting hmem hf₁ hnone

end Paths

/-- A dashboard that accepts every report at once. -/
def acceptAll : Script where
  reply _ _ := some ⟨200, .json (.obj [])⟩
  settles _ := ⟨0, rfl⟩
  noAuth := by
    rintro _ _ _ ⟨rfl⟩
    decide

end CertWatch
