/-
# `CertWatch.CycleRuns` — every run of a check cycle, and what it sends.

A cycle runs among scripted checks, in the world of `CertWatch.QueueWorld`: its tasks are answered host by host
and complete in some order, and its report goes through the queue, where anything may fail.  Whatever happens, a
cycle sends one report, with the checks that its results make; and every list of checks that the results can make
is sent in some run.
-/
import CertWatch.CheckResults
import CertWatch.ScriptedRetry

namespace CertWatch

open CertWatch.Lib

/-! ## Runs -/

/-- What `_run_one_cycle` is called with. -/
structure CycleInput where
  rt : Runtime
  client : DashboardClient
  config : Dict
  report_type : String
  netbox_hosts : List DiscoveredHost

/-- How the checks of a cycle go: the answers to each host's calls, by its place in `to_check`, and the order in
which the futures of so many hosts complete. -/
structure CycleChecks where
  scripts : Nat → CheckScript
  order : Nat → List Nat := List.range
  order_perm : ∀ n, (order n).Perm (List.range n) := by exact fun n => List.Perm.refl _

namespace CycleInput

variable (c : CycleInput) (checks : CycleChecks)

/-- The cycle as a program. -/
def program (fuel : Nat) : Cycle CycleResult :=
  runOneCycle c.rt c.client c.config c.report_type c.netbox_hosts fuel

/-- `_run_parallel_checks` on these hosts. -/
def runChecks (settings : CheckSettings) (hosts : List HostEntry) : Except PyExc Results :=
  runParallelChecks c.rt settings hosts checks.scripts (checks.order hosts.length)

/-- The outcomes of a cycle's calls; every read of the queue may fail. -/
def exec : (o : CycleOp) → World → Except PyExc o.Ret → World → Prop
  | .queue o, w, r, w' => CertWatch.exec (fun _ _ => True) o w r w'
  | .runChecks settings hosts, w, r, w' => r = c.runChecks checks settings hosts ∧ w' = w
  | .uuid4, w, r, w' => (∃ report_id, r = .ok report_id) ∧ w' = w

/-- A run of the cycle, from a world that has seen no submission, comes to this point. -/
def Reaches (fuel : Nat) (p : Cycle CycleResult) (w : World) : Prop :=
  ∃ w₀ : World, w₀.submissions = [] ∧ Prog.Steps (c.exec checks) (c.program fuel, w₀) (p, w)

/-- The config and the snapshot make a cycle that checks these hosts with these settings. -/
structure Prepares (hosts : List HostEntry) (settings : CheckSettings) : Prop where
  hosts_ok : toCheck c.rt c.config c.netbox_hosts = .ok hosts
  nonempty : hosts ≠ []
  settings_ok : ∃ threshold, expiringSoonThreshold c.config = .ok threshold ∧
    checkSettings c.rt c.config threshold = .ok settings
  pool : 0 < settings.max_concurrency

/-- The checks that the cycle's results make. -/
inductive Builds : List Dict → Prop where
  | none : toCheck c.rt c.config c.netbox_hosts = .ok [] → Builds []
  | some {hosts : List HostEntry} {settings : CheckSettings} {results : Results} {built : List Dict} :
      c.Prepares hosts settings → c.runChecks checks settings hosts = .ok results →
      buildChecks c.rt results hosts = .ok built → Builds built

variable {c checks}

theorem runChecks_ok {hosts : List HostEntry} {settings : CheckSettings} (h : c.Prepares hosts settings) :
    ∃ results, c.runChecks checks settings hosts = .ok results := by
  unfold runChecks runParallelChecks
  rw [if_neg (Int.not_le.mpr h.pool)]
  exact ⟨_, rfl⟩

theorem pool_of_runChecks {hosts : List HostEntry} {settings : CheckSettings} {results : Results}
    (h : c.runChecks checks settings hosts = .ok results) : 0 < settings.max_concurrency := by
  unfold runChecks runParallelChecks at h
  split_ifs at h with hpool
  exact Int.not_le.mp hpool

/-- The cycle's results make one list of checks. -/
theorem Builds.unique {a b : List Dict} (ha : c.Builds checks a) (hb : c.Builds checks b) : a = b := by
  cases ha with
  | none hempty =>
    cases hb with
    | none => rfl
    | some hprep =>
      obtain rfl := Except.ok.inj (hempty.symm.trans hprep.hosts_ok)
      exact absurd rfl hprep.nonempty
  | some hprep hresults hbuild =>
    cases hb with
    | none hempty =>
      obtain rfl := Except.ok.inj (hempty.symm.trans hprep.hosts_ok)
      exact absurd rfl hprep.nonempty
    | some hprep' hresults' hbuild' =>
      obtain rfl := Except.ok.inj (hprep.hosts_ok.symm.trans hprep'.hosts_ok)
      obtain ⟨threshold, hthreshold, hsettings⟩ := hprep.settings_ok
      obtain ⟨threshold', hthreshold', hsettings'⟩ := hprep'.settings_ok
      obtain rfl := Except.ok.inj (hthreshold.symm.trans hthreshold')
      obtain rfl := Except.ok.inj (hsettings.symm.trans hsettings')
      obtain rfl := Except.ok.inj (hresults.symm.trans hresults')
      exact Except.ok.inj (hbuild.symm.trans hbuild')

end CycleInput

/-! ## What a submission sends -/

section Submit

variable {readFails : ReadSite → Content → Prop}

/-- Every submission so far carries this body. -/
def OnlySent (body : ReportBody) (w : World) : Prop := ∀ sub ∈ w.submissions, sub.body = body

/-- No call takes a submission back. -/
theorem exec_log {o : QueueOp} {w w' : World} {r : Except PyExc o.Ret} (h : exec readFails o w r w') :
    w.submissions <+: w'.submissions := by
  have hwrite : ∀ n c, w.submissions <+: (w.writeOpen n c).submissions := by
    intro n c
    unfold World.writeOpen
    split_ifs <;> exact List.prefix_refl _
  cases o with
  | dump tmp payload =>
    rcases h with ⟨e, content, -, rfl⟩ | ⟨-, rfl⟩ <;> exact hwrite _ _
  | submit path body =>
    rcases h with ⟨-, rfl⟩ | ⟨resp, -, rfl⟩ <;> exact List.prefix_append _ _
  | read site name =>
    obtain ⟨rfl, -⟩ := h
    exact List.prefix_refl _
  | now | utcNowIso | isSet | waitFor d | sleep d =>
    obtain ⟨-, rfl⟩ := h
    exact List.prefix_refl _
  | unlink name =>
    rcases h with ⟨-, rfl⟩ | ⟨-, -, rfl⟩ <;> exact List.prefix_refl _
  | replace tmp name | rename tmp name =>
    rcases h with ⟨-, rfl⟩ | ⟨-, f, -, rfl⟩ <;> exact List.prefix_refl _
  | _ => rcases h with ⟨-, rfl⟩ | ⟨-, rfl⟩ <;> exact List.prefix_refl _

/-- A request is in the log once it has been made. -/
theorem wp_submitWire_sent {client : DashboardClient} {path : String} {wire : Dict} {body : ReportBody}
    (hbody : wireBody wire = .ok body) (w : World) :
    (submitWire client path wire).wp (exec readFails) Eq (fun _ _ => True) (fun _ w' => w'.submissions ≠ []) w := by
  simp only [submitWire, submitReport, request, Prog.bind_eq, Prog.wp_bind, Prog.wp_ofExcept, hbody,
    Prog.thenPost_ok, Prog.wp_tryCatch]
  refine wp_queueCall.mpr ?_
  rintro _ rfl r w' hex
  refine ⟨trivial, ?_⟩
  have hsent : w'.submissions ≠ [] := by
    rcases hex with ⟨-, rfl⟩ | ⟨resp, -, rfl⟩ <;> exact List.append_ne_nil_of_right_ne_nil _ (List.cons_ne_nil _ _)
  cases r with
  | ok resp => simpa using hsent
  | error e =>
    rw [Prog.catchPost_error]
    cases e <;> exact hsent

/-- **A submission that returns has sent something.** -/
theorem wp_submit_sent {client : DashboardClient} {shutdown_event : Bool} (fuel : Nat) (args : ReportArgs)
    (w : World) :
    (submitReportWithRetry client shutdown_event fuel args).wp (exec readFails) Eq (fun _ _ => True)
      (fun x w' => ∀ r, x = .ok r → w'.submissions ≠ []) w := by
  have hany : ∀ {α : Type} (p : Queue α) (w : World),
      p.wp (exec readFails) Eq (fun _ _ => True) (fun _ _ => True) w := by
    intro α p w
    exact Prog.wp_preserved (I := fun _ => True) (fun _ _ _ _ => trivial) (fun _ _ _ _ _ _ => trivial) p trivial
  have hkept : ∀ {α : Type} (p : Queue α) {w : World}, w.submissions ≠ [] →
      p.wp (exec readFails) Eq (fun _ _ => True) (fun _ w' => w'.submissions ≠ []) w := by
    intro α p w hw
    refine Prog.wp_weaken (fun _ _ h => h) (fun _ _ _ => trivial) (Prog.wp_preserved ?_ ?_ p hw)
    · rintro s _ hs rfl
      exact hs
    · intro o s r s' hs hex hnil
      obtain ⟨rest, hrest⟩ := exec_log hex
      rw [hnil] at hrest
      exact hs (List.append_eq_nil_iff.mp hrest).1
  simp only [submitReportWithRetry, Prog.bind_eq, Prog.wp_bind]
  refine Prog.wp_mono ?_ (hany _ w)
  rintro (e | started_mono) w₁ -
  · rintro r ⟨⟩
  rw [Prog.thenPost_ok, Prog.wp_bind]
  refine Prog.wp_mono ?_ (hany _ w₁)
  rintro (e | path) w₂ -
  · rintro r ⟨⟩
  rw [Prog.thenPost_ok]
  cases fuel with
  | zero => trivial
  | succ fuel =>
    simp only [retryLoopForPath, Prog.bind_eq, Prog.wp_bind]
    refine Prog.wp_mono ?_ (hany _ w₂)
    rintro (e | attempts) w₃ -
    · rintro r ⟨⟩
    rw [Prog.thenPost_ok, Prog.wp_bind, Prog.wp_attempt]
    refine Prog.wp_mono ?_ (wp_submitWire_sent (wireBody_payload args) w₃)
    intro x w₄ hsent
    exact Prog.wp_mono (fun _ _ hs _ _ => hs) (hkept _ hsent)

/-- A step of a submission sends nothing but the report's own body. -/
theorem SubmitStep.onlySent {p : String} {args : ReportArgs} {w w' : World} (h : SubmitStep p args.payload w w')
    (hw : OnlySent args.body w) : OnlySent args.body w' := by
  cases h with
  | persist => exact hw
  | retry h =>
    cases h with
    | quiet hquiet =>
      unfold OnlySent
      rw [hquiet.submissions]
      exact hw
    | recount => exact hw
    | delete => exact hw
    | @call s _ _ hbody =>
      intro sub hsub
      rcases List.mem_append.mp hsub with hsub | hsub
      · exact hw sub hsub
      · obtain rfl := List.mem_singleton.mp hsub
        exact (Except.ok.inj (hbody.symm.trans (wireBody_payload args)))

/-- **A submission sends its own body and nothing else**, whatever fails, and it sends it before it returns. -/
theorem wp_submit_onlySent {client : DashboardClient} {shutdown_event : Bool} (fuel : Nat) (args : ReportArgs)
    {w : World} (hw : OnlySent args.body w) :
    (submitReportWithRetry client shutdown_event fuel args).wp (exec readFails) Eq
      (fun _ w' => OnlySent args.body w')
      (fun x w' => OnlySent args.body w' ∧ ∀ r, x = .ok r → w'.submissions ≠ []) w := by
  have hsteps := @Prog.wp_weaken _ _ _ _ _ _ _ _ Eq (SubmitStep (reportFile args.report_id) args.payload) _ _
    (by rintro s _ rfl; exact Others.refl _ s) (fun _ _ h => h)
    (@wp_submitReportWithRetry readFails client shutdown_event fuel args w)
  have hinv := Prog.wp_invariant (I := OnlySent args.body) (by rintro s _ hs rfl; exact hs)
    (fun _ _ hs hstep => SubmitStep.onlySent hstep hs) hw hsteps
  have hboth := Prog.wp_and hinv (wp_submit_sent fuel args w)
  refine Prog.wp_weaken (fun _ _ h => h) (fun _ _ h => h.1.2.2) (Prog.wp_mono ?_ hboth)
  rintro x w' ⟨⟨-, honly⟩, hsent⟩
  exact ⟨honly, hsent⟩

end Submit

/-! ## What a cycle sends -/

namespace CycleInput

section Sound

variable {c : CycleInput} {checks : CycleChecks}

/-- The world holds submissions of one report with these checks. -/
def SendsOnly (built : List Dict) (w : World) : Prop :=
  ∃ args : ReportArgs, args.checks = built.map .obj ∧ OnlySent args.body w

/-- Nothing was sent yet, or the one report that the cycle's results make. -/
def Consistent (c : CycleInput) (checks : CycleChecks) (w : World) : Prop :=
  w.submissions = [] ∨ ∃ built, c.Builds checks built ∧ SendsOnly built w

/-- What holds when the cycle has returned: the report was sent. -/
def Sent (c : CycleInput) (checks : CycleChecks) (w : World) : Prop :=
  ∃ built, c.Builds checks built ∧ SendsOnly built w ∧ w.submissions ≠ []

/-- The queue's calls are the same calls inside a cycle. -/
theorem wp_onQueue {α : Type} {R G : World → World → Prop} {Q : Except PyExc α → World → Prop} (q : Queue α)
    {w : World} : (onQueue q).wp (c.exec checks) R G Q w ↔ q.wp (CertWatch.exec fun _ _ => True) R G Q w := by
  induction q generalizing w with
  | ret a => exact Iff.rfl
  | raise e => exact Iff.rfl
  | hang => exact Iff.rfl
  | call o k ih =>
    simp only [onQueue, Prog.wp_call]
    exact forall₅_congr fun _ _ r _ _ => and_congr_right fun _ => ih r

/-- A call that leaves the world alone. -/
theorem wp_stillCall {o : CycleOp} {G : World → World → Prop} {Q : Except PyExc o.Ret → World → Prop} {w : World}
    (ho : ∀ r w', c.exec checks o w r w' → w' = w) (hG : G w w) (hQ : ∀ r, c.exec checks o w r w → Q r w) :
    (cycleCall o).wp (c.exec checks) Eq G Q w := by
  refine Prog.wp_perform.mpr ?_
  rintro _ rfl r w' hex
  obtain rfl := ho r w' hex
  exact ⟨hG, hQ r hex⟩

theorem wp_checkHosts {G : World → World → Prop} {w : World} (hG : G w w) :
    (checkHosts c.rt c.config c.netbox_hosts).wp (c.exec checks) Eq G
      (fun x w' => w' = w ∧ ∀ built, x = .ok built → c.Builds checks built) w := by
  simp only [checkHosts, Prog.bind_eq, Prog.wp_bind, Prog.wp_ofExcept]
  apply Prog.thenPost_intro
  · intro hosts hhosts
    rw [Prog.wp_bind, Prog.wp_ofExcept]
    apply Prog.thenPost_intro
    · intro threshold hthreshold
      cases hempty : hosts.isEmpty with
      | true =>
        -- without hosts the settings are not even read
        obtain rfl := List.isEmpty_iff.mp hempty
        refine ⟨rfl, ?_⟩
        intro built hbuilt
        obtain rfl := Except.ok.inj hbuilt
        exact .none hhosts
      | false =>
        rw [if_neg Bool.false_ne_true, Prog.wp_bind, Prog.wp_ofExcept]
        apply Prog.thenPost_intro
        · intro settings hsettings
          rw [Prog.wp_bind]
          refine wp_stillCall (fun _ _ h => h.2) hG ?_
          rintro r ⟨hresults, -⟩
          apply Prog.thenPost_intro
          · rintro results rfl
            rw [Prog.wp_ofExcept]
            refine ⟨rfl, ?_⟩
            intro built hbuilt
            have hprep : c.Prepares hosts settings := {
              hosts_ok := hhosts
              nonempty := List.isEmpty_eq_false_iff.mp hempty
              settings_ok := ⟨threshold, hthreshold, hsettings⟩
              pool := pool_of_runChecks hresults.symm }
            exact .some hprep hresults.symm hbuilt
          · intro e _
            exact ⟨rfl, by rintro built ⟨⟩⟩
        · intro e _
          exact ⟨rfl, by rintro built ⟨⟩⟩
    · intro e _
      exact ⟨rfl, by rintro built ⟨⟩⟩
  · intro e _
    exact ⟨rfl, by rintro built ⟨⟩⟩

/-- **What a cycle may send**, at every call and when it returns. -/
theorem wp_program (fuel : Nat) {w : World} (hw : w.submissions = []) :
    (c.program fuel).wp (c.exec checks) Eq (fun _ w' => c.Consistent checks w')
      (fun x w' => ∀ result, x = .ok result → c.Sent checks w') w := by
  have hquiet : c.Consistent checks w := Or.inl hw
  have hstill : ∀ (o : QueueOp), (∀ s r s', CertWatch.exec (fun _ _ => True) o s r s' → s' = s) →
      ∀ r w', c.exec checks (.queue o) w r w' → w' = w := fun o ho r w' h => ho w r w' h
  simp only [program, runOneCycle, Prog.bind_eq, Prog.wp_bind]
  refine wp_stillCall (hstill .now exec_now_still) hquiet fun _ _ => Prog.thenPost_intro ?_ (fun _ _ => nofun)
  intro cycle_start _
  rw [Prog.wp_bind]
  refine wp_stillCall (hstill .utcNowIso exec_utcNowIso_still) hquiet fun _ _ =>
    Prog.thenPost_intro ?_ (fun _ _ => nofun)
  intro started_at _
  rw [Prog.wp_bind]
  refine Prog.wp_mono ?_ (wp_checkHosts hquiet)
  rintro x _ ⟨rfl, hbuilds⟩
  refine Prog.thenPost_intro ?_ (fun _ _ => nofun)
  intro built hbuilt
  have hbuilds := hbuilds built hbuilt
  rw [Prog.wp_bind]
  refine wp_stillCall (hstill .utcNowIso exec_utcNowIso_still) hquiet fun _ _ =>
    Prog.thenPost_intro ?_ (fun _ _ => nofun)
  intro completed_at _
  rw [Prog.wp_bind]
  refine wp_stillCall (hstill .now exec_now_still) hquiet fun _ _ => Prog.thenPost_intro ?_ (fun _ _ => nofun)
  intro cycle_end _
  rw [Prog.wp_bind]
  refine wp_stillCall (fun _ _ h => h.2) hquiet fun _ _ => Prog.thenPost_intro ?_ (fun _ _ => nofun)
  intro report_id _
  -- from here on the one report is sent, and nothing else
  have hnone : ∀ body, OnlySent body _ := fun body sub hsub => by
    rw [hw] at hsub
    cases hsub
  rw [Prog.wp_bind, wp_onQueue]
  refine Prog.wp_mono ?_ (Prog.wp_weaken (fun _ _ h => h)
    (fun _ _ honly => Or.inr ⟨built, hbuilds, _, rfl, honly⟩) (wp_submit_onlySent fuel _ (hnone _)))
  rintro x w' ⟨honly, hsent⟩
  refine Prog.thenPost_intro ?_ (fun _ _ => nofun)
  rintro r rfl result -
  exact ⟨built, hbuilds, ⟨_, rfl, honly⟩, hsent r rfl⟩

/-- In every run, what has been sent is the one report that the cycle's results make. -/
theorem Reaches.consistent {fuel : Nat} {p : Cycle CycleResult} {w : World} (h : c.Reaches checks fuel p w) :
    c.Consistent checks w := by
  obtain ⟨w₀, hw₀, hsteps⟩ := h
  obtain ⟨hrun, -⟩ := Prog.wp_steps (fun _ => rfl) (wp_program fuel hw₀) hsteps
  rcases Relation.ReflTransGen.cases_tail hrun with rfl | ⟨w', -, h⟩
  · exact Or.inl hw₀
  · exact h

/-- A cycle that returned has sent it. -/
theorem Reaches.sent {fuel : Nat} {result : CycleResult} {w : World} (h : c.Reaches checks fuel (.ret result) w) :
    c.Sent checks w := by
  obtain ⟨w₀, hw₀, hsteps⟩ := h
  exact (Prog.wp_steps (fun _ => rfl) (wp_program fuel hw₀) hsteps).2 result rfl

end Sound

/-! ## Scripted cycles -/

/-- An answer that ends the report at once. -/
def EndsAtOnce (wire : Dict) (resp : HttpResponse) (status : SubmissionStatus) : Prop :=
  ∀ (client : DashboardClient) (path : String) (started_mono : Rat) (attempts : Int)
    (retry : Queue ReportSubmissionResult),
    ∃ summary, handleOutcome true path wire started_mono attempts retry (attemptResult client (some resp)) =
      finishAttempt path started_mono status attempts summary

/-- An answer that a dashboard may give to every submission: it settles each of them, and it is no 401. -/
structure Settling (resp : HttpResponse) : Prop where
  settles : retriable (some resp) = false
  noAuth : resp.status ≠ 401

/-- The dashboard that gives it. -/
def Settling.script {resp : HttpResponse} (h : Settling resp) : Script where
  reply _ _ := some resp
  settles _ := ⟨0, h.settles⟩
  noAuth _ _ _ hresp := Option.some.inj hresp ▸ h.noAuth

/-- A 200 with an empty object. -/
def accepted : HttpResponse := ⟨200, .json (.obj [])⟩

/-- A 413 without a body. -/
def tooLarge : HttpResponse := ⟨413, .notJson⟩

theorem settling_accepted : Settling accepted := ⟨by decide, by decide⟩

theorem settling_tooLarge : Settling tooLarge := ⟨by decide, by decide⟩

theorem endsAtOnce_accepted (args : ReportArgs) : EndsAtOnce args.payload accepted .delivered :=
  fun _ _ _ _ _ => ⟨.null, rfl⟩

/-- A 413 ends a report whose checks can be counted, and those of a cycle can. -/
theorem endsAtOnce_tooLarge (args : ReportArgs) : EndsAtOnce args.payload tooLarge .rejected := by
  intro client path started_mono attempts retry
  obtain ⟨n, hn⟩ := payload_checks_len args
  refine ⟨.null, ?_⟩
  show ((Prog.ofExcept ((Dict.getD args.payload "checks" (.arr [])).or (.arr [])).len : Queue Nat).bind fun _ => _) = _
  rw [hn]
  rfl

section Scripted

variable {c : CycleInput} {checks : CycleChecks} {script : Script} {client : DashboardClient} {w : World} {p : String}

/-- One answer to each call, the queue's as the script has them. -/
def handle (c : CycleInput) (checks : CycleChecks) (script : Script) :
    (o : CycleOp) → World → Except PyExc o.Ret × World
  | .queue o, w => CertWatch.handle script.env o w
  | .runChecks settings hosts, w => (c.runChecks checks settings hosts, w)
  | .uuid4, w => (.ok "r1", w)

theorem handle_exec (o : CycleOp) (w : World) :
    c.exec checks o w (c.handle checks script o w).1 (c.handle checks script o w).2 := by
  cases o with
  | queue o => exact CertWatch.handle_exec (fun _ _ _ _ => trivial) o w
  | runChecks settings hosts => exact ⟨rfl, rfl⟩
  | uuid4 => exact ⟨⟨_, rfl⟩, rfl⟩

theorem run_onQueue {α : Type} (q : Queue α) (w : World) :
    (onQueue q).run (c.handle checks script) w = q.run (CertWatch.handle script.env) w := by
  induction q generalizing w with
  | ret a => rfl
  | raise e => rfl
  | hang => rfl
  | call o k ih => exact ih _ _

/-- A call that returns hands over to the rest. -/
theorem run_cycleCall_bind {α : Type} {o : CycleOp} {a : o.Ret} {w w' : World} (f : o.Ret → Cycle α)
    (h : c.handle checks script o w = (.ok a, w')) :
    ((cycleCall o).bind f).run (c.handle checks script) w = (f a).run (c.handle checks script) w' := by
  rw [Prog.run_bind]
  refine (congrArg _ (@Prog.run_perform cycleSig PyExc World (c.handle checks script) o w)).trans ?_
  rw [h]
  rfl

/-- Ending an attempt sends nothing. -/
theorem run_finishAttempt (started_mono : Rat) (status : SubmissionStatus) (attempts : Int) (summary : Json)
    (w : World) :
    ∃ r w', (finishAttempt p started_mono status attempts summary).run (CertWatch.handle script.env) w =
      (some (.ok r), w') ∧ r.status = status ∧ w'.submissions = w.submissions := by
  simp only [finishAttempt, deletePendingReport, ignoreMissing, Prog.bind_eq, Prog.run_bind, Prog.run_tryCatch]
  cases hf : w.lookup p with
  | none =>
    have hcall : CertWatch.handle script.env (.unlink p) w = (.error fileNotFound, w) := by
      simp only [CertWatch.handle, hf]
    rw [show Prog.run (CertWatch.handle script.env) (queueCall (.unlink p)) w = _ from run_queueCall hcall]
    exact ⟨_, _, rfl, rfl, rfl⟩
  | some f =>
    have hcall : CertWatch.handle script.env (.unlink p) w = (.ok (), w.remove p) := by
      simp only [CertWatch.handle, hf]
    rw [show Prog.run (CertWatch.handle script.env) (queueCall (.unlink p)) w = _ from run_queueCall hcall]
    exact ⟨_, _, rfl, rfl, rfl⟩

/-- **A submission in an empty directory** makes one call and ends with its answer. -/
theorem run_submit {resp : HttpResponse} {status : SubmissionStatus} (args : ReportArgs) (time fuel : Nat)
    (hwrites : ∀ d, script.dumpFault d = none)
    (hreply : ∀ path n, script.reply path n = some resp) (hends : EndsAtOnce args.payload resp status) :
    ∃ r w', (submitReportWithRetry client true (fuel + 1) args).run (CertWatch.handle script.env) (World.fresh time) =
      (some (.ok r), w') ∧ r.status = status ∧
      w'.submissions = [⟨reportFile args.report_id, args.body, some resp.status⟩] := by
  have hsave : (savePendingReport args.report_id args.payload).run (CertWatch.handle script.env) (World.fresh time) =
      (some (.ok (reportFile args.report_id)), (World.fresh time).written (reportFile args.report_id)
        (persistedRecord args.payload (utcNowIso time))) := by
    refine (run_queueCall_bind _ rfl).trans ((run_queueCall_bind _ rfl).trans ?_)
    rw [Prog.bind_eq, Prog.run_bind, run_atomicWriteJson _ _ (hwrites _)]
    rfl
  have hnow : ∀ f : Rat → Queue ReportSubmissionResult,
      ((queueCall .now).bind f).run (CertWatch.handle script.env) (World.fresh time) =
        (f 0).run (CertWatch.handle script.env) (World.fresh time) :=
    fun f => run_queueCall_bind (o := .now) (a := (0 : Rat)) f rfl
  have hrecord := holdsRecord_written (World.fresh time) (reportFile args.report_id)
    (persistedRecord args.payload (utcNowIso time))
  have hattempts : (Dict.getD (persistedRecord args.payload (utcNowIso time)) "_attempts" (.int 0)).toInt = .ok 0 := by
    rw [Dict.getD, persistedRecord, Dict.get?_set_self]
    rfl
  have hround := @run_round script client true _ _ _ args.payload 0 0 args.body hrecord hattempts
    (hwrites _) (wireBody_payload args) fuel
  rw [hreply] at hround
  obtain ⟨summary, hfinish⟩ := hends client (reportFile args.report_id) 0 (0 + 1)
    (retryLoopForPath client true (reportFile args.report_id) args.payload 0 fuel)
  rw [hfinish] at hround
  obtain ⟨r, w', hrun, hstatus, hsubs⟩ := @run_finishAttempt script (reportFile args.report_id) 0 status
    (0 + 1) summary (((World.fresh time).written (reportFile args.report_id)
      (persistedRecord args.payload (utcNowIso time))).afterAttempt script (reportFile args.report_id)
        (persistedRecord args.payload (utcNowIso time)) 0 args.body)
  refine ⟨r, w', ?_, hstatus, ?_⟩
  · rw [submitReportWithRetry, Prog.bind_eq, hnow, Prog.bind_eq, Prog.run_bind, hsave]
    exact hround.trans hrun
  · rw [hsubs]
    show (World.written _ _ _).submissions ++ [attemptOf script _ _ args.body] = _
    rw [submissions_written, submissions_written, attemptOf, hreply]
    rfl

/-- **Every list of checks that the results make is sent in some run**, which returns with the report's fate. -/
theorem exists_run {hosts : List HostEntry} {settings : CheckSettings} {results : Results} {built : List Dict}
    {resp : HttpResponse} {status : SubmissionStatus} (hprep : c.Prepares hosts settings)
    (hresults : c.runChecks checks settings hosts = .ok results) (hbuild : buildChecks c.rt results hosts = .ok built)
    (hsettling : Settling resp) (hends : ∀ args : ReportArgs, EndsAtOnce args.payload resp status) :
    ∃ result w, c.Reaches checks 1 (.ret result) w ∧ result.submission_status = status ∧
      ∃ sub, w.submissions = [sub] ∧ sub.body.checks = .arr (built.map .obj) ∧ sub.answer = some resp.status := by
  obtain ⟨threshold, hthreshold, hsettings⟩ := hprep.settings_ok
  let args : ReportArgs := { report_id := "r1", report_type := c.report_type, started_at := utcNowIso 0,
                             completed_at := utcNowIso 0, action_id := none, checks := built.map .obj }
  obtain ⟨r, w', hsubmit, hstatus, hsubs⟩ :=
    @run_submit hsettling.script c.client resp status args 0 0 (fun _ => rfl) (fun _ _ => rfl)
      (hends args)
  have hchecks : (checkHosts c.rt c.config c.netbox_hosts).run (c.handle checks hsettling.script) (World.fresh 0) =
      (some (.ok built), World.fresh 0) := by
    simp only [checkHosts, Prog.bind_eq, hprep.hosts_ok, Prog.ofExcept_ok, Prog.ret_bind, hthreshold,
      List.isEmpty_eq_false_iff.mpr hprep.nonempty, Bool.false_eq_true, if_false, hsettings]
    refine (run_cycleCall_bind (o := .runChecks settings hosts) _ (congrArg (·, World.fresh 0) hresults)).trans ?_
    rw [hbuild]
    rfl
  let result : CycleResult := { started_at := utcNowIso 0, completed_at := utcNowIso 0, checks := built
                                duration_seconds := 0 - 0, submission_status := r.status }
  have hrun : (c.program 1).run (c.handle checks hsettling.script) (World.fresh 0) = (some (.ok result), w') := by
    refine (run_cycleCall_bind (o := .queue .now) _ rfl).trans ?_
    refine (run_cycleCall_bind (o := .queue .utcNowIso) _ rfl).trans ?_
    rw [Prog.bind_eq, Prog.run_bind, hchecks]
    refine (run_cycleCall_bind (o := .queue .utcNowIso) _ rfl).trans ?_
    refine (run_cycleCall_bind (o := .queue .now) _ rfl).trans ?_
    refine (run_cycleCall_bind (o := .uuid4) _ rfl).trans ?_
    rw [Prog.bind_eq, Prog.run_bind, run_onQueue]
    exact congrArg (Prog.andThen _ _) hsubmit
  refine ⟨result, w', ⟨World.fresh 0, rfl, ?_⟩, hstatus, _, hsubs, rfl, rfl⟩
  have hsteps := Prog.run_steps (@handle_exec c checks hsettling.script) (c.program 1) (World.fresh 0)
  rw [hrun] at hsteps
  exact hsteps

end Scripted

end CycleInput

end CertWatch
