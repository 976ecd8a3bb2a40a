/-
# `CertWatch.AcceptedConfigs` — which documents the loops can live with.

Nothing looks at a config before it is installed.  From then on every iteration of every loop reads it: the
heartbeat's arguments, the three intervals, the hosts and the settings of a cycle.  Here is what each of these
expressions needs, and that a document which lacks any of it is installed all the same, or stops the agent.
-/
import CertWatch.ActionSnapshots
import CertWatch.CycleBatching

namespace CertWatch

open CertWatch.Lib

/-! ## What the expressions need -/

theorem mapM_eq_ok {α β : Type} {f : α → Except PyExc β} {l : List α} :
    (∃ bs, l.mapM f = .ok bs) ↔ ∀ a ∈ l, ∃ b, f a = .ok b := by
  induction l with
  | nil => exact ⟨fun _ _ ha => absurd ha List.not_mem_nil, fun _ => ⟨[], rfl⟩⟩
  | cons a l ih =>
    rw [List.forall_mem_cons, ← ih, List.mapM_cons]
    simp only [except_bind_eq_ok]
    constructor
    · rintro ⟨-, b, hb, bs, hbs, -⟩
      exact ⟨⟨b, hb⟩, bs, hbs⟩
    · rintro ⟨⟨b, hb⟩, bs, hbs⟩
      exact ⟨_, b, hb, bs, hbs, rfl⟩

/-- Every item of the list has its image. -/
theorem mem_mapM_of_mem {α β : Type} {f : α → Except PyExc β} {l : List α} {bs : List β} (h : l.mapM f = .ok bs)
    {a : α} (ha : a ∈ l) {b : β} (hb : f a = .ok b) : b ∈ bs := by
  induction l generalizing bs with
  | nil => cases ha
  | cons a' l ih =>
    rw [List.mapM_cons] at h
    obtain ⟨first, hfirst, h⟩ := except_bind_ok h
    obtain ⟨rest, hrest, h⟩ := except_bind_ok h
    obtain rfl : first :: rest = bs := Except.ok.inj h
    rcases List.mem_cons.mp ha with rfl | ha
    · obtain rfl := Except.ok.inj (hfirst.symm.trans hb)
      exact List.mem_cons_self
    · exact List.mem_cons_of_mem _ (ih hrest ha)

theorem Json.getOr_eq_ok {x v dflt : Json} {k : String} :
    x.getOr k dflt = .ok v ↔ ∃ d, x = .obj d ∧ Dict.getD d k dflt = v := by
  cases x <;> simp [Json.getOr]

/-- A manual host that goes into a cycle. -/
def SoundHost (h : Json) : Prop := ∃ d n, h = .obj d ∧ (Dict.getD d "port" (.int 443)).toInt = .ok n

theorem manualEntry_ok {rt : Runtime} {h : Json} : (∃ entry, manualEntry rt h = .ok entry) ↔ SoundHost h := by
  unfold manualEntry SoundHost
  cases h with
  | obj d =>
    simp only [Json.get, Json.getOr, except_bind_eq_ok]
    constructor
    · rintro ⟨entry, host_id, -, hostname, -, v, hv, port, hport, -⟩
      obtain rfl := Except.ok.inj hv
      exact ⟨d, port, rfl, hport⟩
    · rintro ⟨d', n, hd, hn⟩
      obtain rfl := Json.obj.inj hd
      exact ⟨_, _, rfl, _, rfl, _, rfl, n, hn, rfl⟩
  | _ =>
    constructor
    · rintro ⟨entry, hentry⟩
      cases hentry
    · rintro ⟨d, n, hd, -⟩
      cases hd

/-- `manual_hosts` is absent, empty or false, or a list of sound hosts. -/
def SoundHosts (config : Dict) : Prop :=
  (Dict.getD config "manual_hosts" (.arr [])).truthy = true →
    ∃ hs, Dict.getD config "manual_hosts" (.arr []) = .arr hs ∧ ∀ h ∈ hs, SoundHost h

theorem toCheck_ok {rt : Runtime} {config : Dict} {netbox_hosts : List DiscoveredHost} :
    (∃ hosts, toCheck rt config netbox_hosts = .ok hosts) ↔ SoundHosts config := by
  have hsplit : (∃ hosts, toCheck rt config netbox_hosts = .ok hosts) ↔
      ∃ hs, manualHosts config = .ok hs ∧ ∀ h ∈ hs, SoundHost h := by
    unfold toCheck
    simp only [except_bind_eq_ok]
    constructor
    · rintro ⟨-, hs, hhs, entries, hentries, -⟩
      exact ⟨hs, hhs, fun h hh => manualEntry_ok.mp (mapM_eq_ok.mp ⟨entries, hentries⟩ h hh)⟩
    · rintro ⟨hs, hhs, hsound⟩
      obtain ⟨entries, hentries⟩ := mapM_eq_ok.mpr fun h hh => (@manualEntry_ok rt h).mpr (hsound h hh)
      exact ⟨_, hs, hhs, entries, hentries, rfl⟩
  rw [hsplit]
  unfold manualHosts SoundHosts Json.or
  generalize Dict.getD config "manual_hosts" (.arr []) = x
  split_ifs with htruthy
  · -- a text or a dictionary has items, and they are no objects
    have hnone : ∀ t : String, ¬ SoundHost (.str t) := fun t ⟨_, _, ht, _⟩ => by cases ht
    cases x with
    | arr hs => simp [Json.iterate, htruthy]
    | str s =>
      have hne : s.toList ≠ [] := by
        intro hnil
        obtain rfl : s = "" := String.toList_inj.mp hnil
        cases htruthy
      obtain ⟨c, cs, hcs⟩ := List.exists_cons_of_ne_nil hne
      simp [Json.iterate, htruthy, hcs, hnone]
    | obj d =>
      cases d with
      | nil => cases htruthy
      | cons kv d => simp [Json.iterate, htruthy, hnone]
    | _ => simp [Json.iterate, htruthy]
  · simp [Json.iterate, htruthy]

/-- `alert_thresholds_days` is absent, empty or false, or has items of which `int` can be taken. -/
def SoundThresholds (config : Dict) : Prop :=
  ∃ ts, ((Dict.getD config "alert_thresholds_days" (.arr [.int 30])).or (.arr [.int 30])).iterate = .ok ts ∧
    ∀ t ∈ ts, ∃ n, t.toInt = .ok n

theorem iterate_ne_nil {x : Json} {xs : List Json} (hx : x.truthy = true) (h : x.iterate = .ok xs) : xs ≠ [] := by
  rintro rfl
  cases x with
  | arr xs =>
    obtain rfl : xs = [] := Except.ok.inj h
    cases hx
  | obj d =>
    obtain rfl : d = [] := List.map_eq_nil_iff.mp (Except.ok.inj h)
    cases hx
  | str s =>
    have hnil : s.toList = [] := List.map_eq_nil_iff.mp (Except.ok.inj h)
    obtain rfl : s = "" := String.toList_inj.mp hnil
    cases hx
  | _ => cases h

theorem expiringSoonThreshold_ok {config : Dict} :
    (∃ threshold, expiringSoonThreshold config = .ok threshold) ↔ SoundThresholds config := by
  unfold expiringSoonThreshold SoundThresholds
  have htruthy : ((Dict.getD config "alert_thresholds_days" (.arr [.int 30])).or (.arr [.int 30])).truthy = true := by
    unfold Json.or
    split_ifs with h
    · exact h
    · rfl
  generalize (Dict.getD config "alert_thresholds_days" (.arr [.int 30])).or (.arr [.int 30]) = x at htruthy
  simp only [except_bind_eq_ok]
  constructor
  · rintro ⟨-, ts, hts, ns, hns, -⟩
    exact ⟨ts, hts, mapM_eq_ok.mp ⟨ns, hns⟩⟩
  · rintro ⟨ts, hts, hsound⟩
    obtain ⟨ns, hns⟩ := mapM_eq_ok.mpr hsound
    obtain ⟨t, ts', rfl⟩ := List.exists_cons_of_ne_nil (iterate_ne_nil htruthy hts)
    obtain ⟨n, hn⟩ := hsound t List.mem_cons_self
    obtain ⟨n', ns', rfl⟩ : ∃ n' ns', ns = n' :: ns' :=
      List.exists_cons_of_ne_nil (List.ne_nil_of_mem (mem_mapM_of_mem hns List.mem_cons_self hn))
    exact ⟨_, _, hts, _, hns, rfl⟩

/-- `timeouts` and `concurrency` are absent, or objects with numbers, of which the last is positive. -/
structure SoundSettings (rt : Runtime) (config : Dict) : Prop where
  timeouts : ∃ d, Dict.getD config "timeouts" (.obj []) = .obj d ∧
    ∀ k ∈ ["tcp_connect_seconds", "tls_handshake_seconds"], ∃ x, rt.toFloat (Dict.getD d k (.int 5)) = .ok x
  concurrency : ∃ d n, Dict.getD config "concurrency" (.obj []) = .obj d ∧
    (Dict.getD d "max_parallel_checks" (.int 20)).toInt = .ok n ∧ 0 < n

theorem checkSettings_ok {rt : Runtime} {config : Dict} {threshold : Int} :
    (∃ settings, checkSettings rt config threshold = .ok settings ∧ 0 < settings.max_concurrency) ↔
      SoundSettings rt config := by
  unfold checkSettings
  simp only [except_bind_eq_ok, Json.getOr_eq_ok]
  constructor
  · rintro ⟨settings, ⟨_, ⟨d, hd, rfl⟩, tcp, htcp, _, ⟨d', hd', rfl⟩, tls, htls, _, ⟨c, hc, rfl⟩, n, hn, heq⟩, hpos⟩
    obtain rfl := Except.ok.inj heq
    obtain rfl := Json.obj.inj (hd.symm.trans hd')
    refine ⟨⟨d, hd, fun k hk => ?_⟩, c, n, hc, hn, hpos⟩
    simp only [List.mem_cons, List.not_mem_nil, or_false] at hk
    rcases hk with rfl | rfl
    · exact ⟨tcp, htcp⟩
    · exact ⟨tls, htls⟩
  · rintro ⟨⟨d, hd, hnumbers⟩, c, n, hc, hn, hpos⟩
    obtain ⟨tcp, htcp⟩ := hnumbers "tcp_connect_seconds" (by decide)
    obtain ⟨tls, htls⟩ := hnumbers "tls_handshake_seconds" (by decide)
    exact ⟨_, ⟨_, ⟨d, hd, rfl⟩, tcp, htcp, _, ⟨d, hd, rfl⟩, tls, htls, _, ⟨c, hc, rfl⟩, n, hn, rfl⟩, hpos⟩

/-! ## What the loops do with a config -/

/-- What a loop reads beside the config. -/
structure LoopSurroundings where
  stats : Option Dict
  now : Rat
  utc_now_iso : String

/-- The answers to a loop that finds this config in force, up to the end of an undisturbed wait. -/
def LoopSurroundings.answer (s : LoopSurroundings) (timeout_max : Rat) (config : Dict) :
    (o : AgentOp) → Except PyExc o.Ret
  | .configSnapshot => .ok config
  | .statsSnapshot => .ok s.stats
  | .now => .ok s.now
  | .utcNowIso => .ok s.utc_now_iso
  | .waitFor seconds => waitForUnset timeout_max seconds
  | _ => .error (.other "unused")

/-- What a cycle meets beside the config: whatever its checks do and the dashboard answers. -/
structure CycleSurroundings where
  client : DashboardClient
  report_type : String
  netbox_hosts : List DiscoveredHost
  checks : CycleChecks
  reply : String → Nat → Option HttpResponse
  time : Nat
  fuel : Nat

namespace CycleSurroundings

variable (s : CycleSurroundings) (rt : Runtime) (config : Dict)

def cycle : CycleInput := ⟨rt, s.client, config, s.report_type, s.netbox_hosts⟩

def handle : (o : CycleOp) → World → Except PyExc o.Ret × World
  | .queue o, w => CertWatch.handle { reply := s.reply } o w
  | .runChecks settings hosts, w => ((s.cycle rt config).runChecks s.checks settings hosts, w)
  | .uuid4, w => (.ok "r1", w)

/-- The world after the cycle. -/
def after : World := (((s.cycle rt config).program (s.fuel + 1)).run (s.handle rt config) (World.fresh s.time)).2

/-- The answers to the part of a cycle that checks the hosts. -/
def poolAnswer : (o : CycleOp) → Except PyExc o.Ret
  | .runChecks settings hosts => (s.cycle rt config).runChecks s.checks settings hosts
  | .queue _ => .error (.other "unused")
  | .uuid4 => .error (.other "unused")

/-- The host is handed to the pool. -/
def HandsOver (entry : HostEntry) : Prop :=
  ∃ settings hosts, .runChecks settings hosts ∈ (checkHosts rt config s.netbox_hosts).made (s.poolAnswer rt config) ∧
    entry ∈ hosts

end CycleSurroundings

/-- The keys under `intervals` that the loops read. -/
def loopIntervals : List String := ["heartbeat_seconds", "check_seconds", "netbox_sync_seconds"]

section

variable (rt : Runtime) (timeout_max : Rat) (config : Dict)

/-- **No iteration of a loop comes to grief over the config.** -/
structure Harmless : Prop where
  arguments : ∀ (s : LoopSurroundings) (agent_version : String) (process_started_at : Rat),
    ∃ args, (buildHeartbeatArgs agent_version process_started_at).outcome (s.answer timeout_max config) =
      some (.ok args)
  intervals : ∀ key ∈ loopIntervals, ∀ s : LoopSurroundings,
    (waitInterval rt key).outcome (s.answer timeout_max config) = some (.ok false)
  /-- Every check cycle submits a report. -/
  submits : ∀ s : CycleSurroundings, (s.after rt config).submissions ≠ []
  /-- It checks every host that can be checked, whatever the others are. -/
  manual : ∀ (s : CycleSurroundings) (hs : List Json) (h : Json) (entry : HostEntry), manualHosts config = .ok hs →
    h ∈ hs → manualEntry rt h = .ok entry → s.HandsOver rt config entry
  netbox : ∀ (s : CycleSurroundings), ∀ nh ∈ s.netbox_hosts, s.HandsOver rt config (netboxEntry nh)

/-- **What the expressions that read a config need of it.** -/
structure Usable : Prop where
  version : ∃ v n, config.get? "config_version" = some v ∧ v.toInt = .ok n
  intervals : ∀ key ∈ loopIntervals, WaitableInterval rt timeout_max key config
  hosts : SoundHosts config
  thresholds : SoundThresholds config
  settings : SoundSettings rt config

end

/-! ## The heartbeat -/

section

variable {rt : Runtime} {timeout_max : Rat} {config : Dict}

theorem buildHeartbeatArgs_outcome (s : LoopSurroundings) (agent_version : String) (process_started_at : Rat) :
    (∃ args, (buildHeartbeatArgs agent_version process_started_at).outcome (s.answer timeout_max config) =
      some (.ok args)) ↔ ∃ v n, config.get? "config_version" = some v ∧ v.toInt = .ok n := by
  have hfirst : (buildHeartbeatArgs agent_version process_started_at).outcome (s.answer timeout_max config) =
      some (do
        let config_version ← config.getItem "config_version"
        let current_config_version ← config_version.toInt
        return { sent_at := s.utc_now_iso, agent_version, current_config_version, stats := s.stats
                 uptime_seconds := max 0 (truncate (s.now - process_started_at)) }) := by
    show ((Prog.ofExcept (config.getItem "config_version") : Agent Json).bind fun config_version =>
      (Prog.ofExcept config_version.toInt : Agent Int).bind fun _ => .ret _).outcome _ = _
    cases config.getItem "config_version" with
    | error e => rfl
    | ok v =>
      show ((Prog.ofExcept v.toInt : Agent Int).bind fun _ => .ret _).outcome _ = some (v.toInt >>= _)
      cases v.toInt <;> rfl
  rw [hfirst]
  simp only [Option.some.injEq, except_bind_eq_ok, Dict.getItem_eq_ok]
  constructor
  · rintro ⟨-, v, hv, n, hn, -⟩
    exact ⟨v, n, hv, hn⟩
  · rintro ⟨v, n, hv, hn⟩
    exact ⟨_, v, hv, n, hn, rfl⟩

theorem waitForUnset_ok {seconds : PyFloat} :
    waitForUnset timeout_max seconds = .ok false ↔ seconds.Waitable timeout_max := by
  refine ⟨fun h => ?_, waitForUnset_waitable⟩
  by_contra hnot
  cases h.symm.trans (waitForUnset_not_waitable hnot)

theorem waitInterval_outcome (s : LoopSurroundings) (key : String) :
    (waitInterval rt key).outcome (s.answer timeout_max config) = some (.ok false) ↔
      WaitableInterval rt timeout_max key config := by
  have hfirst : (waitInterval rt key).outcome (s.answer timeout_max config) =
      some (intervalSeconds rt key config >>= waitForUnset timeout_max) := by
    show ((Prog.ofExcept (intervalSeconds rt key config) : Agent PyFloat).bind fun interval =>
      agentCall (.waitFor interval)).outcome _ = _
    cases intervalSeconds rt key config with
    | error e => rfl
    | ok seconds =>
      show (agentCall (.waitFor seconds)).outcome _ = some (waitForUnset timeout_max seconds)
      exact Prog.outcome_perform _ _
  rw [hfirst]
  simp only [Option.some.injEq, except_bind_eq_ok, waitForUnset_ok, intervalSeconds_eq_ok, WaitableInterval]
  constructor
  · rintro ⟨seconds, ⟨intervals, v, hintervals, hv, hfloat⟩, hwait⟩
    exact ⟨intervals, v, seconds, hintervals, hv, hfloat, hwait⟩
  · rintro ⟨intervals, v, seconds, hintervals, hv, hfloat, hwait⟩
    exact ⟨seconds, ⟨intervals, v, hintervals, hv, hfloat⟩, hwait⟩

end

/-! ## The cycle -/

namespace CycleSurroundings

variable {s : CycleSurroundings} {rt : Runtime} {config : Dict} {w : World}

/-- What the part of a cycle that checks the hosts comes to. -/
def checksOutcome (s : CycleSurroundings) (rt : Runtime) (config : Dict) : Except PyExc (List Dict) := do
  let to_check ← toCheck rt config s.netbox_hosts
  let expiring_soon_threshold ← expiringSoonThreshold config
  if to_check.isEmpty then
    return []
  else do
    let settings ← checkSettings rt config expiring_soon_threshold
    let results_by_key ← (s.cycle rt config).runChecks s.checks settings to_check
    buildChecks rt results_by_key to_check

theorem run_checkHosts : (checkHosts rt config s.netbox_hosts).run (s.handle rt config) w =
    (some (s.checksOutcome rt config), w) := by
  unfold checkHosts checksOutcome
  simp only [Prog.bind_eq]
  cases toCheck rt config s.netbox_hosts with
  | error e => rfl
  | ok hosts =>
    cases expiringSoonThreshold config with
    | error e => rfl
    | ok threshold =>
      simp only [Prog.ofExcept_ok, Prog.ret_bind, bind, Except.bind]
      split_ifs
      · rfl
      · cases checkSettings rt config threshold with
        | error e => rfl
        | ok settings =>
          have hlast : ∀ x : Except PyExc Results, Prog.andThen (s.handle rt config)
              (fun results => (Prog.ofExcept (buildChecks rt results hosts) : Cycle (List Dict))) (some x, w) =
                (some (x >>= fun results => buildChecks rt results hosts), w) := by
            intro x
            cases x with
            | error e => rfl
            | ok results => exact Prog.run_ofExcept _ _ _
          have hchecks := @Prog.run_perform cycleSig PyExc World (s.handle rt config) (.runChecks settings hosts) w
          show (((cycleCall (.runChecks settings hosts)).bind fun results =>
            .ofExcept (buildChecks rt results hosts)).run (s.handle rt config) w) = _
          rw [Prog.run_bind]
          exact (congrArg _ hchecks).trans (hlast _)

/-- **A cycle's checks go through** exactly when its hosts, its threshold and, with hosts, its settings are sound. -/
theorem checksOutcome_ok : (∃ built, s.checksOutcome rt config = .ok built) ↔
    (SoundHosts config ∧ SoundThresholds config ∧
      ∀ hosts, toCheck rt config s.netbox_hosts = .ok hosts → hosts ≠ [] → SoundSettings rt config) := by
  rw [← @toCheck_ok rt config s.netbox_hosts, ← expiringSoonThreshold_ok]
  unfold checksOutcome
  simp only [except_bind_eq_ok]
  constructor
  · rintro ⟨built, hosts, hhosts, threshold, hthreshold, hrest⟩
    refine ⟨⟨hosts, hhosts⟩, ⟨threshold, hthreshold⟩, fun hosts' hhosts' hne => ?_⟩
    obtain rfl := Except.ok.inj (hhosts.symm.trans hhosts')
    rw [if_neg (by simpa using hne)] at hrest
    obtain ⟨settings, hsettings, hrest⟩ := except_bind_ok hrest
    obtain ⟨results, hresults, -⟩ := except_bind_ok hrest
    exact checkSettings_ok.mp ⟨settings, hsettings, CycleInput.pool_of_runChecks hresults⟩
  · rintro ⟨⟨hosts, hhosts⟩, ⟨threshold, hthreshold⟩, hsettings⟩
    by_cases hempty : hosts = []
    · subst hempty
      exact ⟨[], [], hhosts, threshold, hthreshold, rfl⟩
    · obtain ⟨settings, hsettings, hpool⟩ := (@checkSettings_ok rt config threshold).mpr (hsettings hosts hhosts hempty)
      have hprep : (s.cycle rt config).Prepares hosts settings :=
        ⟨hhosts, hempty, ⟨threshold, hthreshold, hsettings⟩, hpool⟩
      obtain ⟨results, hresults⟩ := @CycleInput.runChecks_ok (s.cycle rt config) s.checks _ _ hprep
      obtain ⟨built, hbuilt, -⟩ := CycleInput.built_host_refs hhosts hresults
      refine ⟨built, hosts, hhosts, threshold, hthreshold, ?_⟩
      rw [if_neg (by simpa using hempty)]
      exact except_bind_eq_ok.mpr ⟨settings, hsettings, except_bind_eq_ok.mpr ⟨results, hresults, hbuilt⟩⟩

/-! ### The submission -/

theorem run_onQueue_reply {α : Type} (q : Queue α) (w : World) :
    (onQueue q).run (s.handle rt config) w = q.run (CertWatch.handle { reply := s.reply }) w := by
  induction q generalizing w with
  | ret a => rfl
  | raise e => rfl
  | hang => rfl
  | call o k ih => exact ih _ _

/-- **Whatever the dashboard answers, the report is sent.** -/
theorem run_submit_sends {reply : String → Nat → Option HttpResponse} {client : DashboardClient} (fuel : Nat)
    (args : ReportArgs) (w : World) : ((submitReportWithRetry client true (fuel + 1) args).run
      (CertWatch.handle { reply }) w).2.submissions ≠ [] := by
  let env : Surroundings := { reply }
  let path := reportFile args.report_id
  let d := persistedRecord args.payload (utcNowIso w.time)
  have hsave : (savePendingReport args.report_id args.payload).run (CertWatch.handle env) w =
      (some (.ok path), w.written path d) := by
    refine (run_queueCall_bind _ rfl).trans ((run_queueCall_bind _ rfl).trans ?_)
    rw [Prog.bind_eq, Prog.run_bind, run_atomicWriteJson _ _ rfl]
    rfl
  have hrecord : HoldsRecord path d (w.written path d) := holdsRecord_written w path d
  have hattempts : (Dict.getD d "_attempts" (.int 0)).toInt = .ok 0 := by
    show (Dict.getD (persistedRecord args.payload (utcNowIso w.time)) "_attempts" (.int 0)).toInt = .ok 0
    rw [Dict.getD, persistedRecord, Dict.get?_set_self]
    rfl
  have hincrement := @run_incrementAttempts env (w.written path d) path d 0 rfl hrecord hattempts rfl
  obtain ⟨w₁, hw₁⟩ : ∃ w₁, w₁ = (w.written path d).written path (d.set "_attempts" (.int (0 + 1))) := ⟨_, rfl⟩
  rw [← hw₁] at hincrement
  obtain ⟨w₂, hsubmit, hsent⟩ : ∃ w₂, (submitWire client path args.payload).run (CertWatch.handle env) w₁ =
      (some (attemptResult client (reply path (w₁.callsFor path))), w₂) ∧ w₂.submissions ≠ [] := by
    have hcall : CertWatch.handle env (.submit path args.body) w₁ =
        ((reply path (w₁.callsFor path)).elim (.error .requests) .ok,
          w₁.submitted ⟨path, args.body, (reply path (w₁.callsFor path)).map (·.status)⟩) := by
      simp only [CertWatch.handle, env]
      cases reply path (w₁.callsFor path) <;> rfl
    refine ⟨_, run_submitWire_of (wireBody_payload args) hcall, ?_⟩
    exact List.append_ne_nil_of_right_ne_nil _ (List.cons_ne_nil _ _)
  have hrun : ∀ started_mono : Rat, (retryLoopForPath client true path args.payload started_mono (fuel + 1)).run
      (CertWatch.handle env) (w.written path d) = (handleOutcome true path args.payload started_mono (0 + 1)
        (retryLoopForPath client true path args.payload started_mono fuel)
          (attemptResult client (reply path (w₁.callsFor path)))).run (CertWatch.handle env) w₂ := by
    intro started_mono
    simp only [retryLoopForPath, Prog.bind_eq, Prog.run_bind, hincrement, Prog.andThen_ok, Prog.run_attempt, hsubmit]
    rfl
  obtain ⟨started_mono, hwhole⟩ : ∃ started_mono : Rat, (submitReportWithRetry client true (fuel + 1) args).run
      (CertWatch.handle env) w = (retryLoopForPath client true path args.payload started_mono (fuel + 1)).run
        (CertWatch.handle env) (w.written path d) := by
    refine ⟨0, ?_⟩
    rw [submitReportWithRetry, Prog.bind_eq]
    refine (run_queueCall_bind (o := .now) (a := (0 : Rat)) _ rfl).trans ?_
    rw [Prog.bind_eq, Prog.run_bind, hsave]
    rfl
  show ((submitReportWithRetry client true (fuel + 1) args).run (CertWatch.handle env) w).2.submissions ≠ []
  rw [hwhole, hrun]
  -- no call takes the submission back
  obtain ⟨rest, hrest⟩ := @run_log env _ (handleOutcome true path args.payload started_mono (0 + 1)
    (retryLoopForPath client true path args.payload started_mono fuel)
      (attemptResult client (reply path (w₁.callsFor path)))) w₂
  rw [← hrest]
  exact List.append_ne_nil_of_left_ne_nil hsent _

/-- Making something of a result changes nothing else. -/
theorem run_bind_ret {S : Sig} {ε α β σ : Type} {h : (o : S.Op) → σ → Except ε (S.Ret o) × σ} (p : Prog S ε α)
    (g : α → β) (w : σ) : ((p.bind fun a => .ret (g a)).run h w).2 = (p.run h w).2 := by
  rw [Prog.run_bind]
  obtain ⟨x, w'⟩ := p.run h w
  rcases x with _ | (e | a) <;> rfl

/-- A call that returns hands over to the rest. -/
theorem run_call_bind {α : Type} {o : CycleOp} {a : o.Ret} (f : o.Ret → Cycle α)
    (h : s.handle rt config o w = (.ok a, w)) :
    ((cycleCall o).bind f).run (s.handle rt config) w = (f a).run (s.handle rt config) w := by
  rw [Prog.run_bind]
  refine (congrArg _ (@Prog.run_perform cycleSig PyExc World (s.handle rt config) o w)).trans ?_
  rw [h]
  rfl

/-- The report of a cycle with these checks. -/
def report (s : CycleSurroundings) (built : List Dict) : ReportArgs where
  report_id := "r1"
  report_type := s.report_type
  started_at := utcNowIso s.time
  completed_at := utcNowIso s.time
  action_id := none
  checks := built.map .obj

/-- The cycle from its checks on. -/
def submitChecks (s : CycleSurroundings) (built : List Dict) : Cycle CycleResult :=
  (onQueue (submitReportWithRetry s.client true (s.fuel + 1) (s.report built))).bind fun submission_result =>
    .ret { started_at := utcNowIso s.time, completed_at := utcNowIso s.time, checks := built, duration_seconds := 0 - 0
           submission_status := submission_result.status }

theorem run_program : ((s.cycle rt config).program (s.fuel + 1)).run (s.handle rt config) (World.fresh s.time) =
    Prog.andThen (s.handle rt config) s.submitChecks (some (s.checksOutcome rt config), World.fresh s.time) := by
  refine (run_call_bind (o := .queue .now) (a := (0 : Rat)) _ rfl).trans ?_
  refine (run_call_bind (o := .queue .utcNowIso) _ rfl).trans ?_
  rw [Prog.bind_eq, Prog.run_bind]
  refine (congrArg _ (@run_checkHosts s rt config (World.fresh s.time))).trans ?_
  cases s.checksOutcome rt config with
  | error e => rfl
  | ok built =>
    refine (run_call_bind (o := .queue .utcNowIso) _ rfl).trans ?_
    refine (run_call_bind (o := .queue .now) (a := (0 : Rat)) _ rfl).trans ?_
    exact run_call_bind (o := .uuid4) _ rfl

/-- A cycle submits a report exactly when its checks go through. -/
theorem submits_iff : (s.after rt config).submissions ≠ [] ↔ ∃ built, s.checksOutcome rt config = .ok built := by
  unfold after
  rw [run_program]
  cases s.checksOutcome rt config with
  | error e => exact ⟨fun h => absurd rfl h, fun ⟨built, h⟩ => by cases h⟩
  | ok built =>
    refine ⟨fun _ => ⟨built, rfl⟩, fun _ => ?_⟩
    rw [Prog.andThen_ok, submitChecks, run_bind_ret, run_onQueue_reply]
    exact run_submit_sends s.fuel _ _

/-- What is handed over when the checks go through. -/
theorem handsOver_of_ok {hosts : List HostEntry} {entry : HostEntry} {built : List Dict}
    (hok : s.checksOutcome rt config = .ok built) (hhosts : toCheck rt config s.netbox_hosts = .ok hosts)
    (hentry : entry ∈ hosts) : s.HandsOver rt config entry := by
  unfold checksOutcome at hok
  obtain ⟨hosts', hhosts', hok⟩ := except_bind_ok hok
  obtain rfl := Except.ok.inj (hhosts.symm.trans hhosts')
  obtain ⟨threshold, hthreshold, hok⟩ := except_bind_ok hok
  have hne : ¬ hosts.isEmpty = true := by
    intro hempty
    rw [List.isEmpty_iff.mp hempty] at hentry
    cases hentry
  rw [if_neg hne] at hok
  obtain ⟨settings, hsettings, -⟩ := except_bind_ok hok
  refine ⟨settings, hosts, ?_, hentry⟩
  unfold checkHosts
  simp only [Prog.bind_eq, hhosts, Prog.ofExcept_ok, Prog.ret_bind, hthreshold, if_neg hne, hsettings]
  exact List.mem_cons_self

end CycleSurroundings

/-! ## Harmless configs -/

section

variable {rt : Runtime} {timeout_max : Rat} {config : Dict}

/-- A cycle over one host that NetBox knows. -/
def oneNetboxHost : CycleSurroundings where
  client := someClient
  report_type := "scheduled"
  netbox_hosts := [{ netbox_device_id := 1, hostname := "h", port := 443, display_name := none }]
  checks := { scripts := fun _ => CycleInput.refused 0 }
  reply _ _ := none
  time := 0
  fuel := 0

/-- **A config is harmless exactly when every expression that reads it has what it needs.** -/
theorem harmless_iff : Harmless rt timeout_max config ↔ Usable rt timeout_max config := by
  constructor
  · intro h
    let s : LoopSurroundings := ⟨none, 0, ""⟩
    obtain ⟨built, hbuilt⟩ := CycleSurroundings.submits_iff.mp (h.submits oneNetboxHost)
    obtain ⟨hhosts, hthresholds, hsettings⟩ := CycleSurroundings.checksOutcome_ok.mp ⟨built, hbuilt⟩
    refine ⟨(buildHeartbeatArgs_outcome s "" 0).mp (h.arguments s "" 0),
      fun key hkey => (waitInterval_outcome s key).mp (h.intervals key hkey s), hhosts, hthresholds, ?_⟩
    obtain ⟨hosts, hentries⟩ := (@toCheck_ok rt config oneNetboxHost.netbox_hosts).mpr hhosts
    refine hsettings hosts hentries fun hnil => ?_
    obtain ⟨hs, -, hrest⟩ := except_bind_ok hentries
    obtain ⟨manual, -, hrest⟩ := except_bind_ok hrest
    have hsplit : manual ++ oneNetboxHost.netbox_hosts.map netboxEntry = hosts := Except.ok.inj hrest
    rw [hnil] at hsplit
    simp [oneNetboxHost] at hsplit
  · intro h
    have hok : ∀ s : CycleSurroundings, ∃ built, s.checksOutcome rt config = .ok built := fun s =>
      CycleSurroundings.checksOutcome_ok.mpr ⟨h.hosts, h.thresholds, fun _ _ _ => h.settings⟩
    refine ⟨fun s agent_version process_started_at => (buildHeartbeatArgs_outcome s _ _).mpr h.version,
      fun key hkey s => (waitInterval_outcome s key).mpr (h.intervals key hkey),
      fun s => CycleSurroundings.submits_iff.mpr (hok s), fun s hs x entry hhs hx hentry => ?_, fun s nh hnh => ?_⟩
    · obtain ⟨built, hbuilt⟩ := hok s
      obtain ⟨hosts, hhosts⟩ := (@toCheck_ok rt config s.netbox_hosts).mpr h.hosts
      obtain ⟨hs', hhs', hrest⟩ := except_bind_ok hhosts
      obtain rfl := Except.ok.inj (hhs.symm.trans hhs')
      obtain ⟨manual, hmanual, hrest⟩ := except_bind_ok hrest
      refine CycleSurroundings.handsOver_of_ok hbuilt hhosts ?_
      rw [← Except.ok.inj hrest]
      exact List.mem_append_left _ (mem_mapM_of_mem hmanual hx hentry)
    · obtain ⟨built, hbuilt⟩ := hok s
      obtain ⟨hosts, hhosts⟩ := (@toCheck_ok rt config s.netbox_hosts).mpr h.hosts
      obtain ⟨hs, -, hrest⟩ := except_bind_ok hhosts
      obtain ⟨manual, -, hrest⟩ := except_bind_ok hrest
      refine CycleSurroundings.handsOver_of_ok hbuilt hhosts ?_
      rw [← Except.ok.inj hrest]
      exact List.mem_append_right _ (List.mem_map_of_mem hnh)

end

/-! ## Accepting a document -/

/-- What a fetch of the config meets: a 2xx response with this document. -/
structure ConfigFetch where
  document : Json
  status : Nat
  accepted : 200 ≤ status ∧ status < 300

namespace ConfigFetch

variable (fetch : ConfigFetch)

/-- The answers to a fetch; the state is the configs that `ConfigState` has held. -/
def answer : (o : AgentOp) → List Dict → Except PyExc o.Ret × List Dict
  | .getConfig _, configs => (.ok ⟨fetch.status, .json fetch.document⟩, configs)
  | .configSnapshot, configs => (.ok (configs.getLastD []), configs)
  | .configReplace config, configs => (.ok (), configs ++ [config])
  | _, configs => (.error (.other "unused"), configs)

variable (rt : Runtime) (timeout_max : Rat) (client : DashboardClient)

/-- The document can be used by every loop. -/
def CanServe : Prop := ∃ config, fetch.document = .obj config ∧ Harmless rt timeout_max config

/-- What becomes of the document at bootstrap, with the credentials of an agent. -/
def atBootstrap (agent_id agent_secret : Json) (fuel : Nat) : Option (Except PyExc Dict) :=
  ((fetchInitialConfigWithRetry client agent_id agent_secret 1 (fuel + 1) 0).run fetch.answer []).1

/-- What becomes of it at a refresh. -/
def atRefresh (configs : List Dict) : Option (Except PyExc Unit) × List Dict :=
  (refreshConfig client).run fetch.answer configs

/-- **At bootstrap the document is harmless if it is installed, and the defaults stand in for one that is not.** -/
structure SafeAtBootstrap (agent_id agent_secret : Json) (fuel : Nat) : Prop where
  installed : ∀ config, fetch.document = .obj config →
    fetch.atBootstrap client agent_id agent_secret fuel = some (.ok config) → Harmless rt timeout_max config
  kept : ¬ fetch.CanServe rt timeout_max →
    fetch.atBootstrap client agent_id agent_secret fuel = some (.ok defaultConfig)

/-- **At a refresh the document is harmless if it is installed, and the old config stays in place of one that is
not.** -/
structure SafeAtRefresh (configs : List Dict) : Prop where
  installed : ∀ config, fetch.document = .obj config → (fetch.atRefresh client configs).2 = configs ++ [config] →
    Harmless rt timeout_max config
  kept : ¬ fetch.CanServe rt timeout_max → fetch.atRefresh client configs = (some (.ok ()), configs)

variable {fetch rt timeout_max client}

theorem run_getConfig (configs : List Dict) :
    (getConfig client).run fetch.answer configs = (some (.ok fetch.document), configs) := by
  have hsend : (agentCall (.getConfig client)).run fetch.answer configs =
      (some (.ok ⟨fetch.status, .json fetch.document⟩), configs) := Prog.run_perform _ _ _
  refine (run_request hsend).trans ?_
  show (some (handleResponse "GET" client.configPath ⟨fetch.status, .json fetch.document⟩), configs) = _
  rw [handleResponse, if_pos fetch.accepted]

theorem atBootstrap_eq {agent_id agent_secret : Json} (hid : agent_id ≠ .null) (hsecret : agent_secret ≠ .null)
    (fuel : Nat) :
    fetch.atBootstrap client agent_id agent_secret fuel = some (acceptInitialConfig fetch.document) := by
  have hcredentials : requireCredentials agent_id agent_secret = .ok () := by
    rw [requireCredentials, if_neg (not_or.mpr ⟨hid, hsecret⟩)]
  unfold atBootstrap fetchInitialConfigWithRetry
  simp only [Prog.bind_eq, hcredentials, Prog.ofExcept_ok, Prog.ret_bind]
  rw [Prog.run_bind, Prog.run_attempt, run_getConfig]
  show ((Prog.ofExcept (acceptInitialConfig fetch.document) : Agent Dict).run fetch.answer []).1 = _
  rw [Prog.run_ofExcept]

/-- A document is installed as it is, if at all. -/
theorem acceptInitialConfig_eq_ok {cfg : Json} {config : Dict} (h : acceptInitialConfig cfg = .ok config) :
    cfg = .obj config := by
  cases cfg with
  | obj d =>
    obtain ⟨n, -, h⟩ := except_bind_ok h
    rw [Except.ok.inj h]
  | _ => cases h

/-- Once the document is fetched, what is left of a refresh is to install it. -/
theorem atRefresh_eq (configs : List Dict) :
    fetch.atRefresh client configs = (installConfig fetch.document).run fetch.answer configs := by
  unfold atRefresh refreshConfig
  rw [Prog.bind_eq, Prog.run_bind, Prog.run_attempt, run_getConfig]
  rfl

/-- A refresh installs every object, whatever is in it. -/
theorem atRefresh_obj {config : Dict} (h : fetch.document = .obj config) (configs : List Dict) :
    (fetch.atRefresh client configs).2 = configs ++ [config] := by
  rw [atRefresh_eq, h]
  show (Prog.run fetch.answer ((Prog.ofExcept
    ((Dict.getD config "manual_hosts" (.arr [])).or (.arr [])).len : Agent Nat).bind fun _ => .ret ())
      (configs ++ [config])).2 = _
  cases ((Dict.getD config "manual_hosts" (.arr [])).or (.arr [])).len <;> rfl

/-- A refresh does not get over any other document. -/
theorem atRefresh_not_obj (h : ∀ config, fetch.document ≠ .obj config) (configs : List Dict) :
    (fetch.atRefresh client configs).1 = some (.error .attributeError) := by
  rw [atRefresh_eq]
  cases hdocument : fetch.document with
  | obj config => exact absurd hdocument (h config)
  | _ => rfl

/-- **Bootstrap is safe for exactly the documents that the loops can use.** -/
theorem safeAtBootstrap_iff {agent_id agent_secret : Json} (hid : agent_id ≠ .null) (hsecret : agent_secret ≠ .null)
    (fuel : Nat) : fetch.SafeAtBootstrap rt timeout_max client agent_id agent_secret fuel ↔
      ∃ config, fetch.document = .obj config ∧ Usable rt timeout_max config := by
  constructor
  · intro h
    by_contra hnot
    have hserve : ¬ fetch.CanServe rt timeout_max := fun ⟨config, hconfig, hharmless⟩ =>
      hnot ⟨config, hconfig, harmless_iff.mp hharmless⟩
    have hkept := h.kept hserve
    rw [atBootstrap_eq hid hsecret] at hkept
    have hdefault := acceptInitialConfig_eq_ok (Option.some.inj hkept)
    -- then it is the default config that was fetched, and installed
    refine hserve ⟨defaultConfig, hdefault, h.installed defaultConfig hdefault ?_⟩
    rw [atBootstrap_eq hid hsecret]
    exact hkept
  · rintro ⟨config, hconfig, husable⟩
    refine ⟨fun config' hconfig' _ => ?_, fun hnot => absurd ⟨config, hconfig, harmless_iff.mpr husable⟩ hnot⟩
    obtain rfl := Json.obj.inj (hconfig.symm.trans hconfig')
    exact harmless_iff.mpr husable

/-- **So is a refresh.** -/
theorem safeAtRefresh_iff (configs : List Dict) : fetch.SafeAtRefresh rt timeout_max client configs ↔
    ∃ config, fetch.document = .obj config ∧ Usable rt timeout_max config := by
  constructor
  · intro h
    by_contra hnot
    have hserve : ¬ fetch.CanServe rt timeout_max := fun ⟨config, hconfig, hharmless⟩ =>
      hnot ⟨config, hconfig, harmless_iff.mp hharmless⟩
    have hkept := h.kept hserve
    cases hdocument : fetch.document with
    | obj config =>
      have hinstalled := @atRefresh_obj fetch client config hdocument configs
      rw [hkept] at hinstalled
      have hlength := congrArg List.length hinstalled
      simp at hlength
    | _ =>
      have hraised := @atRefresh_not_obj fetch client (by rw [hdocument]; nofun) configs
      rw [hkept] at hraised
      cases hraised
  · rintro ⟨config, hconfig, husable⟩
    refine ⟨fun config' hconfig' _ => ?_, fun hnot => absurd ⟨config, hconfig, harmless_iff.mpr husable⟩ hnot⟩
    obtain rfl := Json.obj.inj (hconfig.symm.trans hconfig')
    exact harmless_iff.mpr husable

end ConfigFetch

end CertWatch
