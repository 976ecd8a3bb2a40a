/-
# `CertWatch.Telemetry` — what the heartbeats of a run tell the dashboard.

A heartbeat is built from a look at the config, one at the telemetry and one at the clocks, and sent.  Other threads go
on in between: the check thread records its cycles, whoever syncs records the syncs.  Each heartbeat still tells of one
whole cycle, the last that was recorded when its tick began or a later one, and of the version of a config that was in
force since the last heartbeat.
-/
import CertWatch.ActionSnapshots
import CertWatch.StatsHolder

namespace CertWatch

open CertWatch.Lib

variable {setup : Setup} {main_thread : Bool} {Meets : AgentLabel → AgentPool → Prop} {P : AgentPool}

/-! ## The telemetry of a log -/

/-- The cycle that a call has recorded. -/
def cycleRecorded : ThreadId × AgentCall → Option CheckCycleStats
  | (_, ⟨.recordCheckCycle cycle, .ok _⟩) => some cycle
  | _ => none

/-- The sync that a call has recorded. -/
def syncRecorded : ThreadId × AgentCall → Option String
  | (_, ⟨.sync (.recordNetboxSync completed_at), .ok _⟩) => some completed_at
  | _ => none

/-- The telemetry after these calls. -/
def telemetryOf (log : List (ThreadId × AgentCall)) : StatsState :=
  .ofRecords (lastOf cycleRecorded log) (lastOf syncRecorded log)

theorem stats_effect (s : AgentState) (i : ThreadId) (o : AgentOp) (r : Except PyExc o.Ret)
    (log : List (ThreadId × AgentCall)) (h : s.stats = telemetryOf log) :
    (effect s o r).stats = telemetryOf (log ++ [(i, ⟨o, r⟩)]) := by
  unfold telemetryOf at h ⊢
  rw [lastOf_concat, lastOf_concat]
  cases o with
  | recordCheckCycle cycle =>
    cases r with
    | ok u =>
      show s.stats.recordCheckCycle cycle = _
      rw [h]
      rfl
    | error e => exact h
  | sync o =>
    cases o with
    | recordNetboxSync completed_at =>
      cases r with
      | ok u =>
        show s.stats.recordNetboxSync completed_at = _
        rw [h]
        rfl
      | error e => exact h
    | _ => exact h
  | set event => cases event <;> exact h
  | get | signal => cases r <;> exact h
  | _ => exact h

/-- **The telemetry is that of the last cycle and the last sync.** -/
theorem ReachableBy.stats_eq (h : ReachableBy setup main_thread Meets P) :
    P.shared.stats = telemetryOf P.shared.log := by
  induction h with
  | initial => rfl
  | @step label P P' _ _ hstep ih =>
    cases hstep with
    | call hcall =>
      cases hcall with
      | @call o k r s' hi hex =>
        obtain ⟨-, -, rfl⟩ := hex
        show (effect P.shared o r).stats = telemetryOf ((effect P.shared o r).log ++ _)
        rw [log_effect]
        exact stats_effect P.shared _ o r P.shared.log ih
    | begins _ _ => exact ih
    | signal _ _ =>
      show (P.shared.receive _).stats = telemetryOf (P.shared.receive _).log
      rw [log_receive, ← ih]
      unfold AgentState.receive
      split_ifs <;> rfl
    | request => exact ih

/-- A snapshot has the telemetry of what came before it. -/
theorem ReachableBy.statsSnapshot_eq (h : ReachableBy setup main_thread Meets P) {i : ThreadId} {stats : Option Dict}
    {pre post : List (ThreadId × AgentCall)} (hlog : P.shared.log = pre ++ (i, ⟨.statsSnapshot, .ok stats⟩) :: post) :
    stats = (telemetryOf pre).snapshotForHeartbeat := by
  obtain ⟨P₀, k, hP₀, rfl, -, -, hanswer, -⟩ := h.before hlog
  rw [← hP₀.stats_eq]
  exact hanswer.2 stats rfl

/-! ## The counts of a cycle -/

/-- The counts make the total. -/
def CheckCycleStats.Adds (cycle : CheckCycleStats) : Prop := cycle.succeeded + cycle.failed = cycle.hosts_monitored

/-- A call that records no cycle, or one whose counts make the total. -/
def AgentOp.RecordsSound (o : AgentOp) : Prop := ∀ cycle, o = .recordCheckCycle cycle → cycle.Adds

/-- Each check is counted by a condition or by its opposite. -/
theorem countStatus_add {counted : Json → Bool} {checks : List Dict} {n m : Nat}
    (hn : countStatus counted checks = .ok n) (hm : countStatus (fun status => !counted status) checks = .ok m) :
    n + m = checks.length := by
  induction checks generalizing n m with
  | nil =>
    obtain rfl : 0 = n := Except.ok.inj hn
    obtain rfl : 0 = m := Except.ok.inj hm
    rfl
  | cons c checks ih =>
    obtain ⟨status, hstatus, hn⟩ := except_bind_ok hn
    obtain ⟨status', hstatus', hm⟩ := except_bind_ok hm
    obtain rfl := Except.ok.inj (hstatus.symm.trans hstatus')
    obtain ⟨n', hn', hn⟩ := except_bind_ok hn
    obtain ⟨m', hm', hm⟩ := except_bind_ok hm
    have hrest := ih hn' hm'
    obtain rfl := Except.ok.inj hn
    obtain rfl := Except.ok.inj hm
    rw [List.length_cons]
    cases hcounted : counted status <;> simp only [hcounted, Bool.not_true, Bool.not_false, if_true, if_false,
      Bool.false_eq_true] <;> omega

/-- A value that is computed, and what is done with it. -/
theorem only_ofExcept_bind {α β : Type} {A : AgentOp → Prop} {x : Except PyExc α} {f : α → Agent β}
    (h : ∀ a, x = .ok a → (f a).Only A) : ((Prog.ofExcept x : Agent α).bind f).Only A := by
  cases x with
  | ok a => exact h a rfl
  | error e => trivial

section

variable (rt : Runtime) (client : DashboardClient)

theorem recordsSound_call {o : AgentOp} (h : ∀ cycle, o ≠ .recordCheckCycle cycle) :
    (agentCall o).Only AgentOp.RecordsSound := Prog.only_perform fun cycle heq => absurd heq (h cycle)

theorem recordsSound_cycleAndStats (report_type : String) (fuel : Nat) :
    (cycleAndStats rt client report_type fuel).Only AgentOp.RecordsSound := by
  refine (recordsSound_call (by nofun)).bind fun netbox_hosts => (recordsSound_call (by nofun)).bind fun config => ?_
  refine (Prog.only_embed cycleCalls (fun o cycle heq => ?_) _).bind fun cycle_result => ?_
  · cases o <;> cases heq
  refine only_ofExcept_bind fun succeeded hsucceeded => only_ofExcept_bind fun failed hfailed => ?_
  refine Prog.Only.bind (Prog.only_perform fun cycle heq => ?_) fun _ => trivial
  cases heq
  exact countStatus_add hsucceeded hfailed

theorem recordsSound_checkLoop (fuel : Nat) (is_first_cycle : Bool) :
    (checkLoop rt client fuel is_first_cycle).Only AgentOp.RecordsSound := by
  induction fuel generalizing is_first_cycle with
  | zero => trivial
  | succ fuel ih =>
    refine (recordsSound_call (by nofun)).bind fun stopping => ?_
    split_ifs
    · trivial
    refine (recordsSound_cycleAndStats rt client _ fuel).attempt.bind fun outcome => ?_
    split_ifs
    · exact (recordsSound_call (by nofun)).bind fun _ => recordsSound_call (by nofun)
    have hwait : (waitInterval rt "check_seconds").Only AgentOp.RecordsSound :=
      ((recordsSound_call (by nofun)).bind fun _ => Prog.only_ofExcept _).bind fun _ => recordsSound_call (by nofun)
    refine hwait.bind fun woke_early => ?_
    split_ifs
    · trivial
    · exact ih _

theorem recordsSound_certCheckThread (fuel : Nat) : (certCheckThread rt client fuel).Only AgentOp.RecordsSound := by
  have hgate : waitForFirstNetboxSync.Only AgentOp.RecordsSound := by
    refine (recordsSound_call (by nofun)).bind fun fired => ?_
    split_ifs
    · trivial
    · exact (recordsSound_call (by nofun)).bind fun _ => (recordsSound_call (by nofun)).bind fun _ => trivial
  refine hgate.bind fun _ => (recordsSound_checkLoop rt client fuel true).tryCatch fun _ => ?_
  exact (recordsSound_call (by nofun)).bind fun _ => recordsSound_call (by nofun)

end

/-- **The counts of every recorded cycle make its total.** -/
theorem ReachableBy.records_sound (h : ReachableBy setup main_thread Meets P) {i : ThreadId} {cycle : CheckCycleStats}
    {r : Except PyExc Unit} (hrecorded : (i, ⟨.recordCheckCycle cycle, r⟩) ∈ P.shared.log) : cycle.Adds := by
  have hcalled := h.calledBy hrecorded
  obtain rfl : i = .check := by
    cases i <;> first | rfl | cases hcalled
  have hown : ⟨.recordCheckCycle cycle, r⟩ ∈ ownEvents .check P.shared.log := mem_ownEvents_iff.mpr hrecorded
  cases hthread : P.threads .check with
  | none =>
    rw [h.traced.of_none hthread] at hown
    cases hown
  | some p =>
    obtain ⟨p₀, ⟨hid, -⟩ | ⟨thread, hid, rfl⟩, htrace⟩ := h.traced.of_some hthread
    · cases hid
    cases thread with
    | check client =>
      have honly : (agentProgram setup (.check client)).Only AgentOp.RecordsSound :=
        (recordsSound_certCheckThread setup.rt client setup.fuel).bind fun _ => trivial
      exact (honly.trace htrace).2 _ hown cycle rfl
    | _ => cases hid

/-! ## The ticks of the heartbeat thread -/

/-- The arguments of a heartbeat, and the four looks that they were built from just before. -/
structure BuiltFrom (agent_version : String) (cs : List AgentCall) (args : HeartbeatArgs) : Prop where
  looks : ∃ before config now, cs = before ++ [⟨.configSnapshot, .ok config⟩, ⟨.statsSnapshot, .ok args.stats⟩,
      ⟨.now, .ok now⟩, ⟨.utcNowIso, .ok args.sent_at⟩] ∧
    (config.getItem "config_version" >>= Json.toInt) = .ok args.current_config_version
  uptime_seconds : 0 ≤ args.uptime_seconds
  agent_version : args.agent_version = agent_version

/-- A heartbeat is sent only as it was built. -/
def sendsBuilt (agent_version : String) : Monitor agentSig PyExc (List AgentCall) :=
  .history Possible fun cs o => ∀ body, o = .heartbeat body → ∃ args, args.body = body ∧ BuiltFrom agent_version cs args

/-- The calls that a response is processed with. -/
def AgentOp.processes : AgentOp → Bool
  | .configSnapshot | .configReplace _ | .getConfig _ | .utcNowIso | .put _ | .set _ => true
  | _ => false

section

/-- Calls for a response. -/
abbrev Processing {α : Type} (p : Agent α) : Prop := p.Only fun o : AgentOp => o.processes = true

theorem processing_call {o : AgentOp} (h : o.processes = true) : Processing (agentCall o) := Prog.only_perform h

theorem processing_signalAuthError : Processing signalAuthError :=
  (processing_call rfl).bind fun _ => processing_call rfl

theorem processing_enqueueEach (now_iso : String) (actions : List Json) :
    Processing (enqueueEach now_iso actions) := by
  induction actions with
  | nil => trivial
  | cons action actions ih =>
    refine (Prog.only_ofExcept _).bind fun expires_at => (Prog.only_ofExcept _).bind fun expired => ?_
    split_ifs
    · exact ih
    · exact (processing_call rfl).bind fun _ => ih

theorem processing_installConfig (new_config : Json) : Processing (installConfig new_config) := by
  refine (processing_call rfl).bind fun _ => ?_
  cases new_config with
  | obj config => exact (processing_call rfl).bind fun _ => (Prog.only_ofExcept _).bind fun _ => trivial
  | _ => trivial

theorem processing_refreshConfig (client : DashboardClient) : Processing (refreshConfig client) := by
  refine (only_request (processing_call rfl)).attempt.bind fun fetched => ?_
  split
  · exact processing_installConfig _
  · split_ifs
    · exact processing_signalAuthError.bind fun _ => trivial
    · trivial
  · trivial

/-- What a response leads to. -/
theorem processing_processResponse (client : DashboardClient) (response : Json) :
    Processing (processResponse client response) := by
  refine (Prog.only_ofExcept _).bind fun required => Prog.Only.bind ?_ fun _ => ?_
  · unfold refreshIfRequired
    split_ifs
    · exact processing_refreshConfig client
    · trivial
  · refine (Prog.only_ofExcept _).bind fun pending => ?_
    show Processing (if (pending.or (.arr [])).truthy = true then enqueueActions (pending.or (.arr [])) else .ret ())
    split_ifs
    · exact (processing_call rfl).bind fun _ => (Prog.only_ofExcept _).bind fun _ => processing_enqueueEach _ _
    · trivial

end

/-- A call that is no heartbeat. -/
abbrev AgentOp.Silent (o : AgentOp) : Prop := ∀ body, o ≠ .heartbeat body

theorem silent_agentCall {o : AgentOp} (h : o.Silent) : (agentCall o).Only AgentOp.Silent := Prog.only_perform h

theorem silent_of_processing {α : Type} {p : Agent α} (h : Processing p) : p.Only AgentOp.Silent := by
  refine h.mono fun o ho body hbeat => ?_
  rw [hbeat] at ho
  cases ho

section

variable {agent_version : String} {process_started_at : Rat}

theorem obeys_silent {α : Type} {p : Agent α} (h : p.Only AgentOp.Silent) (cs : List AgentCall) :
    p.Obeys (sendsBuilt agent_version) (fun _ _ => True) cs :=
  h.obeys_history (I := fun _ => True) (fun _ _ _ _ _ => trivial) (fun _ _ _ ho body heq => absurd heq (ho body))
    trivial

theorem silent_waitInterval (rt : Runtime) (key : String) : (waitInterval rt key).Only AgentOp.Silent :=
  ((silent_agentCall (by nofun)).bind fun _ => Prog.only_ofExcept _).bind fun _ => silent_agentCall (by nofun)

/-- What is built is built from these looks. -/
theorem obeys_buildHeartbeatArgs (cs : List AgentCall) : (buildHeartbeatArgs agent_version process_started_at).Obeys
    (sendsBuilt agent_version)
    (fun cs' x => ∀ args, x = .ok args → BuiltFrom agent_version cs' args) cs := by
  refine Prog.obeys_bind.mpr (Prog.obeys_perform.mpr ⟨nofun, fun config _ => ?_⟩)
  cases config with
  | error e => exact nofun
  | ok config =>
  refine Prog.obeys_bind.mpr (Prog.obeys_perform.mpr ⟨nofun, fun stats _ => ?_⟩)
  cases stats with
  | error e => exact nofun
  | ok stats =>
  refine Prog.obeys_bind.mpr (Prog.obeys_perform.mpr ⟨nofun, fun now _ => ?_⟩)
  cases now with
  | error e => exact nofun
  | ok now =>
  refine Prog.obeys_bind.mpr (Prog.obeys_perform.mpr ⟨nofun, fun sent_at _ => ?_⟩)
  cases sent_at with
  | error e => exact nofun
  | ok sent_at =>
  refine Prog.obeys_ofExcept_bind (fun config_version hversion => ?_) (fun e _ => nofun)
  refine Prog.obeys_ofExcept_bind (fun current_config_version hcurrent => ?_) (fun e _ => nofun)
  rintro args ⟨⟩
  refine ⟨⟨cs, config, now, ?_, ?_⟩, le_max_left _ _, rfl⟩
  · show cs ++ _ ++ _ ++ _ ++ _ = _
    simp only [List.append_assoc, List.cons_append, List.nil_append]
  · rw [hversion]
    exact hcurrent

theorem obeys_doHeartbeat_sendsBuilt (client : DashboardClient) (cs : List AgentCall) :
    (doHeartbeat agent_version client process_started_at).Obeys (sendsBuilt agent_version)
      (fun _ _ => True) cs := by
  refine (obeys_buildHeartbeatArgs cs).bind (fun cs' args hbuilt => ?_) fun _ _ _ => trivial
  refine Prog.obeys_bind.mpr (Prog.obeys_attempt.mpr (obeys_request.mpr (Prog.obeys_perform.mpr
    ⟨fun body heq => ⟨args, AgentOp.heartbeat.inj heq, hbuilt args rfl⟩, fun answer _ => ?_⟩)))
  cases houtcome : requestOutcome "POST" client.heartbeatPath answer with
  | ok response => exact obeys_silent (silent_of_processing (processing_processResponse client response)) _
  | error e =>
    cases e with
    | dashboard e =>
      show (if e.kind = .auth then signalAuthError.bind fun _ => .raise shutdownRequested else .ret () :
        Agent Unit).Obeys _ _ _
      split_ifs
      · have hsignal := silent_of_processing processing_signalAuthError
        exact (obeys_silent hsignal _).bind (fun _ _ _ => trivial) fun _ _ _ => trivial
      · trivial
    | _ => trivial

theorem obeys_heartbeatLoop_sendsBuilt (rt : Runtime) (client : DashboardClient) (fuel : Nat) (cs : List AgentCall) :
    (heartbeatLoop rt agent_version client process_started_at fuel).Obeys (sendsBuilt agent_version)
      (fun _ _ => True) cs := by
  induction fuel generalizing cs with
  | zero => trivial
  | succ fuel ih =>
    refine (obeys_silent (silent_agentCall (by nofun)) cs).bind (fun cs₁ stopping _ => ?_) fun _ _ _ => trivial
    split_ifs
    · trivial
    refine (obeys_doHeartbeat_sendsBuilt client cs₁).attempt_bind fun cs₂ tick _ => ?_
    cases tick with
    | error e =>
      show (if e = shutdownRequested then .ret () else .raise e : Agent Unit).Obeys _ _ _
      split_ifs <;> trivial
    | ok u =>
      refine (obeys_silent (silent_waitInterval rt _) cs₂).bind (fun cs₃ woke_early _ => ?_) fun _ _ _ => trivial
      split_ifs
      · trivial
      · exact ih cs₃

/-- **The heartbeat thread sends what it has built.** -/
theorem obeys_heartbeatThread_sendsBuilt (rt : Runtime) (client : DashboardClient) (fuel : Nat) :
    (heartbeatThread rt agent_version client process_started_at fuel).Obeys
      (sendsBuilt agent_version) (fun _ _ => True) [] := by
  refine Prog.obeys_tryCatch.mpr ((obeys_heartbeatLoop_sendsBuilt rt client fuel []).mono fun cs x _ => ?_)
  cases x with
  | ok u => trivial
  | error e =>
    have hcatch : (agentCall (.unhandledException "heartbeat_thread_unhandled_exception")).bind (fun _ =>
        agentCall (.set .shutdown)) |>.Only AgentOp.Silent :=
      (silent_agentCall (by nofun)).bind fun _ => silent_agentCall (by nofun)
    exact obeys_silent hcatch cs

theorem mayRun_sendsBuilt {setup : Setup} {p₀ : Agent (Option Int)} (h : MayRun setup .heartbeat p₀) :
    p₀.Obeys (sendsBuilt setup.agent_version) (fun _ _ => True) [] := by
  rcases h with ⟨hid, -⟩ | ⟨thread, hid, rfl⟩
  · cases hid
  · cases thread with
    | heartbeat client process_started_at =>
      exact (obeys_heartbeatThread_sendsBuilt setup.rt client setup.fuel).bind (fun _ _ _ => trivial)
        fun _ _ _ => trivial
    | _ => cases hid

end

/-! ## Every run -/

/-- The log as it was at a moment of the current tick: no heartbeat was sent since. -/
def SinceLastHeartbeat (moment log : List (ThreadId × AgentCall)) : Prop :=
  ∃ rest, log = moment ++ rest ∧ ∀ i c, (i, c) ∈ rest → c.op.Silent

/-- What a heartbeat that is sent after this log tells the dashboard. -/
structure Tells (setup : Setup) (log : List (ThreadId × AgentCall)) (args : HeartbeatArgs) : Prop where
  /-- The version of a config that was in force. -/
  config_version : ∃ moment config, SinceLastHeartbeat moment log ∧ (installs moment).getLast? = some config ∧
    (config.getItem "config_version" >>= Json.toInt) = .ok args.current_config_version
  /-- The last cycle and the last sync that were recorded. -/
  stats : ∃ moment, SinceLastHeartbeat moment log ∧ args.stats = (telemetryOf moment).snapshotForHeartbeat
  uptime_seconds : 0 ≤ args.uptime_seconds
  agent_version : args.agent_version = setup.agent_version

/-- Only the heartbeat thread sends heartbeats. -/
theorem ReachableBy.sends_heartbeats (h : ReachableBy setup main_thread Meets P) {i : ThreadId} {c : AgentCall}
    {body : Dict} (hc : c.op = .heartbeat body) (hmem : (i, c) ∈ P.shared.log) : i = .heartbeat := by
  have hcalled := h.calledBy hmem
  rw [hc] at hcalled
  cases i <;> first | rfl | cases hcalled

/-- A look of the heartbeat thread that is followed only by other looks. -/
theorem ReachableBy.since_look (h : ReachableBy setup main_thread Meets P) {log post : List (ThreadId × AgentCall)}
    (hlog : P.shared.log = log ++ post) {own own' : List AgentCall} {c : AgentCall}
    (hown : ownEvents .heartbeat log = own ++ c :: own') (hc : c.op.Silent) (hsilent : ∀ c ∈ own', c.op.Silent) :
    ∃ moment rest, log = moment ++ (.heartbeat, c) :: rest ∧ SinceLastHeartbeat moment log := by
  obtain ⟨moment, rest, rfl, -, hrest⟩ := split_of_ownEvents hown
  refine ⟨moment, rest, rfl, _, rfl, fun i c' hc' => ?_⟩
  rcases List.mem_cons.mp hc' with hc' | hc'
  · cases hc'
    exact hc
  rintro body hbeat
  obtain rfl := h.sends_heartbeats (i := i) (c := c') hbeat (by
    rw [hlog]
    exact List.mem_append_left _ (List.mem_append_right _ (List.mem_cons_of_mem _ hc')))
  exact hsilent c' (hrest ▸ mem_ownEvents_iff.mpr hc') body hbeat

/-- **What the heartbeats of a run tell**: each of them, in any interleaving, the version of a config that was in force
since the last heartbeat, and one whole cycle, the last that was recorded at a moment since then; and the counts of
every cycle make its total. -/
theorem heartbeats_tell (h : ReachableBy setup main_thread Meets P) : (∀ pre i body r post,
      P.shared.log = pre ++ (i, ⟨.heartbeat body, r⟩) :: post → ∃ args, args.body = body ∧ Tells setup pre args) ∧
    ∀ moment cycle, moment <+: P.shared.log → lastOf cycleRecorded moment = some cycle → cycle.Adds := by
  constructor
  · intro pre i body r post hlog
    obtain rfl := h.sends_heartbeats (i := i) (c := ⟨.heartbeat body, r⟩) rfl (by
      rw [hlog]
      exact List.mem_append_right _ List.mem_cons_self)
    obtain ⟨args, hargs, ⟨before, config, now, hlooks, hversion⟩, huptime, hagent⟩ :=
      h.allowed (fun _ => mayRun_sendsBuilt) hlog body rfl
    refine ⟨args, hargs, ?_, ?_, huptime, hagent⟩
    · obtain ⟨moment, rest, rfl, hsince⟩ := h.since_look hlog hlooks nofun (by simp [AgentOp.Silent])
      refine ⟨moment, config, hsince, ?_, hversion⟩
      exact h.snapshot_latest (hlog.trans (List.append_assoc _ _ _))
    · have hlooks' : ownEvents .heartbeat pre = (before ++ [⟨.configSnapshot, .ok config⟩]) ++
          ⟨.statsSnapshot, .ok args.stats⟩ :: [⟨.now, .ok now⟩, ⟨.utcNowIso, .ok args.sent_at⟩] := by
        rw [hlooks, List.append_assoc]
        rfl
      obtain ⟨moment, rest, rfl, hsince⟩ := h.since_look hlog hlooks' nofun (by simp [AgentOp.Silent])
      refine ⟨moment, hsince, ?_⟩
      exact h.statsSnapshot_eq (hlog.trans (List.append_assoc _ _ _))
  · rintro moment cycle ⟨rest, hlog⟩ hlast
    obtain ⟨⟨i, c⟩, hmem, hcycle, -⟩ := lastOf_spec hlast
    unfold cycleRecorded at hcycle
    split at hcycle
    · rename_i j cycle' u heq
      obtain ⟨rfl, rfl⟩ := Prod.mk.inj heq
      cases hcycle
      apply h.records_sound
      rw [← hlog]
      exact List.mem_append_left _ hmem
    · cases hcycle

/-- A dashboard with one host to check, which refuses the connection. -/
def oneHostScene : Scene where
  credentials := registered
  get_config := some ⟨200, .json (.obj [("config_version", .int 1),
    ("intervals", .obj [("heartbeat_seconds", .int 15), ("check_seconds", .int 3600)]),
    ("manual_hosts", .arr [.obj [("host_id", .str "h1"), ("hostname", .str "db.example")]])])⟩
  heartbeat := some ⟨200, .json (.obj [])⟩
  submit_report := some ⟨200, .json (.obj [("summary", .obj [])])⟩
  pending_reports := some []
  record := some (.obj [("_attempts", .int 0)])
  cert_check := some {
    state := .connectionFailed, hostname := .str "db.example", port := 443, checked_at := "2026-01-01T00:00:00Z"
    error_message := some "Connection refused" }

/-- The check thread has recorded its first cycle, and then the heartbeat thread has sent its first heartbeat. -/
def cycleReported : AgentPool :=
  (AgentPool.initial smallSetup true).moves smallSetup oneHostScene
    [.calls .main 16, .begins 2, .calls .check 32, .begins 0, .calls .heartbeat 6]

/-- The thread, if the call sends a heartbeat. -/
def heartbeatSender : ThreadId × AgentCall → Option ThreadId
  | (i, ⟨.heartbeat _, _⟩) => some i
  | _ => none

/-- The cycle that it tells of: its one check failed. -/
def failedCycle : CheckCycleStats where
  hosts_monitored := 1
  completed_at := utcNowIso 0
  duration_seconds := 0
  succeeded := 0
  failed := 1

theorem heartbeats_tell_cycleReported : failedCycle.Adds ∧ ∃ body r args,
    cycleReported.shared.log[51]? = some (.heartbeat, ⟨.heartbeat body, r⟩) ∧ args.body = body ∧
      Tells smallSetup (cycleReported.shared.log.take 51) args ∧
      lastOf cycleRecorded (cycleReported.shared.log.take 51) = some failedCycle := by
  have hreachable : Reachable smallSetup true cycleReported := (alive_initial.moves _).reachable
  obtain ⟨htells, hadds⟩ := heartbeats_tell hreachable
  have hlast : lastOf cycleRecorded (cycleReported.shared.log.take 51) = some failedCycle := by decide +kernel
  have hsender : cycleReported.shared.log[51]?.bind heartbeatSender = some .heartbeat := by decide +kernel
  obtain ⟨body, r, hbeat⟩ : ∃ body r, cycleReported.shared.log[51]? = some (.heartbeat, ⟨.heartbeat body, r⟩) := by
    obtain ⟨⟨i, c⟩, hcall, hsends⟩ := Option.bind_eq_some_iff.mp hsender
    unfold heartbeatSender at hsends
    split at hsends
    · rename_i i' body r heq
      obtain ⟨rfl, rfl⟩ := Prod.mk.inj heq
      obtain rfl := Option.some.inj hsends
      exact ⟨body, r, hcall⟩
    · cases hsends
  obtain ⟨args, hargs, htells⟩ := htells _ _ body r _ (split_at hbeat)
  exact ⟨hadds _ failedCycle (List.take_prefix 51 _) hlast, body, r, args, hbeat, hargs, htells, hlast⟩

end CertWatch
