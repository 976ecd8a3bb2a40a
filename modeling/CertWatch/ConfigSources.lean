/-
# `CertWatch.ConfigSources` — where the config in force comes from.

The main thread sets up what bootstrap has fetched, or the defaults; the heartbeat thread installs what a refresh
has fetched.  So whatever any thread reads is one of these, and if every document that the dashboard hands out can
be used, so can every config that any loop ever finds in force.
-/
import CertWatch.AcceptedConfigs
import CertWatch.ScriptedAgent

namespace CertWatch

open CertWatch.Lib

variable {α : Type}

/-! ## Sources -/

/-- The config is the default, or was fetched in one of these calls. -/
def Sourced (config : Dict) (cs : List AgentCall) : Prop :=
  config = defaultConfig ∨ ∃ client r, ⟨.getConfig client, r⟩ ∈ cs ∧ Accepted r (.obj config)

/-- The call puts the config in force. -/
def AgentOp.Installs (o : AgentOp) (config : Dict) : Prop := o = .configState config ∨ o = .configReplace config

/-- Only a config with a source is put in force. -/
def installsSourced : Monitor agentSig PyExc (List AgentCall) :=
  .history Possible fun cs o => ∀ config, o.Installs config → Sourced config cs

theorem Sourced.mono {config : Dict} {cs cs' : List AgentCall} (h : Sourced config cs) (hsub : cs ⊆ cs') :
    Sourced config cs' :=
  h.imp_right fun ⟨client, r, hr, haccepted⟩ => ⟨client, r, hsub hr, haccepted⟩

/-- The call puts no config in force. -/
abbrev AgentOp.SparesConfig (o : AgentOp) : Prop := ∀ config, ¬ o.Installs config

theorem spares_call {o : AgentOp} (hstate : ∀ config, o ≠ .configState config)
    (hreplace : ∀ config, o ≠ .configReplace config) : (agentCall o).Only AgentOp.SparesConfig :=
  Prog.only_perform fun config h => h.elim (hstate config) (hreplace config)

theorem obeys_spares {p : Agent α} (h : p.Only AgentOp.SparesConfig) (cs : List AgentCall) :
    p.Obeys installsSourced (fun _ _ => True) cs :=
  h.obeys_history (I := fun _ => True) (fun _ _ _ _ _ => trivial) (fun _ _ _ ho config hinstalls =>
    absurd hinstalls (ho config)) trivial

theorem spares_of_isStartup {o : AgentOp} (h : o.isStartup = true) : o.SparesConfig := by
  rintro config (rfl | rfl) <;> cases h

/-! ## Bootstrap -/

section

variable (rt : Runtime) (env : Env)

/-- What a program returns has a source in the calls so far. -/
def ReturnsSourced (f : α → Dict) (cs : List AgentCall) (x : Except PyExc α) : Prop :=
  ∀ a, x = .ok a → Sourced (f a) cs

/-- **The first config is the default or was fetched.** -/
theorem obeys_fetchInitialConfig (client : DashboardClient) (agent_id agent_secret : Json)
    (max_attempts fuel attempt : Nat) (cs : List AgentCall) :
    (fetchInitialConfigWithRetry client agent_id agent_secret max_attempts fuel attempt).Obeys installsSourced
      (ReturnsSourced id) cs := by
  induction fuel generalizing attempt cs with
  | zero => trivial
  | succ fuel ih =>
    refine Prog.Obeys.attempt_bind (F := fun cs x => ∀ v, x = .ok v →
      ∃ r, ⟨.getConfig client, r⟩ ∈ cs ∧ Accepted r v) ?_ fun cs x hx => ?_
    · refine Prog.obeys_bind.mpr (Prog.obeys_ofExcept.mpr ?_)
      cases requireCredentials agent_id agent_secret with
      | error e => exact nofun
      | ok u =>
        have hspares : AgentOp.SparesConfig (.getConfig client) := by rintro config (h | h) <;> cases h
        refine obeys_request.mpr (Prog.obeys_perform.mpr ⟨fun config h => absurd h (hspares config), ?_⟩)
        intro answer _ v hv
        exact ⟨answer, List.mem_append_right _ List.mem_cons_self, requestOutcome_eq_ok.mp hv⟩
    · cases x with
      | ok cfg =>
        refine Prog.obeys_ofExcept.mpr fun config hconfig => Or.inr ?_
        obtain ⟨r, hr, haccepted⟩ := hx cfg rfl
        rw [ConfigFetch.acceptInitialConfig_eq_ok hconfig] at haccepted
        exact ⟨client, r, hr, haccepted⟩
      | error e =>
        cases e with
        | dashboard e =>
          show (if e.kind.isRetriable = true then _ else _ : Agent Dict).Obeys _ _ _
          split_ifs
          · intro config hconfig
            obtain rfl := Except.ok.inj hconfig
            exact Or.inl rfl
          · refine Prog.obeys_bind.mpr (Prog.obeys_perform.mpr ⟨(by rintro config (h | h) <;> cases h), fun r _ => ?_⟩)
            cases r with
            | error e => exact nofun
            | ok u => exact ih _ _
          · exact nofun
        | _ => exact nofun

/-- A part that installs nothing before a program that returns something with a source. -/
theorem obeys_spares_then {β : Type} {f : β → Dict} {p : Agent α} {g : α → Agent β} (hp : p.Only AgentOp.SparesConfig)
    (hg : ∀ a cs, (g a).Obeys installsSourced (ReturnsSourced f) cs) (cs : List AgentCall) :
    (p.bind g).Obeys installsSourced (ReturnsSourced f) cs :=
  (obeys_spares hp cs).bind (fun cs a _ => hg a cs) fun _ _ _ => nofun

theorem spares_ofExcept (x : Except PyExc α) : (Prog.ofExcept x : Agent α).Only AgentOp.SparesConfig :=
  Prog.only_ofExcept x

/-- A fetched config is handed over as it is. -/
theorem obeys_handOver (client : DashboardClient) (agent_id agent_secret : Json) {k : Dict → BootstrapResult}
    (hk : ∀ config, (k config).initial_config = config) (fuel : Nat) (cs : List AgentCall) :
    ((fetchInitialConfigWithRetry client agent_id agent_secret 1 fuel 0).bind fun config => .ret (k config)).Obeys
      installsSourced (ReturnsSourced BootstrapResult.initial_config) cs := by
  refine (obeys_fetchInitialConfig client agent_id agent_secret 1 fuel 0 cs).bind (fun cs config hconfig => ?_)
    fun _ _ _ => nofun
  rintro result hresult
  obtain rfl := Except.ok.inj hresult
  rw [hk]
  exact hconfig config rfl

theorem obeys_bootstrapSubsequentRun_sourced (creds : Dict) (fuel : Nat) (cs : List AgentCall) :
    (bootstrapSubsequentRun rt creds fuel).Obeys installsSourced
      (ReturnsSourced BootstrapResult.initial_config) cs := by
  unfold bootstrapSubsequentRun
  refine obeys_spares_then (spares_ofExcept _) (fun agent_id => ?_) cs
  refine obeys_spares_then (spares_ofExcept _) fun agent_secret => ?_
  refine obeys_spares_then (spares_ofExcept _) fun dashboard_url => ?_
  refine obeys_spares_then (spares_ofExcept _) fun client cs => ?_
  exact obeys_handOver client agent_id agent_secret (fun _ => rfl) fuel cs

theorem obeys_bootstrapFirstRun_sourced (agent_version dashboard_url : String) (fuel : Nat) (cs : List AgentCall) :
    (bootstrapFirstRun rt env agent_version dashboard_url fuel).Obeys installsSourced
      (ReturnsSourced BootstrapResult.initial_config) cs := by
  have hhostname := probe_resolveAgentHostname rt env
  have hplatform := probe_resolvePlatform rt
  unfold bootstrapFirstRun
  -- what the two probes do is of no account from here on
  generalize resolveAgentHostname rt env = resolved_hostname at hhostname ⊢
  generalize resolvePlatform rt = resolved_platform at hplatform ⊢
  refine obeys_spares_then (spares_ofExcept _) (fun registration_token => ?_) cs
  refine obeys_spares_then (hhostname.startup.mono fun _ => spares_of_isStartup) fun hostname => ?_
  refine obeys_spares_then (hplatform.startup.mono fun _ => spares_of_isStartup) fun plat => ?_
  refine obeys_spares_then (spares_call (by nofun) (by nofun)) fun started_at => ?_
  refine obeys_spares_then ((startup_registerWithBackoff _ _ _ fuel 0).mono fun _ => spares_of_isStartup)
    fun register_resp => ?_
  refine obeys_spares_then (spares_ofExcept _) fun agent_id => ?_
  refine obeys_spares_then (spares_ofExcept _) fun agent_secret => ?_
  refine obeys_spares_then (spares_ofExcept _) fun registered_at => ?_
  refine obeys_spares_then ((Prog.only_embed credsCalls (fun _ => rfl) _ : StartupCalls _).mono
    fun _ => spares_of_isStartup) fun _ => ?_
  refine obeys_spares_then (spares_ofExcept _) fun client cs => ?_
  exact obeys_handOver client agent_id agent_secret (fun _ => rfl) fuel cs

/-- The config that bootstrap hands over. -/
theorem obeys_bootstrap_sourced (agent_version : String) (fuel : Nat) (cs : List AgentCall) :
    (bootstrap rt env agent_version fuel).Obeys installsSourced (ReturnsSourced BootstrapResult.initial_config) cs := by
  have hload := startup_loadCredentials.mono fun _ => spares_of_isStartup
  unfold bootstrap
  generalize validateNetboxEnv env = validated
  refine obeys_spares_then (spares_ofExcept _) (fun dashboard_url_env => ?_) cs
  refine obeys_spares_then (spares_ofExcept _) fun _ => obeys_spares_then hload fun creds cs => ?_
  cases creds with
  | some creds => exact obeys_bootstrapSubsequentRun_sourced rt creds fuel cs
  | none => exact obeys_bootstrapFirstRun_sourced rt env agent_version dashboard_url_env fuel cs

end

/-! ## The main thread and the heartbeat thread -/

/-- A part that installs nothing before a program that puts no config without a source in force. -/
theorem obeys_after_spares {β : Type} {p : Agent α} {g : α → Agent β} (hp : p.Only AgentOp.SparesConfig)
    (hg : ∀ a cs, (g a).Obeys installsSourced (fun _ _ => True) cs) (cs : List AgentCall) :
    (p.bind g).Obeys installsSourced (fun _ _ => True) cs :=
  (obeys_spares hp cs).bind (fun cs a _ => hg a cs) fun _ _ _ => trivial

/-- From the shared state on, the main thread puts no other config in force. -/
theorem spares_startAndWait (threads : List ThreadSpec) : (startAndWait threads).Only AgentOp.SparesConfig := by
  refine ((launch_startAndWait threads).and (notConfigState_startAndWait threads)).mono ?_
  rintro o ⟨hlaunch, hstate⟩ config (rfl | rfl)
  · cases hstate
  · cases hlaunch

theorem obeys_buildAndStart_sourced (setup : Setup) (result : BootstrapResult) (process_started_at : Rat)
    {cs : List AgentCall} (h : Sourced result.initial_config cs) :
    (buildAndStart setup result process_started_at).Obeys installsSourced (fun _ _ => True) cs := by
  unfold buildAndStart
  generalize buildNetboxClientIfConfigured setup.env = built
  refine Prog.obeys_bind.mpr (Prog.obeys_perform.mpr ⟨?_, fun r _ => ?_⟩)
  · rintro config (hset | hset)
    · rw [← AgentOp.configState.inj hset]
      exact h
    · cases hset
  · cases r with
    | error e => trivial
    | ok u =>
      refine obeys_spares ?_ _
      refine (spares_ofExcept _).bind fun netbox_client => Prog.Only.bind ?_ fun _ => spares_startAndWait _
      unfold openGateUnless
      split_ifs
      · trivial
      · exact spares_call (by nofun) (by nofun)

theorem obeys_replayAndStart_sourced (setup : Setup) (result : BootstrapResult) (process_started_at : Rat)
    {cs : List AgentCall} (h : Sourced result.initial_config cs) :
    (replayAndStart setup result process_started_at).Obeys installsSourced (fun _ _ => True) cs := by
  have hreplay : StartupCalls ((replayPendingReportsAt result.client true setup.fuel result.registered_at).embed
      queueCalls).attempt := (Prog.only_embed queueCalls (fun _ => rfl) _).attempt
  -- the replay installs nothing, so the config still comes from where bootstrap took it
  have hkept : (((replayPendingReportsAt result.client true setup.fuel result.registered_at).embed
      queueCalls).attempt).Obeys installsSourced (fun cs _ => Sourced result.initial_config cs) cs :=
    (hreplay.mono fun _ => spares_of_isStartup).obeys_history (fun _ _ _ h _ => h.mono (List.subset_append_left _ _))
      (fun _ _ _ ho config hinstalls => absurd hinstalls (ho config)) h
  refine hkept.bind (fun cs replayed hsourced => ?_) fun _ _ _ => trivial
  split_ifs
  · trivial
  refine Prog.obeys_bind.mpr (Prog.obeys_perform.mpr ⟨(by rintro config (h | h) <;> cases h), fun stopping _ => ?_⟩)
  cases stopping with
  | error e => trivial
  | ok stopping =>
    show (if stopping = true then finalExitCode else buildAndStart setup result process_started_at).Obeys _ _ _
    split_ifs
    · have hfinal : finalExitCode.Only AgentOp.SparesConfig :=
        (spares_call (by nofun) (by nofun)).bind fun _ => trivial
      exact obeys_spares hfinal _
    · exact obeys_buildAndStart_sourced setup result process_started_at
        (hsourced.mono (List.subset_append_left _ _))

/-- **The main thread sets up what bootstrap has handed over.** -/
theorem obeys_mainProgram_sourced (setup : Setup) :
    (mainProgram setup).Obeys installsSourced (fun _ _ => True) [] := by
  refine Prog.Obeys.bind (F := fun _ _ => True) ?_ (fun _ _ _ => trivial) fun _ _ _ => trivial
  refine obeys_after_spares (spares_call (by nofun) (by nofun)) (fun process_started_at cs => ?_) []
  refine (obeys_bootstrap_sourced setup.rt setup.env setup.agent_version setup.fuel cs).attempt_bind fun cs x hx => ?_
  cases x with
  | error e => trivial
  | ok result => exact obeys_replayAndStart_sourced setup result process_started_at (hx result rfl)

section

variable (rt : Runtime) (agent_version : String) (client : DashboardClient)

theorem spares_signalAuthError : signalAuthError.Only AgentOp.SparesConfig :=
  (spares_call (by nofun) (by nofun)).bind fun _ => spares_call (by nofun) (by nofun)

/-- **A refresh installs what it has fetched.** -/
theorem obeys_refreshConfig_sourced (cs : List AgentCall) :
    (refreshConfig client).Obeys installsSourced (fun _ _ => True) cs := by
  refine Prog.obeys_bind.mpr (Prog.obeys_attempt.mpr (obeys_request.mpr (Prog.obeys_perform.mpr
    ⟨(by rintro config (h | h) <;> cases h), fun answer _ => ?_⟩)))
  cases hfetched : requestOutcome "GET" client.configPath answer with
  | error e =>
    cases e with
    | dashboard e =>
      show (if e.kind = .auth then signalAuthError.bind fun _ => .raise shutdownRequested else .ret () :
        Agent Unit).Obeys _ _ _
      split_ifs
      · exact (obeys_spares spares_signalAuthError _).bind (fun _ _ _ => trivial) fun _ _ _ => trivial
      · trivial
    | _ => trivial
  | ok new_config =>
    have haccepted := requestOutcome_eq_ok.mp hfetched
    show (installConfig new_config).Obeys _ _ _
    refine Prog.obeys_bind.mpr (Prog.obeys_perform.mpr ⟨(by rintro config (h | h) <;> cases h), fun old _ => ?_⟩)
    cases old with
    | error e => trivial
    | ok old =>
      cases new_config with
      | obj config =>
        refine Prog.obeys_bind.mpr (Prog.obeys_perform.mpr ⟨?_, fun r _ => ?_⟩)
        · rintro config' (h | h)
          · cases h
          · rw [← AgentOp.configReplace.inj h]
            exact Or.inr ⟨client, answer, by simp [installsSourced, Monitor.history], haccepted⟩
        · cases r with
          | error e => trivial
          | ok u =>
            refine Prog.obeys_bind.mpr (Prog.obeys_ofExcept.mpr ?_)
            cases ((Dict.getD config "manual_hosts" (.arr [])).or (.arr [])).len <;> trivial
      | _ => trivial

theorem obeys_processResponse_sourced (response : Json) (cs : List AgentCall) :
    (processResponse client response).Obeys installsSourced (fun _ _ => True) cs := by
  have henqueue : ∀ (now_iso : String) (items : List Json), (enqueueEach now_iso items).Only AgentOp.SparesConfig := by
    intro now_iso items
    induction items with
    | nil => trivial
    | cons action actions ih =>
      refine (spares_ofExcept _).bind fun expires_at => (spares_ofExcept _).bind fun expired => ?_
      split_ifs
      · exact ih
      · exact (spares_call (by nofun) (by nofun)).bind fun _ => ih
  refine obeys_after_spares (spares_ofExcept _) (fun v cs => ?_) cs
  have hrefresh : (refreshIfRequired client v).Obeys installsSourced (fun _ _ => True) cs := by
    unfold refreshIfRequired
    split_ifs
    · exact obeys_refreshConfig_sourced client cs
    · trivial
  refine hrefresh.bind (fun cs _ _ => ?_) fun _ _ _ => trivial
  refine obeys_after_spares (spares_ofExcept _) (fun pending cs => ?_) cs
  show (if (pending.or (.arr [])).truthy = true then enqueueActions (pending.or (.arr [])) else .ret ()).Obeys _ _ _
  split_ifs
  · have hactions : (enqueueActions (pending.or (.arr []))).Only AgentOp.SparesConfig :=
      (spares_call (by nofun) (by nofun)).bind fun _ => (spares_ofExcept _).bind fun _ => henqueue _ _
    exact obeys_spares hactions cs
  · trivial

theorem obeys_doHeartbeat_sourced (process_started_at : Rat) (cs : List AgentCall) :
    (doHeartbeat agent_version client process_started_at).Obeys installsSourced (fun _ _ => True) cs := by
  have hargs : (buildHeartbeatArgs agent_version process_started_at).Only AgentOp.SparesConfig :=
    (spares_call (by nofun) (by nofun)).bind fun _ => (spares_call (by nofun) (by nofun)).bind fun _ =>
      (spares_call (by nofun) (by nofun)).bind fun _ => (spares_call (by nofun) (by nofun)).bind fun _ =>
        (spares_ofExcept _).bind fun _ => (spares_ofExcept _).bind fun _ => trivial
  refine obeys_after_spares hargs (fun args cs => ?_) cs
  refine obeys_after_spares (only_request (spares_call (by nofun) (by nofun))).attempt (fun response cs => ?_) cs
  cases response with
  | ok response => exact obeys_processResponse_sourced client response cs
  | error e =>
    cases e with
    | dashboard e =>
      show (if e.kind = .auth then signalAuthError.bind fun _ => .raise shutdownRequested else .ret () :
        Agent Unit).Obeys _ _ _
      split_ifs
      · exact (obeys_spares spares_signalAuthError _).bind (fun _ _ _ => trivial) fun _ _ _ => trivial
      · trivial
    | _ => trivial

/-- **The heartbeat thread installs only what it has fetched.** -/
theorem obeys_heartbeatThread_sourced (process_started_at : Rat) (fuel : Nat) :
    (heartbeatThread rt agent_version client process_started_at fuel).Obeys installsSourced (fun _ _ => True) [] := by
  have hloop : ∀ cs, (heartbeatLoop rt agent_version client process_started_at fuel).Obeys installsSourced
      (fun _ _ => True) cs := by
    induction fuel with
    | zero => exact fun _ => trivial
    | succ fuel ih =>
      refine obeys_after_spares (spares_call (by nofun) (by nofun)) fun stopping cs => ?_
      split_ifs
      · trivial
      refine (obeys_doHeartbeat_sourced agent_version client process_started_at cs).attempt_bind fun cs tick _ => ?_
      cases tick with
      | error e =>
        show (if e = shutdownRequested then .ret () else .raise e : Agent Unit).Obeys _ _ _
        split_ifs <;> trivial
      | ok u =>
        have hwait : (waitInterval rt "heartbeat_seconds").Only AgentOp.SparesConfig :=
          ((spares_call (by nofun) (by nofun)).bind fun _ => spares_ofExcept _).bind fun _ =>
            spares_call (by nofun) (by nofun)
        refine obeys_after_spares hwait (fun woke_early cs => ?_) cs
        split_ifs
        · trivial
        · exact ih cs
  refine Prog.obeys_tryCatch.mpr ((hloop []).mono fun cs x _ => ?_)
  cases x with
  | ok u => trivial
  | error e =>
    have hcatch : (agentCall (.unhandledException "heartbeat_thread_unhandled_exception")).bind (fun _ =>
        agentCall (.set .shutdown)) |>.Only AgentOp.SparesConfig :=
      (spares_call (by nofun) (by nofun)).bind fun _ => spares_call (by nofun) (by nofun)
    exact obeys_spares hcatch cs

end

/-! ## Every run -/

variable {setup : Setup} {main_thread : Bool} {Meets : AgentLabel → AgentPool → Prop} {P : AgentPool}

theorem mayRun_sourced {i : ThreadId} {p₀ : Agent (Option Int)} (h : MayRun setup i p₀)
    (hi : i = .main ∨ i = .heartbeat) : p₀.Obeys installsSourced (fun _ _ => True) [] := by
  rcases h with ⟨rfl, rfl⟩ | ⟨thread, rfl, rfl⟩
  · exact obeys_mainProgram_sourced setup
  · cases thread with
    | heartbeat client process_started_at =>
      exact (obeys_heartbeatThread_sourced setup.rt setup.agent_version client process_started_at setup.fuel).bind
        (fun _ _ _ => trivial) fun _ _ _ => trivial
    | _ => rcases hi with hi | hi <;> cases hi

/-- **Whatever a thread reads is the default config, or one that the dashboard has handed out.** -/
theorem ReachableBy.snapshot_sourced (h : ReachableBy setup main_thread Meets P) {i : ThreadId} {config : Dict}
    (hread : (i, ⟨.configSnapshot, .ok config⟩) ∈ P.shared.log) :
    config = defaultConfig ∨ ∃ j client r, (j, ⟨.getConfig client, r⟩) ∈ P.shared.log ∧ Accepted r (.obj config) := by
  obtain ⟨pre, post, hlog⟩ := List.append_of_mem hread
  obtain ⟨⟨j, c⟩, hmem, hinstall⟩ := List.mem_filterMap.mp (List.mem_of_getLast? (h.snapshot_latest hlog))
  obtain ⟨pre', post', rfl⟩ := List.append_of_mem hmem
  have hlog' : P.shared.log = pre' ++ (j, c) :: (post' ++ (i, ⟨.configSnapshot, .ok config⟩) :: post) := by
    rw [hlog, List.append_assoc, List.cons_append]
  have hop : c.op.Installs config := installedOf_eq_some hinstall
  have hj : j = .main ∨ j = .heartbeat := by
    have hcalled := h.calledBy (i := j) (c := c) (by
      rw [hlog']
      exact List.mem_append_right _ List.mem_cons_self)
    rcases hop with hop | hop <;> rw [hop] at hcalled <;>
      cases j <;> first | exact Or.inl rfl | exact Or.inr rfl | cases hcalled
  refine (h.allowed (fun _ hp₀ => mayRun_sourced hp₀ hj) hlog' config hop).imp_right ?_
  rintro ⟨client, r, hr, haccepted⟩
  refine ⟨j, client, r, ?_, haccepted⟩
  rw [hlog']
  exact List.mem_append_left _ (mem_ownEvents_iff.mp hr)

/-! ## Every config in force -/

/-- Whatever the dashboard has handed out in this run, the loops can use. -/
def AgentPool.ServedUsable (rt : Runtime) (timeout_max : Rat) (P : AgentPool) : Prop :=
  ∀ i client r document, (i, ⟨.getConfig client, r⟩) ∈ P.shared.log → Accepted r document →
    ∃ config, document = .obj config ∧ Usable rt timeout_max config

/-- The defaults with another version, and with manual hosts. -/
def defaultsWith (config_version : Int) (manual_hosts : List Json) : Dict :=
  (defaultConfig.set "config_version" (.int config_version)).set "manual_hosts" (.arr manual_hosts)

/-- The defaults are within reach of any clock that can wait for an hour. -/
theorem usable_defaultsWith {rt : Runtime} {timeout_max : Rat} {manual_hosts : List Json} (config_version : Int)
    (htimeout : 3600 ≤ timeout_max) (hsound : ∀ h ∈ manual_hosts, SoundHost h) :
    Usable rt timeout_max (defaultsWith config_version manual_hosts) where
  version := ⟨.int config_version, config_version, rfl, rfl⟩
  intervals key hkey := by
    have hwaits : ∀ n : Int, 0 ≤ n → n ≤ 3600 → (PyFloat.finite n).Waitable timeout_max := fun n hnonneg hle =>
      ⟨n, congrArg PyFloat.finite (max_eq_right (by exact_mod_cast hnonneg)), le_trans (by exact_mod_cast hle) htimeout⟩
    simp only [loopIntervals, List.mem_cons, List.not_mem_nil, or_false] at hkey
    rcases hkey with rfl | rfl | rfl
    · exact ⟨_, .int 15, _, rfl, rfl, rt.toFloat_small (by omega), hwaits 15 (by omega) (by omega)⟩
    · exact ⟨_, .int 3600, _, rfl, rfl, rt.toFloat_small (by omega), hwaits 3600 (by omega) (by omega)⟩
    · exact ⟨_, .int 3600, _, rfl, rfl, rt.toFloat_small (by omega), hwaits 3600 (by omega) (by omega)⟩
  hosts _ := ⟨manual_hosts, rfl, hsound⟩
  thresholds := ⟨[.int 30, .int 7, .int 1], rfl, fun t ht => by
    simp only [List.mem_cons, List.not_mem_nil, or_false] at ht
    rcases ht with rfl | rfl | rfl <;> exact ⟨_, rfl⟩⟩
  settings := by
    refine ⟨⟨_, rfl, fun k hk => ?_⟩, _, 20, rfl, rfl, by omega⟩
    simp only [List.mem_cons, List.not_mem_nil, or_false] at hk
    rcases hk with rfl | rfl <;> exact ⟨_, @Runtime.toFloat_small rt 5 (by omega)⟩

/-- **A document is dealt with safely, at bootstrap and at a refresh, exactly when the loops can use it; and a run in
which the dashboard hands out no other document never has a config in force that harms a loop.** -/
theorem accepted_config_safe_iff (setup : Setup) (main_thread : Bool) {timeout_max : Rat}
    (htimeout : 3600 ≤ timeout_max) :
    (∀ (fetch : ConfigFetch) (client : DashboardClient) (agent_id agent_secret : Json) (fuel : Nat),
      agent_id ≠ .null → agent_secret ≠ .null →
      (fetch.SafeAtBootstrap setup.rt timeout_max client agent_id agent_secret fuel ↔
        ∃ config, fetch.document = .obj config ∧ Usable setup.rt timeout_max config)) ∧
    (∀ (fetch : ConfigFetch) (client : DashboardClient) (configs : List Dict),
      (fetch.SafeAtRefresh setup.rt timeout_max client configs ↔
        ∃ config, fetch.document = .obj config ∧ Usable setup.rt timeout_max config)) ∧
    ∀ P, Reachable setup main_thread P → P.ServedUsable setup.rt timeout_max →
      ∀ i config, (i, ⟨.configSnapshot, .ok config⟩) ∈ P.shared.log → Harmless setup.rt timeout_max config := by
  refine ⟨fun fetch client agent_id agent_secret fuel hid hsecret => ConfigFetch.safeAtBootstrap_iff hid hsecret fuel,
    fun fetch client configs => ConfigFetch.safeAtRefresh_iff configs, fun P hP hserved i config hread => ?_⟩
  rcases hP.snapshot_sourced hread with rfl | ⟨j, client, r, hfetched, haccepted⟩
  · exact harmless_iff.mpr (usable_defaultsWith 0 htimeout (fun _ hmem => absurd hmem List.not_mem_nil))
  · obtain ⟨config', hobj, husable⟩ := hserved j client r _ hfetched haccepted
    obtain rfl := Json.obj.inj hobj
    exact harmless_iff.mpr husable

/-- A config with a host on a port of its own. -/
def hostServed : Dict :=
  defaultsWith 7 [.obj [("host_id", .str "h1"), ("hostname", .str "a.example"), ("port", .int 8443)]]

def fetchedHost : ConfigFetch := ⟨.obj hostServed, 200, is2xx_200⟩

/-- The dashboard serves it, and asks for a refresh at every heartbeat. -/
def hostScene : Scene where
  credentials := registered
  get_config := some ⟨200, .json (.obj hostServed)⟩
  heartbeat := some ⟨200, .json (.obj [("config_refresh_required", .bool true)])⟩
  pending_reports := some []

/-- The call is no fetch, or one that is answered with that config. -/
def Lib.Call.fetchesHost : AgentCall → Bool
  | ⟨.getConfig _, .ok resp⟩ => decide (resp = ⟨200, .json (.obj hostServed)⟩)
  | _ => true

/-- The heartbeat thread has refreshed the config, and has read it again for its wait. -/
def refreshedHost : AgentPool :=
  (AgentPool.initial smallSetup true).moves smallSetup hostScene [.calls .main 13, .begins 0, .calls .heartbeat 10]

theorem accepted_config_safe_refreshedHost :
    fetchedHost.SafeAtBootstrap smallSetup.rt 9223372036 someClient (.str "a") (.str "s") 0 ∧
      fetchedHost.SafeAtRefresh smallSetup.rt 9223372036 someClient [defaultConfig] ∧
      (∃ r, (.heartbeat, ⟨.configReplace hostServed, r⟩) ∈ refreshedHost.shared.log) ∧
      Harmless smallSetup.rt 9223372036 hostServed := by
  have hlong : (3600 : Rat) ≤ 9223372036 := by decide +kernel
  have husable : ∃ config, fetchedHost.document = .obj config ∧ Usable smallSetup.rt 9223372036 config := by
    refine ⟨hostServed, rfl, usable_defaultsWith 7 hlong fun h hmem => ?_⟩
    obtain rfl := List.mem_singleton.mp hmem
    exact ⟨_, 8443, rfl, rfl⟩
  have hserved : refreshedHost.ServedUsable smallSetup.rt 9223372036 := by
    have hall : refreshedHost.shared.log.all (fun e => Lib.Call.fetchesHost e.2) = true := by decide +kernel
    rintro i client r document hfetched ⟨resp, rfl, -, -, hbody⟩
    obtain rfl := of_decide_eq_true (List.all_eq_true.mp hall _ hfetched)
    obtain rfl := Body.json.inj hbody
    exact husable
  have hread : (.heartbeat, ⟨.configSnapshot, .ok hostServed⟩) ∈ refreshedHost.shared.log :=
    List.mem_of_getLast? rfl
  have hid : Json.str "a" ≠ .null := nofun
  have hsecret : Json.str "s" ≠ .null := nofun
  obtain ⟨hbootstrap, hrefresh, hrun⟩ := accepted_config_safe_iff smallSetup true hlong
  exact ⟨(hbootstrap fetchedHost _ _ _ 0 hid hsecret).mpr husable, (hrefresh fetchedHost _ _).mpr husable,
    ⟨.ok (), List.mem_of_getElem? (i := 21) rfl⟩,
    hrun refreshedHost (alive_initial.moves _).reachable hserved .heartbeat hostServed hread⟩

/-- The defaults with two manual hosts, of which one has a port in words. -/
def fetchedMistyped : ConfigFetch where
  document := .obj (("manual_hosts", .arr [
    .obj [("host_id", .str "h1"), ("hostname", .str "a.example"), ("port", .str "https")],
    .obj [("host_id", .str "h2"), ("hostname", .str "b.example"), ("port", .int 443)]]) :: defaultConfig)
  status := 200
  accepted := is2xx_200

/-- The document is installed as it is, and no cycle gets as far as a check. -/
theorem fetchedMistyped_unsafe :
    (¬ ∀ (fetch : ConfigFetch) (fuel : Nat), fetch.SafeAtBootstrap CycleInput.plainRuntime 9223372036
      someClient (.str "a") (.str "s") fuel) ∧
    ¬ ∀ (fetch : ConfigFetch) (configs : List Dict), fetch.SafeAtRefresh CycleInput.plainRuntime 9223372036
      someClient configs := by
  have hnot : ¬ ∃ config, fetchedMistyped.document = .obj config ∧
      Usable CycleInput.plainRuntime 9223372036 config := by
    rintro ⟨config, hconfig, husable⟩
    obtain rfl := Json.obj.inj hconfig
    obtain ⟨hs, hhs, hsound⟩ := husable.hosts rfl
    obtain rfl := Json.arr.inj hhs
    obtain ⟨d, n, hd, hport⟩ := hsound _ List.mem_cons_self
    obtain rfl := Json.obj.inj hd
    cases hport
  have hid : Json.str "a" ≠ .null := nofun
  have hsecret : Json.str "s" ≠ .null := nofun
  exact ⟨fun h => hnot ((ConfigFetch.safeAtBootstrap_iff hid hsecret 0).mp (h fetchedMistyped 0)),
    fun h => hnot ((ConfigFetch.safeAtRefresh_iff []).mp (h fetchedMistyped []))⟩

end CertWatch
