/-
# `CertWatch.OnDemandChecks` — the check of a host on demand and in a cycle.

The `check_host` handler finds a host by the reference that the cycle reports for it, and then goes its own way: its
own lookup, its own choice of target, its own defaults and its own payload.  It comes to the cycle's check and to
the cycle's payload, as long as the agent can tell the hosts apart.
-/
import CertWatch.ConfigUse
import CertWatch.CycleCoverage
import CertWatch.CycleResults
import CertWatch.ActionWorkers
import CertWatch.ScriptedAgent
import CertWatch.Lib.Monitor
import Std.Data.String.ToInt

namespace CertWatch

open CertWatch.Lib

/-! ## Hosts that can be told apart -/

/-- The manual hosts have ids that are not empty, and no two of them are equal, as values or as texts. -/
structure DistinctIds (rt : Runtime) (manual_hosts : List Json) : Prop where
  nonempty : ∀ h ∈ manual_hosts, ∀ id, h.get "host_id" = .ok id → id.truthy = true ∧ id.pyEq id = true
  distinct : manual_hosts.Pairwise fun a b => ∀ x y, a.get "host_id" = .ok x → b.get "host_id" = .ok y →
    x.pyEq y = false ∧ rt.format x ≠ rt.format y

theorem DistinctIds.printedApart {rt : Runtime} {manual_hosts : List Json} (h : DistinctIds rt manual_hosts) :
    PrintedApart rt manual_hosts := h.distinct.imp fun hab x y hx hy => (hab x y hx hy).2

/-- Ids as the dashboard gives them: texts, none of them empty and no two the same. -/
theorem distinctIds_of_texts (rt : Runtime) {manual_hosts : List Json}
    (htexts : ∀ h ∈ manual_hosts, ∃ id, id ≠ "" ∧ h.get "host_id" = .ok (.str id))
    (hdistinct : manual_hosts.Pairwise fun a b => a.get "host_id" ≠ b.get "host_id") : DistinctIds rt manual_hosts where
  nonempty h hh id hid := by
    obtain ⟨s, hs, hget⟩ := htexts h hh
    obtain rfl := Except.ok.inj (hget.symm.trans hid)
    refine ⟨?_, ?_⟩
    · show (s != "") = true
      simpa using hs
    · rw [Json.pyEq_str]
      exact beq_self_eq_true s
  distinct := by
    refine hdistinct.imp_of_mem fun {a b} ha hb hne x y hx hy => ?_
    obtain ⟨s, -, hs⟩ := htexts a ha
    obtain ⟨t, -, ht⟩ := htexts b hb
    obtain rfl := Except.ok.inj (hs.symm.trans hx)
    obtain rfl := Except.ok.inj (ht.symm.trans hy)
    have hst : s ≠ t := fun h => hne (by rw [hs, ht, h])
    refine ⟨?_, hst⟩
    rw [Json.pyEq_str]
    simpa using hst

/-! ## The handler finds the host of the cycle -/

/-- What a reference to the host resolves to. -/
def HostEntry.target (entry : HostEntry) : CheckTarget where
  source := entry.source
  connect_target := entry.connect_target
  port := entry.port

section

variable {rt : Runtime}

/-- The handler reads a host's name and port as the cycle does. -/
theorem findManualHost_cons {h : Json} {hosts : List Json} {entry : HostEntry} (hentry : manualEntry rt h = .ok entry)
    {host_id id : Json} (hid : h.get "host_id" = .ok id) :
    findManualHost host_id (h :: hosts) =
      if id.pyEq host_id then .ok (some entry.target) else findManualHost host_id hosts := by
  obtain ⟨id', hid', hentry⟩ := except_bind_ok hentry
  obtain rfl := Except.ok.inj (hid.symm.trans hid')
  obtain ⟨hostname, hhostname, hentry⟩ := except_bind_ok hentry
  obtain ⟨given, hgiven, hentry⟩ := except_bind_ok hentry
  obtain ⟨port, hport, hentry⟩ := except_bind_ok hentry
  obtain rfl := Except.ok.inj hentry
  rw [findManualHost, hid]
  show (if id.pyEq host_id then _ else _) = _
  split_ifs
  · rw [hhostname, hgiven]
    show (given.toInt >>= _) = _
    rw [hport]
    rfl
  · rfl

/-- **A manual host of the cycle is the one that its id finds.** -/
theorem findManualHost_of_mem {hosts : List Json} {entries : List HostEntry} {entry : HostEntry}
    (hentries : hosts.mapM (manualEntry rt) = .ok entries) (hids : DistinctIds rt hosts) (hentry : entry ∈ entries) :
    ∃ host_id, entry.host_ref = .obj [("type", .str "manual"), ("host_id", host_id)] ∧ entry.source = .manual ∧
      host_id.truthy = true ∧ findManualHost host_id hosts = .ok (some entry.target) := by
  induction hosts generalizing entries with
  | nil =>
    obtain rfl : [] = entries := Except.ok.inj hentries
    exact absurd hentry List.not_mem_nil
  | cons h hosts ih =>
    rw [List.mapM_cons] at hentries
    obtain ⟨first, hfirst, hentries⟩ := except_bind_ok hentries
    obtain ⟨rest, hrest, hentries⟩ := except_bind_ok hentries
    obtain rfl : first :: rest = entries := Except.ok.inj hentries
    obtain ⟨id, hid, hsource, href, -⟩ := manualEntry_spec hfirst
    have hfind := fun host_id => @findManualHost_cons rt h hosts first hfirst host_id id hid
    rcases List.mem_cons.mp hentry with rfl | hentry
    · obtain ⟨htruthy, hself⟩ := hids.nonempty h List.mem_cons_self id hid
      refine ⟨id, href, hsource, htruthy, ?_⟩
      rw [hfind, if_pos hself]
    · -- no host before it has its id
      obtain ⟨hbefore, hafter⟩ := List.pairwise_cons.mp hids.distinct
      obtain ⟨host_id, href', hsource', htruthy, hfound⟩ :=
        ih hrest ⟨fun h' hh' => hids.nonempty h' (List.mem_cons_of_mem h hh'), hafter⟩ hentry
      refine ⟨host_id, href', hsource', htruthy, ?_⟩
      obtain ⟨h', hmem, hentry'⟩ := mem_of_mapM_ok hrest hentry
      obtain ⟨id', hid', -, href'', -⟩ := manualEntry_spec hentry'
      obtain rfl : host_id = id' := by
        have hobj := Json.obj.inj (href'.symm.trans href'')
        simpa using hobj
      rw [hfind, if_neg (by simp [(hbefore h' hmem id host_id hid hid').1]), hfound]

/-- **A NetBox host of the cycle is the one that its device id finds.** -/
theorem resolveNetboxHost_of_mem {netbox_hosts : List DiscoveredHost} {nh : DiscoveredHost}
    (hids : (netbox_hosts.map (·.netbox_device_id)).Nodup) (hnh : nh ∈ netbox_hosts) :
    resolveNetboxHost (.int nh.netbox_device_id) netbox_hosts = some (netboxEntry nh).target := by
  have hfind : netbox_hosts.find? (fun h => (Json.int h.netbox_device_id).pyEq (.int nh.netbox_device_id)) =
      some nh := by
    induction netbox_hosts with
    | nil => exact absurd hnh List.not_mem_nil
    | cons h hosts ih =>
      rw [List.map_cons, List.nodup_cons] at hids
      rcases List.mem_cons.mp hnh with rfl | hnh
      · exact List.find?_cons_of_pos (by rw [Json.pyEq_int]; exact beq_self_eq_true _)
      · have hne : h.netbox_device_id ≠ nh.netbox_device_id := fun heq =>
          hids.1 (List.mem_map.mpr ⟨nh, hnh, heq.symm⟩)
        rw [List.find?_cons_of_neg (by rw [Json.pyEq_int]; simpa using hne)]
        exact ih hids.2 hnh
  rw [resolveNetboxHost, hfind]
  rfl

/-! ## The handler reads the settings of the cycle -/

/-- `timeouts` is absent, or an object. -/
def TimeoutsReadable (config : Dict) : Prop := ∀ v, config.get? "timeouts" = some v → ∃ d, v = .obj d

theorem TimeoutsReadable.or_empty {config : Dict} (h : TimeoutsReadable config) :
    (Dict.getD config "timeouts" (.obj [])).or (.obj []) = Dict.getD config "timeouts" (.obj []) := by
  have hobj : ∃ d, Dict.getD config "timeouts" (.obj []) = .obj d := by
    unfold Dict.getD
    cases hget : config.get? "timeouts" with
    | none => exact ⟨[], rfl⟩
    | some v => exact h v hget
  obtain ⟨d, hd⟩ := hobj
  rw [hd]
  cases d <;> rfl

theorem onDemandTimeouts_eq {config : Dict} {threshold : Int} {settings : CheckSettings} (h : TimeoutsReadable config)
    (hsettings : checkSettings rt config threshold = .ok settings) :
    onDemandTimeouts rt config = .ok (settings.tcp_connect_seconds, settings.tls_handshake_seconds) ∧
      settings.expiring_soon_threshold_days = threshold := by
  obtain ⟨tcp, htcp, hsettings⟩ := except_bind_ok hsettings
  obtain ⟨connect, hconnect, hsettings⟩ := except_bind_ok hsettings
  obtain ⟨tls, htls, hsettings⟩ := except_bind_ok hsettings
  obtain ⟨handshake, hhandshake, hsettings⟩ := except_bind_ok hsettings
  obtain ⟨given, -, hsettings⟩ := except_bind_ok hsettings
  obtain ⟨max_concurrency, -, hsettings⟩ := except_bind_ok hsettings
  obtain rfl := Except.ok.inj hsettings
  refine ⟨?_, rfl⟩
  unfold onDemandTimeouts
  rw [h.or_empty]
  simp only [bind, Except.bind, htcp, hconnect, htls, hhandshake]
  rfl

end

/-! ## Checks as calls -/

/-- A check function with its arguments. -/
inductive HostCheck where
  | certCheck (connect_target : Json) (port : Int) (connect_timeout handshake_timeout : PyFloat)
  | certCheckWithDiscovery (connect_target : Json) (port : Int) (connect_timeout handshake_timeout : PyFloat)
      (expiring_soon_threshold_days : Int)

/-- What the check function does with these arguments. -/
def HostCheck.program (rt : Runtime) : HostCheck → Check CheckResult
  | .certCheck connect_target port connect_timeout handshake_timeout =>
    CheckResult.manual <$> CertWatch.certCheck rt connect_target port connect_timeout handshake_timeout
  | .certCheckWithDiscovery connect_target port connect_timeout handshake_timeout expiring_soon_threshold_days =>
    CheckResult.netbox <$> CertWatch.certCheckWithDiscovery rt connect_target port connect_timeout handshake_timeout
      expiring_soon_threshold_days

/-- The check that a cycle makes of a host. -/
def HostEntry.check (entry : HostEntry) (settings : CheckSettings) : HostCheck :=
  match entry.source with
  | .manual => .certCheck entry.connect_target entry.port settings.tcp_connect_seconds settings.tls_handshake_seconds
  | .netbox => .certCheckWithDiscovery entry.connect_target entry.port settings.tcp_connect_seconds
      settings.tls_handshake_seconds settings.expiring_soon_threshold_days

theorem runCheck_eq (rt : Runtime) (settings : CheckSettings) (entry : HostEntry) :
    runCheck rt settings entry = (entry.check settings).program rt := by
  unfold runCheck HostEntry.check
  cases entry.source <;> rfl

/-- The check that a call asks for. -/
def AgentOp.check : AgentOp → Option HostCheck
  | .certCheck connect_target port connect_timeout handshake_timeout =>
    some (.certCheck connect_target port connect_timeout handshake_timeout)
  | .certCheckWithDiscovery connect_target port connect_timeout handshake_timeout expiring_soon_threshold_days =>
    some (.certCheckWithDiscovery connect_target port connect_timeout handshake_timeout expiring_soon_threshold_days)
  | _ => none

/-- A check that was asked for, with its answer. -/
def AgentCall.check : AgentCall → Option (HostCheck × Except PyExc CheckResult)
  | ⟨.certCheck connect_target port connect_timeout handshake_timeout, r⟩ =>
    some (.certCheck connect_target port connect_timeout handshake_timeout, r.map CheckResult.manual)
  | ⟨.certCheckWithDiscovery connect_target port connect_timeout handshake_timeout expiring_soon_threshold_days, r⟩ =>
    some (.certCheckWithDiscovery connect_target port connect_timeout handshake_timeout expiring_soon_threshold_days,
      r.map CheckResult.netbox)
  | _ => none

theorem check_none {o : AgentOp} (h : o.check = none) (r : Except PyExc o.Ret) : AgentCall.check ⟨o, r⟩ = none := by
  cases o <;> first | rfl | cases h

/-- The checks that were asked for, with their answers. -/
abbrev Checked := List (HostCheck × Except PyExc CheckResult)

def checked (cs : List AgentCall) : Checked := cs.filterMap AgentCall.check

/-! ## The queue sends what it is given -/

section

variable {A : QueueOp → Prop} (hA : ∀ o, (∀ path body, o ≠ .submit path body) → A o)

include hA

theorem only_queueCall {o : QueueOp} (h : ∀ path body, o ≠ .submit path body) : (queueCall o).Only A :=
  Prog.only_perform (hA o h)

theorem only_of_fileCalls {α : Type} {p : Queue α} (h : FileCalls p) : p.Only A :=
  h.only.mono fun o ho => hA o (by rintro path body rfl; cases ho)

theorem only_savePendingReport (report_id : String) (payload : Dict) : (savePendingReport report_id payload).Only A :=
  (only_queueCall hA (by nofun)).bind fun _ => (only_queueCall hA (by nofun)).bind fun _ =>
    (only_of_fileCalls hA (fileCalls_atomicWriteJson _ _)).bind fun _ => trivial

theorem only_finishAttempt (path : String) (started_mono : Rat) (status : SubmissionStatus) (attempts : Int)
    (summary : Json) : (finishAttempt path started_mono status attempts summary).Only A := by
  exact (only_of_fileCalls hA (fileCalls_deletePendingReport path)).bind fun _ =>
    (only_queueCall hA (by nofun)).bind fun _ => trivial

theorem only_handleOutcome {path : String} {wire : Dict} {started_mono : Rat} {attempts : Int}
    {retry : Queue ReportSubmissionResult} (hretry : retry.Only A) (shutdown_event : Bool)
    (outcome : Except PyExc Json) :
    (handleOutcome shutdown_event path wire started_mono attempts retry outcome).Only A := by
  have hwait : (backoffWait shutdown_event (backoffDelay attempts)).Only A := by
    unfold backoffWait
    split_ifs
    · exact only_queueCall hA (by nofun)
    · exact (only_queueCall hA (by nofun)).bind fun _ => trivial
  unfold handleOutcome
  split
  · exact (Prog.only_ofExcept _).bind fun _ => only_finishAttempt hA ..
  · split
    · exact (Prog.only_ofExcept _).bind fun _ => only_finishAttempt hA ..
    · exact only_finishAttempt hA ..
    · exact (Prog.only_ofExcept _).bind fun _ => only_finishAttempt hA ..
    all_goals first
      | trivial
      | refine hwait.bind fun woke_early => ?_
        split_ifs
        · exact (only_queueCall hA (by nofun)).bind fun _ => trivial
        · exact hretry
  · trivial

/-- Every submission of a retry loop has the body that its payload makes. -/
theorem only_retryLoopForPath {client : DashboardClient} {shutdown_event : Bool} {path : String} {wire : Dict}
    (hsubmit : ∀ body, wireBody wire = .ok body → A (.submit path body)) (started_mono : Rat) (fuel : Nat) :
    (retryLoopForPath client shutdown_event path wire started_mono fuel).Only A := by
  induction fuel with
  | zero => trivial
  | succ fuel ih =>
    refine (only_of_fileCalls hA (fileCalls_incrementAttempts path)).bind fun attempts =>
      Prog.Only.bind (Prog.Only.attempt ?_) fun outcome => only_handleOutcome hA ih shutdown_event outcome
    unfold submitWire
    cases hbody : wireBody wire with
    | error e => trivial
    | ok body =>
      show (submitReport client path body).Only A
      refine Prog.Only.bind ((Prog.only_perform (hsubmit body hbody)).tryCatch fun e => ?_) fun resp =>
        Prog.only_ofExcept _
      cases e <;> trivial

/-- **A submission sends its own payload and nothing else.** -/
theorem only_submitPayloadWithRetry {client : DashboardClient} {shutdown_event : Bool} {payload : Dict}
    (hsubmit : ∀ path body, wireBody payload = .ok body → A (.submit path body)) (fuel : Nat) (report_id : String) :
    (submitPayloadWithRetry client shutdown_event fuel report_id payload).Only A :=
  (only_queueCall hA (by nofun)).bind fun started_mono => (only_savePendingReport hA report_id payload).bind fun path =>
    only_retryLoopForPath hA (hsubmit path) started_mono fuel

end

/-! ## The handler under watch -/

namespace CycleInput

/-- What the handler is answered while this config and these NetBox hosts are in place. -/
def Answers (c : CycleInput) (o : AgentOp) (r : Except PyExc o.Ret) : Prop :=
  Possible o r ∧ match o, r with
    | .configSnapshot, r => r = .ok c.config
    | .hostsSnapshot, r => r = .ok c.netbox_hosts
    | _, _ => True

/-- One check at most, of these; what it may do to the queue depends on the answer. -/
def handlerMonitor (c : CycleInput) (MayCheck : HostCheck → Prop) (MayReport : Checked → QueueOp → Prop) :
    Monitor agentSig PyExc Checked where
  possible := c.Answers
  allows q o := (∀ check, o.check = some check → q = [] ∧ MayCheck check) ∧ ∀ o', o = .queue o' → MayReport q o'
  next q o r := q ++ (AgentCall.check ⟨o, r⟩).toList

section

variable {c : CycleInput} {MayCheck : HostCheck → Prop} {MayReport : Checked → QueueOp → Prop} {α β : Type}

/-- A call that is neither a check nor of the queue. -/
theorem obeys_aside {o : AgentOp} {f : o.Ret → Agent α} {F : Checked → Except PyExc α → Prop} {q : Checked}
    (hcheck : o.check = none) (hqueue : ∀ o', o ≠ .queue o') (hok : ∀ r, c.Answers o r → ∃ a, r = .ok a)
    (h : ∀ a, c.Answers o (.ok a) → (f a).Obeys (c.handlerMonitor MayCheck MayReport) F q) :
    ((agentCall o).bind f).Obeys (c.handlerMonitor MayCheck MayReport) F q := by
  refine Prog.obeys_bind.mpr (Prog.obeys_perform.mpr ⟨⟨fun check hc => ?_, fun o' ho => absurd ho (hqueue o')⟩,
    fun r hr => ?_⟩)
  · rw [hcheck] at hc
    cases hc
  · obtain ⟨a, rfl⟩ := hok r hr
    have hsame : (c.handlerMonitor MayCheck MayReport).next q o (.ok a) = q := by
      show q ++ (AgentCall.check ⟨o, .ok a⟩).toList = q
      rw [check_none hcheck]
      exact List.append_nil q
    rw [hsame]
    exact h a hr

/-- **The reference that the cycle reports for a host leads the handler to that host.** -/
theorem obeys_resolveHostRef {hosts : List HostEntry} {entry : HostEntry} {q : Checked}
    (hhosts : toCheck c.rt c.config c.netbox_hosts = .ok hosts)
    (hids : ∀ manual_hosts, manualHosts c.config = .ok manual_hosts → DistinctIds c.rt manual_hosts)
    (hdevices : (c.netbox_hosts.map (·.netbox_device_id)).Nodup) (hentry : entry ∈ hosts) :
    ∃ ref_type, entry.host_ref.or (.obj []) = entry.host_ref ∧ entry.host_ref.get "type" = .ok ref_type ∧
      (resolveHostRef entry.host_ref ref_type c.config).Obeys (c.handlerMonitor MayCheck MayReport)
        (fun q' x => q' = q ∧ x = .ok (some entry.target)) q := by
  obtain ⟨manual_hosts, hmanual, hhosts⟩ := except_bind_ok hhosts
  obtain ⟨entries, hentries, hhosts⟩ := except_bind_ok hhosts
  obtain rfl : entries ++ c.netbox_hosts.map netboxEntry = hosts := Except.ok.inj hhosts
  rcases List.mem_append.mp hentry with hentry | hentry
  · obtain ⟨host_id, href, -, htruthy, hfound⟩ := findManualHost_of_mem hentries (hids manual_hosts hmanual) hentry
    rw [href]
    refine ⟨.str "manual", rfl, rfl, ?_⟩
    have hresolved : resolveManualHost host_id c.config = .ok (some entry.target) := by
      rw [resolveManualHost, if_pos htruthy, hmanual]
      exact hfound
    have hget : (Json.obj [("type", .str "manual"), ("host_id", host_id)]).get "host_id" = .ok host_id := rfl
    rw [resolveHostRef, if_pos rfl, hget]
    simp only [Prog.bind_eq, Prog.ofExcept_ok, Prog.ret_bind, hresolved]
    exact ⟨rfl, rfl⟩
  · obtain ⟨nh, hnh, rfl⟩ := List.mem_map.mp hentry
    refine ⟨.str "netbox", rfl, rfl, ?_⟩
    have hget : (netboxEntry nh).host_ref.get "netbox_device_id" = .ok (.int nh.netbox_device_id) := rfl
    rw [resolveHostRef, if_neg (by simp), if_pos rfl, hget]
    simp only [Prog.bind_eq, Prog.ofExcept_ok, Prog.ret_bind]
    refine obeys_aside rfl (by nofun) (fun r hr => ⟨_, hr.2⟩) fun netbox_hosts hr => ?_
    obtain rfl := Except.ok.inj hr.2
    rw [resolveNetboxHost_of_mem hdevices hnh]
    exact ⟨rfl, rfl⟩

/-- The one check is this one, and its payload is the cycle's. -/
def OneCheck (c : CycleInput) (settings : CheckSettings) (entry : HostEntry) (q : Checked) (x : Except PyExc Dict) :
    Prop :=
  ∃ r, q = [(entry.check settings, r)] ∧
    ∀ payload, x = .ok payload → ∃ result, r = .ok result ∧ buildPayloadForEntry c.rt entry result = .ok payload

/-- A call of the check function that is due, and the payload of what it answers. -/
theorem obeys_dueCheck {entry : HostEntry} {settings : CheckSettings} {o : AgentOp} {k : o.Ret → CheckResult}
    {build : o.Ret → Dict} (hcheck : MayCheck (entry.check settings))
    (hcall : ∀ r : Except PyExc o.Ret, AgentCall.check ⟨o, r⟩ = some (entry.check settings, r.map k))
    (hbuild : ∀ a, buildPayloadForEntry c.rt entry (k a) = .ok (build a))
    (ho : o.check = some (entry.check settings)) (hqueue : ∀ o', o ≠ .queue o') :
    ((agentCall o).bind fun a => .ret (build a)).Obeys (c.handlerMonitor MayCheck MayReport)
      (c.OneCheck settings entry) [] := by
  refine Prog.obeys_bind.mpr (Prog.obeys_perform.mpr ⟨⟨fun check hc => ?_, fun o' h => absurd h (hqueue o')⟩,
    fun r hr => ?_⟩)
  · obtain rfl := Option.some.inj (ho.symm.trans hc)
    exact ⟨rfl, hcheck⟩
  · have hnext : (c.handlerMonitor MayCheck MayReport).next [] o r = [(entry.check settings, r.map k)] := by
      show [] ++ (AgentCall.check ⟨o, r⟩).toList = _
      rw [hcall r]
      rfl
    rw [hnext]
    cases r with
    | error e => exact ⟨_, rfl, nofun⟩
    | ok a =>
      refine ⟨_, rfl, fun payload hpayload => ⟨k a, rfl, ?_⟩⟩
      obtain rfl := Except.ok.inj hpayload
      exact hbuild a

/-- **The handler makes the cycle's check of the host, and the cycle's payload of its result.** -/
theorem obeys_checkTarget {entry : HostEntry} {settings : CheckSettings}
    (hthreshold : expiringSoonThreshold c.config = .ok settings.expiring_soon_threshold_days)
    (hcheck : MayCheck (entry.check settings)) :
    (checkTarget c.rt c.config entry.host_ref entry.target settings.tcp_connect_seconds
      settings.tls_handshake_seconds).Obeys (c.handlerMonitor MayCheck MayReport) (c.OneCheck settings entry) [] := by
  unfold checkTarget
  cases hsource : entry.source with
  | manual =>
    have htarget : entry.target.source = .manual := hsource
    have hentry : entry.check settings = .certCheck entry.target.connect_target entry.target.port
        settings.tcp_connect_seconds settings.tls_handshake_seconds := by
      rw [HostEntry.check, hsource]
      rfl
    simp only [htarget]
    refine @obeys_dueCheck c _ _ entry settings (.certCheck _ _ _ _) CheckResult.manual
      (buildCheckPayload entry.host_ref) hcheck (fun r => by rw [hentry]; rfl) (fun a => ?_) (by rw [hentry]; rfl)
      (by nofun)
    simp only [buildPayloadForEntry, hsource]
  | netbox =>
    have htarget : entry.target.source = .netbox := hsource
    have hentry : entry.check settings = .certCheckWithDiscovery entry.target.connect_target entry.target.port
        settings.tcp_connect_seconds settings.tls_handshake_seconds settings.expiring_soon_threshold_days := by
      rw [HostEntry.check, hsource]
      rfl
    simp only [htarget, Prog.bind_eq, hthreshold, Prog.ofExcept_ok, Prog.ret_bind]
    refine @obeys_dueCheck c _ _ entry settings (.certCheckWithDiscovery _ _ _ _ _) CheckResult.netbox
      (buildCheckPayloadFromDiscovery c.rt entry.host_ref) hcheck (fun r => by rw [hentry]; rfl) (fun a => ?_)
      (by rw [hentry]; rfl) (by nofun)
    simp only [buildPayloadForEntry, hsource]

/-- The reports that a handler sends after the cycle's check: each has the cycle's payload as its only check. -/
def SendsPayload (c : CycleInput) (settings : CheckSettings) (entry : HostEntry) (q : Checked) (o : QueueOp) : Prop :=
  ∀ path body, o = .submit path body → ∃ result payload, q = [(entry.check settings, .ok result)] ∧
    buildPayloadForEntry c.rt entry result = .ok payload ∧ body.checks = .arr [.obj payload]

theorem obeys_submit {settings : CheckSettings} {entry : HostEntry} {result : CheckResult} {payload : Dict}
    {report : Dict} {client : DashboardClient} (hpayload : buildPayloadForEntry c.rt entry result = .ok payload)
    (hreport : ∀ body, wireBody report = .ok body → body.checks = .arr [.obj payload]) (fuel : Nat)
    (report_id : String) :
    ((submitPayloadWithRetry client true fuel report_id report).embed queueCalls).Obeys
      (c.handlerMonitor MayCheck (c.SendsPayload settings entry))
      (fun q _ => q = [(entry.check settings, .ok result)]) [(entry.check settings, .ok result)] := by
  have honly := @only_submitPayloadWithRetry
    (fun o => ∀ path body, o = .submit path body → body.checks = .arr [.obj payload])
    (fun o ho path body h => absurd h (ho path body)) client true report
    (fun path body hbody path' body' h => by
      obtain ⟨-, rfl⟩ := QueueOp.submit.inj h
      exact hreport body hbody) fuel report_id
  refine Prog.Obeys.embed (honly.obeys (fun o ho => ⟨⟨nofun, fun o' h path body hsub => ?_⟩, fun r hr => ?_⟩) trivial)
  · obtain rfl := AgentOp.queue.inj h
    exact ⟨result, payload, rfl, hpayload, ho path body hsub⟩
  · exact List.append_nil _

/-- **The handler, given a reference that the cycle reports**: one check, the cycle's, and then its payload. -/
theorem obeys_checkHost {hosts : List HostEntry} {settings : CheckSettings} {entry : HostEntry} {ctx : ActionContext}
    (hprep : c.Prepares hosts settings)
    (hids : ∀ manual_hosts, manualHosts c.config = .ok manual_hosts → DistinctIds c.rt manual_hosts)
    (htimeouts : TimeoutsReadable c.config) (hdevices : (c.netbox_hosts.map (·.netbox_device_id)).Nodup)
    (hentry : entry ∈ hosts) (hctx : ctx.payload.get "host_ref" = .ok entry.host_ref) (client : DashboardClient)
    (fuel : Nat) :
    (checkHost c.rt client fuel ctx).Obeys
      (c.handlerMonitor (fun check => check = entry.check settings) (c.SendsPayload settings entry))
      (fun q _ => q ≠ []) [] := by
  obtain ⟨threshold, hthreshold, hsettings⟩ := hprep.settings_ok
  obtain ⟨htimes, rfl⟩ := onDemandTimeouts_eq htimeouts hsettings
  obtain ⟨ref_type, hor, htype, hresolve⟩ := obeys_resolveHostRef hprep.hosts_ok hids hdevices hentry
  simp only [checkHost, Prog.bind_eq, hctx, Prog.ofExcept_ok, Prog.ret_bind, hor, htype]
  refine obeys_aside rfl (by nofun) (fun r hr => ⟨_, hr.2⟩) fun config hr => ?_
  obtain rfl := Except.ok.inj hr.2
  refine Prog.Obeys.bind hresolve (fun q resolved hq => ?_) (fun q e hq => by cases hq.2)
  obtain ⟨rfl, hresolved⟩ := hq
  obtain rfl := Except.ok.inj hresolved
  refine obeys_aside rfl (by nofun) (fun r hr => ?_) fun started_at _ => ?_
  · obtain ⟨⟨s, us, h⟩, -⟩ := hr
    exact ⟨_, h⟩
  simp only [htimes, Prog.ofExcept_ok, Prog.ret_bind]
  refine Prog.Obeys.bind (obeys_checkTarget hthreshold rfl) (fun q check_payload hq => ?_) (fun q e hq => ?_)
  · obtain ⟨r, rfl, hpayload⟩ := hq
    obtain ⟨result, rfl, hbuild⟩ := hpayload check_payload rfl
    refine obeys_aside rfl (by nofun) (fun r hr => ?_) fun completed_at _ => ?_
    · obtain ⟨⟨s, us, h⟩, -⟩ := hr
      exact ⟨_, h⟩
    refine obeys_aside rfl (by nofun) (fun r hr => ?_) fun report_id _ => ?_
    · obtain ⟨⟨s, id, h⟩, -⟩ := hr
      exact ⟨_, h⟩
    refine Prog.Obeys.bind (obeys_submit hbuild ?_ fuel report_id) (fun q _ hq => ?_) (fun q e hq => ?_)
    · intro body hbody
      obtain rfl := Except.ok.inj hbody
      rfl
    · rw [hq]
      exact List.cons_ne_nil _ _
    · rw [hq]
      exact List.cons_ne_nil _ _
  · obtain ⟨r, rfl, -⟩ := hq
    exact List.cons_ne_nil _ _

/-- The reference means no host of either list. -/
structure Absent (c : CycleInput) (host_ref : Json) : Prop where
  manual : host_ref.get "type" = .ok (.str "manual") → ∀ manual_hosts, manualHosts c.config = .ok manual_hosts →
    ∀ h ∈ manual_hosts, ∀ id host_id, h.get "host_id" = .ok id → host_ref.get "host_id" = .ok host_id →
      id.pyEq host_id = false
  netbox : host_ref.get "type" = .ok (.str "netbox") → ∀ nh ∈ c.netbox_hosts, ∀ netbox_id,
    host_ref.get "netbox_device_id" = .ok netbox_id → (Json.int nh.netbox_device_id).pyEq netbox_id = false

theorem findManualHost_absent {host_id : Json} {hosts : List Json} {resolved : Option CheckTarget}
    (habsent : ∀ h ∈ hosts, ∀ id, h.get "host_id" = .ok id → id.pyEq host_id = false)
    (h : findManualHost host_id hosts = .ok resolved) : resolved = none := by
  induction hosts with
  | nil => exact (Except.ok.inj h).symm
  | cons host hosts ih =>
    obtain ⟨id, hid, h⟩ := except_bind_ok h
    rw [if_neg (by simp [habsent host List.mem_cons_self id hid])] at h
    exact ih (fun h' hh' => habsent h' (List.mem_cons_of_mem host hh')) h

/-- A reference to no host is looked up in vain, or not at all. -/
theorem obeys_resolveHostRef_absent {host_ref ref_type : Json} (habsent : c.Absent host_ref)
    (htype : host_ref.get "type" = .ok ref_type) {q : Checked} :
    (resolveHostRef host_ref ref_type c.config).Obeys (c.handlerMonitor MayCheck MayReport)
      (fun q' x => q' = q ∧ ∀ resolved, x = .ok resolved → resolved = none) q := by
  unfold resolveHostRef
  split_ifs with hmanual hnetbox
  · subst hmanual
    cases hid : host_ref.get "host_id" with
    | error e => exact ⟨rfl, nofun⟩
    | ok host_id =>
      simp only [Prog.bind_eq, Prog.ofExcept_ok, Prog.ret_bind]
      cases hresolved : resolveManualHost host_id c.config with
      | error e => exact ⟨rfl, nofun⟩
      | ok resolved =>
        have hnone : resolved = none := by
          unfold resolveManualHost at hresolved
          split_ifs at hresolved
          · obtain ⟨hosts, hhosts, hfound⟩ := except_bind_ok hresolved
            exact findManualHost_absent
              (fun h hh id hid' => habsent.manual htype hosts hhosts h hh id host_id hid' hid) hfound
          · exact (Except.ok.inj hresolved).symm
        subst hnone
        simp only [Prog.ofExcept_ok, Prog.ret_bind]
        refine Prog.obeys_bind.mpr (Prog.obeys_ofExcept.mpr ?_)
        cases ((Dict.getD c.config "manual_hosts" (.arr [])).or (.arr [])).len with
        | error e => exact ⟨rfl, nofun⟩
        | ok n => exact ⟨rfl, fun resolved h => (Except.ok.inj h).symm⟩
  · subst hnetbox
    cases hid : host_ref.get "netbox_device_id" with
    | error e => exact ⟨rfl, nofun⟩
    | ok netbox_id =>
      simp only [Prog.bind_eq, Prog.ofExcept_ok, Prog.ret_bind]
      refine obeys_aside rfl (by nofun) (fun r hr => ⟨_, hr.2⟩) fun netbox_hosts hr => ⟨rfl, fun resolved h => ?_⟩
      obtain rfl := Except.ok.inj hr.2
      obtain rfl := Except.ok.inj h
      rw [resolveNetboxHost, List.find?_eq_none.mpr fun nh hnh => ?_]
      · rfl
      · simp [habsent.netbox htype nh hnh netbox_id hid]
  · exact ⟨rfl, fun resolved h => (Except.ok.inj h).symm⟩

/-- **A reference to no host causes no check and no call of the queue.** -/
theorem obeys_checkHost_absent {host_ref : Json} {ctx : ActionContext} (habsent : c.Absent host_ref)
    (hctx : ctx.payload.get "host_ref" = .ok host_ref) (client : DashboardClient) (fuel : Nat) :
    (checkHost c.rt client fuel ctx).Obeys (c.handlerMonitor (fun _ => False) fun _ _ => False) (fun _ _ => True)
      [] := by
  -- an empty reference has no type
  have hor : c.Absent (host_ref.or (.obj [])) := by
    unfold Json.or
    split_ifs
    · exact habsent
    · exact ⟨fun h => (by cases h), fun h => (by cases h)⟩
  simp only [checkHost, Prog.bind_eq, hctx, Prog.ofExcept_ok, Prog.ret_bind]
  cases htype : (host_ref.or (.obj [])).get "type" with
  | error e => trivial
  | ok ref_type =>
    simp only [Prog.ofExcept_ok, Prog.ret_bind]
    refine obeys_aside rfl (by nofun) (fun r hr => ⟨_, hr.2⟩) fun config hr => ?_
    obtain rfl := Except.ok.inj hr.2
    refine Prog.Obeys.bind (obeys_resolveHostRef_absent hor htype) (fun q resolved hq => ?_) fun _ _ _ => trivial
    obtain rfl := hq.2 resolved rfl
    trivial

end

/-! ## The cycle's payload -/

section

variable {c : CycleInput} {hosts : List HostEntry} {settings : CheckSettings}

/-- Whenever the cycle's check of this host returns this result, this payload is what its report has on the host. -/
def Reports (c : CycleInput) (hosts : List HostEntry) (settings : CheckSettings) (entry : HostEntry)
    (result : CheckResult) (payload : Dict) : Prop :=
  ∀ (checks : CycleChecks) (k : Nat) (built : List Dict), hosts[k]? = some entry →
    Completes c.rt settings (checks.scripts k) entry result → c.Builds checks built →
      ∀ check, (check ∈ built ∧ check.get? "host_ref" = some entry.host_ref) ↔ check = payload

/-- **The cycle reports the payload of the host's own result**, once. -/
theorem reports_of_build {entry : HostEntry} {result : CheckResult} {payload : Dict} (hprep : c.Prepares hosts settings)
    (hkeys : (hosts.map (·.identity_key)).Nodup) (hpayload : buildPayloadForEntry c.rt entry result = .ok payload) :
    c.Reports hosts settings entry result payload := by
  intro checks k built hk hcomplete hbuilds check
  obtain ⟨results, hresults⟩ := @runChecks_ok c checks _ _ hprep
  have hlookup := (lookup_iff hkeys hresults hk).mpr hcomplete
  have hentry : entry ∈ hosts := List.mem_of_getElem? hk
  cases hbuilds with
  | none hempty =>
    obtain rfl := Except.ok.inj (hempty.symm.trans hprep.hosts_ok)
    exact absurd rfl hprep.nonempty
  | @some hosts' settings' results' _ hprep' hresults' hbuild =>
    obtain rfl := Except.ok.inj (hprep.hosts_ok.symm.trans hprep'.hosts_ok)
    obtain rfl : settings = settings' := by
      obtain ⟨threshold, hthreshold, hsettings⟩ := hprep.settings_ok
      obtain ⟨threshold', hthreshold', hsettings'⟩ := hprep'.settings_ok
      obtain rfl := Except.ok.inj (hthreshold.symm.trans hthreshold')
      exact Except.ok.inj (hsettings.symm.trans hsettings')
    obtain rfl := Except.ok.inj (hresults.symm.trans hresults')
    rw [mem_buildChecks hbuild]
    constructor
    · rintro ⟨⟨other, hother, r, hr, hbuilt⟩, href⟩
      rw [host_ref_of_build hbuilt] at href
      have hkey := identity_key_of_host_ref hprep.hosts_ok hother hentry (Option.some.inj href)
      obtain rfl := List.inj_on_of_nodup_map hkeys hother hentry hkey
      obtain rfl := Option.some.inj (hr.symm.trans hlookup)
      exact Except.ok.inj (hbuilt.symm.trans hpayload)
    · rintro rfl
      exact ⟨⟨entry, hentry, result, hlookup, hpayload⟩, host_ref_of_build hpayload⟩

end

/-! ## The two ways agree -/

/-- What an on-demand check of the host does, call by call, whatever it is answered: one check, the cycle's; the
handler is not over without it; and each report has, as its only check, what the cycle reports of that answer. -/
structure AsTheCycle (c : CycleInput) (hosts : List HostEntry) (settings : CheckSettings) (entry : HostEntry)
    (cs : List AgentCall) (p : Agent Unit) : Prop where
  scheduled : runCheck c.rt settings entry = (entry.check settings).program c.rt
  same_check : checked cs = [] ∨ ∃ r, checked cs = [(entry.check settings, r)]
  makes_it : p.Ended → checked cs ≠ []
  same_payload : ∀ path body r, ⟨.queue (.submit path body), r⟩ ∈ cs → ∃ result payload,
    checked cs = [(entry.check settings, .ok result)] ∧ body.checks = .arr [.obj payload] ∧
      c.Reports hosts settings entry result payload

/-- The handler run on this reference, while the config and the NetBox hosts of the cycle are in place. -/
def HandlerRuns (c : CycleInput) (host_ref : Json) (cs : List AgentCall) (p : Agent Unit) : Prop :=
  ∃ (client : DashboardClient) (fuel : Nat) (ctx : ActionContext), ctx.payload.get "host_ref" = .ok host_ref ∧
    (checkHost c.rt client fuel ctx).Trace cs p ∧ ∀ call ∈ cs, c.Answers call.op call.answer

section

variable {c : CycleInput} {MayCheck : HostCheck → Prop} {MayReport : Checked → QueueOp → Prop}

theorem after_eq (cs : List AgentCall) : (c.handlerMonitor MayCheck MayReport).after [] cs = checked cs := by
  induction cs using List.reverseRecOn with
  | nil => rfl
  | append_singleton cs call ih =>
    rw [Monitor.after_concat, ih, checked, checked, List.filterMap_append]
    show _ ++ (AgentCall.check call).toList = _
    cases hcall : AgentCall.check call <;> simp [hcall]

theorem check_op {call : AgentCall} {check : HostCheck} {r : Except PyExc CheckResult}
    (h : call.check = some (check, r)) : call.op.check = some check := by
  unfold AgentCall.check at h
  split at h
  · exact congrArg some (Prod.ext_iff.mp (Option.some.inj h)).1
  · exact congrArg some (Prod.ext_iff.mp (Option.some.inj h)).1
  · cases h

/-- A lawful handler makes one check at most. -/
theorem checked_of_lawful {cs : List AgentCall} (h : (c.handlerMonitor MayCheck MayReport).Lawful [] cs) :
    checked cs = [] ∨ ∃ check r, MayCheck check ∧ checked cs = [(check, r)] := by
  induction cs using List.reverseRecOn with
  | nil => exact Or.inl rfl
  | append_singleton cs call ih =>
    obtain ⟨hbefore, ⟨hcheck, -⟩, -⟩ := (Monitor.lawful_concat _).mp h
    rw [after_eq] at hcheck
    have hsplit : checked (cs ++ [call]) = checked cs ++ (AgentCall.check call).toList := by
      rw [checked, checked, List.filterMap_append]
      cases hcall : AgentCall.check call <;> simp [hcall]
    rw [hsplit]
    cases hcall : AgentCall.check call with
    | none =>
      rw [Option.toList_none, List.append_nil]
      exact ih hbefore
    | some made =>
      obtain ⟨check, r⟩ := made
      obtain ⟨hnone, hmay⟩ := hcheck check (check_op hcall)
      rw [hnone]
      exact Or.inr ⟨check, r, hmay, rfl⟩

/-- A call of the queue was allowed by the checks before it. -/
theorem report_of_lawful {cs : List AgentCall} (h : (c.handlerMonitor MayCheck MayReport).Lawful [] cs) {o : QueueOp}
    {r : Except PyExc o.Ret} (hmem : ⟨.queue o, r⟩ ∈ cs) :
    ∃ before, before <+: checked cs ∧ MayReport before o := by
  obtain ⟨pre, post, rfl⟩ := List.append_of_mem hmem
  obtain ⟨-, ⟨-, hreport⟩, -⟩ := (Monitor.lawful_at _).mp h
  rw [after_eq] at hreport
  refine ⟨checked pre, ?_, hreport o rfl⟩
  rw [checked, checked, List.filterMap_append]
  exact List.prefix_append _ _

end

/-- **On-demand and scheduled checks agree.**  For a config whose manual hosts have distinct ids and whose timeouts
are absent or an object, and NetBox hosts with distinct device ids: the handler, given the reference that the cycle
reports for a host, makes the cycle's check of that host and reports the cycle's payload; given a reference to no
host, it makes no check and leaves the queue alone. -/
theorem onDemand_as_the_cycle (c : CycleInput)
    (hids : ∀ manual_hosts, manualHosts c.config = .ok manual_hosts → DistinctIds c.rt manual_hosts)
    (htimeouts : TimeoutsReadable c.config) (hdevices : (c.netbox_hosts.map (·.netbox_device_id)).Nodup) :
    (∀ hosts settings, c.Prepares hosts settings → ∀ entry ∈ hosts, ∀ cs p, c.HandlerRuns entry.host_ref cs p →
      c.AsTheCycle hosts settings entry cs p) ∧
    ∀ host_ref, c.Absent host_ref → ∀ cs p, c.HandlerRuns host_ref cs p →
      checked cs = [] ∧ ∀ o r, (⟨.queue o, r⟩ : AgentCall) ∉ cs := by
  constructor
  · rintro hosts settings hprep entry hentry cs p ⟨client, fuel, ctx, hctx, htrace, hanswers⟩
    obtain ⟨hlawful, hobeys⟩ :=
      (obeys_checkHost hprep hids htimeouts hdevices hentry hctx client fuel).trace hanswers htrace
    rw [after_eq] at hobeys
    have hone := checked_of_lawful hlawful
    -- the same function of the same settings, at most once, and the report is made of its result
    refine ⟨runCheck_eq _ _ _, ?_, fun hended => ?_, fun path body r hmem => ?_⟩
    · rcases hone with hnone | ⟨check, r, rfl, hchecked⟩
      · exact Or.inl hnone
      · exact Or.inr ⟨r, hchecked⟩
    · cases p with
      | ret a => exact hobeys
      | raise e => exact hobeys
      | _ => exact hended.elim
    · obtain ⟨before, hbefore, hsends⟩ := report_of_lawful hlawful hmem
      obtain ⟨result, payload, rfl, hpayload, hchecks⟩ := hsends path body rfl
      refine ⟨result, payload, ?_, hchecks, ?_⟩
      · -- the check before the report is the only one
        obtain ⟨rest, hrest⟩ := hbefore
        rcases hone with hnone | ⟨check, r', -, hchecked⟩
        · rw [hnone] at hrest
          cases hrest
        · rw [hchecked] at hrest ⊢
          obtain ⟨hhead, -⟩ := List.cons.inj hrest
          rw [hhead]
      · have hkeys := identity_keys_nodup hprep.hosts_ok (fun _ h => (hids _ h).printedApart) hdevices
        exact reports_of_build hprep hkeys hpayload
  · rintro host_ref habsent cs p ⟨client, fuel, ctx, hctx, htrace, hanswers⟩
    obtain ⟨hlawful, -⟩ := (obeys_checkHost_absent habsent hctx client fuel).trace hanswers htrace
    refine ⟨?_, fun o r hmem => ?_⟩
    · rcases checked_of_lawful hlawful with hnone | ⟨check, r, hfalse, -⟩
      · exact hnone
      · exact hfalse.elim
    · obtain ⟨before, -, hfalse⟩ := report_of_lawful hlawful hmem
      exact hfalse

/-- The dashboard takes the report on the manual host, which refuses the connection. -/
def refusedScene : Scene where
  credentials := registered
  submit_report := some ⟨200, .json (.obj [("summary", .obj [])])⟩
  record := some (.obj [("_attempts", .int 0)])
  cert_check := some {
    state := .connectionFailed, hostname := .str "db.example", port := 443, checked_at := "2026-01-01T00:00:00Z"
    error_message := some "Connection refused" }

/-- The state in which the handler finds the config and the hosts of the cycle. -/
def closedState : AgentState where
  shutdown := true
  auth_error := true
  first_sync := true
  configs := [closedPorts.config]
  netbox_hosts := closedPorts.netbox_hosts

theorem unblocked_closedState : closedState.Unblocked where
  events event := by cases event <;> rfl
  configured := List.cons_ne_nil _ _

theorem answers_closedPorts (o : AgentOp) : closedPorts.Answers o (refusedScene.still closedState o) := by
  refine ⟨⟨closedState, refusedScene.answers_still unblocked_closedState o⟩, ?_⟩
  cases o <;> first | rfl | trivial

/-- The action that asks for a check of the manual host. -/
def checkAction : ActionContext where
  action_id := .str "a1"
  action_type := .str "check_host"
  payload := .obj [("host_ref", .obj [("type", .str "manual"), ("host_id", .str "h1")])]
  queued_at := .str ""
  expires_at := .str ""

/-- Its calls. -/
def handledCalls : List AgentCall :=
  ((checkHost plainRuntime someClient 1 checkAction).made (refusedScene.still closedState)).map
    fun o => ⟨o, refusedScene.still closedState o⟩

theorem handlerRuns_handledCalls : ∃ p,
    closedPorts.HandlerRuns (.obj [("type", .str "manual"), ("host_id", .str "h1")]) handledCalls p := by
  refine ⟨_, someClient, 1, checkAction, rfl, Prog.trace_made _ _, fun call hcall => ?_⟩
  obtain ⟨o, -, rfl⟩ := List.mem_map.mp hcall
  exact answers_closedPorts o

/-- The call submits a report. -/
def isSubmission : AgentCall → Bool
  | ⟨.queue (.submit _ _), _⟩ => true
  | _ => false

/-- A manual and a NetBox host, and a device that is not listed; the check of the manual host is made and reported. -/
theorem onDemand_as_the_cycle_closedPorts :
    (∃ entry ∈ closedHosts, ∃ settings path body r result payload, ⟨.queue (.submit path body), r⟩ ∈ handledCalls ∧
      body.checks = .arr [.obj payload] ∧ closedPorts.Reports closedHosts settings entry result payload) ∧
    (∃ settings, ∀ entry ∈ closedHosts, ∀ cs p, closedPorts.HandlerRuns entry.host_ref cs p →
      closedPorts.AsTheCycle closedHosts settings entry cs p) ∧
    ∀ cs p, closedPorts.HandlerRuns (.obj [("type", .str "netbox"), ("netbox_device_id", .int 8)]) cs p →
      checked cs = [] := by
  have hids : ∀ manual_hosts, manualHosts closedPorts.config = .ok manual_hosts →
      DistinctIds closedPorts.rt manual_hosts := by
    intro manual_hosts h
    obtain rfl := Except.ok.inj h
    refine distinctIds_of_texts _ (fun h hh => ?_) (List.pairwise_singleton _ _)
    obtain rfl := List.mem_singleton.mp hh
    exact ⟨"h1", by decide, rfl⟩
  have hagree := onDemand_as_the_cycle closedPorts hids (fun v hv => by cases hv) (by decide)
  have hcycle := hagree.1 closedHosts _ {
    hosts_ok := rfl
    nonempty := List.cons_ne_nil _ _
    settings_ok := ⟨30, rfl, checkSettings_default plainRuntime 30 rfl rfl⟩
    pool := by decide }
  refine ⟨?_, ⟨_, hcycle⟩, fun cs p hruns => ?_⟩
  · have hany : handledCalls.any isSubmission = true := by decide +kernel
    obtain ⟨⟨o, r⟩, hcall, hsubmits⟩ := List.any_eq_true.mp hany
    obtain ⟨path, body, rfl⟩ : ∃ path body, o = .queue (.submit path body) := by
      unfold isSubmission at hsubmits
      split at hsubmits
      · rename_i path body r' heq
        cases heq
        exact ⟨path, body, rfl⟩
      · cases hsubmits
    obtain ⟨p, hruns⟩ := handlerRuns_handledCalls
    obtain ⟨result, payload, -, hchecks, hreports⟩ :=
      (hcycle _ List.mem_cons_self _ _ hruns).same_payload path body r hcall
    exact ⟨_, List.mem_cons_self, _, path, body, r, result, payload, hcall, hchecks, hreports⟩
  · have habsent : closedPorts.Absent (.obj [("type", .str "netbox"), ("netbox_device_id", .int 8)]) := by
      refine ⟨fun h => absurd (Json.str.inj (Except.ok.inj h)) (by decide), fun _ nh hnh netbox_id hid => ?_⟩
      obtain rfl := List.mem_singleton.mp hnh
      obtain rfl := Except.ok.inj hid
      exact Json.pyEq_int 7 8
    exact (hagree.2 _ habsent cs p hruns).1

end CycleInput

end CertWatch
