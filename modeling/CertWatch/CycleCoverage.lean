/-
# `CertWatch.CycleCoverage` — which hosts are in a cycle's report.

A check that raises leaves no result, and a host without a result is left out of the report with only a log line.
The checks catch `OSError` around their network calls and little else, so a host stays in the report exactly as
long as every call of its check is answered within what the clause around that call catches.
-/
import CertWatch.CycleRuns

namespace CertWatch

open CertWatch.Lib

/-! ## One check for every host -/

/-- The report has exactly one check for the host. -/
def HasOneCheck (body : ReportBody) (entry : HostEntry) : Prop :=
  ∃ built : List Dict, body.checks = .arr (built.map .obj) ∧
    built.countP (fun check => check.get? "host_ref" = some entry.host_ref) = 1

namespace CycleInput

variable {c : CycleInput} {checks : CycleChecks} {hosts : List HostEntry} {settings : CheckSettings}

/-- No run of the cycle submits a report that lacks a host or has one twice. -/
def Covers (c : CycleInput) (checks : CycleChecks) (hosts : List HostEntry) : Prop :=
  ∀ fuel p w, c.Reaches checks fuel p w → ∀ sub ∈ w.submissions, ∀ entry ∈ hosts, HasOneCheck sub.body entry

/-- Every call of the host's check is answered within what the code around the call catches. -/
def StaysTolerated (c : CycleInput) (checks : CycleChecks) (settings : CheckSettings) (k : Nat)
    (entry : HostEntry) : Prop :=
  ∀ o ∈ (runCheck c.rt settings entry).made (checks.scripts k).answer, Tolerated entry.source (checks.scripts k) o

/-- The hosts with their checks, as the report has them. -/
theorem built_host_refs {results : Results} (hhosts : toCheck c.rt c.config c.netbox_hosts = .ok hosts)
    (hresults : c.runChecks checks settings hosts = .ok results) :
    ∃ built, buildChecks c.rt results hosts = .ok built ∧
      built.map (fun check => check.get? "host_ref") =
        (hosts.filter fun entry => HasResult results entry).map fun entry => some entry.host_ref := by
  apply buildChecks_host_refs
  intro entry hentry r hr
  exact source_of_lookup hresults (toCheck_keyed hhosts) hentry hr

/-- Counting the checks of a host counts its reference among those of the hosts that have a result. -/
theorem countP_host_ref {built : List Dict} {entries : List HostEntry} (entry : HostEntry)
    (h : built.map (fun check => check.get? "host_ref") = entries.map fun entry => some entry.host_ref) :
    built.countP (fun check => check.get? "host_ref" = some entry.host_ref) =
      (entries.map (·.host_ref)).count entry.host_ref := by
  calc built.countP (fun check => check.get? "host_ref" = some entry.host_ref)
      = (built.map fun check => check.get? "host_ref").countP (· = some entry.host_ref) := by
        rw [List.countP_map]
        rfl
    _ = (entries.map fun entry => some entry.host_ref).countP (· = some entry.host_ref) := by rw [h]
    _ = (entries.map (·.host_ref)).count entry.host_ref := by
        rw [List.count, List.countP_map, List.countP_map]
        apply List.countP_congr
        intro e _
        simp

/-- A host has a result exactly when some host of its identity key completed. -/
theorem hasResult_iff {results : Results} (hresults : c.runChecks checks settings hosts = .ok results)
    {entry : HostEntry} : HasResult results entry ↔
      ∃ k other, hosts[k]? = some other ∧ other.identity_key = entry.identity_key ∧
        ∃ r, Completes c.rt settings (checks.scripts k) other r := by
  constructor
  · rintro ⟨r, hr⟩
    obtain ⟨k, -, other, hother, hkey, hcomplete⟩ := (mem_results hresults).mp (mem_of_lookup hr)
    exact ⟨k, other, hother, hkey.symm, r, hcomplete⟩
  · rintro ⟨k, other, hother, hkey, r, hcomplete⟩
    have hk : k ∈ checks.order hosts.length := by
      rw [(checks.order_perm hosts.length).mem_iff, List.mem_range]
      exact (List.getElem?_eq_some_iff.mp hother).1
    exact lookup_of_mem ((mem_results hresults).mpr ⟨k, hk, other, hother, hkey.symm, hcomplete⟩)

/-- **A cycle's reports cover the hosts exactly when every host's check stays within what is caught.**  Where ids
of different JSON types are printed alike, hosts share an identity key, and the check of one of them is enough. -/
theorem covers_iff (hhosts : toCheck c.rt c.config c.netbox_hosts = .ok hosts)
    (hnames : ∀ entry ∈ hosts, entry.source = .manual → ∃ name, entry.connect_target = .str name)
    (hids : (hosts.map (·.host_ref)).Nodup) (hrunning : ∀ k, (checks.scripts k).signaled = false) :
    c.Covers checks hosts ↔ ∀ settings, c.Prepares hosts settings → ∀ entry ∈ hosts,
      ∃ k other, hosts[k]? = some other ∧ other.identity_key = entry.identity_key ∧
        c.StaysTolerated checks settings k other := by
  have hstays : ∀ settings k other, hosts[k]? = some other →
      ((∃ r, Completes c.rt settings (checks.scripts k) other r) ↔ c.StaysTolerated checks settings k other) :=
    fun settings k other hother => completes_iff (hnames other (List.mem_of_getElem? hother)) (hrunning k)
  constructor
  · intro hcovers settings hprep entry hentry
    obtain ⟨results, hresults⟩ := @runChecks_ok c checks _ _ hprep
    obtain ⟨built, hbuild, hrefs⟩ := built_host_refs hhosts hresults
    obtain ⟨result, w, hreach, -, sub, hsubs, hchecks, -⟩ :=
      exists_run hprep hresults hbuild settling_accepted endsAtOnce_accepted
    obtain ⟨built', hbuilt', hone⟩ := hcovers _ _ _ hreach sub (hsubs ▸ List.mem_singleton_self sub) entry hentry
    obtain rfl : built = built' := by
      rw [hchecks] at hbuilt'
      exact List.map_injective_iff.mpr (fun _ _ h => Json.obj.inj h) (Json.arr.inj hbuilt')
    -- the one check comes from a host with the same reference, which is the host itself
    rw [countP_host_ref entry hrefs] at hone
    have hmem : entry.host_ref ∈ (hosts.filter fun e => HasResult results e).map (·.host_ref) :=
      List.count_pos_iff.mp (by omega)
    obtain ⟨entry', hentry', heq⟩ := List.mem_map.mp hmem
    obtain ⟨hentry', hresult⟩ := List.mem_filter.mp hentry'
    obtain rfl := List.inj_on_of_nodup_map hids hentry' hentry heq
    obtain ⟨k, other, hother, hkey, hcompletes⟩ := (hasResult_iff hresults).mp (of_decide_eq_true hresult)
    exact ⟨k, other, hother, hkey, (hstays settings k other hother).mp hcompletes⟩
  · intro hcondition fuel p w hreach sub hsub entry hentry
    rcases hreach.consistent with hnone | ⟨built, hbuilds, args, hargs, honly⟩
    · rw [hnone] at hsub
      cases hsub
    · cases hbuilds with
      | none hempty =>
        obtain rfl := Except.ok.inj (hempty.symm.trans hhosts)
        cases hentry
      | @some hosts' settings results built hprep hresults hbuild =>
        obtain rfl := Except.ok.inj (hprep.hosts_ok.symm.trans hhosts)
        obtain ⟨built', hbuild', hrefs⟩ := built_host_refs hhosts hresults
        obtain rfl := Except.ok.inj (hbuild.symm.trans hbuild')
        have hall : (hosts'.filter fun e => HasResult results e) = hosts' := by
          rw [List.filter_eq_self]
          intro e he
          obtain ⟨k, other, hother, hkey, htolerated⟩ := hcondition settings hprep e he
          exact decide_eq_true
            ((hasResult_iff hresults).mpr ⟨k, other, hother, hkey, (hstays settings k other hother).mpr htolerated⟩)
        refine ⟨built, ?_, ?_⟩
        · rw [honly sub hsub, ← hargs]
          rfl
        · rw [countP_host_ref entry hrefs, hall]
          exact List.count_eq_one_of_mem hids (List.mem_map_of_mem hentry)

/-! ## A host that is gone, and hosts that stay -/

/-- A runtime: what texts it makes is of no account below. -/
def plainRuntime : Runtime where
  lower := id
  upper := id
  repr _ := ""
  floatOfText _ := .error (.valueError "could not convert string to float")
  internal_ca_patterns := none
  rfc4514_string _ := ""

/-- One manual host, with a port that no C `long` holds: 2 to the 63. -/
def mistypedPort : CycleInput where
  rt := plainRuntime
  client := someClient
  config := [("manual_hosts", .arr [.obj [("host_id", .str "h1"), ("hostname", .str "db.example"),
    ("port", .int 9223372036854775808)]])]
  report_type := "scheduled"
  netbox_hosts := []

/-- Its entry. -/
def mistypedHost : HostEntry where
  identity_key := "manual:h1"
  host_ref := .obj [("type", .str "manual"), ("host_id", .str "h1")]
  source := .manual
  connect_target := .str "db.example"
  port := 9223372036854775808

/-- A network as `socket.create_connection` sees it: a port that is no C `long` overflows before an address is looked
up, and every connection is refused. -/
def refusing : CheckScript where
  connect _ _ port _ :=
    if -9223372036854775808 ≤ port ∧ port < 9223372036854775808 then
      .error (.os ⟨.connectionRefused, "Connection refused"⟩)
    else .error .overflowError
  wrapSocket _ _ := .error (.os ⟨.other "OSError", "not connected"⟩)
  getpeercert _ := .ok none
  loadDer _ := .error (.valueError "no certificate")

/-- **The host is gone**: its report is submitted, and there is no check in it. -/
theorem mistypedPort_disappears :
    toCheck mistypedPort.rt mistypedPort.config mistypedPort.netbox_hosts = .ok [mistypedHost] ∧
    refusing.signaled = false ∧
    ¬ mistypedPort.Covers ⟨fun _ => refusing, List.range, fun _ => .refl _⟩ [mistypedHost] := by
  refine ⟨rfl, rfl, ?_⟩
  intro hcovers
  have hprep : mistypedPort.Prepares [mistypedHost] _ := {
    hosts_ok := rfl
    nonempty := List.cons_ne_nil _ _
    settings_ok := ⟨30, rfl, checkSettings_default plainRuntime 30 rfl rfl⟩
    pool := by decide }
  obtain ⟨result, w, hreach, -, sub, hsubs, hchecks, -⟩ :=
    @exists_run _ ⟨fun _ => refusing, List.range, fun _ => .refl _⟩ _ _ [] [] _ _ hprep rfl rfl
      settling_accepted endsAtOnce_accepted
  obtain ⟨built, hbuilt, hone⟩ := hcovers _ _ _ hreach sub (hsubs ▸ List.mem_singleton_self sub) mistypedHost
    List.mem_cons_self
  obtain rfl : [] = built := by
    rw [hchecks] at hbuilt
    exact (List.map_eq_nil_iff.mp (Json.arr.inj hbuilt).symm).symm
  cases hone

/-- A manual and a NetBox host behind closed ports. -/
def closedPorts : CycleInput where
  rt := plainRuntime
  client := someClient
  config := [("manual_hosts", .arr [.obj [("host_id", .str "h1"), ("hostname", .str "db.example")]])]
  report_type := "scheduled"
  netbox_hosts := [⟨7, "sw.example", 443, none, [], some "10.0.0.7"⟩]

/-- Their entries. -/
def closedHosts : List HostEntry :=
  [{ identity_key := "manual:h1", host_ref := .obj [("type", .str "manual"), ("host_id", .str "h1")]
     source := .manual, connect_target := .str "db.example", port := 443 },
   netboxEntry ⟨7, "sw.example", 443, none, [], some "10.0.0.7"⟩]

theorem covers_iff_closedPorts : closedPorts.Covers ⟨fun _ => refusing, List.range, fun _ => .refl _⟩ closedHosts := by
  have hrefused : OnlyOSError (.error (.os ⟨.connectionRefused, "Connection refused"⟩) : Except PyExc Unit) :=
    onlyOSError_error.mpr rfl
  refine (@covers_iff closedPorts _ closedHosts rfl ?_ (by decide) fun _ => rfl).mpr ?_
  · intro entry hentry hsource
    rcases List.mem_pair.mp hentry with rfl | rfl
    · exact ⟨_, rfl⟩
    · cases hsource
  · intro settings _ entry hentry
    rcases List.mem_pair.mp hentry with rfl | rfl
    · refine ⟨0, _, rfl, rfl, ?_⟩
      show ∀ o ∈ [CheckOp.utcNow .checkedAt, .connect .first (.str "db.example") 443 settings.tcp_connect_seconds], _
      simp only [List.forall_mem_cons, List.not_mem_nil, false_implies, implies_true, and_true]
      exact ⟨trivial, hrefused⟩
    · refine ⟨1, _, rfl, rfl, ?_⟩
      show ∀ o ∈ [CheckOp.utcNow .checkedAt, .connect .first (.str "10.0.0.7") 443 settings.tcp_connect_seconds], _
      simp only [List.forall_mem_cons, List.not_mem_nil, false_implies, implies_true, and_true]
      exact ⟨trivial, hrefused⟩

end CycleInput

end CertWatch
