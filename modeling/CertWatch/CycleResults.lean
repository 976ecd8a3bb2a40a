/-
# `CertWatch.CycleResults` — a cycle's checks do not depend on its schedule.

Results are gathered by identity key in the order in which the futures complete, and read again in the order of
the hosts.  When no two hosts share a key, each host finds its own result there or none, so the checks are those
of the hosts whose task was picked up in time and returned, in the order of the hosts, whatever the schedule was.
-/
import CertWatch.CycleRuns
import Std.Data.String.ToInt

namespace CertWatch

open CertWatch.Lib

/-! ## Identity keys -/

/-- No two of the manual hosts have ids that are printed alike. -/
def PrintedApart (rt : Runtime) (manual_hosts : List Json) : Prop :=
  manual_hosts.Pairwise fun a b => ∀ x y, a.get "host_id" = .ok x → b.get "host_id" = .ok y →
    rt.format x ≠ rt.format y

section

variable {rt : Runtime}

/-- Texts are printed as they are. -/
theorem printedApart_of_texts {manual_hosts : List Json}
    (htexts : ∀ h ∈ manual_hosts, ∃ id, h.get "host_id" = .ok (.str id))
    (hdistinct : manual_hosts.Pairwise fun a b => a.get "host_id" ≠ b.get "host_id") :
    PrintedApart rt manual_hosts := by
  refine hdistinct.imp_of_mem fun {a b} ha hb hne x y hx hy hsame => hne ?_
  obtain ⟨s, hs⟩ := htexts a ha
  obtain ⟨t, ht⟩ := htexts b hb
  obtain rfl := Except.ok.inj (hs.symm.trans hx)
  obtain rfl := Except.ok.inj (ht.symm.trans hy)
  rw [hs, ht, show s = t from hsame]

/-- The entry of a manual host carries the host's own id. -/
theorem manualEntry_spec {h : Json} {entry : HostEntry} (hentry : manualEntry rt h = .ok entry) :
    ∃ host_id, h.get "host_id" = .ok host_id ∧ entry.source = .manual ∧
      entry.host_ref = .obj [("type", .str "manual"), ("host_id", host_id)] ∧
      entry.identity_key = "manual:" ++ rt.format host_id := by
  obtain ⟨host_id, hid, hentry⟩ := except_bind_ok hentry
  obtain ⟨hostname, -, hentry⟩ := except_bind_ok hentry
  obtain ⟨port, -, hentry⟩ := except_bind_ok hentry
  obtain ⟨port, -, hentry⟩ := except_bind_ok hentry
  obtain rfl := Except.ok.inj hentry
  exact ⟨host_id, hid, rfl, rfl, rfl⟩

end

namespace CycleInput

section

variable {c : CycleInput} {hosts : List HostEntry} {settings : CheckSettings}

theorem manual_keys_nodup {rt : Runtime} {manual_hosts : List Json} {entries : List HostEntry}
    (hentries : manual_hosts.mapM (manualEntry rt) = .ok entries) (hids : PrintedApart rt manual_hosts) :
    (entries.map (·.identity_key)).Nodup := by
  induction manual_hosts generalizing entries with
  | nil =>
    obtain rfl : [] = entries := Except.ok.inj hentries
    exact List.nodup_nil
  | cons h hs ih =>
    rw [List.mapM_cons] at hentries
    obtain ⟨first, hfirst, hentries⟩ := except_bind_ok hentries
    obtain ⟨rest, hrest, hentries⟩ := except_bind_ok hentries
    obtain rfl : first :: rest = entries := Except.ok.inj hentries
    obtain ⟨hbefore, hafter⟩ := List.pairwise_cons.mp hids
    rw [List.map_cons, List.nodup_cons]
    refine ⟨fun hmem => ?_, ih hrest hafter⟩
    obtain ⟨other, hother, hkey⟩ := List.mem_map.mp hmem
    obtain ⟨h', hh', hentry'⟩ := mem_of_mapM_ok hrest hother
    obtain ⟨id, hid, -, -, hfirst_key⟩ := manualEntry_spec hfirst
    obtain ⟨id', hid', -, -, hother_key⟩ := manualEntry_spec hentry'
    have hformat : "manual:" ++ rt.format id = "manual:" ++ rt.format id' := by
      rw [← hfirst_key, ← hother_key, hkey]
    exact hbefore h' hh' id id' hid hid' ((String.append_right_inj _).mp hformat)

/-- Hosts that can be told apart have different identity keys. -/
theorem identity_keys_nodup (hhosts : toCheck c.rt c.config c.netbox_hosts = .ok hosts)
    (hids : ∀ manual_hosts, manualHosts c.config = .ok manual_hosts → PrintedApart c.rt manual_hosts)
    (hdevices : (c.netbox_hosts.map (·.netbox_device_id)).Nodup) : (hosts.map (·.identity_key)).Nodup := by
  obtain ⟨manual_hosts, hmanual, hhosts⟩ := except_bind_ok hhosts
  obtain ⟨entries, hentries, hhosts⟩ := except_bind_ok hhosts
  obtain rfl : entries ++ c.netbox_hosts.map netboxEntry = hosts := Except.ok.inj hhosts
  rw [List.map_append, List.nodup_append]
  refine ⟨manual_keys_nodup hentries (hids manual_hosts hmanual), ?_, ?_⟩
  · rw [List.map_map]
    refine List.pairwise_map.mpr ((List.pairwise_map.mp hdevices).imp fun {a b} hne heq => hne ?_)
    exact Int.repr_injective ((String.append_right_inj "netbox:").mp heq)
  · intro a ha b hb heq
    obtain ⟨entry, hentry, rfl⟩ := List.mem_map.mp ha
    obtain ⟨other, hother, rfl⟩ := List.mem_map.mp hb
    obtain ⟨h, -, hmade⟩ := mem_of_mapM_ok hentries hentry
    obtain ⟨id, -, -, -, hkey⟩ := manualEntry_spec hmade
    obtain ⟨nh, -, rfl⟩ := List.mem_map.mp hother
    rw [hkey] at heq
    exact absurd (@keyPrefix_injective .manual .netbox _ _ heq) (by decide)

/-- The reference that the cycle reports for a host determines its identity key. -/
theorem identity_key_of_host_ref (hhosts : toCheck c.rt c.config c.netbox_hosts = .ok hosts) {a b : HostEntry}
    (ha : a ∈ hosts) (hb : b ∈ hosts) (href : a.host_ref = b.host_ref) : a.identity_key = b.identity_key := by
  obtain ⟨manual_hosts, -, hhosts⟩ := except_bind_ok hhosts
  obtain ⟨entries, hentries, hhosts⟩ := except_bind_ok hhosts
  obtain rfl : entries ++ c.netbox_hosts.map netboxEntry = hosts := Except.ok.inj hhosts
  have hcases : ∀ {entry : HostEntry}, entry ∈ entries ++ c.netbox_hosts.map netboxEntry →
      (∃ id, entry.host_ref = .obj [("type", .str "manual"), ("host_id", id)] ∧
        entry.identity_key = "manual:" ++ c.rt.format id) ∨ ∃ nh, entry = netboxEntry nh := by
    intro entry hentry
    rcases List.mem_append.mp hentry with hentry | hentry
    · obtain ⟨h, -, hmade⟩ := mem_of_mapM_ok hentries hentry
      obtain ⟨id, -, -, href, hkey⟩ := manualEntry_spec hmade
      exact Or.inl ⟨id, href, hkey⟩
    · obtain ⟨nh, -, rfl⟩ := List.mem_map.mp hentry
      exact Or.inr ⟨nh, rfl⟩
  rcases hcases ha with ⟨x, hx, hkey⟩ | ⟨nh, rfl⟩
  · rcases hcases hb with ⟨y, hy, hkey'⟩ | ⟨nh, rfl⟩
    · rw [hx, hy] at href
      obtain rfl : x = y := by simpa using href
      rw [hkey, hkey']
    · rw [hx] at href
      simp [netboxEntry] at href
  · rcases hcases hb with ⟨y, hy, hkey'⟩ | ⟨nh', rfl⟩
    · rw [hy] at href
      simp [netboxEntry] at href
    · have hid : nh.netbox_device_id = nh'.netbox_device_id := by simpa [netboxEntry] using href
      show "netbox:" ++ toString nh.netbox_device_id = "netbox:" ++ toString nh'.netbox_device_id
      rw [hid]

/-! ## Own results -/

theorem host_ref_of_build {rt : Runtime} {entry : HostEntry} {r : CheckResult} {check : Dict}
    (h : buildPayloadForEntry rt entry r = .ok check) : check.get? "host_ref" = some entry.host_ref := by
  unfold buildPayloadForEntry at h
  split at h
  · obtain rfl := Except.ok.inj h
    rfl
  · obtain rfl := Except.ok.inj h
    rfl
  · cases h

/-- An identity key has one place. -/
theorem place_of_key {k k' : Nat} {entry other : HostEntry} (hkeys : (hosts.map (·.identity_key)).Nodup)
    (hk : hosts[k]? = some entry) (hk' : hosts[k']? = some other) (hkey : entry.identity_key = other.identity_key) :
    k = k' := by
  have hlt : k < hosts.length := (List.getElem?_eq_some_iff.mp hk).1
  apply (List.getElem?_inj (by rw [List.length_map]; exact hlt) hkeys).mp
  rw [List.getElem?_map, List.getElem?_map, hk, hk']
  exact congrArg some hkey

/-- Under a host's own key stands the result of its own check, if there is one. -/
theorem lookup_iff {checks : CycleChecks} {results : Results} {k : Nat} {entry : HostEntry} {result : CheckResult}
    (hkeys : (hosts.map (·.identity_key)).Nodup) (hresults : c.runChecks checks settings hosts = .ok results)
    (hk : hosts[k]? = some entry) :
    results.lookup entry.identity_key = some result ↔ Completes c.rt settings (checks.scripts k) entry result := by
  -- what is found under the key was made in the host's own place
  have hown : ∀ {r}, results.lookup entry.identity_key = some r →
      Completes c.rt settings (checks.scripts k) entry r := by
    intro r hlookup
    obtain ⟨k', -, other, hk', hkey, hcomplete⟩ := (mem_results hresults).mp (mem_of_lookup hlookup)
    obtain rfl := place_of_key hkeys hk hk' hkey
    obtain rfl := Option.some.inj (hk.symm.trans hk')
    exact hcomplete
  constructor
  · exact hown
  · intro hcomplete
    have horder : k ∈ checks.order hosts.length :=
      (checks.order_perm hosts.length).mem_iff.mpr (List.mem_range.mpr (List.getElem?_eq_some_iff.mp hk).1)
    obtain ⟨r, hlookup⟩ := lookup_of_mem ((mem_results hresults).mpr ⟨k, horder, entry, hk, rfl, hcomplete⟩)
    rw [hlookup, Except.ok.inj (Option.some.inj ((hown hlookup).2.symm.trans hcomplete.2))]

/-! ## Own checks -/

/-- What the host's own task puts into the report: nothing when it is picked up after the shutdown or its check
raises, and else the payload of the check's result, by the builder of the host's source. -/
def ownCheck (rt : Runtime) (settings : CheckSettings) (entry : HostEntry) (script : CheckScript) : Option Dict :=
  if script.signaled then
    none
  else match entry.source with
    | .manual => match (certCheck rt entry.connect_target entry.port settings.tcp_connect_seconds
        settings.tls_handshake_seconds).outcome script.answer with
      | some (.ok r) => some (buildCheckPayload entry.host_ref r)
      | _ => none
    | .netbox => match (certCheckWithDiscovery rt entry.connect_target entry.port settings.tcp_connect_seconds
        settings.tls_handshake_seconds settings.expiring_soon_threshold_days).outcome script.answer with
      | some (.ok r) => some (buildCheckPayloadFromDiscovery rt entry.host_ref r)
      | _ => none

/-- The checks of the hosts from this place on, in their order. -/
def ownChecksFrom (rt : Runtime) (settings : CheckSettings) (scripts : Nat → CheckScript) :
    Nat → List HostEntry → List Dict
  | _, [] => []
  | k, entry :: entries =>
    (ownCheck rt settings entry (scripts k)).toList ++ ownChecksFrom rt settings scripts (k + 1) entries

/-- The checks of all hosts. -/
def ownChecks (rt : Runtime) (settings : CheckSettings) (scripts : Nat → CheckScript) (hosts : List HostEntry) :
    List Dict := ownChecksFrom rt settings scripts 0 hosts

section

variable {rt : Runtime} {settings : CheckSettings} {entry : HostEntry} {script : CheckScript}

/-- The host's own check is in the report exactly as its result builds it. -/
theorem ownCheck_of_completes {result : CheckResult} (h : Completes rt settings script entry result) :
    ∃ check, buildPayloadForEntry rt entry result = .ok check ∧ ownCheck rt settings entry script = some check := by
  obtain ⟨hrunning, hrun⟩ := h
  unfold runCheck at hrun
  unfold ownCheck buildPayloadForEntry
  rw [hrunning, if_neg Bool.false_ne_true]
  cases hsource : entry.source with
  | manual =>
    rw [hsource] at hrun
    obtain ⟨r, hr, heq⟩ := Prog.outcome_bind_ok.mp hrun
    obtain rfl := Except.ok.inj (Option.some.inj heq)
    exact ⟨_, rfl, by simp only [hr]⟩
  | netbox =>
    rw [hsource] at hrun
    obtain ⟨r, hr, heq⟩ := Prog.outcome_bind_ok.mp hrun
    obtain rfl := Except.ok.inj (Option.some.inj heq)
    exact ⟨_, rfl, by simp only [hr]⟩

theorem ownCheck_of_not_completes (h : ∀ result, ¬ Completes rt settings script entry result) :
    ownCheck rt settings entry script = none := by
  unfold Completes runCheck at h
  unfold ownCheck
  cases hsignaled : script.signaled with
  | true => rfl
  | false =>
    rw [if_neg Bool.false_ne_true]
    cases hsource : entry.source with
    | manual =>
      simp only [hsignaled, hsource, true_and] at h ⊢
      split
      · rename_i r hr
        exact absurd (Prog.outcome_bind_ok.mpr ⟨r, hr, rfl⟩) (h (.manual r))
      · rfl
    | netbox =>
      simp only [hsignaled, hsource, true_and] at h ⊢
      split
      · rename_i r hr
        exact absurd (Prog.outcome_bind_ok.mpr ⟨r, hr, rfl⟩) (h (.netbox r))
      · rfl

/-- Every check carries the reference of its own host. -/
theorem host_ref_of_ownCheck {check : Dict} (h : ownCheck rt settings entry script = some check) :
    check.get? "host_ref" = some entry.host_ref := by
  unfold ownCheck at h
  split at h
  · cases h
  · split at h
    · split at h
      · obtain rfl := Option.some.inj h
        rfl
      · cases h
    · split at h
      · obtain rfl := Option.some.inj h
        rfl
      · cases h

/-- The references of the checks are those of the hosts, some left out. -/
theorem ownChecksFrom_host_refs (scripts : Nat → CheckScript) (k : Nat) (hosts : List HostEntry) :
    ((ownChecksFrom rt settings scripts k hosts).map fun check => check.get? "host_ref").Sublist
      (hosts.map fun entry => some entry.host_ref) := by
  induction hosts generalizing k with
  | nil => exact .slnil
  | cons entry entries ih =>
    rw [ownChecksFrom, List.map_append, List.map_cons]
    cases hcheck : ownCheck rt settings entry (scripts k) with
    | none => exact (ih (k + 1)).cons _
    | some check =>
      show (check.get? "host_ref" :: _).Sublist _
      rw [host_ref_of_ownCheck hcheck]
      exact (ih (k + 1)).cons_cons _

end

section

variable {checks : CycleChecks} {results : Results}

/-- Reading the results in the order of the hosts yields every host's own check. -/
theorem buildChecks_eq_from {k : Nat} {entries : List HostEntry}
    (hlookup : ∀ i entry, entries[i]? = some entry → ∀ result,
      results.lookup entry.identity_key = some result ↔
        Completes c.rt settings (checks.scripts (k + i)) entry result) :
    buildChecks c.rt results entries = .ok (ownChecksFrom c.rt settings checks.scripts k entries) := by
  induction entries generalizing k with
  | nil => rfl
  | cons entry entries ih =>
    have hfirst := hlookup 0 entry rfl
    have hrest := @ih (k + 1) fun i e he result => by
      have h := hlookup (i + 1) e he result
      rwa [show k + (i + 1) = k + 1 + i by omega] at h
    rw [buildChecks, ownChecksFrom]
    cases hresult : results.lookup entry.identity_key with
    | none =>
      rw [ownCheck_of_not_completes fun result h => by
        rw [(hfirst result).mpr h] at hresult
        cases hresult]
      exact hrest
    | some result =>
      obtain ⟨check, hbuild, hown⟩ := ownCheck_of_completes ((hfirst result).mp hresult)
      rw [Nat.add_zero] at hown
      simp only [hbuild, hrest]
      rw [hown]
      rfl

/-- The references of the hosts differ, as their keys do. -/
theorem host_refs_nodup (hhosts : toCheck c.rt c.config c.netbox_hosts = .ok hosts)
    (hkeys : (hosts.map (·.identity_key)).Nodup) : (hosts.map (·.host_ref)).Nodup :=
  List.pairwise_map.mpr ((List.pairwise_map.mp hkeys).imp_of_mem fun ha hb hne href =>
    hne (identity_key_of_host_ref hhosts ha hb href))

/-- **The results make every host's own check**, whatever the order of completion. -/
theorem Builds.eq_ownChecks {built : List Dict} (h : c.Builds checks built)
    (hkeys : ∀ hosts, toCheck c.rt c.config c.netbox_hosts = .ok hosts → (hosts.map (·.identity_key)).Nodup) :
    ∃ hosts settings, toCheck c.rt c.config c.netbox_hosts = .ok hosts ∧
      (hosts ≠ [] → c.Prepares hosts settings) ∧ built = ownChecks c.rt settings checks.scripts hosts := by
  cases h with
  | none hempty =>
    exact ⟨[], ⟨.finite 0, .finite 0, 0, 0⟩, hempty, fun hne => absurd rfl hne, rfl⟩
  | @some hosts settings results built hprep hresults hbuild =>
    refine ⟨hosts, settings, hprep.hosts_ok, fun _ => hprep, ?_⟩
    have hall := @buildChecks_eq_from c settings checks results 0 hosts fun i entry hentry result => by
      rw [Nat.zero_add]
      exact lookup_iff (hkeys hosts hprep.hosts_ok) hresults hentry
    exact Except.ok.inj (hbuild.symm.trans hall)

/-- **Schedule-independent cycle results**: every report that a cycle submits has the own checks of its hosts, in
the order of the hosts; a cycle that returns has submitted one. -/
theorem submitted_own_checks (c : CycleInput) (checks : CycleChecks) {manual_hosts : List Json}
    (hmanual : manualHosts c.config = .ok manual_hosts)
    (htexts : ∀ h ∈ manual_hosts, ∃ id, h.get "host_id" = .ok (.str id))
    (hdistinct : manual_hosts.Pairwise fun a b => a.get "host_id" ≠ b.get "host_id")
    (hdevices : (c.netbox_hosts.map (·.netbox_device_id)).Nodup) {fuel : Nat} {p : Cycle CycleResult} {w : World}
    (hreach : c.Reaches checks fuel p w) :
    (∀ sub ∈ w.submissions, ∃ entries hosts settings, manual_hosts.mapM (manualEntry c.rt) = .ok entries ∧
      hosts = entries ++ c.netbox_hosts.map netboxEntry ∧ (hosts ≠ [] → c.Prepares hosts settings) ∧
      sub.body.checks = .arr ((ownChecks c.rt settings checks.scripts hosts).map .obj) ∧
      (hosts.map (·.host_ref)).Nodup ∧
      ((ownChecks c.rt settings checks.scripts hosts).map fun check => check.get? "host_ref").Sublist
        (hosts.map fun entry => some entry.host_ref)) ∧
    ∀ result, p = .ret result → w.submissions ≠ [] := by
  constructor
  · intro sub hsub
    have hkeys : ∀ hosts, toCheck c.rt c.config c.netbox_hosts = .ok hosts →
        (hosts.map (·.identity_key)).Nodup := by
      intro hosts hhosts
      refine identity_keys_nodup hhosts (fun manual_hosts' h => ?_) hdevices
      obtain rfl := Except.ok.inj (hmanual.symm.trans h)
      exact printedApart_of_texts htexts hdistinct
    rcases hreach.consistent with hnone | ⟨built, hbuilds, args, hargs, honly⟩
    · rw [hnone] at hsub
      cases hsub
    · obtain ⟨hosts, settings, hhosts, hprep, rfl⟩ := hbuilds.eq_ownChecks hkeys
      have hsplit := hhosts
      obtain ⟨manual_hosts', hmanual', hsplit⟩ := except_bind_ok hsplit
      obtain rfl := Except.ok.inj (hmanual.symm.trans hmanual')
      obtain ⟨entries, hentries, hsplit⟩ := except_bind_ok hsplit
      refine ⟨entries, hosts, settings, hentries, (Except.ok.inj hsplit).symm, hprep, ?_,
        host_refs_nodup hhosts (hkeys hosts hhosts), ownChecksFrom_host_refs checks.scripts 0 hosts⟩
      rw [honly sub hsub, ← hargs]
      rfl
  · rintro result rfl
    obtain ⟨built, -, -, hsent⟩ := hreach.sent
    exact hsent

end

end

/-- A manual host whose id is the text of a device's, and the device. -/
def sameText : CycleInput where
  rt := { lower := id, upper := id, repr := fun _ => "", floatOfText := fun _ => .error .typeError,
          internal_ca_patterns := none, rfc4514_string := fun _ => "" }
  client := someClient
  config := [("manual_hosts", .arr [.obj [("host_id", .str "7"), ("hostname", .str "db.example")]])]
  report_type := "scheduled"
  netbox_hosts := [⟨7, "sw.example", 443, none, [], some "10.0.0.7"⟩]

/-- Every port is closed, and the last host's future completes first. -/
def backwards : CycleChecks where
  scripts _ := {
    connect := fun _ _ _ _ => .error (.os ⟨.connectionRefused, "Connection refused"⟩)
    wrapSocket := fun _ _ => .error (.os ⟨.other "OSError", "not connected"⟩)
    getpeercert := fun _ => .ok none
    loadDer := fun _ => .error (.valueError "no certificate") }
  order n := (List.range n).reverse
  order_perm _ := List.reverse_perm _

theorem submitted_own_checks_sameText :
    ∃ result w, sameText.Reaches backwards 1 (.ret result) w ∧ w.submissions ≠ [] ∧
      ∀ sub ∈ w.submissions, ∃ hosts settings,
        sub.body.checks = .arr ((ownChecks sameText.rt settings backwards.scripts hosts).map .obj) ∧
          hosts.length = 2 := by
  have hprep : ∃ hosts settings, sameText.Prepares hosts settings := ⟨_, _, {
    hosts_ok := rfl
    nonempty := List.cons_ne_nil _ _
    settings_ok := ⟨30, rfl, checkSettings_default sameText.rt 30 rfl rfl⟩
    pool := by decide }⟩
  obtain ⟨hosts, settings, hprep⟩ := hprep
  have htexts : ∀ h ∈ [Json.obj [("host_id", .str "7"), ("hostname", .str "db.example")]],
      ∃ id, h.get "host_id" = .ok (.str id) := by
    intro h hh
    obtain rfl := List.mem_singleton.mp hh
    exact ⟨"7", rfl⟩
  obtain ⟨results, hresults⟩ := @runChecks_ok sameText backwards _ _ hprep
  obtain ⟨built, hbuild, -⟩ := @buildChecks_host_refs sameText.rt results hosts fun entry hentry r hr =>
    source_of_lookup hresults (toCheck_keyed hprep.hosts_ok) hentry hr
  obtain ⟨result, w, hreach, -⟩ := exists_run hprep hresults hbuild settling_accepted endsAtOnce_accepted
  obtain ⟨hown, hsent⟩ := submitted_own_checks sameText backwards rfl htexts (List.pairwise_singleton _ _)
    (by decide) hreach
  refine ⟨result, w, hreach, hsent result rfl, fun sub hsub => ?_⟩
  obtain ⟨entries, hosts', settings', hentries, rfl, -, hchecks, -⟩ := hown sub hsub
  obtain rfl := Except.ok.inj hentries
  exact ⟨_, settings', hchecks, rfl⟩

end CycleInput

end CertWatch
