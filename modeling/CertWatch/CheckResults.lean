/-
# `CertWatch.CheckResults` — from the tasks of a cycle to the checks of its report.

A result is matched back to its host by identity key, so a host is in the report when some task with its key
completed.  Results and hosts of one key come from the same source, so building the payloads never raises.
-/
import CertWatch.CheckEscapes

namespace CertWatch

open CertWatch.Lib

/-! ## The hosts -/

/-- The prefix of its identity key names a host's source. -/
def HostSource.keyPrefix : HostSource → String
  | .manual => "manual:"
  | .netbox => "netbox:"

/-- An identity key as `_run_one_cycle` makes them. -/
def HostEntry.Keyed (entry : HostEntry) : Prop := ∃ id, entry.identity_key = entry.source.keyPrefix ++ id

theorem keyPrefix_injective {a b : HostSource} {x y : String} (h : a.keyPrefix ++ x = b.keyPrefix ++ y) : a = b := by
  have hchars : a.keyPrefix.toList ++ x.toList = b.keyPrefix.toList ++ y.toList := by
    rw [← String.toList_append, h, String.toList_append]
  cases a with
  | manual =>
    cases b with
    | manual => rfl
    | netbox => exact absurd (List.cons.inj hchars).1 (by decide)
  | netbox =>
    cases b with
    | manual => exact absurd (List.cons.inj hchars).1 (by decide)
    | netbox => rfl

theorem mem_of_mapM_ok {α β : Type} {f : α → Except PyExc β} {l : List α} {l' : List β} (h : l.mapM f = .ok l')
    {b : β} (hb : b ∈ l') : ∃ a ∈ l, f a = .ok b := by
  induction l generalizing l' with
  | nil =>
    obtain rfl : [] = l' := Except.ok.inj h
    cases hb
  | cons a l ih =>
    rw [List.mapM_cons] at h
    obtain ⟨first, hfirst, h⟩ := except_bind_ok h
    obtain ⟨rest, hrest, h⟩ := except_bind_ok h
    obtain rfl : first :: rest = l' := Except.ok.inj h
    rcases List.mem_cons.mp hb with rfl | hb
    · exact ⟨a, List.mem_cons_self, hfirst⟩
    · obtain ⟨a', ha', heq⟩ := ih hrest hb
      exact ⟨a', List.mem_cons_of_mem a ha', heq⟩

theorem keyed_manualEntry {rt : Runtime} {h : Json} {entry : HostEntry} (hentry : manualEntry rt h = .ok entry) :
    entry.Keyed := by
  obtain ⟨host_id, -, hentry⟩ := except_bind_ok hentry
  obtain ⟨hostname, -, hentry⟩ := except_bind_ok hentry
  obtain ⟨port, -, hentry⟩ := except_bind_ok hentry
  obtain ⟨port, -, hentry⟩ := except_bind_ok hentry
  obtain rfl := Except.ok.inj hentry
  exact ⟨_, rfl⟩

/-- Every identity key is made from its host's source. -/
theorem toCheck_keyed {rt : Runtime} {config : Dict} {netbox_hosts : List DiscoveredHost} {hosts : List HostEntry}
    (h : toCheck rt config netbox_hosts = .ok hosts) : ∀ entry ∈ hosts, entry.Keyed := by
  obtain ⟨manual_hosts, -, h⟩ := except_bind_ok h
  obtain ⟨manual, hmanual, h⟩ := except_bind_ok h
  obtain rfl := Except.ok.inj h
  intro entry hentry
  rcases List.mem_append.mp hentry with hentry | hentry
  · obtain ⟨json, -, hjson⟩ := mem_of_mapM_ok hmanual hentry
    exact keyed_manualEntry hjson
  · obtain ⟨nh, -, rfl⟩ := List.mem_map.mp hentry
    exact ⟨_, rfl⟩

/-- Hosts that share an identity key come from one source. -/
theorem HostEntry.Keyed.source_eq {a b : HostEntry} (ha : a.Keyed) (hb : b.Keyed)
    (h : a.identity_key = b.identity_key) : a.source = b.source := by
  obtain ⟨x, hx⟩ := ha
  obtain ⟨y, hy⟩ := hb
  rw [hx, hy] at h
  exact keyPrefix_injective h

/-! ## One task -/

/-- The check function that a result comes from. -/
def CheckResult.source : CheckResult → HostSource
  | .manual _ => .manual
  | .netbox _ => .netbox

section

variable {rt : Runtime} {settings : CheckSettings} {entry : HostEntry} {script : CheckScript}

/-- The check of the host returns this result. -/
def Completes (rt : Runtime) (settings : CheckSettings) (script : CheckScript) (entry : HostEntry)
    (r : CheckResult) : Prop :=
  script.signaled = false ∧ (runCheck rt settings entry).outcome script.answer = some (.ok r)

/-- A task yields its host's key with the result of its check, unless it is skipped or dropped. -/
theorem taskOutcome_eq_some {key : String} {r : CheckResult} :
    taskOutcome rt settings entry script = some (key, r) ↔
      key = entry.identity_key ∧ Completes rt settings script entry r := by
  have htask : (task rt settings entry).outcome script.answer =
      (if script.signaled then Prog.ret none else (runCheck rt settings entry).attempt.bind _ :
        Check (Option (String × CheckResult))).outcome script.answer := rfl
  unfold taskOutcome Completes
  rw [htask]
  cases script.signaled with
  | true => simp
  | false =>
    rw [if_neg Bool.false_ne_true, Prog.outcome_bind, Prog.outcome_attempt]
    cases (runCheck rt settings entry).outcome script.answer with
    | none => simp [Prog.followedBy, Prog.outcome]
    | some x =>
      cases x with
      | error e => simp [Prog.followedBy]
      | ok result => simp [Prog.followedBy, eq_comm]

theorem outcome_map {α β : Type} {f : α → β} {p : Check α} {b : β}
    (h : (f <$> p).outcome script.answer = some (.ok b)) : ∃ a, b = f a := by
  rw [Prog.map_eq, Prog.outcome_bind] at h
  rcases hp : p.outcome script.answer with _ | _ | a
  · rw [hp] at h
    cases h
  · rw [hp] at h
    cases h
  · rw [hp] at h
    exact ⟨a, (Except.ok.inj (Option.some.inj h)).symm⟩

/-- A manual host is checked by the one function, a NetBox host by the other. -/
theorem Completes.source {r : CheckResult} (h : Completes rt settings script entry r) : r.source = entry.source := by
  have hout := h.2
  unfold runCheck at hout
  cases hsource : entry.source with
  | manual =>
    rw [hsource] at hout
    obtain ⟨result, rfl⟩ := outcome_map hout
    rfl
  | netbox =>
    rw [hsource] at hout
    obtain ⟨result, rfl⟩ := outcome_map hout
    rfl

/-- **A host's check completes exactly when every call it makes is tolerated.** -/
theorem exact_runCheck (hname : entry.source = .manual → ∃ name, entry.connect_target = .str name) :
    (runCheck rt settings entry).Exact script.answer (Tolerated entry.source script) Returned := by
  unfold runCheck
  cases hsource : entry.source with
  | manual =>
    obtain ⟨name, htarget⟩ := hname hsource
    rw [htarget]
    apply exact_then not_returned_error (exact_certCheck ..)
    intro r
    exact Prog.exact_ret (returned_ok _)
  | netbox =>
    apply exact_then not_returned_error (exact_certCheckWithDiscovery ..)
    intro r
    exact Prog.exact_ret (returned_ok _)

/-- The same, for a cycle without a shutdown. -/
theorem completes_iff (hname : entry.source = .manual → ∃ name, entry.connect_target = .str name)
    (hrunning : script.signaled = false) :
    (∃ r, Completes rt settings script entry r) ↔
      ∀ o ∈ (runCheck rt settings entry).made script.answer, Tolerated entry.source script o := by
  have hexact : _ ↔ _ := @exact_runCheck rt settings entry script hname
  refine Iff.trans ?_ hexact.symm
  constructor
  · rintro ⟨r, -, hr⟩
    exact ⟨_, hr, returned_ok r⟩
  · rintro ⟨x, hx, r, rfl⟩
    exact ⟨r, hrunning, hx⟩

end

/-! ## The results -/

section

variable {rt : Runtime} {settings : CheckSettings} {hosts : List HostEntry} {scripts : Nat → CheckScript}
  {order : List Nat} {results : Results}

/-- The host in this place completes its check, with this key and result. -/
def CompletesAt (rt : Runtime) (settings : CheckSettings) (hosts : List HostEntry) (scripts : Nat → CheckScript)
    (k : Nat) (key : String) (r : CheckResult) : Prop :=
  ∃ entry, hosts[k]? = some entry ∧ key = entry.identity_key ∧ Completes rt settings (scripts k) entry r

/-- The results are those of the hosts that completed. -/
theorem mem_results (h : runParallelChecks rt settings hosts scripts order = .ok results) {key : String}
    {r : CheckResult} : (key, r) ∈ results ↔ ∃ k ∈ order, CompletesAt rt settings hosts scripts k key r := by
  unfold runParallelChecks at h
  split_ifs at h
  obtain rfl := Except.ok.inj h
  rw [List.mem_reverse, List.mem_filterMap]
  refine exists_congr fun k => and_congr_right fun _ => ?_
  rw [CompletesAt, Option.bind_eq_bind, Option.bind_eq_some_iff]
  refine exists_congr fun entry => and_congr_right fun _ => ?_
  exact taskOutcome_eq_some

theorem mem_of_lookup {key : String} {r : CheckResult} (h : results.lookup key = some r) : (key, r) ∈ results := by
  obtain ⟨l₁, l₂, rfl, -⟩ := List.lookup_eq_some_iff.mp h
  exact List.mem_append_right _ List.mem_cons_self

/-- A result under a host's key comes from the host's own check function. -/
theorem source_of_lookup (h : runParallelChecks rt settings hosts scripts order = .ok results)
    (hkeyed : ∀ entry ∈ hosts, entry.Keyed) {entry : HostEntry} (hentry : entry ∈ hosts) {r : CheckResult}
    (hr : results.lookup entry.identity_key = some r) : r.source = entry.source := by
  obtain ⟨k, -, other, hother, hkey, hcomplete⟩ := (mem_results h).mp (mem_of_lookup hr)
  have hsource := (hkeyed entry hentry).source_eq (hkeyed other (List.mem_of_getElem? hother)) hkey
  rw [hcomplete.source, hsource]

theorem lookup_of_mem {key : String} {r : CheckResult} (h : (key, r) ∈ results) :
    ∃ r', results.lookup key = some r' := by
  apply Option.isSome_iff_exists.mp
  rw [List.lookup_isSome_iff]
  exact ⟨_, h, beq_self_eq_true key⟩

/-! ## The checks of the report -/

/-- The payload of a result of the host's own source, whichever builder makes it. -/
theorem buildPayload_ok {entry : HostEntry} {r : CheckResult} (h : r.source = entry.source) :
    ∃ check, buildPayloadForEntry rt entry r = .ok check ∧ check.get? "host_ref" = some entry.host_ref := by
  unfold buildPayloadForEntry
  cases r with
  | manual r =>
    rw [show entry.source = .manual from h.symm]
    exact ⟨_, rfl, rfl⟩
  | netbox r =>
    rw [show entry.source = .netbox from h.symm]
    exact ⟨_, rfl, rfl⟩

/-- The host has a result. -/
def HasResult (results : Results) (entry : HostEntry) : Prop := ∃ r, results.lookup entry.identity_key = some r

instance (results : Results) (entry : HostEntry) : Decidable (HasResult results entry) :=
  decidable_of_iff (results.lookup entry.identity_key).isSome Option.isSome_iff_exists

/-- The checks carry the references of the hosts that have a result, in the order of the hosts. -/
theorem buildChecks_host_refs {entries : List HostEntry}
    (hsource : ∀ entry ∈ entries, ∀ r, results.lookup entry.identity_key = some r → r.source = entry.source) :
    ∃ checks, buildChecks rt results entries = .ok checks ∧
      checks.map (fun check => check.get? "host_ref") =
        (entries.filter fun entry => HasResult results entry).map fun entry => some entry.host_ref := by
  induction entries with
  | nil => exact ⟨[], rfl, rfl⟩
  | cons entry entries ih =>
    obtain ⟨checks, hchecks, hrefs⟩ := ih fun e he => hsource e (List.mem_cons_of_mem entry he)
    rw [buildChecks]
    cases hlookup : results.lookup entry.identity_key with
    | none =>
      have hno : ¬ HasResult results entry := by
        rintro ⟨r, hr⟩
        rw [hlookup] at hr
        cases hr
      refine ⟨checks, hchecks, ?_⟩
      rw [List.filter_cons_of_neg (by simpa using hno)]
      exact hrefs
    | some r =>
      obtain ⟨check, hcheck, href⟩ := @buildPayload_ok rt _ _ (hsource entry List.mem_cons_self r hlookup)
      refine ⟨check :: checks, ?_, ?_⟩
      · simp only [hcheck, hchecks]
        rfl
      · rw [List.filter_cons_of_pos (by simpa using ⟨r, hlookup⟩), List.map_cons, List.map_cons, href, hrefs]

/-- A check of the report is the payload of some host with the result under its key. -/
theorem mem_buildChecks {entries : List HostEntry} {checks : List Dict}
    (h : buildChecks rt results entries = .ok checks) {check : Dict} :
    check ∈ checks ↔ ∃ entry ∈ entries, ∃ r, results.lookup entry.identity_key = some r ∧
      buildPayloadForEntry rt entry r = .ok check := by
  induction entries generalizing checks with
  | nil =>
    obtain rfl : [] = checks := Except.ok.inj h
    simp
  | cons entry entries ih =>
    rw [buildChecks] at h
    simp only [List.mem_cons, exists_eq_or_imp]
    cases hlookup : results.lookup entry.identity_key with
    | none =>
      rw [hlookup] at h
      rw [ih h]
      simp
    | some r =>
      rw [hlookup] at h
      cases hpayload : buildPayloadForEntry rt entry r with
      | error e =>
        simp only [hpayload] at h
        cases h
      | ok first =>
        cases hrest : buildChecks rt results entries with
        | error e =>
          simp only [hpayload, hrest] at h
          cases h
        | ok rest =>
          simp only [hpayload, hrest] at h
          obtain rfl : first :: rest = checks := Except.ok.inj h
          rw [List.mem_cons, ih hrest]
          simp [hpayload, eq_comm]

end

end CertWatch
