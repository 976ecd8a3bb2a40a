/-
# `CertWatch.CycleBatching` — how many checks a cycle puts into one report.

`submit_report` leaves it to its caller to send at most 1000 checks, and `_run_one_cycle` sends all of a cycle's
checks in one report.  A dashboard that refuses a larger one ends the report, and with it the checks of the cycle.
-/
import CertWatch.CycleCoverage

namespace CertWatch

open CertWatch.Lib

/-! ## Sizes and carriers -/

/-- How many checks the report has. -/
def ReportBody.checkCount (body : ReportBody) : Nat :=
  match body.checks with
  | .arr xs => xs.length
  | _ => 0

/-- The dashboard has answered 413 exactly to the reports with more than 1000 checks. -/
def AnswersBySize (w : World) : Prop :=
  ∀ sub ∈ w.submissions, ∀ status, sub.answer = some status → (status = 413 ↔ 1000 < sub.body.checkCount)

/-- The check went out in a report of this id. -/
def Carries (w : World) (report_id : Json) (check : Dict) : Prop :=
  ∃ sub ∈ w.submissions, sub.body.report_id = report_id ∧ ∃ xs, sub.body.checks = .arr xs ∧ Json.obj check ∈ xs

namespace CycleInput

/-- A host's check completed in the cycle, with this payload. -/
def CompletedCheck (c : CycleInput) (checks : CycleChecks) (check : Dict) : Prop :=
  ∃ hosts settings k entry r, c.Prepares hosts settings ∧ hosts[k]? = some entry ∧
    Completes c.rt settings (checks.scripts k) entry r ∧ buildPayloadForEntry c.rt entry r = .ok check

/-- Whatever the hosts do, every report of the cycle has at most 1000 checks, a cycle that returns has put every
completed check into the report of exactly one id, and a dashboard that answers by size refuses none of them. -/
structure Batched (c : CycleInput) : Prop where
  small : ∀ checks fuel p w, c.Reaches checks fuel p w → ∀ sub ∈ w.submissions, sub.body.checkCount ≤ 1000
  carried : ∀ checks fuel result w, c.Reaches checks fuel (.ret result) w → ∀ check, c.CompletedCheck checks check →
    ∃! report_id, Carries w report_id check
  kept : ∀ checks fuel p w, c.Reaches checks fuel p w → AnswersBySize w → ∀ sub ∈ w.submissions, sub.answer ≠ some 413

variable {c : CycleInput} {checks : CycleChecks} {hosts : List HostEntry} {settings : CheckSettings}
  {results : Results} {built : List Dict}

theorem checkCount_of_checks {body : ReportBody} (h : body.checks = .arr (built.map .obj)) :
    body.checkCount = built.length := by
  unfold ReportBody.checkCount
  rw [h]
  exact List.length_map _

/-- There are no more checks than hosts. -/
theorem length_built (hprep : c.Prepares hosts settings) (hresults : c.runChecks checks settings hosts = .ok results)
    (hbuild : buildChecks c.rt results hosts = .ok built) :
    built.length = (hosts.filter fun entry => HasResult results entry).length := by
  obtain ⟨built', hbuild', hrefs⟩ := built_host_refs hprep.hosts_ok hresults
  obtain rfl := Except.ok.inj (hbuild.symm.trans hbuild')
  simpa using congrArg List.length hrefs

/-! ## Distinct keys: every completed check is in the report -/

/-- With distinct identity keys, the result under a host's key is its own. -/
theorem lookup_own (hkeys : (hosts.map (·.identity_key)).Nodup)
    (hresults : c.runChecks checks settings hosts = .ok results) {k : Nat} {entry : HostEntry} {r : CheckResult}
    (hentry : hosts[k]? = some entry) (hcomplete : Completes c.rt settings (checks.scripts k) entry r) :
    results.lookup entry.identity_key = some r := by
  have hk : k ∈ checks.order hosts.length := by
    rw [(checks.order_perm hosts.length).mem_iff, List.mem_range]
    exact (List.getElem?_eq_some_iff.mp hentry).1
  obtain ⟨r', hr'⟩ := lookup_of_mem ((mem_results hresults).mpr ⟨k, hk, entry, hentry, rfl, hcomplete⟩)
  obtain ⟨k', -, other, hother, hkey, hcomplete'⟩ := (mem_results hresults).mp (mem_of_lookup hr')
  -- two places with one key are one place
  have hplace : k = k' := by
    have hlt : k < (hosts.map (·.identity_key)).length := by
      rw [List.length_map]
      exact (List.getElem?_eq_some_iff.mp hentry).1
    apply (List.getElem?_inj hlt hkeys).mp
    rw [List.getElem?_map, List.getElem?_map, hentry, hother]
    exact congrArg some hkey
  subst hplace
  obtain rfl := Option.some.inj (hentry.symm.trans hother)
  obtain rfl := Except.ok.inj (Option.some.inj (hcomplete.2.symm.trans hcomplete'.2))
  exact hr'

/-- Every report of the cycle has the cycle's checks and no others. -/
theorem Builds.of_prepares (hprep : c.Prepares hosts settings) (hbuilds : c.Builds checks built) :
    ∃ results, c.runChecks checks settings hosts = .ok results ∧ buildChecks c.rt results hosts = .ok built := by
  obtain ⟨results, hresults⟩ := @runChecks_ok c checks _ _ hprep
  obtain ⟨built', hbuild', -⟩ := built_host_refs hprep.hosts_ok hresults
  obtain rfl := Builds.unique hbuilds (.some hprep hresults hbuild')
  exact ⟨results, hresults, hbuild'⟩

/-- Small fleets without shared keys are batched. -/
theorem batched_of_small (hsmall : ∀ hosts settings, c.Prepares hosts settings →
    hosts.length ≤ 1000 ∧ (hosts.map (·.identity_key)).Nodup) : c.Batched := by
  have hcount : ∀ checks fuel p w, c.Reaches checks fuel p w → ∀ sub ∈ w.submissions, sub.body.checkCount ≤ 1000 := by
    intro checks fuel p w hreach sub hsub
    rcases hreach.consistent with hnone | ⟨built, hbuilds, args, hargs, honly⟩
    · rw [hnone] at hsub
      cases hsub
    · have hchecks : sub.body.checks = .arr (built.map .obj) := by
        rw [honly sub hsub, ← hargs]
        rfl
      rw [checkCount_of_checks hchecks]
      cases hbuilds with
      | none => exact Nat.zero_le _
      | some hprep hresults hbuild =>
        rw [length_built hprep hresults hbuild]
        exact (List.length_filter_le _ _).trans (hsmall _ _ hprep).1
  refine ⟨hcount, ?_, ?_⟩
  · rintro checks fuel result w hreach check ⟨hosts, settings, k, entry, r, hprep, hentry, hcomplete, hpayload⟩
    obtain ⟨built, hbuilds, ⟨args, hargs, honly⟩, hsent⟩ := hreach.sent
    obtain ⟨results, hresults, hbuild⟩ := Builds.of_prepares hprep hbuilds
    have hmem : check ∈ built := by
      rw [mem_buildChecks hbuild]
      exact ⟨entry, List.mem_of_getElem? hentry, r, lookup_own (hsmall _ _ hprep).2 hresults hentry hcomplete, hpayload⟩
    refine ⟨.str args.report_id, ?_, ?_⟩
    · obtain ⟨sub, hsub⟩ := List.exists_mem_of_ne_nil _ hsent
      refine ⟨sub, hsub, by rw [honly sub hsub]; rfl, args.checks, by rw [honly sub hsub]; rfl, ?_⟩
      rw [hargs]
      exact List.mem_map_of_mem hmem
    · rintro report_id ⟨sub, hsub, rfl, -⟩
      rw [honly sub hsub]
      rfl
  · intro checks fuel p w hreach hsize sub hsub hrefused
    have hbig := (hsize sub hsub 413 hrefused).mp rfl
    have hle := hcount checks fuel p w hreach sub hsub
    omega

/-! ## A network that refuses every connection -/

/-- Every connection is refused; the clock stands still. -/
def refused (time : Nat) : CheckScript where
  clock _ := time
  connect _ _ _ _ := .error (.os ⟨.connectionRefused, "Connection refused"⟩)
  wrapSocket _ _ := .error (.os ⟨.other "OSError", "not connected"⟩)
  getpeercert _ := .ok none
  loadDer _ := .error (.valueError "no certificate")

/-- When the check was made, as its payload has it. -/
def checkedAt : CheckResult → String
  | .manual r => r.checked_at
  | .netbox r => r.checked_at

/-- A refused connection is a completed check of any host. -/
theorem completes_refused (time : Nat) (entry : HostEntry) :
    ∃ r, Completes c.rt settings (refused time) entry r ∧ checkedAt r = isoZ time := by
  unfold Completes runCheck
  cases entry.source with
  | manual => exact ⟨_, ⟨rfl, rfl⟩, rfl⟩
  | netbox => exact ⟨_, ⟨rfl, rfl⟩, rfl⟩

theorem checked_at_of_payload {entry : HostEntry} {r : CheckResult} {check : Dict}
    (h : buildPayloadForEntry c.rt entry r = .ok check) : check.get? "checked_at" = some (.str (checkedAt r)) := by
  unfold buildPayloadForEntry at h
  split at h
  · obtain rfl := Except.ok.inj h
    rfl
  · obtain rfl := Except.ok.inj h
    rfl
  · cases h

/-- When every check completes, there is one for each host. -/
theorem length_built_of_all (hprep : c.Prepares hosts settings)
    (hall : ∀ k entry, hosts[k]? = some entry → ∃ r, Completes c.rt settings (checks.scripts k) entry r)
    (hresults : c.runChecks checks settings hosts = .ok results)
    (hbuild : buildChecks c.rt results hosts = .ok built) : built.length = hosts.length := by
  rw [length_built hprep hresults hbuild]
  congr 1
  rw [List.filter_eq_self]
  intro entry hentry
  obtain ⟨k, hk⟩ := List.getElem?_of_mem hentry
  exact decide_eq_true ((hasResult_iff hresults).mpr ⟨k, entry, hk, rfl, hall k entry hk⟩)

/-- A cycle whose checks are all refused, the dashboard giving every report this answer. -/
theorem exists_refused_run {resp : HttpResponse} {status : SubmissionStatus} (checks : CycleChecks)
    (hrefused : ∀ k, ∃ time, checks.scripts k = refused time) (hprep : c.Prepares hosts settings)
    (hsettling : Settling resp) (hends : ∀ args : ReportArgs, EndsAtOnce args.payload resp status) :
    ∃ result w sub, c.Reaches checks 1 (.ret result) w ∧ result.submission_status = status ∧ w.submissions = [sub] ∧
      sub.body.checkCount = hosts.length ∧ sub.answer = some resp.status := by
  obtain ⟨results, hresults⟩ := @runChecks_ok c checks _ _ hprep
  obtain ⟨built, hbuild, -⟩ := built_host_refs hprep.hosts_ok hresults
  obtain ⟨result, w, hreach, hstatus, sub, hsubs, hchecks, hanswer⟩ := exists_run hprep hresults hbuild hsettling hends
  refine ⟨result, w, sub, hreach, hstatus, hsubs, ?_, hanswer⟩
  rw [checkCount_of_checks hchecks]
  apply length_built_of_all hprep ?_ hresults hbuild
  intro k entry _
  obtain ⟨time, htime⟩ := hrefused k
  rw [htime]
  obtain ⟨r, hr, -⟩ := @completes_refused c settings time entry
  exact ⟨r, hr⟩

/-! ## Shared keys: the result that comes last stands for both hosts -/

/-- The futures in order, but this one first. -/
def firstOf (i n : Nat) : List Nat := if i < n then i :: (List.range n).erase i else List.range n

theorem firstOf_perm (i n : Nat) : (firstOf i n).Perm (List.range n) := by
  unfold firstOf
  split_ifs with h
  · exact (List.perm_cons_erase (List.mem_range.mpr h)).symm
  · exact .refl _

/-- Host `i` completes first, and its clock shows another second than those of all the others. -/
def earlyBird (i : Nat) : CycleChecks where
  scripts k := refused (if k = i then 0 else 1000000)
  order := firstOf i
  order_perm := firstOf_perm i

/-- **Overwritten.** When a later host has the key of the first, no check of the report is the first one's. -/
theorem overwritten {i j : Nat} {a b : HostEntry} (hne : i ≠ j) (ha : hosts[i]? = some a) (hb : hosts[j]? = some b)
    (hkey : a.identity_key = b.identity_key) (hprep : c.Prepares hosts settings)
    (hresults : c.runChecks (earlyBird i) settings hosts = .ok results) {key : String} {r : CheckResult}
    (hr : results.lookup key = some r) : checkedAt r = isoZ 1000000 := by
  have hi : i < hosts.length := (List.getElem?_eq_some_iff.mp ha).1
  have hj : j ∈ (List.range hosts.length).erase i := by
    rw [List.mem_erase_of_ne (Ne.symm hne), List.mem_range]
    exact (List.getElem?_eq_some_iff.mp hb).1
  let future : Nat → Option (String × CheckResult) := fun k => do
    let entry ← hosts[k]?
    taskOutcome c.rt settings entry ((earlyBird i).scripts k)
  have hfuture : ∀ k entry, hosts[k]? = some entry → ∃ r, future k = some (entry.identity_key, r) ∧
      checkedAt r = isoZ (if k = i then 0 else 1000000) := by
    intro k entry hentry
    obtain ⟨r, hcomplete, hat⟩ := @completes_refused c settings (if k = i then 0 else 1000000) entry
    refine ⟨r, ?_, hat⟩
    show (hosts[k]? >>= fun entry => taskOutcome c.rt settings entry _) = _
    rw [hentry]
    exact taskOutcome_eq_some.mpr ⟨rfl, hcomplete⟩
  obtain ⟨ra, hra, -⟩ := hfuture i a ha
  have hsplit : results = (((List.range hosts.length).erase i).filterMap future).reverse ++ [(a.identity_key, ra)] := by
    have hrun : c.runChecks (earlyBird i) settings hosts = .ok ((firstOf i hosts.length).filterMap future).reverse :=
      if_neg (Int.not_le.mpr hprep.pool)
    rw [Except.ok.inj (hresults.symm.trans hrun), firstOf, if_pos hi, List.filterMap_cons_some hra, List.reverse_cons]
  -- what is found under any key comes from the futures after the first
  have hlater : (key, r) ∈ ((List.range hosts.length).erase i).filterMap future := by
    rw [hsplit, List.lookup_append] at hr
    cases hfront : List.lookup key (((List.range hosts.length).erase i).filterMap future).reverse with
    | some r' =>
      rw [hfront] at hr
      obtain rfl := Option.some.inj hr
      exact List.mem_reverse.mp (mem_of_lookup hfront)
    | none =>
      rw [hfront, Option.none_or] at hr
      obtain rfl : key = a.identity_key := by
        have hhead := mem_of_lookup hr
        exact (Prod.mk.inj (List.mem_singleton.mp hhead)).1
      obtain ⟨rb, hrb, -⟩ := hfuture j b hb
      have hmem : (a.identity_key, rb) ∈ ((List.range hosts.length).erase i).filterMap future := by
        rw [hkey]
        exact List.mem_filterMap.mpr ⟨j, hj, hrb⟩
      obtain ⟨r', hr'⟩ := lookup_of_mem (List.mem_reverse.mpr hmem)
      rw [hfront] at hr'
      cases hr'
  obtain ⟨k, hk, hfk⟩ := List.mem_filterMap.mp hlater
  have hki : k ≠ i := (List.nodup_range.mem_erase_iff.mp hk).1
  obtain ⟨entry, hentry, -⟩ := Option.bind_eq_some_iff.mp hfk
  obtain ⟨r', hr', hat⟩ := hfuture k entry hentry
  obtain ⟨-, rfl⟩ := Prod.mk.inj (Option.some.inj (hfk.symm.trans hr'))
  rw [hat, if_neg hki]

/-- A batched cycle has no shared keys. -/
theorem nodup_of_batched (hbatched : c.Batched) (hprep : c.Prepares hosts settings) :
    (hosts.map (·.identity_key)).Nodup := by
  rw [List.nodup_iff_getElem?_ne_getElem?]
  intro i j hij hj hsame
  rw [List.length_map] at hj
  have hi : i < hosts.length := Nat.lt_trans hij hj
  have ha : hosts[i]? = some hosts[i] := List.getElem?_eq_getElem hi
  have hb : hosts[j]? = some hosts[j] := List.getElem?_eq_getElem hj
  rw [List.getElem?_map, List.getElem?_map, ha, hb] at hsame
  have hkey : hosts[i].identity_key = hosts[j].identity_key := Option.some.inj hsame
  obtain ⟨results, hresults⟩ := @runChecks_ok c (earlyBird i) _ _ hprep
  obtain ⟨built, hbuild, -⟩ := built_host_refs hprep.hosts_ok hresults
  obtain ⟨result, w, hreach, -, sub, hsubs, hchecks, -⟩ :=
    exists_run hprep hresults hbuild settling_accepted endsAtOnce_accepted
  -- the early bird's own check was completed, so some report carries it
  have hscript : (earlyBird i).scripts i = refused 0 := congrArg refused (if_pos rfl)
  obtain ⟨r, hcomplete, hat⟩ := @completes_refused c settings 0 hosts[i]
  obtain ⟨check, hpayload, -⟩ := @buildPayload_ok c.rt _ _ hcomplete.source
  have hcompleted : c.CompletedCheck (earlyBird i) check :=
    ⟨hosts, settings, i, hosts[i], r, hprep, ha, by rw [hscript]; exact hcomplete, hpayload⟩
  obtain ⟨report_id, ⟨sub', hsub', -, xs, hxs, hmem⟩, -⟩ := hbatched.carried _ _ _ _ hreach check hcompleted
  obtain rfl : sub' = sub := by
    rw [hsubs] at hsub'
    exact List.mem_singleton.mp hsub'
  obtain rfl : xs = built.map .obj := Json.arr.inj (hxs.symm.trans hchecks)
  obtain ⟨check', hcheck', heq⟩ := List.mem_map.mp hmem
  obtain rfl := Json.obj.inj heq
  -- but every check of the report shows the other clock
  obtain ⟨entry, -, r', hr', hpayload'⟩ := (mem_buildChecks hbuild).mp hcheck'
  have hother := checked_at_of_payload hpayload'
  rw [checked_at_of_payload hpayload, hat, overwritten (Nat.ne_of_lt hij) ha hb hkey hprep hresults hr'] at hother
  exact absurd hother (by decide)

/-- **A cycle is batched exactly when its config and snapshot give it at most 1000 hosts, no two of them with
one identity key.** -/
theorem batched_iff (c : CycleInput) :
    c.Batched ↔ ∀ hosts settings, c.Prepares hosts settings →
      hosts.length ≤ 1000 ∧ (hosts.map (·.identity_key)).Nodup := by
  constructor
  · intro hbatched hosts settings hprep
    refine ⟨?_, nodup_of_batched hbatched hprep⟩
    obtain ⟨result, w, sub, hreach, -, hsubs, hcount, -⟩ := exists_refused_run
      ⟨fun _ => refused 0, List.range, fun _ => .refl _⟩ (fun _ => ⟨0, rfl⟩) hprep settling_accepted endsAtOnce_accepted
    rw [← hcount]
    exact hbatched.small _ _ _ _ hreach sub (hsubs ▸ List.mem_singleton_self sub)
  · exact batched_of_small

/-! ## A fleet that is too large -/

/-- A NetBox snapshot of 1001 devices. -/
def largeFleet : CycleInput where
  rt := plainRuntime
  client := someClient
  config := []
  report_type := "scheduled"
  netbox_hosts := (List.range 1001).map fun n : Nat => ⟨Int.ofNat n, "h.example", 443, none, [], none⟩

theorem toCheck_largeFleet :
    toCheck plainRuntime [] largeFleet.netbox_hosts = .ok (largeFleet.netbox_hosts.map netboxEntry) := by
  generalize largeFleet.netbox_hosts = netbox_hosts
  rfl

/-- **The cycle's checks are lost**: a dashboard that answers by size refuses the report, and that ends it. -/
theorem largeFleet_rejected : ¬ largeFleet.Batched ∧
    ∃ checks result w sub, largeFleet.Reaches checks 1 (.ret result) w ∧ AnswersBySize w ∧
      result.submission_status = .rejected ∧ w.submissions = [sub] ∧ sub.body.checkCount = 1001 ∧
      sub.answer = some 413 := by
  have hlength : (largeFleet.netbox_hosts.map netboxEntry).length = 1001 := by
    rw [largeFleet, List.length_map, List.length_map, List.length_range]
  have hprep : largeFleet.Prepares (largeFleet.netbox_hosts.map netboxEntry) _ := {
    hosts_ok := toCheck_largeFleet
    nonempty := List.ne_nil_of_length_eq_add_one hlength
    settings_ok := ⟨30, rfl, checkSettings_default plainRuntime 30 rfl rfl⟩
    pool := by decide }
  obtain ⟨result, w, sub, hreach, hstatus, hsubs, hcount, hanswer⟩ := exists_refused_run
    ⟨fun _ => refused 0, List.range, fun _ => .refl _⟩ (fun _ => ⟨0, rfl⟩) hprep settling_tooLarge endsAtOnce_tooLarge
  have hcount : sub.body.checkCount = 1001 := hcount.trans hlength
  have hsize : AnswersBySize w := by
    intro sub' hsub' status hstatus'
    obtain rfl : sub' = sub := by
      rw [hsubs] at hsub'
      exact List.mem_singleton.mp hsub'
    obtain rfl : 413 = status := Option.some.inj (hanswer.symm.trans hstatus')
    exact ⟨fun _ => by omega, fun _ => rfl⟩
  refine ⟨?_, _, result, w, sub, hreach, hsize, hstatus, hsubs, hcount, hanswer⟩
  intro hbatched
  exact hbatched.kept _ _ _ _ hreach hsize sub (hsubs ▸ List.mem_singleton_self sub) hanswer

end CycleInput

end CertWatch
