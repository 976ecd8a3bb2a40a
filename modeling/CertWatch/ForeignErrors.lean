/-
# `CertWatch.ForeignErrors` — the exceptions that reading documents and devices can raise.

The loops tell three kinds of exceptions apart: the authentication error of the dashboard client, the heartbeat
thread's private class, and all others.  Python's own idioms on documents only raise the third kind, and so does
whatever comes back from a call.
-/
import CertWatch.ActionWorkers
import CertWatch.ScheduledThreads

namespace CertWatch

open CertWatch.Lib

variable {α β : Type}

/-! ## Composition -/

theorem foreign_ok {a : α} : Foreign (.ok a : Except PyExc α) := nofun

theorem foreign_error {e : PyExc} (h : e.foreign = true) : Foreign (.error e : Except PyExc α) := by
  intro e' he'
  obtain rfl := Except.error.inj he'
  exact h

theorem Foreign.bind {x : Except PyExc α} {f : α → Except PyExc β} (hx : Foreign x)
    (hf : ∀ a, x = .ok a → Foreign (f a)) :
    Foreign (x >>= f) := by
  cases x with
  | error e => exact foreign_error (hx e rfl)
  | ok a => exact hf a rfl

theorem Foreign.mapM {f : α → Except PyExc β} {xs : List α} (hf : ∀ x ∈ xs, Foreign (f x)) : Foreign (xs.mapM f) := by
  induction xs with
  | nil => exact foreign_ok
  | cons x xs ih =>
    rw [List.mapM_cons]
    refine (hf x List.mem_cons_self).bind fun y _ => ?_
    exact (ih fun x' hx' => hf x' (List.mem_cons_of_mem x hx')).bind fun ys _ => foreign_ok

/-! ## Documents -/

theorem foreign_get (x : Json) (k : String) : Foreign (x.get k) := by
  cases x with
  | obj d => exact foreign_ok
  | _ => exact foreign_error rfl

theorem foreign_getOr (x : Json) (k : String) (dflt : Json) : Foreign (x.getOr k dflt) := by
  cases x with
  | obj d => exact foreign_ok
  | _ => exact foreign_error rfl

theorem foreign_getItem (d : Dict) (k : String) : Foreign (d.getItem k) := by
  unfold Dict.getItem
  cases d.get? k with
  | some v => exact foreign_ok
  | none => exact foreign_error rfl

theorem foreign_item (x : Json) (k : String) : Foreign (x.item k) := by
  cases x with
  | obj d => exact foreign_getItem d k
  | _ => exact foreign_error rfl

theorem foreign_iterate (x : Json) : Foreign x.iterate := by
  cases x with
  | arr xs => exact foreign_ok
  | obj d => exact foreign_ok
  | str s => exact foreign_ok
  | _ => exact foreign_error rfl

theorem foreign_len (x : Json) : Foreign x.len := by
  cases x with
  | arr xs => exact foreign_ok
  | obj d => exact foreign_ok
  | str s => exact foreign_ok
  | _ => exact foreign_error rfl

theorem foreign_toInt (x : Json) : Foreign x.toInt := by
  cases x with
  | float x =>
    cases x with
    | finite q => exact foreign_ok
    | _ => exact foreign_error rfl
  | str s =>
    simp only [Json.toInt]
    cases intOfText s with
    | some n => exact foreign_ok
    | none => exact foreign_error rfl
  | bool b => exact foreign_ok
  | int n => exact foreign_ok
  | _ => exact foreign_error rfl

theorem foreign_ltStr (x : Json) (s : String) : Foreign (x.ltStr s) := by
  cases x with
  | str t => exact foreign_ok
  | _ => exact foreign_error rfl

theorem foreign_isExpired (expires_at : Json) (now : String) : Foreign (isExpired expires_at now) := by
  unfold isExpired
  split_ifs
  · exact foreign_ltStr expires_at now
  · exact foreign_ok

/-! ## The config -/

section

variable {rt : Runtime} (hrt : ∀ text, Foreign (rt.floatOfText text))

include hrt in
theorem foreign_toFloat (x : Json) : Foreign (rt.toFloat x) := by
  cases x with
  | bool b => exact foreign_ok
  | int n =>
    simp only [Runtime.toFloat]
    split_ifs
    · exact foreign_ok
    · exact foreign_error rfl
  | float x => exact foreign_ok
  | str s => exact hrt s
  | _ => exact foreign_error rfl

include hrt in
theorem foreign_intervalSeconds (key : String) (config : Dict) : Foreign (intervalSeconds rt key config) :=
  (foreign_getItem config "intervals").bind fun intervals _ =>
    (foreign_item intervals key).bind fun seconds _ => foreign_toFloat hrt seconds

theorem foreign_manualHosts (config : Dict) : Foreign (manualHosts config) := foreign_iterate _

theorem foreign_manualEntry (rt : Runtime) (h : Json) : Foreign (manualEntry rt h) :=
  (foreign_get h "host_id").bind fun _ _ => (foreign_getOr h "hostname" _).bind fun _ _ =>
    (foreign_getOr h "port" _).bind fun port _ => (foreign_toInt port).bind fun _ _ => foreign_ok

theorem foreign_toCheck (rt : Runtime) (config : Dict) (netbox_hosts : List DiscoveredHost) :
    Foreign (toCheck rt config netbox_hosts) :=
  (foreign_manualHosts config).bind fun _ _ =>
    (Foreign.mapM fun h _ => foreign_manualEntry rt h).bind fun _ _ => foreign_ok

theorem foreign_maxInt (ns : List Int) : Foreign (maxInt ns) := by
  cases ns with
  | nil => exact foreign_error rfl
  | cons n ns => exact foreign_ok

theorem foreign_expiringSoonThreshold (config : Dict) : Foreign (expiringSoonThreshold config) :=
  (foreign_iterate _).bind fun _ _ => (Foreign.mapM fun t _ => foreign_toInt t).bind fun ts _ => foreign_maxInt ts

include hrt in
theorem foreign_checkSettings (config : Dict) (threshold : Int) : Foreign (checkSettings rt config threshold) :=
  (foreign_getOr _ _ _).bind fun tcp _ => (foreign_toFloat hrt tcp).bind fun _ _ =>
    (foreign_getOr _ _ _).bind fun tls _ => (foreign_toFloat hrt tls).bind fun _ _ =>
      (foreign_getOr _ _ _).bind fun n _ => (foreign_toInt n).bind fun _ _ => foreign_ok

include hrt in
theorem foreign_onDemandTimeouts (config : Dict) : Foreign (onDemandTimeouts rt config) :=
  (foreign_getOr _ _ _).bind fun tcp _ => (foreign_toFloat hrt tcp).bind fun _ _ =>
    (foreign_getOr _ _ _).bind fun tls _ => (foreign_toFloat hrt tls).bind fun _ _ => foreign_ok

end

/-! ## Hosts, results and payloads -/

theorem foreign_findManualHost (host_id : Json) (hosts : List Json) : Foreign (findManualHost host_id hosts) := by
  induction hosts with
  | nil => exact foreign_ok
  | cons host hosts ih =>
    unfold findManualHost
    refine (foreign_get host "host_id").bind fun id _ => ?_
    split_ifs
    · exact (foreign_getOr host "hostname" _).bind fun _ _ => (foreign_getOr host "port" _).bind fun port _ =>
        (foreign_toInt port).bind fun _ _ => foreign_ok
    · exact ih

theorem foreign_resolveManualHost (host_id : Json) (config : Dict) : Foreign (resolveManualHost host_id config) := by
  unfold resolveManualHost
  split_ifs
  · exact (foreign_manualHosts config).bind fun hosts _ => foreign_findManualHost host_id hosts
  · exact foreign_ok

theorem foreign_handlerFor (rt : Runtime) (client : DashboardClient) (netbox_client : Option NetBoxClient) (fuel : Nat)
    (action_type : Json) : Foreign (handlerFor rt client netbox_client fuel action_type) := by
  unfold handlerFor
  split
  · exact foreign_error rfl
  · exact foreign_error rfl
  · exact foreign_ok
  · exact foreign_ok
  · exact foreign_ok

theorem foreign_buildPayloadForEntry (rt : Runtime) (entry : HostEntry) (result : CheckResult) :
    Foreign (buildPayloadForEntry rt entry result) := by
  unfold buildPayloadForEntry
  split
  · exact foreign_ok
  · exact foreign_ok
  · exact foreign_error rfl

theorem foreign_buildChecks (rt : Runtime) (results : Results) (entries : List HostEntry) :
    Foreign (buildChecks rt results entries) := by
  induction entries with
  | nil => exact foreign_ok
  | cons entry entries ih =>
    unfold buildChecks
    cases results.lookup entry.identity_key with
    | none => exact ih
    | some result =>
      exact (foreign_buildPayloadForEntry rt entry result).bind fun _ _ => ih.bind fun _ _ => foreign_ok

theorem foreign_countStatus (counted : Json → Bool) (checks : List Dict) : Foreign (countStatus counted checks) := by
  induction checks with
  | nil => exact foreign_ok
  | cons c checks ih => exact (foreign_getItem c "status").bind fun _ _ => ih.bind fun _ _ => foreign_ok

theorem foreign_wireBody (wire : Dict) : Foreign (wireBody wire) := by
  intro e he
  obtain ⟨k, rfl⟩ := wireBody_error he
  rfl

/-! ## Devices -/

theorem Device.Foreign.addressOf {d : Device} (hd : d.Foreign) {ip : Option Nested}
    (hip : d.primary_ip4 = .ok ip ∨ d.primary_ip6 = .ok ip) : CertWatch.Foreign (CertWatch.addressOf ip) := by
  cases ip with
  | none => exact foreign_ok
  | some ip =>
    refine (hd.addresses ip hip).bind fun addr _ => ?_
    split_ifs
    · exact foreign_ok
    · exact foreign_ok

theorem Device.Foreign.resolveTags {d : Device} (hd : d.Foreign) : CertWatch.Foreign (CertWatch.resolveTags d) := by
  refine hd.tags.bind fun ts hts => ?_
  cases ts with
  | falsy => exact foreign_ok
  | notIterable => exact foreign_error rfl
  | items ts => exact (Foreign.mapM (hd.tagNames ts hts)).bind fun _ _ => foreign_ok

theorem Device.Foreign.resolvePort {d : Device} (hd : d.Foreign) : CertWatch.Foreign (CertWatch.resolvePort d) := by
  refine hd.custom_fields.bind fun cf _ => ?_
  cases cf with
  | obj cf => exact foreign_ok
  | _ => exact foreign_ok

theorem Device.Foreign.resolveIpAddress {d : Device} (hd : d.Foreign) :
    CertWatch.Foreign (CertWatch.resolveIpAddress d) := by
  refine hd.primary_ip4.bind fun ip4 h4 => (hd.addressOf (Or.inl h4)).bind fun addr _ => ?_
  cases addr with
  | some addr => exact foreign_ok
  | none => exact hd.primary_ip6.bind fun ip6 h6 => hd.addressOf (Or.inr h6)

/-- Converting a device raises only what its attributes raise, or a `TypeError`. -/
theorem Device.Foreign.toDiscoveredHost {d : Device} (hd : d.Foreign) :
    CertWatch.Foreign (deviceToDiscoveredHost d) := by
  refine hd.id.bind fun id _ => ?_
  cases safeInt id with
  | none => exact hd.name.bind fun _ _ => foreign_ok
  | some device_id =>
    refine (hd.name.bind fun _ _ => foreign_ok).bind fun hostname _ => ?_
    cases hostname with
    | none => exact foreign_ok
    | some hostname =>
      exact hd.resolvePort.bind fun _ _ => (hd.name.bind fun _ _ => foreign_ok).bind fun _ _ =>
        hd.resolveTags.bind fun _ _ => hd.resolveIpAddress.bind fun _ _ => foreign_ok

theorem foreign_convertDevices {ds : List Device} (hds : ∀ d ∈ ds, d.Foreign) : Foreign (convertDevices ds) := by
  induction ds with
  | nil => exact foreign_ok
  | cons d ds ih =>
    exact (hds d List.mem_cons_self).toDiscoveredHost.bind fun _ _ =>
      (ih fun d' hd' => hds d' (List.mem_cons_of_mem d hd')).bind fun _ _ => foreign_ok

/-! ## Calls -/

theorem foreign_of_eq_ok {r : Except PyExc α} {a : α} (h : r = .ok a) : Foreign r := by
  subst h
  exact foreign_ok

theorem queueAnswers_foreign {s : AgentState} {o : QueueOp} {r : Except PyExc o.Ret} (h : queueAnswers s o r) :
    Foreign r := by
  cases o with
  | now | utcNowIso =>
    obtain ⟨a, ha⟩ := h
    exact foreign_of_eq_ok ha
  | isSet | waitFor _ | sleep _ => exact foreign_of_eq_ok h
  | _ => exact h

theorem syncAnswers_foreign {s : AgentState} {o : SyncOp} {r : Except PyExc o.Ret} (h : syncAnswers s o r) :
    Foreign r := by
  cases o with
  | utcNowIso =>
    obtain ⟨a, ha⟩ := h
    exact foreign_of_eq_ok ha
  | fetchBegins | fetchReturns _ | replaceHosts _ | isSet | waitFor _ | sleep _ => exact foreign_of_eq_ok h
  | nextDevice => exact h.1
  | _ => exact h

/-- **Whatever a call raises comes from outside.** -/
theorem Possible.foreign {o : AgentOp} {r : Except PyExc o.Ret} (h : Possible o r) : Foreign r := by
  obtain ⟨s, hs⟩ := h
  cases o with
  | isSet _ | set _ | sleep _ | configState _ | configReplace _ | hostsSnapshot => exact foreign_of_eq_ok hs
  | put _ | taskDone | start _ | join _ | unhandledException _ => exact foreign_of_eq_ok hs
  | wait _ _ => exact foreign_of_eq_ok hs.1
  | waitFor _ =>
    rcases hs with hs | ⟨e, rfl, he⟩
    · exact foreign_of_eq_ok hs
    · exact foreign_error he
  | now | utcNowIso | uuid4 =>
    obtain ⟨a, ha⟩ := hs
    exact foreign_of_eq_ok ha
  | configSnapshot | statsSnapshot => exact hs.1
  | get =>
    rcases hs with ⟨rfl, -⟩ | ⟨a, rfl, -⟩
    · exact foreign_error rfl
    · exact foreign_ok
  | queue o => exact queueAnswers_foreign hs
  | sync o => exact syncAnswers_foreign hs
  | signal _ =>
    rw [show r = _ from hs]
    split_ifs
    · exact foreign_ok
    · exact foreign_error rfl
  | _ => exact hs

end CertWatch
