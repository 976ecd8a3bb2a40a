/-
# `CertWatch.NetBoxClient` — from NetBox devices to discovered hosts.

`netbox_client.py` over the calls it makes to pynetbox.  A device is what `getattr` yields for the
attributes the agent looks at; a lookup may raise, since pynetbox fetches missing details lazily.  The
listing is lazy too: each further device is one call, and any of them may raise.
-/
import CertWatch.DashboardClient
import CertWatch.Lib.Prog

namespace CertWatch

open CertWatch.Lib

/-! ## What pynetbox hands over -/

/-- The `address` of an IP object: its truth value, and its text under `str`. -/
structure Address where
  truthy : Bool
  text : String
  deriving DecidableEq, Repr

/-- A nested record; a plain value has neither attribute, so both read as `None`. -/
structure Nested where
  name : Except PyExc Json := .ok .null
  address : Except PyExc Address := .ok ⟨false, "None"⟩

/-- The value of `device.tags`. -/
inductive TagsValue where
  | falsy
  /-- A truthy value that `for` cannot iterate. -/
  | notIterable
  | items (ts : List Nested)

/-- A pynetbox device: what `getattr(d, attr, None)` yields for each attribute, or raises. -/
structure Device where
  id : Except PyExc Json
  name : Except PyExc Json
  primary_ip4 : Except PyExc (Option Nested) := .ok none
  primary_ip6 : Except PyExc (Option Nested) := .ok none
  custom_fields : Except PyExc Json := .ok .null
  tags : Except PyExc TagsValue := .ok .falsy

structure DiscoveredHost where
  netbox_device_id : Int
  hostname : String
  port : Int
  display_name : Option String
  tags : List String := []
  ip_address : Option String := none
  deriving DecidableEq, Repr

/-! ## Conversion of one device -/

/-- `_safe_int`. -/
def safeInt : Json → Option Int
  | .int n => some n
  | .str s => intOfText s
  | _ => none

/-- A string that is not blank, stripped. -/
def strippedName : Json → Option String
  | .str s => if strip s = "" then none else some (strip s)
  | _ => none

/-- `_resolve_hostname`. -/
def resolveHostname (d : Device) : Except PyExc (Option String) := return strippedName (← d.name)

/-- `_resolve_display_name`. -/
def resolveDisplayName (d : Device) : Except PyExc (Option String) := return strippedName (← d.name)

/-- The address of an IP object without its prefix length, if it has one. -/
def addressOf (ip_obj : Option Nested) : Except PyExc (Option String) :=
  match ip_obj with
  | none => return none
  | some ip => do
    let addr ← ip.address
    if addr.truthy then
      return some (strip (String.ofList (addr.text.toList.takeWhile (· != '/'))))
    else
      return none

/-- `_resolve_ip_address`. -/
def resolveIpAddress (d : Device) : Except PyExc (Option String) := do
  let ip4 ← addressOf (← d.primary_ip4)
  match ip4 with
  | some addr => return some addr
  | none => addressOf (← d.primary_ip6)

/-- `_resolve_port`. -/
def resolvePort (d : Device) : Except PyExc Int := do
  let custom_fields ← d.custom_fields
  match custom_fields with
  | .obj cf =>
    let raw := Dict.getD cf "cert_check_port" .null
    return if raw = .null then 443 else (safeInt raw).getD 443
  | _ => return 443

/-- `_resolve_tags`. -/
def resolveTags (d : Device) : Except PyExc (List String) := do
  match ← d.tags with
  | .falsy => return []
  | .notIterable => .error .typeError
  | .items ts =>
    let names ← ts.mapM Nested.name
    return names.filterMap strippedName

/-- `_device_to_discovered_host`. -/
def deviceToDiscoveredHost (d : Device) : Except PyExc (Option DiscoveredHost) := do
  match safeInt (← d.id) with
  | none =>
    -- the log record of the skipped device reads its name
    let _ ← d.name
    return none
  | some device_id => do
    match ← resolveHostname d with
    | none => return none
    | some hostname => do
      let port ← resolvePort d
      let display_name ← resolveDisplayName d
      let tags ← resolveTags d
      let ip_address ← resolveIpAddress d
      return some { netbox_device_id := device_id, hostname, port, display_name, tags, ip_address }

/-- The loop of `fetch_hosts` over the devices. -/
def convertDevices : List Device → Except PyExc (List DiscoveredHost)
  | [] => return []
  | d :: ds => do
    let host ← deviceToDiscoveredHost d
    let hosts ← convertDevices ds
    return match host with
      | none => hosts
      | some h => h :: hosts

/-- The id and the name of a device that has both: an integer (or its text) and a string that is not
blank. -/
def Device.identity? (d : Device) : Option (Int × String) :=
  match d.id, d.name with
  | .ok id, .ok name => match safeInt id, strippedName name with
    | some n, some s => some (n, s)
    | _, _ => none
  | _, _ => none

/-! ## The calls of a sync -/

/-- A filter argument: `parse_qs` values, unwrapped when there is one. -/
inductive FilterValue where
  | one (v : String)
  | many (vs : List String)
  deriving DecidableEq, Repr

/-- The body of `submit_discovered_hosts`. -/
structure DiscoveredHostsBody where
  action_id : Option String
  synced_at : String
  netbox_url : String
  netbox_filter : String
  hosts : List Dict
  deriving DecidableEq, Repr

/-- What a sync asks of its surroundings. -/
inductive SyncOp where
  | utcNowIso
  /-- The entry into `fetch_hosts`. -/
  | fetchBegins
  | parseQs (expr : String)
  /-- `dcim.devices.filter(**kwargs)`. -/
  | devicesFilter (kwargs : List (String × FilterValue))
  /-- The next device of the lazy listing; `None` at its end. -/
  | nextDevice
  /-- The normal return of `fetch_hosts`. -/
  | fetchReturns (hosts : List DiscoveredHost)
  /-- `netbox_hosts_state.replace(hosts)`. -/
  | replaceHosts (hosts : List DiscoveredHost)
  | submit (body : DiscoveredHostsBody)
  /-- `stats_state.record_netbox_sync(completed_at=...)`. -/
  | recordNetboxSync (completed_at : String)
  | isSet
  | waitFor (seconds : Rat)
  | sleep (seconds : Rat)

/-- What each call returns. -/
abbrev SyncOp.Ret : SyncOp → Type
  | .utcNowIso => String
  | .parseQs _ => List (String × List String)
  | .nextDevice => Option Device
  | .submit _ => HttpResponse
  | .isSet => Bool
  | .waitFor _ => Bool
  | _ => Unit

abbrev syncSig : Sig := ⟨SyncOp, SyncOp.Ret⟩

/-- Programs over the calls of a sync. -/
abbrev Sync (α : Type) := Prog syncSig PyExc α

abbrev syncCall (o : SyncOp) : Sync o.Ret := Prog.perform (S := syncSig) o

/-! ## Fetching -/

structure NetBoxClient where
  url : String
  filter_expr : String

/-- `_parse_filter_expr`. -/
def parseFilterExpr (expr : String) : Sync (List (String × FilterValue)) :=
  if strip expr = "" then
    return []
  else do
    let parsed ← syncCall (.parseQs expr)
    return parsed.map fun (k, vs) => (k, match vs with
      | [v] => .one v
      | vs => .many vs)

/-- `list(...)` of the lazy listing. -/
def listDevices : Nat → Sync (List Device)
  | 0 => .hang
  | fuel + 1 => do
    match ← syncCall .nextDevice with
    | none => return []
    | some d => do
      let ds ← listDevices fuel
      return d :: ds

/-- `except ... as e: raise NetBoxSyncError(...) from e`. -/
def wrapNetBoxError {α : Type} (p : Sync α) : Sync α := p.tryCatch fun e => .raise (.netBoxSync e)

/-- `NetBoxClient.fetch_hosts`; the conversion of the devices is outside its `try` blocks. -/
def NetBoxClient.fetchHosts (client : NetBoxClient) (fuel : Nat) : Sync (List DiscoveredHost) := do
  syncCall .fetchBegins
  let filter_kwargs ← wrapNetBoxError (parseFilterExpr client.filter_expr)
  let query : Sync (List Device) := do
    syncCall (.devicesFilter filter_kwargs)
    listDevices fuel
  let devices ← wrapNetBoxError query
  let hosts ← .ofExcept (convertDevices devices)
  syncCall (.fetchReturns hosts)
  return hosts

/-! ## One host per device with an id and a name -/

theorem except_bind_ok {α β : Type} {x : Except PyExc α} {f : α → Except PyExc β} {b : β}
    (h : (x >>= f) = .ok b) : ∃ a, x = .ok a ∧ f a = .ok b := by
  cases x with
  | error e => cases h
  | ok a => exact ⟨a, rfl, h⟩

/-- Converting a device yields a host exactly for a device with an id and a name, under these. -/
theorem deviceToDiscoveredHost_identity {d : Device} {host : Option DiscoveredHost}
    (h : deviceToDiscoveredHost d = .ok host) :
    host.map (fun x => (x.netbox_device_id, x.hostname)) = d.identity? := by
  unfold deviceToDiscoveredHost at h
  obtain ⟨id, hid, h⟩ := except_bind_ok h
  cases hn : safeInt id with
  | none =>
    rw [hn] at h
    obtain ⟨name, hname, h⟩ := except_bind_ok h
    obtain rfl := Except.ok.inj h
    simp [Device.identity?, hid, hname, hn]
  | some n =>
    rw [hn] at h
    obtain ⟨hostname, hhost, h⟩ := except_bind_ok h
    obtain ⟨name, hname, hs⟩ := except_bind_ok hhost
    obtain rfl := Except.ok.inj hs
    cases hstr : strippedName name with
    | none =>
      rw [hstr] at h
      obtain rfl := Except.ok.inj h
      simp [Device.identity?, hid, hname, hn, hstr]
    | some s =>
      rw [hstr] at h
      obtain ⟨port, -, h⟩ := except_bind_ok h
      obtain ⟨display_name, -, h⟩ := except_bind_ok h
      obtain ⟨tags, -, h⟩ := except_bind_ok h
      obtain ⟨ip_address, -, h⟩ := except_bind_ok h
      obtain rfl := Except.ok.inj h
      simp [Device.identity?, hid, hname, hn, hstr]

/-- **The fetched list has one entry per device with an id and a name**, in the order of the listing. -/
theorem convertDevices_identities {ds : List Device} {hosts : List DiscoveredHost}
    (h : convertDevices ds = .ok hosts) :
    hosts.map (fun x => (x.netbox_device_id, x.hostname)) = ds.filterMap Device.identity? := by
  induction ds generalizing hosts with
  | nil =>
    obtain rfl := Except.ok.inj h
    rfl
  | cons d ds ih =>
    obtain ⟨host, hhost, h⟩ := except_bind_ok h
    obtain ⟨rest, hrest, h⟩ := except_bind_ok h
    obtain rfl := Except.ok.inj h
    have hd := deviceToDiscoveredHost_identity hhost
    cases host with
    | none =>
      rw [List.filterMap_cons_none hd.symm]
      exact ih hrest
    | some x =>
      rw [List.filterMap_cons_some hd.symm, List.map_cons, ih hrest]

end CertWatch
