/-
# `CertWatch.LocalConfig` — the YAML file of the local mode.

`config.py`: a mapping with a list of hosts and a few numbers, checked while it is read.  Beside the functions stand
two relations that say what a config is and what is wrong with a value that is none; reading decides between them,
and its error is about the first thing that is wrong.
-/
import CertWatch.ConfigUse
import Mathlib.Data.List.DropRight

namespace CertWatch

/-! ## YAML values -/

/-- What `yaml.safe_load` builds; `bytes` are what `!!binary` stands for, dates and sets are values of another type. -/
inductive Yaml where
  | null
  | bool (b : Bool)
  | int (n : Int)
  | float (x : PyFloat)
  | str (s : String)
  | bytes (bs : List UInt8)
  | seq (xs : List Yaml)
  | map (entries : List (Yaml × Yaml))
  | other (type_name : String)

namespace Yaml

/-- `type(x).__name__`. -/
def typeName : Yaml → String
  | .null => "NoneType"
  | .bool _ => "bool"
  | .int _ => "int"
  | .float _ => "float"
  | .str _ => "str"
  | .bytes _ => "bytes"
  | .seq _ => "list"
  | .map _ => "dict"
  | .other type_name => type_name

/-- The string, if it is one. -/
def str? : Yaml → Option String
  | .str s => some s
  | _ => none

/-- A value that is no bytes, as `int` and `float` take it: a collection is no more a number than `None` is. -/
def scalar : Yaml → Json
  | .bool b => .bool b
  | .int n => .int n
  | .float x => .float x
  | .str s => .str s
  | _ => .null

/-- `bs.decode("ascii")`. -/
def asciiText (bs : List UInt8) : Option String :=
  if bs.all (· < 128) then some (String.ofList (bs.map fun b => Char.ofNat b.toNat)) else none

/-- `int(x)`; of bytes it reads the text that they are in ASCII. -/
def toInt : Yaml → Except PyExc Int
  | .bytes bs => match (asciiText bs).bind intOfText with
    | some n => .ok n
    | none => .error (.valueError "invalid literal for int() with base 10")
  | x => x.scalar.toInt

/-- `float(x)`; of bytes it reads the text that they are in ASCII. -/
def toFloat (rt : Runtime) : Yaml → Except PyExc PyFloat
  | .bytes bs => match (asciiText bs).map rt.floatOfText with
    | some (.ok x) => .ok x
    | _ => .error (.valueError "could not convert string to float")
  | x => rt.toFloat x.scalar

end Yaml

/-- A mapping; only its string keys are looked up. -/
abbrev YamlMap := List (Yaml × Yaml)

/-- `raw.get(k, default)`. -/
def YamlMap.getD (raw : YamlMap) (k : String) (dflt : Yaml) : Yaml :=
  ((raw.find? fun entry => entry.1.str? == some k).map Prod.snd).getD dflt

/-! ## The config -/

structure HostConfig where
  hostname : String
  port : Int := 443
  display_name : Option String := none
  tags : List String := []
  deriving DecidableEq, Repr

structure AgentConfig where
  hosts : List HostConfig
  sweep_interval_seconds : Int := 3600
  max_concurrency : Int := 20
  log_level : String := "INFO"
  tcp_connect_seconds : PyFloat := .finite 5
  tls_handshake_seconds : PyFloat := .finite 5

/-- `hosts[{idx}]`, and what is wrong with it. -/
def hostError (idx : Nat) (text : String) : PyExc := .valueError ("hosts[" ++ toString idx ++ "]" ++ text)

/-- The mapping of a host. -/
def hostFields (raw : Yaml) (idx : Nat) : Except PyExc YamlMap :=
  match raw with
  | .map fields => .ok fields
  | raw => .error (hostError idx (" must be a mapping, got " ++ raw.typeName))

/-- `hostname.strip()`. -/
def hostHostname (fields : YamlMap) (idx : Nat) : Except PyExc String :=
  let missing := hostError idx ".hostname is required and must be a non-empty string"
  match (fields.getD "hostname" .null).str? with
  | some hostname => if strip hostname = "" then .error missing else .ok (strip hostname)
  | none => .error missing

def hostTags (fields : YamlMap) (idx : Nat) : Except PyExc (List String) :=
  let wrong := hostError idx ".tags must be a list of strings if present"
  match fields.getD "tags" (.seq []) with
  | .seq xs => match xs.mapM Yaml.str? with
    | some tags => .ok tags
    | none => .error wrong
  | _ => .error wrong

def hostDisplayName (fields : YamlMap) (idx : Nat) : Except PyExc (Option String) :=
  match fields.getD "display_name" .null with
  | .null => .ok none
  | .str display => .ok (some display)
  | _ => .error (hostError idx ".display_name must be a string if present")

/-- `_parse_host`. -/
def parseHost (raw : Yaml) (idx : Nat) : Except PyExc HostConfig := do
  let fields ← hostFields raw idx
  let hostname ← hostHostname fields idx
  let tags ← hostTags fields idx
  let display_name ← hostDisplayName fields idx
  let port ← (fields.getD "port" (.int 443)).toInt
  return { hostname, port, display_name, tags }

/-- `tuple(_parse_host(h, i) for i, h in enumerate(hosts_raw))`, from this place on. -/
def parseHosts (idx : Nat) : List Yaml → Except PyExc (List HostConfig)
  | [] => return []
  | raw :: raws => do
    let host ← parseHost raw idx
    let hosts ← parseHosts (idx + 1) raws
    return host :: hosts

section

variable (rt : Runtime) (str : Yaml → String)

/-- `str(x)` of a value that the config holds. -/
def Yaml.text : Yaml → String
  | .str s => s
  | x => str x

/-- `_parse_config`, with `str` for what is not a string. -/
def parseConfig (raw : YamlMap) : Except PyExc AgentConfig :=
  match raw.getD "hosts" .null with
  | .seq (host :: hosts_raw) => do
    let hosts ← parseHosts 0 (host :: hosts_raw)
    let sweep_interval_seconds ← (raw.getD "sweep_interval_seconds" (.int 3600)).toInt
    let max_concurrency ← (raw.getD "max_concurrency" (.int 20)).toInt
    let log_level := rt.upper ((raw.getD "log_level" (.str "INFO")).text str)
    let tcp_connect_seconds ← (raw.getD "tcp_connect_seconds" (.float (.finite 5))).toFloat rt
    let tls_handshake_seconds ← (raw.getD "tls_handshake_seconds" (.float (.finite 5))).toFloat rt
    return {
      hosts, sweep_interval_seconds, max_concurrency, log_level, tcp_connect_seconds, tls_handshake_seconds }
  | _ => .error (.valueError "config.hosts must be a non-empty list")

/-- `load_config`, on what reading the file and `yaml.safe_load` make of it. -/
def loadConfig (read : Except PyExc Yaml) : Except PyExc AgentConfig := do
  match ← read with
  | .map raw => parseConfig rt str raw
  | raw => .error (.valueError ("config root must be a mapping, got " ++ raw.typeName))

end

/-! ## One host -/

/-- The host has this name, which is not empty. -/
def Named (fields : YamlMap) (hostname : String) : Prop :=
  ∃ name, fields.getD "hostname" .null = .str name ∧ strip name = hostname ∧ hostname ≠ ""

/-- Its tags are strings. -/
def Tagged (fields : YamlMap) (tags : List String) : Prop :=
  fields.getD "tags" (.seq []) = .seq (tags.map .str)

/-- Its display name is a string, or there is none. -/
def Shown (fields : YamlMap) (display_name : Option String) : Prop :=
  fields.getD "display_name" .null = display_name.elim .null .str

/-- What is read from a host. -/
inductive HostReads : Yaml → HostConfig → Prop where
  | intro {fields : YamlMap} {host : HostConfig} (hname : Named fields host.hostname) (htags : Tagged fields host.tags)
      (hshown : Shown fields host.display_name)
      (hport : (fields.getD "port" (.int 443)).toInt = .ok host.port) : HostReads (.map fields) host

/-- The first thing that is wrong with a host, and the error about it. -/
inductive HostFault (idx : Nat) : Yaml → PyExc → Prop where
  | notMapping {raw : Yaml} (hraw : ∀ fields, raw ≠ .map fields) :
      HostFault idx raw (hostError idx (" must be a mapping, got " ++ raw.typeName))
  | hostname {fields : YamlMap} (hname : ∀ hostname, ¬ Named fields hostname) :
      HostFault idx (.map fields) (hostError idx ".hostname is required and must be a non-empty string")
  | tags {fields : YamlMap} {hostname : String} (hname : Named fields hostname) (htags : ∀ tags, ¬ Tagged fields tags) :
      HostFault idx (.map fields) (hostError idx ".tags must be a list of strings if present")
  | displayName {fields : YamlMap} {hostname : String} {tags : List String} (hname : Named fields hostname)
      (htags : Tagged fields tags) (hshown : ∀ display_name, ¬ Shown fields display_name) :
      HostFault idx (.map fields) (hostError idx ".display_name must be a string if present")
  | port {fields : YamlMap} {hostname : String} {tags : List String} {display_name : Option String} {e : PyExc}
      (hname : Named fields hostname) (htags : Tagged fields tags) (hshown : Shown fields display_name)
      (hport : (fields.getD "port" (.int 443)).toInt = .error e) : HostFault idx (.map fields) e

theorem Yaml.str?_eq_some {x : Yaml} {s : String} : x.str? = some s ↔ x = .str s := by
  cases x <;> simp [Yaml.str?]

theorem mapM_str? {xs : List Yaml} {tags : List String} : xs.mapM Yaml.str? = some tags ↔ xs = tags.map .str := by
  induction xs generalizing tags with
  | nil => cases tags <;> simp
  | cons x xs ih =>
    rw [List.mapM_cons]
    cases hx : x.str? with
    | none =>
      have hne : ∀ s, x ≠ .str s := by
        rintro s rfl
        cases hx
      cases tags with
      | nil => simp
      | cons tag tags => simp [hne tag]
    | some s =>
      obtain rfl := Yaml.str?_eq_some.mp hx
      cases hxs : xs.mapM Yaml.str? with
      | none =>
        have hne : ∀ tags : List String, xs ≠ tags.map .str := by
          intro tags htags
          rw [ih.mpr htags] at hxs
          cases hxs
        cases tags with
        | nil => simp
        | cons tag tags => simp [hne tags]
      | some ss =>
        obtain rfl := ih.mp hxs
        cases tags with
        | nil => simp
        | cons tag tags =>
          have hinj : Function.Injective Yaml.str := fun _ _ h => Yaml.str.inj h
          simp [List.map_inj_right hinj]

/-- A reading with one error, which says that there is nothing to read. -/
theorem error_iff_of_ok_iff {α : Type} {x : Except PyExc α} {P : α → Prop} {error : PyExc}
    (hok : ∀ a, x = .ok a ↔ P a) (herror : ∀ e, x = .error e → e = error) (e : PyExc) :
    x = .error e ↔ (∀ a, ¬ P a) ∧ e = error := by
  constructor
  · intro he
    refine ⟨fun a ha => ?_, herror e he⟩
    rw [(hok a).mpr ha] at he
    cases he
  · rintro ⟨hnone, rfl⟩
    cases hx : x with
    | ok a => exact absurd ((hok a).mp hx) (hnone a)
    | error e' => rw [herror e' hx]

section

variable {fields : YamlMap} {idx : Nat}

theorem hostFields_ok {raw : Yaml} : hostFields raw idx = .ok fields ↔ raw = .map fields := by
  cases raw <;> simp [hostFields]

theorem hostFields_error {raw : Yaml} {e : PyExc} : hostFields raw idx = .error e ↔
    (∀ fields, raw ≠ .map fields) ∧ e = hostError idx (" must be a mapping, got " ++ raw.typeName) := by
  refine error_iff_of_ok_iff (fun _ => hostFields_ok) (fun e he => ?_) e
  cases raw with
  | map fields => cases he
  | _ => exact (Except.error.inj he).symm

theorem hostHostname_ok {hostname : String} : hostHostname fields idx = .ok hostname ↔ Named fields hostname := by
  unfold hostHostname Named
  simp only [← Yaml.str?_eq_some]
  cases (fields.getD "hostname" .null).str? with
  | none => simp
  | some name =>
    simp only [Option.some.injEq, exists_eq_left']
    split_ifs with hempty
    · simp only [false_iff, not_and, not_not]
      rintro rfl
      exact hempty
    · simp only [Except.ok.injEq, iff_self_and]
      rintro rfl
      exact hempty

theorem hostHostname_error {e : PyExc} : hostHostname fields idx = .error e ↔
    (∀ hostname, ¬ Named fields hostname) ∧
      e = hostError idx ".hostname is required and must be a non-empty string" := by
  refine error_iff_of_ok_iff (fun _ => hostHostname_ok) (fun e he => ?_) e
  unfold hostHostname at he
  split at he
  · split_ifs at he
    exact (Except.error.inj he).symm
  · exact (Except.error.inj he).symm

theorem hostTags_ok {tags : List String} : hostTags fields idx = .ok tags ↔ Tagged fields tags := by
  unfold hostTags Tagged
  cases fields.getD "tags" (.seq []) with
  | seq xs =>
    rw [Yaml.seq.injEq, ← mapM_str?]
    cases hxs : xs.mapM Yaml.str? <;> simp [hxs]
  | _ => simp

theorem hostTags_error {e : PyExc} : hostTags fields idx = .error e ↔
    (∀ tags, ¬ Tagged fields tags) ∧ e = hostError idx ".tags must be a list of strings if present" := by
  refine error_iff_of_ok_iff (fun _ => hostTags_ok) (fun e he => ?_) e
  unfold hostTags at he
  split at he
  · split at he
    · cases he
    · exact (Except.error.inj he).symm
  · exact (Except.error.inj he).symm

theorem hostDisplayName_ok {display_name : Option String} :
    hostDisplayName fields idx = .ok display_name ↔ Shown fields display_name := by
  unfold hostDisplayName Shown
  cases fields.getD "display_name" .null <;> cases display_name <;> simp

theorem hostDisplayName_error {e : PyExc} : hostDisplayName fields idx = .error e ↔
    (∀ display_name, ¬ Shown fields display_name) ∧
      e = hostError idx ".display_name must be a string if present" := by
  refine error_iff_of_ok_iff (fun _ => hostDisplayName_ok) (fun e he => ?_) e
  unfold hostDisplayName at he
  split at he
  · cases he
  · cases he
  · exact (Except.error.inj he).symm

end

/-- One read after the other. -/
theorem except_bind_eq_error {α β : Type} {x : Except PyExc α} {f : α → Except PyExc β} {e : PyExc} :
    (x >>= f) = .error e ↔ x = .error e ∨ ∃ a, x = .ok a ∧ f a = .error e := by
  cases x <;> simp [bind, Except.bind]

variable {raw : Yaml} {idx : Nat}

/-- **A host is read exactly when it is one.** -/
theorem parseHost_ok {host : HostConfig} : parseHost raw idx = .ok host ↔ HostReads raw host := by
  unfold parseHost
  simp only [except_bind_eq_ok, hostFields_ok, hostHostname_ok, hostTags_ok, hostDisplayName_ok]
  constructor
  · rintro ⟨fields, rfl, hostname, hname, tags, htags, display_name, hshown, port, hport, hhost⟩
    obtain rfl := Except.ok.inj hhost
    exact .intro hname htags hshown hport
  · rintro ⟨hname, htags, hshown, hport⟩
    exact ⟨_, rfl, _, hname, _, htags, _, hshown, _, hport, rfl⟩

/-- **The error of a host is about the first thing that is wrong with it.** -/
theorem parseHost_error {e : PyExc} : parseHost raw idx = .error e ↔ HostFault idx raw e := by
  unfold parseHost
  simp only [except_bind_eq_error, hostFields_ok, hostFields_error, hostHostname_ok, hostHostname_error, hostTags_ok,
    hostTags_error, hostDisplayName_ok, hostDisplayName_error]
  constructor
  · rintro (⟨hraw, rfl⟩ | ⟨fields, rfl, ⟨hname, rfl⟩ | ⟨hostname, hname, ⟨htags, rfl⟩ | ⟨tags, htags, ⟨hshown, rfl⟩ |
      ⟨display_name, hshown, hport | ⟨port, -, hret⟩⟩⟩⟩⟩)
    · exact .notMapping hraw
    · exact .hostname hname
    · exact .tags hname htags
    · exact .displayName hname htags hshown
    · exact .port hname htags hshown hport
    · cases hret
  · rintro (hraw | hname | ⟨hname, htags⟩ | ⟨hname, htags, hshown⟩ | ⟨hname, htags, hshown, hport⟩)
    · exact .inl ⟨hraw, rfl⟩
    · exact .inr ⟨_, rfl, .inl ⟨hname, rfl⟩⟩
    · exact .inr ⟨_, rfl, .inr ⟨_, hname, .inl ⟨htags, rfl⟩⟩⟩
    · exact .inr ⟨_, rfl, .inr ⟨_, hname, .inr ⟨_, htags, .inl ⟨hshown, rfl⟩⟩⟩⟩
    · exact .inr ⟨_, rfl, .inr ⟨_, hname, .inr ⟨_, htags, .inr ⟨_, hshown, .inl hport⟩⟩⟩⟩

/-! ## All hosts -/

theorem parseHosts_ok {raws : List Yaml} {hosts : List HostConfig} :
    parseHosts idx raws = .ok hosts ↔ List.Forall₂ HostReads raws hosts := by
  induction raws generalizing idx hosts with
  | nil =>
    constructor
    · intro h
      obtain rfl := Except.ok.inj h
      exact .nil
    · rintro ⟨⟩
      rfl
  | cons raw raws ih =>
    simp only [parseHosts, except_bind_eq_ok, parseHost_ok, ih]
    constructor
    · rintro ⟨host, hhost, hosts, hhosts, hret⟩
      obtain rfl := Except.ok.inj hret
      exact .cons hhost hhosts
    · rintro (_ | ⟨hhost, hhosts⟩)
      exact ⟨_, hhost, _, hhosts, rfl⟩

theorem reads_of_mem {raws : List Yaml} {hosts : List HostConfig} (h : List.Forall₂ HostReads raws hosts)
    {host : HostConfig} (hhost : host ∈ hosts) : ∃ raw, HostReads raw host := by
  induction h with
  | nil => cases hhost
  | cons hread _ ih =>
    rcases List.mem_cons.mp hhost with rfl | hhost
    · exact ⟨_, hread⟩
    · exact ih hhost

/-- The first host at fault is the one that the error is about, by its place. -/
theorem parseHosts_error {raws : List Yaml} {e : PyExc} :
    parseHosts idx raws = .error e ↔ ∃ pre raw post, raws = pre ++ raw :: post ∧
      (∀ r ∈ pre, ∃ host, HostReads r host) ∧ HostFault (idx + pre.length) raw e := by
  induction raws generalizing idx with
  | nil =>
    constructor
    · rintro ⟨⟩
    · rintro ⟨pre, raw, post, hsplit, -⟩
      simp at hsplit
  | cons raw raws ih =>
    simp only [parseHosts, except_bind_eq_error, parseHost_ok, parseHost_error, ih]
    constructor
    · rintro (hfault | ⟨host, hhost, ⟨pre, raw', post, rfl, hpre, hfault⟩ | ⟨hosts, -, hret⟩⟩)
      · exact ⟨[], raw, raws, rfl, nofun, hfault⟩
      · refine ⟨raw :: pre, raw', post, rfl, ?_, ?_⟩
        · rw [List.forall_mem_cons]
          exact ⟨⟨host, hhost⟩, hpre⟩
        · rw [List.length_cons, Nat.add_comm pre.length 1, ← Nat.add_assoc]
          exact hfault
      · cases hret
    · rintro ⟨pre, raw', post, hsplit, hpre, hfault⟩
      cases pre with
      | nil =>
        obtain ⟨rfl, rfl⟩ := List.cons.inj hsplit
        exact .inl hfault
      | cons first pre =>
        obtain ⟨rfl, rfl⟩ := List.cons.inj hsplit
        rw [List.forall_mem_cons] at hpre
        obtain ⟨⟨host, hhost⟩, hpre⟩ := hpre
        rw [List.length_cons, Nat.add_comm pre.length 1, ← Nat.add_assoc] at hfault
        exact .inr ⟨host, hhost, .inl ⟨pre, raw', post, rfl, hpre, hfault⟩⟩

/-! ## The config -/

section

variable (rt : Runtime) (str : Yaml → String)

/-- What is read from a config. -/
inductive ConfigReads : Yaml → AgentConfig → Prop where
  | intro {raw : YamlMap} {raws : List Yaml} {config : AgentConfig} (hhosts : raw.getD "hosts" .null = .seq raws)
      (hnonempty : raws ≠ []) (hreads : List.Forall₂ HostReads raws config.hosts)
      (hsweep : (raw.getD "sweep_interval_seconds" (.int 3600)).toInt = .ok config.sweep_interval_seconds)
      (hmax : (raw.getD "max_concurrency" (.int 20)).toInt = .ok config.max_concurrency)
      (hlevel : config.log_level = rt.upper ((raw.getD "log_level" (.str "INFO")).text str))
      (htcp : (raw.getD "tcp_connect_seconds" (.float (.finite 5))).toFloat rt =
        .ok config.tcp_connect_seconds)
      (htls : (raw.getD "tls_handshake_seconds" (.float (.finite 5))).toFloat rt =
        .ok config.tls_handshake_seconds) : ConfigReads (.map raw) config

/-- The first number that is none, and the error about it. -/
inductive NumberFault (raw : YamlMap) : PyExc → Prop where
  | sweep {e : PyExc} (hsweep : (raw.getD "sweep_interval_seconds" (.int 3600)).toInt = .error e) :
      NumberFault raw e
  | max {sweep : Int} {e : PyExc} (hsweep : (raw.getD "sweep_interval_seconds" (.int 3600)).toInt = .ok sweep)
      (hmax : (raw.getD "max_concurrency" (.int 20)).toInt = .error e) : NumberFault raw e
  | tcp {sweep max : Int} {e : PyExc}
      (hsweep : (raw.getD "sweep_interval_seconds" (.int 3600)).toInt = .ok sweep)
      (hmax : (raw.getD "max_concurrency" (.int 20)).toInt = .ok max)
      (htcp : (raw.getD "tcp_connect_seconds" (.float (.finite 5))).toFloat rt = .error e) : NumberFault raw e
  | tls {sweep max : Int} {tcp : PyFloat} {e : PyExc}
      (hsweep : (raw.getD "sweep_interval_seconds" (.int 3600)).toInt = .ok sweep)
      (hmax : (raw.getD "max_concurrency" (.int 20)).toInt = .ok max)
      (htcp : (raw.getD "tcp_connect_seconds" (.float (.finite 5))).toFloat rt = .ok tcp)
      (htls : (raw.getD "tls_handshake_seconds" (.float (.finite 5))).toFloat rt = .error e) :
      NumberFault raw e

/-- The first thing that is wrong with a value that is no config. -/
inductive ConfigFault : Yaml → PyExc → Prop where
  | root {raw : Yaml} (hraw : ∀ entries, raw ≠ .map entries) :
      ConfigFault raw (.valueError ("config root must be a mapping, got " ++ raw.typeName))
  | hosts {raw : YamlMap} (hhosts : ∀ host hosts, raw.getD "hosts" .null ≠ .seq (host :: hosts)) :
      ConfigFault (.map raw) (.valueError "config.hosts must be a non-empty list")
  | host {raw : YamlMap} {pre post : List Yaml} {host : Yaml} {e : PyExc}
      (hhosts : raw.getD "hosts" .null = .seq (pre ++ host :: post)) (hpre : ∀ r ∈ pre, ∃ h, HostReads r h)
      (hfault : HostFault pre.length host e) : ConfigFault (.map raw) e
  | number {raw : YamlMap} {raws : List Yaml} {hosts : List HostConfig} {e : PyExc}
      (hhosts : raw.getD "hosts" .null = .seq raws) (hnonempty : raws ≠ [])
      (hreads : List.Forall₂ HostReads raws hosts) (hfault : NumberFault rt raw e) : ConfigFault (.map raw) e

variable {rt str}

theorem parseConfig_ok {entries : YamlMap} {config : AgentConfig} :
    parseConfig rt str entries = .ok config ↔ ConfigReads rt str (.map entries) config := by
  unfold parseConfig
  split
  · rename_i first rest hhosts
    simp only [except_bind_eq_ok, parseHosts_ok]
    constructor
    · rintro ⟨hosts, hreads, sweep, hsweep, max, hmax, tcp, htcp, tls, htls, hret⟩
      obtain rfl := Except.ok.inj hret
      exact .intro hhosts (List.cons_ne_nil first rest) hreads hsweep hmax rfl htcp htls
    · rintro ⟨hhosts', -, hreads, hsweep, hmax, hlevel, htcp, htls⟩
      obtain rfl := Yaml.seq.inj (hhosts.symm.trans hhosts')
      refine ⟨_, hreads, _, hsweep, _, hmax, _, htcp, _, htls, ?_⟩
      rw [← hlevel]
      rfl
  · rename_i hno
    constructor
    · rintro ⟨⟩
    · rintro ⟨hhosts, hnonempty, -⟩
      obtain ⟨first, rest, rfl⟩ := List.exists_cons_of_ne_nil hnonempty
      exact absurd hhosts (hno first rest)

theorem parseConfig_error {entries : YamlMap} {e : PyExc} :
    parseConfig rt str entries = .error e ↔ ConfigFault rt (.map entries) e := by
  unfold parseConfig
  split
  · rename_i first rest hhosts
    simp only [except_bind_eq_error, parseHosts_ok, parseHosts_error]
    have hne := List.cons_ne_nil first rest
    constructor
    · rintro (⟨pre, raw, post, hsplit, hpre, hfault⟩ | ⟨hosts, hreads, hsweep | ⟨sweep, hsweep, hmax | ⟨max, hmax,
        htcp | ⟨tcp, htcp, htls | ⟨tls, -, hret⟩⟩⟩⟩⟩)
      · rw [Nat.zero_add] at hfault
        exact .host (hsplit ▸ hhosts) hpre hfault
      · exact .number hhosts hne hreads (.sweep hsweep)
      · exact .number hhosts hne hreads (.max hsweep hmax)
      · exact .number hhosts hne hreads (.tcp hsweep hmax htcp)
      · exact .number hhosts hne hreads (.tls hsweep hmax htcp htls)
      · cases hret
    · rintro (hraw | hno | ⟨hhosts', hpre, hfault⟩ | ⟨hhosts', -, hreads, hfault⟩)
      · exact absurd rfl (hraw entries)
      · exact absurd hhosts (hno first rest)
      · refine .inl ⟨_, _, _, Yaml.seq.inj (hhosts.symm.trans hhosts'), hpre, ?_⟩
        rw [Nat.zero_add]
        exact hfault
      · obtain rfl := Yaml.seq.inj (hhosts.symm.trans hhosts')
        refine .inr ⟨_, hreads, ?_⟩
        cases hfault with
        | sweep hsweep => exact .inl hsweep
        | max hsweep hmax => exact .inr ⟨_, hsweep, .inl hmax⟩
        | tcp hsweep hmax htcp => exact .inr ⟨_, hsweep, .inr ⟨_, hmax, .inl htcp⟩⟩
        | tls hsweep hmax htcp htls => exact .inr ⟨_, hsweep, .inr ⟨_, hmax, .inr ⟨_, htcp, .inl htls⟩⟩⟩
  · rename_i hno
    constructor
    · intro he
      obtain rfl := Except.error.inj he
      exact .hosts hno
    · rintro (hraw | - | ⟨hhosts, -, -⟩ | ⟨hhosts, hnonempty, -, -⟩)
      · exact absurd rfl (hraw entries)
      · rfl
      · rename_i pre post host
        cases pre with
        | nil => exact absurd hhosts (hno host post)
        | cons first pre => exact absurd hhosts (hno first _)
      · obtain ⟨first, rest, rfl⟩ := List.exists_cons_of_ne_nil hnonempty
        exact absurd hhosts (hno first rest)

end

/-- What `strip` leaves has nothing more to strip. -/
theorem strip_strip (s : String) : strip (strip s) = strip s := by
  have htrim : ∀ cs : List Char, stripBy isSpace cs = (cs.dropWhile isSpace).rdropWhile isSpace := fun _ => rfl
  unfold strip
  rw [String.toList_ofList]
  simp only [htrim]
  congr 1
  generalize s.toList = cs
  have hleft : ((cs.dropWhile isSpace).rdropWhile isSpace).dropWhile isSpace =
      (cs.dropWhile isSpace).rdropWhile isSpace := by
    rw [List.dropWhile_eq_self_iff]
    intro hpos
    -- the first character is that of the longer list
    have htrimmed := List.rdropWhile_prefix isSpace (cs.dropWhile isSpace)
    have hpos' : 0 < (cs.dropWhile isSpace).length := Nat.lt_of_lt_of_le hpos htrimmed.length_le
    rw [htrimmed.getElem hpos]
    exact List.dropWhile_get_zero_not isSpace cs hpos'
  rw [hleft, List.rdropWhile_idempotent]

theorem ConfigReads.hosts {rt : Runtime} {str : Yaml → String} {raw : Yaml} {config : AgentConfig}
    (h : ConfigReads rt str raw config) : config.hosts ≠ [] ∧
      ∀ host ∈ config.hosts, host.hostname ≠ "" ∧ strip host.hostname = host.hostname := by
  obtain ⟨-, hnonempty, hreads, -⟩ := h
  refine ⟨?_, fun host hhost => ?_⟩
  · intro hnil
    rw [hnil] at hreads
    cases hreads
    exact hnonempty rfl
  · obtain ⟨raw, ⟨name, -, hname, hne⟩, -⟩ := reads_of_mem hreads hhost
    refine ⟨hne, ?_⟩
    rw [← hname]
    exact strip_strip name

example (rt : Runtime) (str : Yaml → String) :
    loadConfig rt str (.ok (.map [(.str "hosts", .seq [.map [(.str "hostname", .str " a.example ")], .int 7])])) =
      .error (.valueError "hosts[1] must be a mapping, got int") := rfl

end CertWatch
