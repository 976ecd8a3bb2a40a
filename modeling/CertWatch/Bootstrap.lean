/-
# `CertWatch.Bootstrap` — from the environment and `agent.json` to a client and a first config.

`bootstrap.py` over the calls of `CertWatch.Agent`.  The retry loops are `while True` and take fuel.  Credentials
are whatever the file or the register response holds, so they are documents; what they must be for the client
to be built and used is checked where the source checks it.
-/
import CertWatch.HeartbeatThread

namespace CertWatch

open CertWatch.Lib

/-- The environment variables of the process. -/
abbrev Env := String → Option String

/-- `BootstrapError`. -/
def bootstrapError : PyExc := .other "BootstrapError"

/-- `BACKOFF_SCHEDULE` of `bootstrap.py`. -/
def bootstrapBackoffSchedule : List Rat := [5, 15, 30, 60, 120]

/-- `_backoff_delay` of `bootstrap.py`, which counts attempts from 0. -/
def bootstrapBackoffDelay (attempt : Nat) : Rat := scheduledDelay bootstrapBackoffSchedule (attempt + 1)

/-- `DEFAULT_CONFIG`. -/
def defaultConfig : Dict :=
  [("config_version", .int 0), ("fetched_at", .str "1970-01-01T00:00:00Z"),
    ("intervals", .obj [("heartbeat_seconds", .int 15), ("check_seconds", .int 3600),
      ("netbox_sync_seconds", .int 3600)]),
    ("timeouts", .obj [("tcp_connect_seconds", .int 5), ("tls_handshake_seconds", .int 5)]),
    ("concurrency", .obj [("max_parallel_checks", .int 20)]),
    ("alert_thresholds_days", .arr [.int 30, .int 7, .int 1]), ("manual_hosts", .arr [])]

structure BootstrapResult where
  client : DashboardClient
  agent_id : Json
  agent_secret : Json
  dashboard_url : Json
  initial_config : Dict
  registered_at : Json

/-! ## The environment -/

/-- `_require_env`. -/
def requireEnv (env : Env) (name : String) : Except PyExc String :=
  match env name with
  | some val => if strip val = "" then .error bootstrapError else .ok (strip val)
  | none => .error bootstrapError

/-- `env.get(name, "").strip()`. -/
def envText (env : Env) (name : String) : String := strip ((env name).getD "")

/-- `validate_netbox_env`. -/
def validateNetboxEnv (env : Env) : Except PyExc Unit :=
  if envText env "NETBOX_URL" = "" then
    .ok ()
  else if envText env "NETBOX_TOKEN" = "" ∨ envText env "NETBOX_FILTER" = "" then
    .error bootstrapError
  else
    .ok ()

/-- `_ARCH_MAP`. -/
def archMap : List (String × String) :=
  [("x86_64", "amd64"), ("amd64", "amd64"), ("aarch64", "arm64"), ("arm64", "arm64"), ("armv7l", "arm/v7"),
    ("i386", "386"), ("i686", "386")]

section

variable (rt : Runtime) (env : Env)

/-- `resolve_hostname`, before there is an agent id. -/
def resolveAgentHostname : Agent String :=
  if envText env "AGENT_HOSTNAME" = "" then do
    let hn ← (agentCall .gethostname).tryCatch fun e => match e with
      | .os _ => .ret ""
      | e => .raise e
    if hn ≠ "" ∧ rt.lower hn ≠ "localhost" then
      return hn
    else do
      let id ← agentCall .uuid4
      return "certwatch-" ++ String.ofList ((id.toList.filter (· != '-')).take 8)
  else
    return envText env "AGENT_HOSTNAME"

/-- `resolve_platform`. -/
def resolvePlatform : Agent (Option String) := do
  let names : Agent (String × String) := do
    let sys_name ← agentCall .platformSystem
    let machine ← agentCall .platformMachine
    return (rt.lower sys_name, rt.lower machine)
  match ← names.attempt with
  | .error _ => return none
  | .ok (sys_name, machine) =>
    return if sys_name = "" ∨ machine = "" then none
      else some (sys_name ++ "/" ++ (archMap.lookup machine).getD machine)

/-! ## Registering -/

/-- `dashboard_url.rstrip("/")`. -/
def rstripSlashes (dashboard_url : String) : String :=
  String.ofList (dashboard_url.toList.reverse.dropWhile (· == '/')).reverse

/-- The body of `register`. -/
def registerBody (agent_version hostname started_at : String) (platform : Option String) : Dict :=
  [("agent_version", .str agent_version), ("hostname", .str hostname), ("started_at", .str started_at)] ++
    match platform with
    | some p => [("platform", .str p)]
    | none => []

/-- The path of `register`. -/
def registerPath : String := "/api/public/v1/agents/register"

/-- `DashboardClient.register`, of a client of this dashboard without credentials. -/
def registerAgent (dashboard_url registration_token : String) (body : Dict) : Agent Json :=
  request "POST" registerPath (agentCall (.register dashboard_url registration_token body))

/-- `_register_with_backoff`, after so many attempts. -/
def registerWithBackoff (dashboard_url registration_token : String) (body : Dict) : Nat → Nat → Agent Json
  | 0, _ => .hang
  | fuel + 1, attempt => do
    let outcome ← (registerAgent dashboard_url registration_token body).attempt
    match outcome with
    | .ok register_resp => return register_resp
    | .error (.dashboard e) =>
      if e.kind.isRetriable then do
        agentCall (.sleep (bootstrapBackoffDelay attempt))
        registerWithBackoff dashboard_url registration_token body fuel (attempt + 1)
      else
        -- a rejected token, a conflict, a validation failure and every other dashboard error are fatal
        .raise bootstrapError
    | .error e => .raise e

/-! ## The first config -/

/-- `DashboardClient(dashboard_url, ...)`: the constructor strips slashes off a string. -/
def dashboardClient (dashboard_url agent_id agent_secret : Json) : Except PyExc DashboardClient :=
  match dashboard_url with
  | .str dashboard_url => .ok {
      dashboard_url := rstripSlashes dashboard_url, agent_id := rt.format agent_id
      agent_secret := rt.format agent_secret }
  | _ => .error .attributeError

variable {rt} in
theorem dashboardClient_eq_ok {dashboard_url agent_id agent_secret : Json} {client : DashboardClient} :
    dashboardClient rt dashboard_url agent_id agent_secret = .ok client ↔ ∃ url, dashboard_url = .str url ∧
      client = ⟨rstripSlashes url, rt.format agent_id, rt.format agent_secret, "/api/public/v1"⟩ := by
  cases dashboard_url with
  | str url => simp [dashboardClient, eq_comm]
  | _ => simp [dashboardClient]

/-- `_require_credentials`. -/
def requireCredentials (agent_id agent_secret : Json) : Except PyExc Unit :=
  if agent_id = .null ∨ agent_secret = .null then
    .error (.valueError "operation requires both agent_id and agent_secret on the client")
  else
    .ok ()

/-- What `_fetch_initial_config_with_retry` makes of a fetched document, its log record included. -/
def acceptInitialConfig (cfg : Json) : Except PyExc Dict :=
  match cfg with
  | .obj config => do
    let _ ← ((Dict.getD config "manual_hosts" (.arr [])).or (.arr [])).len
    return config
  | _ => .error .attributeError

/-- `_fetch_initial_config_with_retry`, after so many failed attempts. -/
def fetchInitialConfigWithRetry (client : DashboardClient) (agent_id agent_secret : Json) (max_attempts : Nat) :
    Nat → Nat → Agent Dict
  | 0, _ => .hang
  | fuel + 1, attempt => do
    let fetch : Agent Json := do
      .ofExcept (requireCredentials agent_id agent_secret)
      getConfig client
    match ← fetch.attempt with
    | .ok cfg => .ofExcept (acceptInitialConfig cfg)
    | .error (.dashboard e) =>
      if e.kind.isRetriable then
        if attempt + 1 ≥ max_attempts then
          return defaultConfig
        else do
          agentCall (.sleep (bootstrapBackoffDelay attempt))
          fetchInitialConfigWithRetry client agent_id agent_secret max_attempts fuel (attempt + 1)
      else
        .raise bootstrapError
    | .error e => .raise e

/-! ## The two paths -/

/-- `_bootstrap_subsequent_run`; the client is bound to the dashboard of the credentials. -/
def bootstrapSubsequentRun (creds : Dict) (fuel : Nat) : Agent BootstrapResult := do
  let agent_id ← .ofExcept (creds.getItem "agent_id")
  let agent_secret ← .ofExcept (creds.getItem "agent_secret")
  let dashboard_url ← .ofExcept (creds.getItem "dashboard_url")
  let client ← .ofExcept (dashboardClient rt dashboard_url agent_id agent_secret)
  let initial_config ← fetchInitialConfigWithRetry client agent_id agent_secret 1 fuel 0
  return {
    client, agent_id, agent_secret, dashboard_url, initial_config
    registered_at := Dict.getD creds "registered_at" (.str "") }

/-- `_bootstrap_first_run`. -/
def bootstrapFirstRun (agent_version dashboard_url : String) (fuel : Nat) : Agent BootstrapResult := do
  let registration_token ← .ofExcept (requireEnv env "REGISTRATION_TOKEN")
  let hostname ← resolveAgentHostname rt env
  let plat ← resolvePlatform rt
  let started_at ← agentCall .utcNowIso
  let register_resp ← registerWithBackoff (rstripSlashes dashboard_url) registration_token
    (registerBody agent_version hostname started_at plat) fuel 0
  let agent_id ← .ofExcept (register_resp.item "agent_id")
  let agent_secret ← .ofExcept (register_resp.item "agent_secret")
  let registered_at ← .ofExcept (register_resp.item "registered_at")
  (saveCredentials agent_id agent_secret (.str dashboard_url) registered_at).embed credsCalls
  let client ← .ofExcept (dashboardClient rt (.str dashboard_url) agent_id agent_secret)
  let initial_config ← fetchInitialConfigWithRetry client agent_id agent_secret 1 fuel 0
  return { client, agent_id, agent_secret, dashboard_url := .str dashboard_url, initial_config, registered_at }

/-- `bootstrap`. -/
def bootstrap (agent_version : String) (fuel : Nat) : Agent BootstrapResult := do
  let dashboard_url_env ← .ofExcept (requireEnv env "DASHBOARD_URL")
  .ofExcept (validateNetboxEnv env)
  let creds ← (loadCredentials.embed credsCalls).tryCatch fun e =>
    .raise (if e = credentialsCorrupt then bootstrapError else e)
  match creds with
  | some creds => bootstrapSubsequentRun rt creds fuel
  | none => bootstrapFirstRun rt env agent_version dashboard_url_env fuel

end

end CertWatch
