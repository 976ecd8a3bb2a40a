/-
# `CertWatch.DashboardClient` — from an HTTP exchange to a value or a dashboard exception.

The wire-level half of `dashboard_client.py`: what `_request` makes of a network failure, what
`_handle_response` makes of every status and every body, and the tolerant reader of the error envelope.
The exchange itself is a call on the surroundings, so `request` takes the program that performs it.
-/
import CertWatch.Exceptions
import CertWatch.Lib.Prog

namespace CertWatch

open CertWatch.Lib

/-- What `resp.json()` makes of a response body: a value, or a `ValueError`.  A body that nests beyond the recursion
limit of the interpreter, where it raises `RecursionError`, is left out. -/
inductive Body where
  | json (v : Json)
  | notJson
  deriving DecidableEq, Repr

/-- A response that arrived. -/
structure HttpResponse where
  status : Nat
  body : Body
  deriving DecidableEq, Repr

/-- A client as bootstrap builds it: its credentials are set, so `_require_credentials` passes.  The id and the secret
are kept as `_request` prints them. -/
structure DashboardClient where
  dashboard_url : String
  agent_id : String
  agent_secret : String
  api_path_prefix : String := "/api/public/v1"

/-- The `Authorization` header of its requests. -/
def DashboardClient.authorization (c : DashboardClient) : String := "Bearer " ++ c.agent_secret

def someClient : DashboardClient where
  dashboard_url := "https://dashboard.example"
  agent_id := "agent-1"
  agent_secret := "s3cret"

/-- The path of `submit_report`. -/
def DashboardClient.reportsPath (c : DashboardClient) : String :=
  c.api_path_prefix ++ "/agents/" ++ c.agent_id ++ "/reports"

/-- The path of `submit_discovered_hosts`. -/
def DashboardClient.discoveredHostsPath (c : DashboardClient) : String :=
  c.api_path_prefix ++ "/agents/" ++ c.agent_id ++ "/discovered-hosts"

/-- `_parse_error_envelope`: code, message, request id and body. -/
def parseErrorEnvelope (resp : HttpResponse) : Json × Json × Json × Json :=
  match resp.body with
  | .notJson => (.null, .null, .null, .null)
  | .json (.obj d) => match Dict.getD d "error" .null with
    | .obj err =>
      (Dict.getD err "code" .null, Dict.getD err "message" .null, Dict.getD err "request_id" .null, .obj d)
    | _ => (.null, .null, .null, .obj d)
  | .json v => (.null, .null, .null, v)

/-- The class `_handle_response` raises for a status outside 2xx. -/
def errorKindOfStatus (status : Nat) : DashboardErrorKind :=
  if status = 400 then .validation
  else if status = 401 then .auth
  else if status = 404 then .notFound
  else if status = 409 then .conflict
  else if status = 413 then .payloadTooLarge
  else if status = 429 then .rateLimit
  else if 500 ≤ status ∧ status < 600 then .server
  else .base

/-- `_handle_response`. -/
def handleResponse (method path : String) (resp : HttpResponse) : Except PyExc Json :=
  if 200 ≤ resp.status ∧ resp.status < 300 then
    match resp.body with
    | .json v => .ok v
    | .notJson => .error (.dashboard
        { kind := .base
          message := .str ("non-JSON 2xx response from " ++ method ++ " " ++ path)
          status_code := some resp.status })
  else
    let (code, message, request_id, body) := parseErrorEnvelope resp
    let msg := message.or (.str (method ++ " " ++ path ++ " -> HTTP " ++ toString resp.status))
    .error (.dashboard
      { kind := errorKindOfStatus resp.status
        message := msg
        code := code
        request_id := request_id
        status_code := some resp.status
        -- only the conflict error keeps the body
        body := if resp.status = 409 then body else .null })

/-- `_request` around the exchange `send`: every exception of `requests` is a network error. -/
def request {S : Sig} (method path : String) (send : Prog S PyExc HttpResponse) : Prog S PyExc Json := do
  let resp ← send.tryCatch fun e => match e with
    | .requests => .raise (.dashboard
        { kind := .network, message := .str ("request error calling " ++ method ++ " " ++ path) })
    | e => .raise e
  .ofExcept (handleResponse method path resp)

/-- The delay after so many attempts: the schedule's entries in turn, and its last one from then on. -/
def scheduledDelay (schedule : List Rat) (attempts : Int) : Rat :=
  let idx := max 0 (min (attempts - 1) (schedule.length - 1))
  schedule.getD idx.toNat 0

/-! ## The status decides -/

/-- The class of the error depends on the status alone, and its retriable classes are exactly those
of 429 and 5xx. -/
theorem errorKindOfStatus_isRetriable (status : Nat) :
    (errorKindOfStatus status).isRetriable = true ↔ status = 429 ∨ (500 ≤ status ∧ status < 600) := by
  unfold errorKindOfStatus
  split_ifs <;> simp [DashboardErrorKind.isRetriable] <;> omega

theorem errorKindOfStatus_eq_auth_iff (status : Nat) : errorKindOfStatus status = .auth ↔ status = 401 := by
  unfold errorKindOfStatus
  split_ifs <;> simp <;> omega

/-- 200 is a success. -/
theorem is2xx_200 : 200 ≤ 200 ∧ 200 < 300 := ⟨Nat.le_refl 200, by omega⟩

/-- Outside 2xx every response is an error of the class its status names, whatever the body. -/
theorem handleResponse_error {method path : String} {resp : HttpResponse}
    (h : ¬ (200 ≤ resp.status ∧ resp.status < 300)) :
    ∃ e : DashboardError, handleResponse method path resp = .error (.dashboard e) ∧
      e.kind = errorKindOfStatus resp.status := by
  rw [handleResponse, if_neg h]
  exact ⟨_, rfl, rfl⟩

/-- What the error envelope keeps of a body: the document, or `None`. -/
def Body.document : Body → Json
  | .json v => v
  | .notJson => .null

theorem parseErrorEnvelope_body (resp : HttpResponse) :
    (parseErrorEnvelope resp).2.2.2 = resp.body.document := by
  obtain ⟨status, body⟩ := resp
  cases body with
  | notJson => rfl
  | json v =>
    cases v with
    | obj d =>
      simp only [parseErrorEnvelope, Body.document]
      split <;> rfl
    | _ => rfl

/-- A conflict carries the whole document of its response. -/
theorem handleResponse_conflict {method path : String} {resp : HttpResponse} (h : resp.status = 409) :
    ∃ e : DashboardError, handleResponse method path resp = .error (.dashboard e) ∧
      e.kind = .conflict ∧ e.body = resp.body.document := by
  rw [handleResponse, if_neg (by omega)]
  refine ⟨_, rfl, by rw [h]; rfl, ?_⟩
  show (if resp.status = 409 then (parseErrorEnvelope resp).2.2.2 else .null) = _
  rw [if_pos h, parseErrorEnvelope_body]

end CertWatch
