/-
# `CertWatch.AgentCredentials` — `agent.json`, written in one piece or not at all.

`agent_state.py` over the file operations it makes on `<data_dir>/agent.json` and its temporary sibling.
-/
import CertWatch.Exceptions
import CertWatch.Lib.Prog

namespace CertWatch

open CertWatch.Lib

/-! ## The calls -/

/-- What is done to `agent.json` and to `agent.json.tmp`. -/
inductive CredsOp where
  | pathExists
  /-- `open` and `json.load`. -/
  | read
  | mkdir
  | openTmp
  /-- `json.dump` and `flush` into the open temporary file. -/
  | dump (payload : Dict)
  | fsync
  | unlinkTmp
  | replace
  | chmod
  deriving DecidableEq

/-- What each call returns. -/
abbrev CredsOp.Ret : CredsOp → Type
  | .pathExists => Bool
  | .read => Json
  | _ => Unit

abbrev credsSig : Sig := ⟨CredsOp, CredsOp.Ret⟩

/-- Programs over the credentials file. -/
abbrev Creds (α : Type) := Prog credsSig PyExc α

abbrev credsCall (o : CredsOp) : Creds o.Ret := Prog.perform (S := credsSig) o

/-! ## The functions -/

/-- `CredentialsCorruptError`. -/
def credentialsCorrupt : PyExc := .other "CredentialsCorruptError"

/-- What `save_credentials` writes. -/
def credentialsPayload (agent_id agent_secret dashboard_url registered_at : Json) : Dict :=
  [("agent_id", agent_id), ("agent_secret", agent_secret), ("dashboard_url", dashboard_url),
    ("registered_at", registered_at)]

/-- The `try` block of `save_credentials`: fill the temporary file, or unlink it and re-raise. -/
def fillCredentialsTmp (payload : Dict) : Creds Unit :=
  let write : Creds Unit := do
    credsCall (.dump payload)
    credsCall .fsync
  write.tryCatch fun e => do
    (credsCall .unlinkTmp).tryCatch fun e => match e with
      | .os ⟨.fileNotFound, _⟩ => .ret ()
      | e => .raise e
    .raise e

/-- `save_credentials`. -/
def saveCredentials (agent_id agent_secret dashboard_url registered_at : Json) : Creds Unit := do
  credsCall .mkdir
  credsCall .openTmp
  fillCredentialsTmp (credentialsPayload agent_id agent_secret dashboard_url registered_at)
  credsCall .replace
  credsCall .chmod

/-- `load_credentials`. -/
def loadCredentials : Creds (Option Dict) := do
  let present ← credsCall .pathExists
  if present then do
    let data ← (credsCall .read).tryCatch fun e => match e with
      | .jsonDecode => .raise credentialsCorrupt
      | .os _ => .raise credentialsCorrupt
      | e => .raise e
    match data with
    | .obj d => return some d
    | _ => .raise credentialsCorrupt
  else
    return none

end CertWatch
