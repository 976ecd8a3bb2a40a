/-
# `CertWatch.CertCheck` — the two-stage check of a host that is known by name.

`cert_check.py` over the calls it makes to the network.  Stage 1 is a verified handshake; when the
verification fails, stage 2 connects again without it to recover the certificate.  A call names the connection
it belongs to, so that no call to the network is made twice in one check.
-/
import CertWatch.CaCategory
import CertWatch.Lib.Prog

namespace CertWatch

open CertWatch.Lib

/-! ## The calls of a check -/

/-- The connections of a check in their order: the stages of one function, the handshakes of the other. -/
inductive Connection where
  | first
  | second
  | third
  deriving DecidableEq, Repr

/-- Where a check reads the clock. -/
inductive Reading where
  | checkedAt
  | decision
  | result
  deriving DecidableEq, Repr

/-- The TLS context of a handshake. -/
inductive TlsContext where
  /-- `create_default_context()`. -/
  | default
  /-- No hostname check and `CERT_NONE`. -/
  | unverified
  /-- Hostname check and `CERT_REQUIRED` over an empty trust store. -/
  | hostnameOnly
  deriving DecidableEq, Repr

/-- What a check asks of its surroundings. -/
inductive CheckOp where
  /-- `shutdown_event.is_set()`, when a worker picks the task up. -/
  | isSet
  | utcNow (reading : Reading)
  | connect (c : Connection) (host : Json) (port : Int) (timeout : PyFloat)
  | settimeout (c : Connection) (timeout : PyFloat)
  | context (c : Connection) (kind : TlsContext)
  | wrapSocket (c : Connection) (server_hostname : Json)
  | getpeercert (c : Connection)
  /-- Closing the TLS socket. -/
  | closeTls (c : Connection)
  /-- Closing the TCP socket. -/
  | close (c : Connection)
  /-- `x509.load_der_x509_certificate`; what it raises is part of its answer. -/
  | loadDer (der : Option (List UInt8))
  deriving DecidableEq, Repr

/-- What each call returns. -/
abbrev CheckOp.Ret : CheckOp → Type
  | .isSet => Bool
  | .utcNow _ => Nat
  | .getpeercert _ => Option (List UInt8)
  | .loadDer _ => Except X509Error Certificate
  | _ => Unit

abbrev checkSig : Sig := ⟨CheckOp, CheckOp.Ret⟩

/-- Programs over the calls of a check. -/
abbrev Check (α : Type) := Prog checkSig PyExc α

abbrev checkCall (o : CheckOp) : Check o.Ret := Prog.perform (S := checkSig) o

/-- How one check's surroundings answer: its look at the shutdown event, the clock, the network, and the
parsing of the bytes that a peer presents.  The clock and the event raise nothing. -/
structure CheckScript where
  signaled : Bool := false
  clock : Reading → Nat := fun _ => 0
  connect : Connection → Json → Int → PyFloat → Except PyExc Unit
  settimeout : Connection → PyFloat → Except PyExc Unit := fun _ _ => .ok ()
  context : Connection → TlsContext → Except PyExc Unit := fun _ _ => .ok ()
  wrapSocket : Connection → Json → Except PyExc Unit
  getpeercert : Connection → Except PyExc (Option (List UInt8))
  closeTls : Connection → Except PyExc Unit := fun _ => .ok ()
  close : Connection → Except PyExc Unit := fun _ => .ok ()
  loadDer : Option (List UInt8) → Except X509Error Certificate

/-- The answer to each call. -/
def CheckScript.answer (script : CheckScript) : (o : CheckOp) → Except PyExc o.Ret
  | .isSet => .ok script.signaled
  | .utcNow reading => .ok (script.clock reading)
  | .connect c host port timeout => script.connect c host port timeout
  | .settimeout c timeout => script.settimeout c timeout
  | .context c kind => script.context c kind
  | .wrapSocket c server_hostname => script.wrapSocket c server_hostname
  | .getpeercert c => script.getpeercert c
  | .closeTls c => script.closeTls c
  | .close c => script.close c
  | .loadDer der => .ok (script.loadDer der)

/-- `x509.load_der_x509_certificate(der)`. -/
def loadCertificate (der : Option (List UInt8)) : Check Certificate := do
  let loaded ← checkCall (.loadDer der)
  .ofExcept (loaded.mapError X509Error.exc)

/-- `try: p finally: sock.close()`, the closing guarded by `except Exception: pass`. -/
def finallyClose {α : Type} (c : Connection) (p : Check α) : Check α := do
  let r ← p.attempt
  let _ ← (checkCall (.close c)).attempt
  .ofExcept r

/-! ## Results -/

/-- `ResultState`. -/
inductive ResultState where
  | success
  | connectionFailed
  | tlsFailed
  deriving DecidableEq, Repr

/-- The string that stands for it on the wire. -/
def ResultState.text : ResultState → String
  | .success => "success"
  | .connectionFailed => "connection_failed"
  | .tlsFailed => "tls_failed"

structure CertResult where
  state : ResultState
  hostname : Json
  port : Int
  checked_at : String
  error_message : Option String := none
  subject_cn : Option String := none
  subject_sans : List String := []
  issuer_cn : Option String := none
  issuer_o : Option String := none
  issuer_full_dn : Option String := none
  ca_category : Option CaCategory := none
  is_self_signed : Option Bool := none
  not_before : Option String := none
  not_after : Option String := none
  days_until_expiry : Option Int := none
  signature_algorithm : Option String := none
  key_size : Option Int := none
  hostname_matches : Option Bool := none
  chain_trusted_by_system : Option Bool := none
  chain_error_reason : Option String := none
  deriving DecidableEq, Repr

/-- `_verify_info`: the code, and `verify_message` or else `str(e)`. -/
def verifyInfo (e : OSError) (verify_code : Option Int) (verify_message : Option String) : Option Int × String :=
  (verify_code, match verify_message with
    | some m => if m = "" then e.text else m
    | none => e.text)

section

variable (rt : Runtime) (hostname : Json) (port : Int)

/-- `hn_match`: the override, or else what the certificate says. -/
def hostnameVerdict (cert : Certificate) (hostname_matches_override : Option Bool) : Except PyExc Bool :=
  match hostname_matches_override with
  | some b => .ok b
  | none => hostnameMatches rt hostname cert

/-- What `_build_result` computes once it has read the clock. -/
def resultOfCert (cert : Certificate) (now : Nat) (checked_at : String) (state : ResultState) (trusted : Bool)
    (verify_code : Option Int) (error_reason : Option String) (hostname_matches_override : Option Bool) :
    Except PyExc CertResult := do
  let sans ← subjectAltNames cert
  let is_self_signed := decide (cert.subject = cert.issuer)
  let hn_match ← hostnameVerdict rt hostname cert hostname_matches_override
  let issuer_full_dn := rt.rfc4514_string cert.issuer
  let signature_algorithm ← signatureAlgorithm rt cert
  let key_size ← keySize cert
  return {
    state, hostname, port, checked_at
    error_message := if trusted then none else error_reason
    subject_cn := firstAttr cert.subject .commonName
    subject_sans := sans
    issuer_cn := firstAttr cert.issuer .commonName
    issuer_o := firstAttr cert.issuer .organizationName
    issuer_full_dn := some issuer_full_dn
    ca_category := some (categorizeCa rt is_self_signed (chainPathTrusted verify_code) (some issuer_full_dn))
    is_self_signed := some is_self_signed
    not_before := some (isoZ cert.not_valid_before_utc)
    not_after := some (isoZ cert.not_valid_after_utc)
    days_until_expiry := some (daysUntil cert.not_valid_after_utc now)
    signature_algorithm, key_size
    hostname_matches := some hn_match
    chain_trusted_by_system := some trusted
    chain_error_reason := error_reason }

/-- `_build_result`. -/
def buildResult (cert : Certificate) (checked_at : String) (state : ResultState) (trusted : Bool)
    (verify_code : Option Int) (error_reason : Option String) (hostname_matches_override : Option Bool) :
    Check CertResult := do
  let now ← checkCall (.utcNow .result)
  .ofExcept (resultOfCert rt hostname port cert now checked_at state trusted verify_code error_reason
    hostname_matches_override)

/-! ## The two stages -/

/-- `with ctx.wrap_socket(sock, server_hostname=hostname) as ssock: der = ssock.getpeercert(binary_form=True)`. -/
def peerCertificate (c : Connection) : Check (Option (List UInt8)) := do
  checkCall (.wrapSocket c hostname)
  let der ← (checkCall (.getpeercert c)).attempt
  checkCall (.closeTls c)
  .ofExcept der

/-- How stage 1 ends when it does not raise. -/
inductive StageOne where
  | done (r : CertResult)
  | verifyFailed (verify_code : Option Int) (verify_error : String)

/-- The inner `try` block of stage 1. -/
def verifiedResult (checked_at : String) : Check CertResult := do
  let der ← peerCertificate hostname .first
  let cert ← loadCertificate der
  buildResult rt hostname port cert checked_at .success true none none (some true)

/-- The `except` clauses of stage 1. -/
def afterVerifiedResult (checked_at : String) : Except PyExc CertResult → Check StageOne
  | .ok r => return .done r
  | .error (.os e) => match e.kind with
    | .sslCertVerification verify_code verify_message =>
      let (code, error) := verifyInfo e verify_code verify_message
      return .verifyFailed code error
    | _ => return .done { state := .tlsFailed, hostname, port, checked_at, error_message := some e.describe }
  | .error e => .raise e

/-- Stage 1 on a connected socket. -/
def stageOne (checked_at : String) (handshake_timeout : PyFloat) : Check StageOne := do
  checkCall (.settimeout .first handshake_timeout)
  let handshake : Check StageOne := do
    checkCall (.context .first .default)
    let outcome ← (verifiedResult rt hostname port checked_at).attempt
    afterVerifiedResult hostname port checked_at outcome
  finallyClose .first handshake

/-- A certificate that stage 2 could not recover, and why. -/
def unrecovered (checked_at verify_error reason : String) : CertResult where
  state := .tlsFailed
  hostname
  port
  checked_at
  error_message := some ("verify_failed:" ++ verify_error ++ "; " ++ reason)
  chain_trusted_by_system := some false
  chain_error_reason := some verify_error

/-- Stage 2 on a connected socket: the peer's certificate without verification, or the result without one. -/
def recoverCertificate (checked_at verify_error : String) : Check (CertResult ⊕ Option (List UInt8)) := do
  checkCall (.context .second .unverified)
  match ← (peerCertificate hostname .second).attempt with
  | .ok der => return .inr der
  | .error (.os e) =>
    return .inl (unrecovered hostname port checked_at verify_error ("retry_handshake:" ++ e.describe))
  | .error e => .raise e

/-- Stage 2. -/
def stageTwo (checked_at : String) (verify_code : Option Int) (verify_error : String)
    (connect_timeout handshake_timeout : PyFloat) : Check CertResult := do
  match ← (checkCall (.connect .second hostname port connect_timeout)).attempt with
  | .error (.os e) => return unrecovered hostname port checked_at verify_error ("retry_connect:" ++ e.describe)
  | .error e => .raise e
  | .ok _ => do
    checkCall (.settimeout .second handshake_timeout)
    match ← finallyClose .second (recoverCertificate hostname port checked_at verify_error) with
    | .inl r => return r
    | .inr der => do
      let cert ← loadCertificate der
      buildResult rt hostname port cert checked_at .tlsFailed false verify_code (some verify_error) none

/-- `cert_check`. -/
def certCheck (connect_timeout handshake_timeout : PyFloat) : Check CertResult := do
  let checked_at ← isoZ <$> checkCall (.utcNow .checkedAt)
  match ← (checkCall (.connect .first hostname port connect_timeout)).attempt with
  | .error (.os e) =>
    return { state := .connectionFailed, hostname, port, checked_at, error_message := some e.describe }
  | .error e => .raise e
  | .ok _ => do
    match ← stageOne rt hostname port checked_at handshake_timeout with
    | .done r => return r
    | .verifyFailed verify_code verify_error =>
      stageTwo rt hostname port checked_at verify_code verify_error connect_timeout handshake_timeout

end

end CertWatch
