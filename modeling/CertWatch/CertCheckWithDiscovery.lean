/-
# `CertWatch.CertCheckWithDiscovery` — the three-handshake check of a host that is known by address.

`cert_check_with_discovery.py`: the first handshake reads the certificate, whose own name the second and third
ones then verify.  Only the first handshake may fail the whole check, by one of the four `_DiscoveryError`
classes; the others turn what they meet into verdicts.
-/
import CertWatch.CertCheck

namespace CertWatch

open CertWatch.Lib

/-! ## Statuses -/

/-- `ALL_STATUSES`. -/
inductive CertStatus where
  | success
  | certExpiringSoon
  | tlsWarning
  | certExpired
  | certNoUsableHostname
  | connectionRefused
  | connectionTimeout
  | tlsFailedNoCert
  | tlsFailedMalformedCert
  deriving DecidableEq, Repr

/-- The string that stands for it on the wire. -/
def CertStatus.text : CertStatus → String
  | .success => "success"
  | .certExpiringSoon => "cert_expiring_soon"
  | .tlsWarning => "tls_warning"
  | .certExpired => "cert_expired"
  | .certNoUsableHostname => "cert_no_usable_hostname"
  | .connectionRefused => "connection_refused"
  | .connectionTimeout => "connection_timeout"
  | .tlsFailedNoCert => "tls_failed_no_cert"
  | .tlsFailedMalformedCert => "tls_failed_malformed_cert"

/-- A `_DiscoveryError`: its subclass by its `status`, and its `message`.  None of them leaves the module, so
they are values here, and `except _DiscoveryError` is a case on them. -/
structure DiscoveryError where
  status : CertStatus
  message : String
  deriving DecidableEq, Repr

structure CertCheckResult where
  status : CertStatus
  ip_address : Json
  port : Int
  checked_at : String
  error_message : Option String := none
  canonical_hostname : Option String := none
  subject_cn : Option String := none
  subject_sans : List String := []
  issuer_cn : Option String := none
  issuer_o : Option String := none
  issuer_full_dn : Option String := none
  not_before : Option String := none
  not_after : Option String := none
  days_until_expiry : Option Int := none
  signature_algorithm : Option String := none
  key_size : Option Int := none
  hostname_matches : Option Bool := none
  chain_trusted_by_system : Option Bool := none
  chain_trust_reason : Option String := none
  is_self_signed : Option Bool := none
  deriving DecidableEq, Repr

/-- `_CHAIN_TRUST_REASON_MAP`. -/
def chainTrustReasonMap : List (Int × String) :=
  [(2, "unable_to_get_issuer_cert"), (18, "self_signed"), (19, "self_signed_in_chain"), (20, "unknown_issuer"),
    (21, "unable_to_verify_leaf_signature"), (24, "invalid_ca"), (27, "cert_untrusted"), (68, "weak_md_in_chain")]

/-! ## The handshakes -/

section

variable (ip : Json) (port : Int)

/-- The `except` clauses around the first connect. -/
def connectError (e : OSError) : DiscoveryError :=
  match e.kind with
  | .timeout => ⟨.connectionTimeout, e.describe⟩
  | _ => ⟨.connectionRefused, e.describe⟩

/-- The `except` clauses around the first `wrap_socket`. -/
def wrapError (e : OSError) : DiscoveryError :=
  if e.kind = .timeout then
    ⟨.connectionTimeout, "TLS handshake timeout: " ++ e.text⟩
  else if e.kind.isSSLError then
    ⟨.tlsFailedNoCert, "TLS handshake failed: " ++ e.text⟩
  else
    ⟨.tlsFailedNoCert, "socket error during TLS: " ++ e.text⟩

/-- `getpeercert` of the first handshake, and closing its TLS socket whatever it yields. -/
def presentedCertificate : Check (Option (List UInt8)) := do
  let der ← (checkCall (.getpeercert .first)).attempt
  let _ ← (checkCall (.closeTls .first)).attempt
  .ofExcept der

/-- The end of the first handshake: the certificate that was presented, parsed. -/
def parseCertificate (der : Option (List UInt8)) : Check (Except DiscoveryError Certificate) :=
  match der with
  | none | some [] => return .error ⟨.tlsFailedNoCert, "server presented no cert during TLS handshake"⟩
  | some der => do
    let loaded ← checkCall (.loadDer (some der))
    return loaded.mapError fun e => ⟨.tlsFailedMalformedCert, "could not parse cert DER: " ++ e.text⟩

/-- What the first handshake does on a connected socket. -/
def readCertificate (server_hostname : Json) : Check (Except DiscoveryError Certificate) := do
  checkCall (.context .first .unverified)
  match ← (checkCall (.wrapSocket .first server_hostname)).attempt with
  | .error (.os e) => return .error (wrapError e)
  | .error e => .raise e
  | .ok _ => do
    let der ← presentedCertificate
    parseCertificate der

/-- `_handshake_get_cert`. -/
def handshakeGetCert (server_hostname : Json) (connect_timeout handshake_timeout : PyFloat) :
    Check (Except DiscoveryError Certificate) := do
  match ← (checkCall (.connect .first ip port connect_timeout)).attempt with
  | .error (.os e) => return .error (connectError e)
  | .error e => .raise e
  | .ok _ => do
    checkCall (.settimeout .first handshake_timeout)
    finallyClose .first (readCertificate server_hostname)

/-- The `try` and `except` of the second handshake. -/
def verifyHostname (canonical : String) : Check Bool := do
  checkCall (.context .second .hostnameOnly)
  let handshake : Check Unit := do
    checkCall (.wrapSocket .second (.str canonical))
    checkCall (.closeTls .second)
  match ← handshake.attempt with
  | .ok _ => return true
  | .error (.os e) => match e.kind with
    | .sslCertVerification verify_code _ => return verify_code != some 62
    | _ => return false
  | .error e => .raise e

/-- `_handshake_verify_hostname`. -/
def handshakeVerifyHostname (canonical : String) (connect_timeout handshake_timeout : PyFloat) : Check Bool := do
  match ← (checkCall (.connect .second ip port connect_timeout)).attempt with
  | .error (.os _) => return false
  | .error e => .raise e
  | .ok _ => do
    checkCall (.settimeout .second handshake_timeout)
    finallyClose .second (verifyHostname canonical)

/-- The reason of a chain that did not verify. -/
def chainTrustReason (verify_code : Option Int) : String :=
  match verify_code with
  | none => "verification_failed"
  | some code => (chainTrustReasonMap.lookup code).getD ("verify_code_" ++ toString code)

/-- The `try` and `except` of the third handshake. -/
def verifyChain (canonical : String) : Check (Bool × Option String) := do
  checkCall (.context .third .default)
  match ← (checkCall (.wrapSocket .third (.str canonical))).attempt with
  | .ok _ => do
    let _ ← (checkCall (.closeTls .third)).attempt
    return (true, none)
  | .error (.os e) => match e.kind with
    | .sslCertVerification verify_code _ => return (false, some (chainTrustReason verify_code))
    | _ => return (false, some ("verification_failed:" ++ e.kind.className))
  | .error e => .raise e

/-- `_handshake_verify_chain`. -/
def handshakeVerifyChain (canonical : String) (connect_timeout handshake_timeout : PyFloat) :
    Check (Bool × Option String) := do
  match ← (checkCall (.connect .third ip port connect_timeout)).attempt with
  | .error (.os e) => return (false, some ("verification_failed:" ++ e.kind.className))
  | .error e => .raise e
  | .ok _ => do
    checkCall (.settimeout .third handshake_timeout)
    finallyClose .third (verifyChain canonical)

end

/-! ## Reading the certificate -/

/-- The names and addresses among the subject alternative names, in the certificate's order. -/
def sanTexts (names : List GeneralName) : List String :=
  names.filterMap fun n => match n with
    | .dns value => some value
    | .ip text => some text
    | .other => none

/-- `_extract_canonical_hostname_and_sans`. -/
def extractCanonicalHostnameAndSans (cert : Certificate) : Except PyExc (Option String × List String) := do
  let names ← sanExtension cert
  match sanTexts (names.getD []) with
  | canonical :: rest => return (some canonical, canonical :: rest)
  | [] => match firstAttr cert.subject .commonName with
    | some cn => return (if cn = "" then none else some cn, [])
    | none => return (none, [])

/-- `_determine_status`. -/
def determineStatus (canonical_hostname : Option String) (days_until_expiry : Option Int)
    (chain_trusted : Option Bool) (expiring_soon_threshold_days : Int) : CertStatus :=
  if canonical_hostname = none then
    .certNoUsableHostname
  else if days_until_expiry.any (· < 0) then
    .certExpired
  else if days_until_expiry.any (· ≤ expiring_soon_threshold_days) then
    .certExpiringSoon
  else if chain_trusted = some false then
    .tlsWarning
  else
    .success

section

variable (rt : Runtime) (ip : Json) (port : Int)

/-- What `_result_with_cert_data` computes once it has read the clock. -/
def resultOfCertData (now : Nat) (status : CertStatus) (checked_at : String) (cert : Certificate)
    (canonical : Option String) (all_sans : List String) (hostname_matches chain_trusted : Option Bool)
    (chain_trust_reason error_message : Option String) : Except PyExc CertCheckResult := do
  let signature_algorithm ← signatureAlgorithm rt cert
  let key_size ← keySize cert
  return {
    status, port, checked_at, error_message
    ip_address := ip
    canonical_hostname := canonical
    subject_cn := firstAttr cert.subject .commonName
    subject_sans := all_sans
    issuer_cn := firstAttr cert.issuer .commonName
    issuer_o := firstAttr cert.issuer .organizationName
    issuer_full_dn := some (rt.rfc4514_string cert.issuer)
    not_before := some (isoZ cert.not_valid_before_utc)
    not_after := some (isoZ cert.not_valid_after_utc)
    days_until_expiry := some (daysUntil cert.not_valid_after_utc now)
    signature_algorithm, key_size, hostname_matches
    chain_trusted_by_system := chain_trusted
    chain_trust_reason
    is_self_signed := some (decide (cert.subject = cert.issuer)) }

/-- `_result_with_cert_data`. -/
def resultWithCertData (status : CertStatus) (checked_at : String) (cert : Certificate)
    (canonical : Option String) (all_sans : List String) (hostname_matches chain_trusted : Option Bool)
    (chain_trust_reason error_message : Option String) : Check CertCheckResult := do
  let now ← checkCall (.utcNow .result)
  .ofExcept (resultOfCertData rt ip port now status checked_at cert canonical all_sans hostname_matches
    chain_trusted chain_trust_reason error_message)

/-- The rest of the check once the first handshake has yielded a certificate. -/
def checkCertificate (connect_timeout handshake_timeout : PyFloat) (expiring_soon_threshold_days : Int)
    (checked_at : String) (cert : Certificate) : Check CertCheckResult := do
  let (canonical, all_sans) ← .ofExcept (extractCanonicalHostnameAndSans cert)
  let now ← checkCall (.utcNow .decision)
  let days_until_expiry := daysUntil cert.not_valid_after_utc now
  match canonical with
  | none =>
    resultWithCertData rt ip port .certNoUsableHostname checked_at cert none all_sans none none none
      (some "cert has no SAN and no CN — no usable hostname")
  | some canonical => do
    let hostname_matches ← handshakeVerifyHostname ip port canonical connect_timeout handshake_timeout
    let (chain_trusted, chain_trust_reason) ←
      handshakeVerifyChain ip port canonical connect_timeout handshake_timeout
    let status := determineStatus (some canonical) (some days_until_expiry) (some chain_trusted)
      expiring_soon_threshold_days
    resultWithCertData rt ip port status checked_at cert (some canonical) all_sans (some hostname_matches)
      (some chain_trusted) chain_trust_reason none

/-- `cert_check_with_discovery`. -/
def certCheckWithDiscovery (connect_timeout handshake_timeout : PyFloat) (expiring_soon_threshold_days : Int) :
    Check CertCheckResult := do
  let checked_at ← isoZ <$> checkCall (.utcNow .checkedAt)
  match ← handshakeGetCert ip port ip connect_timeout handshake_timeout with
  | .error e => return { status := e.status, ip_address := ip, port, checked_at, error_message := some e.message }
  | .ok cert =>
    checkCertificate rt ip port connect_timeout handshake_timeout expiring_soon_threshold_days checked_at cert

end

end CertWatch
