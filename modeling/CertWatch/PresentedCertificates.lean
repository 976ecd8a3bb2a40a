/-
# `CertWatch.PresentedCertificates` — which certificate a verdict is about.

Every handshake of a check is a connection of its own, on which the server may present another certificate.
OpenSSL is a parameter here: what it makes of a presented certificate under a name.  The first part asks when
the verdict of handshake 2 on the hostname is right about the certificate presented there; the second part says
of every result which presented certificate it describes and which ones its verdicts judge.
-/
import CertWatch.CheckOutcomes

namespace CertWatch

open CertWatch.Lib

/-! ## The verdict on the hostname -/

/-- OpenSSL's verification over the empty trust store with an identity check: it always fails, with one code,
and the code tells whether the identity check is what fails. -/
structure HostnameVerification where
  /-- The certificate is valid for the name. -/
  ValidFor : Certificate → String → Prop
  /-- The text of an IP address. -/
  IsAddress : String → Prop
  /-- The identity check is what fails. -/
  IdentityFails : Certificate → String → Prop
  verify_code : Certificate → String → Int
  identity_sound : ∀ cert name, IdentityFails cert name → ¬ ValidFor cert name
  /-- `X509_V_ERR_HOSTNAME_MISMATCH`. -/
  hostname_code : ∀ cert name, IdentityFails cert name → ¬ IsAddress name → verify_code cert name = 62
  /-- Another one of the name mismatches. -/
  address_code : ∀ cert name, IdentityFails cert name → IsAddress name →
    verify_code cert name = 63 ∨ verify_code cert name = 64
  other_code : ∀ cert name, ¬ IdentityFails cert name → verify_code cert name ≠ 62

/-- The server presents this certificate in handshake 2, and its verification ends the handshake. -/
def HostnameVerification.Judges (openssl : HostnameVerification) (script : CheckScript) (canonical : String)
    (cert : Certificate) : Prop :=
  ∃ message text, script.wrapSocket .second (.str canonical) =
    .error (.os ⟨.sslCertVerification (some (openssl.verify_code cert canonical)) message, text⟩)

section

variable {ip : Json} {port : Int} {connect_timeout handshake_timeout : PyFloat} {script : CheckScript}
  {canonical : String} {cert : Certificate} (openssl : HostnameVerification)

/-- The handshake counts as a match unless the code is the one of a mismatching hostname. -/
theorem HostnameVerification.Judges.countsAsMatch_iff (h : openssl.Judges script canonical cert) :
    CountsAsMatch (hostnameHandshake script canonical) ↔ openssl.verify_code cert canonical ≠ 62 := by
  obtain ⟨message, text, hwrap⟩ := h
  have hhandshake : hostnameHandshake script canonical =
      .error (.os ⟨.sslCertVerification (some (openssl.verify_code cert canonical)) message, text⟩) := by
    unfold hostnameHandshake
    rw [hwrap]
    rfl
  rw [hhandshake]
  constructor
  · rintro (hok | ⟨e, verify_code, message', herror, hkind, hcode⟩)
    · cases hok
    · obtain rfl := PyExc.os.inj (Except.error.inj herror)
      obtain ⟨rfl, -⟩ := OSErrorKind.sslCertVerification.inj hkind
      simpa using hcode
  · intro hcode
    exact .inr ⟨_, _, _, rfl, rfl, by simpa using hcode⟩

/-- The code is that of a mismatching hostname exactly when the identity check fails on a name that is none of
an address. -/
theorem HostnameVerification.verify_code_eq_iff :
    openssl.verify_code cert canonical = 62 ↔
      openssl.IdentityFails cert canonical ∧ ¬ openssl.IsAddress canonical := by
  constructor
  · intro hcode
    have hfails : openssl.IdentityFails cert canonical := by
      by_contra hnot
      exact openssl.other_code cert canonical hnot hcode
    refine ⟨hfails, fun haddress => ?_⟩
    have := openssl.address_code cert canonical hfails haddress
    omega
  · rintro ⟨hfails, hname⟩
    exact openssl.hostname_code cert canonical hfails hname

/-- **When the hostname verdict is sound**: it is not, where a certificate that is not valid for the name is
rejected by any other code than the one of a mismatching hostname, as it is for every address. -/
theorem hostname_verdict_sound_iff (hjudges : openssl.Judges script canonical cert) :
    ((handshakeVerifyHostname ip port canonical connect_timeout handshake_timeout).outcome script.answer =
        some (.ok true) → openssl.ValidFor cert canonical) ↔
      openssl.ValidFor cert canonical ∨
      ¬ HostnameHandshakeBegun ip port connect_timeout handshake_timeout script ∨
      openssl.IdentityFails cert canonical ∧ ¬ openssl.IsAddress canonical := by
  rw [handshakeVerifyHostname_true_iff, hjudges.countsAsMatch_iff, ne_eq, openssl.verify_code_eq_iff]
  tauto

end

/-- The names that a certificate carries. -/
def carriedNames (cert : Certificate) : List String :=
  match cert.san with
  | .ok (some names) => sanTexts names
  | _ => []

/-- OpenSSL over an empty trust store: it looks for the issuer before it looks at any name, and finds none; digits and
dots make an address. -/
def overEmptyStore : HostnameVerification where
  ValidFor cert name := name ∈ carriedNames cert
  IsAddress name := name.toList.all fun c => c.isDigit || c == '.'
  IdentityFails _ _ := False
  -- a self-signed certificate is its own issuer, and not a trusted one
  verify_code cert _ := if cert.issuer = cert.subject then 18 else 20
  identity_sound _ _ := False.elim
  hostname_code _ _ := False.elim
  address_code _ _ := False.elim
  other_code _ _ _ := by split_ifs <;> decide

/-- A certificate that an authority has issued for another host. -/
def otherHost : Certificate := certFor (.dns "db.example") "ca.example" 1500000

theorem judges_serving (canonical : String) : overEmptyStore.Judges (serving otherHost) canonical otherHost :=
  ⟨some "certificate verify failed", "certificate verify failed", rfl⟩

/-- **A match that is none**: the first certificate is for one host, the certificate presented under its name is for
another, and the hostname counts as matching. -/
theorem hostname_matches_mismatch :
    extractCanonicalHostnameAndSans (certFor (.dns "web.example") "ca.example" 1500000) =
        .ok (some "web.example", ["web.example"]) ∧
      overEmptyStore.Judges (serving otherHost) "web.example" otherHost ∧
      (handshakeVerifyHostname (.str "10.0.0.5") 443 "web.example" (.finite 5) (.finite 5)).outcome
        (serving otherHost).answer = some (.ok true) ∧
      ¬ overEmptyStore.ValidFor otherHost "web.example" := by
  refine ⟨rfl, judges_serving "web.example", rfl, ?_⟩
  show "web.example" ∉ ["db.example"]
  decide

/-- Handshake 2 with the server of the other host, under a name. -/
def handshakeUnder (canonical : String) : Option (Except PyExc Bool) :=
  (handshakeVerifyHostname (.str "10.0.0.5") 443 canonical (.finite 5) (.finite 5)).outcome (serving otherHost).answer

/-- The server is rightly taken to match under the name that its certificate is valid for, and wrongly under another. -/
theorem hostname_verdict_sound_dns :
    (handshakeUnder "db.example" = some (.ok true) ∧ overEmptyStore.ValidFor otherHost "db.example") ∧
      ¬ (handshakeUnder "web.example" = some (.ok true) → overEmptyStore.ValidFor otherHost "web.example") := by
  have hvalid : "db.example" ∈ ["db.example"] := by decide
  have hinvalid : "web.example" ∉ ["db.example"] := by decide
  have hmatching : handshakeUnder "db.example" = some (.ok true) → overEmptyStore.ValidFor otherHost "db.example" :=
    (hostname_verdict_sound_iff overEmptyStore (judges_serving "db.example")).mpr (.inl hvalid)
  refine ⟨⟨rfl, hmatching rfl⟩, fun hsound => ?_⟩
  rcases (hostname_verdict_sound_iff overEmptyStore (judges_serving "web.example")).mp hsound with
    hvalid' | hnotBegun | ⟨hfails, -⟩
  · exact hinvalid hvalid'
  · exact hnotBegun ⟨rfl, rfl, rfl⟩
  · exact hfails

/-! ## What a server presents -/

/-- The error of a failed verification. -/
def OSError.IsVerification (e : OSError) : Prop := ∃ code message, e.kind = .sslCertVerification code message

/-- A server, by the certificate that it presents on each connection, and the verification that OpenSSL makes of
a certificate: what it fails with, if it does. -/
structure Presentation where
  presented : Connection → Certificate
  verify : TlsContext → Json → Certificate → Option OSError

/-- The surroundings are those of the server, when the connections use these contexts. -/
structure Presentation.Answers (s : Presentation) (context : Connection → TlsContext) (script : CheckScript) :
    Prop where
  /-- What a connection reads is what the server presents on it. -/
  read : ∀ c der cert, script.getpeercert c = .ok der → script.loadDer der = .ok cert → cert = s.presented c
  /-- A handshake completes only if the verification accepts what is presented. -/
  accepted : ∀ c name, script.wrapSocket c name = .ok () → s.verify (context c) name (s.presented c) = none
  /-- A verification failure is one of what is presented. -/
  rejected : ∀ c name e, e.IsVerification → script.wrapSocket c name = .error (.os e) →
    s.verify (context c) name (s.presented c) = some e
  /-- Nothing but a handshake verifies. -/
  read_verifies_not : ∀ c e, e.IsVerification → script.getpeercert c ≠ .error (.os e)
  close_verifies_not : ∀ c e, e.IsVerification → script.closeTls c ≠ .error (.os e)

/-- The contexts of the two stages of `cert_check`. -/
def stageContext : Connection → TlsContext
  | .first => .default
  | _ => .unverified

/-- The contexts of the three handshakes of `cert_check_with_discovery`. -/
def handshakeContext : Connection → TlsContext
  | .first => .unverified
  | .second => .hostnameOnly
  | .third => .default

/-! ## Results of `cert_check` -/

/-- The result describes the one certificate, and its verdict on the chain is the one on the other. -/
structure CertResult.Reports (rt : Runtime) (hostname : Json) (s : Presentation) (r : CertResult)
    (described judged : Certificate) : Prop where
  describes : r.Describes rt described
  trusted : r.chain_trusted_by_system = some true → s.verify .default hostname judged = none
  untrusted : r.chain_trusted_by_system = some false → ∃ e code message,
    s.verify .default hostname judged = some e ∧ e.kind = .sslCertVerification code message ∧
      r.chain_error_reason = some (verifyInfo e code message).2
  /-- A name that the verification has not judged is matched against what is described. -/
  matched : r.chain_trusted_by_system = some false →
    ∃ verdict, hostnameMatches rt hostname described = .ok verdict ∧ r.hostname_matches = some verdict

section

variable {rt : Runtime} {hostname : Json} {port : Int} {connect_timeout handshake_timeout : PyFloat}
  {script : CheckScript} {s : Presentation} {r : CertResult}

/-! ### What reading a certificate raises -/

theorem except_bind_error {α β : Type} {x : Except PyExc α} {f : α → Except PyExc β} {e : PyExc}
    (h : (x >>= f) = .error e) : x = .error e ∨ ∃ a, x = .ok a ∧ f a = .error e := by
  cases x with
  | error e' => exact .inl (congrArg Except.error (Except.error.inj h))
  | ok a => exact .inr ⟨a, rfl, h⟩

/-- The exception is one of the package's own. -/
def OfX509 (e : PyExc) : Prop := ∃ x : X509Error, e = x.exc

theorem not_ofX509_os (e : OSError) : ¬ OfX509 (.os e) := by
  rintro ⟨x, h⟩
  cases x <;> cases h

theorem ofX509_mapError {α : Type} {x : Except X509Error α} {e : PyExc} (h : x.mapError X509Error.exc = .error e) :
    OfX509 e := by
  cases x with
  | error e' => exact ⟨e', (Except.error.inj h).symm⟩
  | ok a => cases h

theorem subjectAltNames_error {cert : Certificate} {e : PyExc} (h : subjectAltNames cert = .error e) : OfX509 e := by
  obtain h | ⟨names, -, h⟩ := except_bind_error h
  · exact ofX509_mapError h
  · cases names <;> cases h

theorem signatureAlgorithm_error {cert : Certificate} {e : PyExc} (h : signatureAlgorithm rt cert = .error e) :
    OfX509 e := by
  unfold signatureAlgorithm at h
  split at h
  · cases h
  · cases h
  · obtain h | ⟨pub, -, h⟩ := except_bind_error h
    · exact ofX509_mapError h
    · cases h

theorem keySize_error {cert : Certificate} {e : PyExc} (h : keySize cert = .error e) : OfX509 e := by
  obtain h | ⟨pub, -, h⟩ := except_bind_error h
  · exact ofX509_mapError h
  · cases h

theorem resultOfCert_error {cert : Certificate} {now : Nat} {checked_at : String} {state : ResultState}
    {trusted : Bool} {verify_code : Option Int} {error_reason : Option String} {e : PyExc}
    (h : resultOfCert rt hostname port cert now checked_at state trusted verify_code error_reason (some true) =
      .error e) : OfX509 e := by
  obtain h | ⟨sans, -, h⟩ := except_bind_error h
  · exact subjectAltNames_error h
  obtain h | ⟨verdict, -, h⟩ := except_bind_error h
  · cases h
  obtain h | ⟨algorithm, -, h⟩ := except_bind_error h
  · exact signatureAlgorithm_error h
  obtain h | ⟨size, -, h⟩ := except_bind_error h
  · exact keySize_error h
  · cases h

/-- An `OSError` of stage 1 comes from its handshake and not from the certificate. -/
theorem verifiedResult_error {checked_at : String} {e : OSError}
    (h : (verifiedResult rt hostname port checked_at).outcome script.answer = some (.error (.os e))) :
    (peerCertificate hostname .first).outcome script.answer = some (.error (.os e)) := by
  obtain h | ⟨der, -, h⟩ := Prog.outcome_bind_error.mp h
  · exact h
  obtain h | ⟨cert, -, h⟩ := Prog.outcome_bind_error.mp h
  · obtain h | ⟨loaded, -, h⟩ := Prog.outcome_bind_error.mp h
    · cases h
    · rw [Prog.outcome_ofExcept] at h
      exact absurd (ofX509_mapError (Option.some.inj h)) (not_ofX509_os e)
  · obtain h | ⟨now, -, h⟩ := Prog.outcome_bind_error.mp h
    · cases h
    · rw [Prog.outcome_ofExcept] at h
      exact absurd (resultOfCert_error (Option.some.inj h)) (not_ofX509_os e)

/-! ### The certificates of the stages -/

variable {context : Connection → TlsContext}

/-- A connection that yields a certificate has completed its handshake, and presents it. -/
theorem Presentation.Answers.presented_of_read (hs : s.Answers context script) {c : Connection}
    {der : Option (List UInt8)} (hder : (peerCertificate hostname c).outcome script.answer = some (.ok der))
    {cert : Certificate} (hcert : script.loadDer der = .ok cert) :
    script.wrapSocket c hostname = .ok () ∧ cert = s.presented c := by
  obtain ⟨u, hwrap, hder⟩ := call_ok.mp hder
  replace hder := guarded_call_ok.mp hder
  obtain ⟨u, -, hder⟩ := call_ok.mp hder
  rw [Prog.outcome_ofExcept] at hder
  exact ⟨hwrap, hs.read c der cert (Option.some.inj hder) hcert⟩

/-- A verification failure of a connection is one of what the server presents on it. -/
theorem Presentation.Answers.rejected_of_error (hs : s.Answers context script) {c : Connection} {e : OSError}
    (hverification : e.IsVerification)
    (h : (peerCertificate hostname c).outcome script.answer = some (.error (.os e))) :
    s.verify (context c) hostname (s.presented c) = some e := by
  obtain h | ⟨u, -, h⟩ := Prog.outcome_bind_error.mp h
  · rw [outcome_checkCall] at h
    exact hs.rejected c hostname e hverification (Option.some.inj h)
  obtain h | ⟨der, hder, h⟩ := Prog.outcome_bind_error.mp h
  · rw [Prog.outcome_attempt] at h
    simp at h
  obtain h | ⟨u, -, h⟩ := Prog.outcome_bind_error.mp h
  · rw [outcome_checkCall] at h
    exact absurd (Option.some.inj h) (hs.close_verifies_not c e hverification)
  · rw [Prog.outcome_ofExcept] at h
    rw [Prog.outcome_attempt, outcome_checkCall] at hder
    obtain rfl := Except.ok.inj (Option.some.inj hder)
    exact absurd (Option.some.inj h) (hs.read_verifies_not c e hverification)

/-- The verification that fails is that of the certificate on the first connection. -/
theorem VerifyFailed.rejected (hs : s.Answers stageContext script) {verify_code : Option Int} {verify_error : String}
    (h : VerifyFailed rt hostname port script verify_code verify_error) :
    ∃ e code message, s.verify .default hostname (s.presented .first) = some e ∧
      e.kind = .sslCertVerification code message ∧ verify_error = (verifyInfo e code message).2 := by
  obtain ⟨e, code, message, hresult, hkind, hinfo⟩ := h
  refine ⟨e, code, message, ?_, hkind, by rw [hinfo]⟩
  exact hs.rejected_of_error ⟨code, message, hkind⟩ (verifiedResult_error hresult)

/-- **What a result of `cert_check` is about**: a success describes the certificate that its verification judged;
after a failed verification the result describes the certificate of stage 2. -/
theorem checked_reports (hs : s.Answers stageContext script)
    (hr : (certCheck rt hostname port connect_timeout handshake_timeout).outcome script.answer = some (.ok r))
    (hmetadata : r.issuer_full_dn ≠ none) :
    (r.state = .success → r.Reports rt hostname s (s.presented .first) (s.presented .first)) ∧
      (r.state ≠ .success → r.Reports rt hostname s (s.presented .second) (s.presented .first)) := by
  cases checked_of_returned hr with
  | unconnected hconnect => exact absurd rfl hmetadata
  | handshakeFailed hkind => exact absurd rfl hmetadata
  | unrecovered hverify => exact absurd rfl hmetadata
  | verified hder hcert hr =>
    obtain ⟨hwrap, rfl⟩ := hs.presented_of_read hder hcert
    obtain ⟨hstate, -, -, htrusted, -⟩ := resultOfCert_verdicts hr
    refine ⟨fun _ => ⟨resultOfCert_describes hr, fun _ => hs.accepted .first hostname hwrap, ?_, ?_⟩, ?_⟩
    · simp [htrusted]
    · simp [htrusted]
    · intro hnot
      exact absurd hstate hnot
  | @recovered verify_code verify_error der cert r hverify hder hcert hr =>
    obtain ⟨-, rfl⟩ := hs.presented_of_read hder hcert
    obtain ⟨hstate, -, hverdict, htrusted, hreason⟩ := resultOfCert_verdicts hr
    constructor
    · intro hsuccess
      rw [hstate] at hsuccess
      cases hsuccess
    · intro _
      refine ⟨resultOfCert_describes hr, by simp [htrusted], fun _ => ?_, fun _ => ?_⟩
      · obtain ⟨e, code, message, hrejected, hkind, rfl⟩ := hverify.rejected hs
        exact ⟨e, code, message, hrejected, hkind, hreason⟩
      · exact hverdict

end

/-! ## Results of `cert_check_with_discovery` -/

/-- There is no verification on a connection: it fails, or its handshake does for another reason. -/
def Unverified (ip : Json) (port : Int) (connect_timeout : PyFloat) (script : CheckScript) (c : Connection)
    (handshake : Except PyExc Unit) : Prop :=
  ∃ e, script.connect c ip port connect_timeout = .error (.os e) ∨
    handshake = .error (.os e) ∧ ∀ code message, e.kind ≠ .sslCertVerification code message

/-- The result describes the one certificate; its verdict on the hostname is the one on the second, and that on
the chain the one on the third, unless there was none. -/
structure CertCheckResult.Reports (rt : Runtime) (ip : Json) (port : Int) (connect_timeout : PyFloat)
    (script : CheckScript) (s : Presentation) (r : CertCheckResult) (described named chained : Certificate) :
    Prop where
  describes : r.Describes rt described
  matched : r.hostname_matches = some true → ∃ canonical, r.canonical_hostname = some canonical ∧
    ∀ e code message, s.verify .hostnameOnly (.str canonical) named = some e →
      e.kind = .sslCertVerification code message → code ≠ some 62
  mismatched : r.hostname_matches = some false → ∃ canonical, r.canonical_hostname = some canonical ∧
    ((∃ e message, s.verify .hostnameOnly (.str canonical) named = some e ∧
      e.kind = .sslCertVerification (some 62) message) ∨
    Unverified ip port connect_timeout script .second (hostnameHandshake script canonical))
  trusted : r.chain_trusted_by_system = some true → ∃ canonical, r.canonical_hostname = some canonical ∧
    s.verify .default (.str canonical) chained = none
  untrusted : r.chain_trusted_by_system = some false → ∃ canonical, r.canonical_hostname = some canonical ∧
    ((∃ e code message, s.verify .default (.str canonical) chained = some e ∧
      e.kind = .sslCertVerification code message ∧ r.chain_trust_reason = some (chainTrustReason code)) ∨
    Unverified ip port connect_timeout script .third (script.wrapSocket .third (.str canonical)))

section

variable {rt : Runtime} {ip : Json} {port : Int} {connect_timeout handshake_timeout : PyFloat}
  {expiring_soon_threshold_days : Int} {script : CheckScript} {s : Presentation} {r : CertCheckResult}

/-- The certificate of handshake 1 is the one presented there. -/
theorem Discovers.presented (hs : s.Answers handshakeContext script) {cert : Certificate}
    (h : Discovers ip port connect_timeout handshake_timeout script cert) : cert = s.presented .first := by
  obtain ⟨e, he, -⟩ | ⟨cert', der, hcert, -, hder, hload⟩ := handshakeGetCert_ok h
  · cases he
  · obtain rfl := Except.ok.inj hcert
    exact hs.read .first _ _ hder hload

/-- A verification failure of handshake 2 is one of what is presented there. -/
theorem Presentation.Answers.rejected_of_handshake (hs : s.Answers handshakeContext script) {canonical : String}
    {e : OSError} (hverification : e.IsVerification) (h : hostnameHandshake script canonical = .error (.os e)) :
    s.verify .hostnameOnly (.str canonical) (s.presented .second) = some e := by
  obtain h | ⟨u, -, h⟩ := except_bind_error h
  · exact hs.rejected .second _ e hverification h
  · exact absurd h (hs.close_verifies_not .second e hverification)

/-- A match is no rejection for the hostname of what handshake 2 presents. -/
theorem HostnameVerdict.matched_presented (hs : s.Answers handshakeContext script) {canonical : String}
    (h : HostnameVerdict ip port connect_timeout handshake_timeout script canonical true) {e : OSError}
    {code : Option Int} {message : Option String}
    (hrejected : s.verify .hostnameOnly (.str canonical) (s.presented .second) = some e)
    (hkind : e.kind = .sslCertVerification code message) : code ≠ some 62 := by
  cases h with
  | matched hbegun hcounts =>
    obtain hok | ⟨e', code', message', herror, hkind', hcode⟩ := hcounts
    · obtain ⟨u, hwrap, -⟩ := except_bind_ok hok
      have haccepted := hs.accepted .second _ hwrap
      rw [show handshakeContext .second = .hostnameOnly from rfl, hrejected] at haccepted
      cases haccepted
    · have hrejected' := hs.rejected_of_handshake ⟨code', message', hkind'⟩ herror
      obtain rfl := Option.some.inj (hrejected.symm.trans hrejected')
      obtain ⟨rfl, -⟩ := OSErrorKind.sslCertVerification.inj (hkind.symm.trans hkind')
      exact hcode

/-- **What a result of `cert_check_with_discovery` is about**: it describes the certificate of handshake 1, and its
verdicts are on what handshakes 2 and 3 present. -/
theorem discovery_reports (hs : s.Answers handshakeContext script)
    (hr : (certCheckWithDiscovery rt ip port connect_timeout handshake_timeout expiring_soon_threshold_days).outcome
      script.answer = some (.ok r)) (hmetadata : r.issuer_full_dn ≠ none) :
    r.Reports rt ip port connect_timeout script s (s.presented .first) (s.presented .second) (s.presented .third) := by
  cases discovery_of_returned hr with
  | failed hfailed => exact absurd rfl hmetadata
  | unnamed hcert hname hr =>
    obtain rfl := hcert.presented hs
    obtain ⟨-, -, -, hmatches, htrusted, -⟩ := resultOfCertData_verdicts hr
    refine ⟨resultOfCertData_describes hr hname, ?_, ?_, ?_, ?_⟩
    · simp [hmatches]
    · simp [hmatches]
    · simp [htrusted]
    · simp [htrusted]
  | @verified cert canonical all_sans hostname_matches trusted reason r hcert hname hmatches hchain hr =>
    obtain rfl := hcert.presented hs
    have hcanonical := (resultOfCertData_describes hr hname).canonical_hostname hname
    obtain ⟨-, -, -, hmatched, htrusted, hreason⟩ := resultOfCertData_verdicts hr
    have hhostname := handshakeVerifyHostname_ok hmatches
    have hverdict := handshakeVerifyChain_ok hchain
    refine ⟨resultOfCertData_describes hr hname, fun h => ⟨canonical, hcanonical, ?_⟩,
      fun h => ⟨canonical, hcanonical, ?_⟩, fun h => ⟨canonical, hcanonical, ?_⟩,
      fun h => ⟨canonical, hcanonical, ?_⟩⟩
    · obtain rfl := Option.some.inj (hmatched.symm.trans h)
      intro e code message
      exact hhostname.matched_presented hs
    · obtain rfl := Option.some.inj (hmatched.symm.trans h)
      cases hhostname with
      | mismatched hhandshake hkind =>
        exact .inl ⟨_, _, hs.rejected_of_handshake ⟨_, _, hkind⟩ hhandshake, hkind⟩
      | unverified hfailed => exact .inr ⟨_, hfailed⟩
    · obtain rfl := Option.some.inj (htrusted.symm.trans h)
      cases hverdict with
      | completed hwrap => exact hs.accepted .third _ hwrap
    · obtain rfl := Option.some.inj (htrusted.symm.trans h)
      cases hverdict with
      | untrusted hwrap hkind =>
        exact .inl ⟨_, _, _, hs.rejected .third _ _ ⟨_, _, hkind⟩ hwrap, hkind, hreason⟩
      | unverified hfailed => exact .inr ⟨_, hfailed⟩

end

/-! ## Both checks -/

/-- **What a result is about**, under any server: the metadata are those of the certificate on one connection, and
each verdict is on the certificate of its own connection. -/
theorem metadata_and_verdicts (rt : Runtime) (s : Presentation) (host : Json) (port : Int)
    (connect_timeout handshake_timeout : PyFloat) (expiring_soon_threshold_days : Int) (script : CheckScript) :
    (s.Answers stageContext script → ∀ r,
      (certCheck rt host port connect_timeout handshake_timeout).outcome script.answer = some (.ok r) →
      r.issuer_full_dn ≠ none →
      r.Reports rt host s (s.presented (if r.state = .success then .first else .second)) (s.presented .first)) ∧
    (s.Answers handshakeContext script → ∀ r,
      (certCheckWithDiscovery rt host port connect_timeout handshake_timeout expiring_soon_threshold_days).outcome
        script.answer = some (.ok r) →
      r.issuer_full_dn ≠ none →
      r.Reports rt host port connect_timeout script s (s.presented .first) (s.presented .second)
        (s.presented .third)) := by
  constructor
  · intro hs r hr hmetadata
    obtain ⟨hsuccess, hfailure⟩ := checked_reports hs hr hmetadata
    split_ifs with hstate
    · exact hsuccess hstate
    · exact hfailure hstate
  · intro hs r hr hmetadata
    exact discovery_reports hs hr hmetadata

/-! ## A server with two certificates -/

/-- The byte that stands for the certificate of a connection. -/
def Connection.byte : Connection → UInt8
  | .first => 1
  | .second => 2
  | .third => 3

/-- Surroundings that are the server's, without any failure but those of the verification. -/
def Presentation.script (s : Presentation) (context : Connection → TlsContext) : CheckScript where
  connect _ _ _ _ := .ok ()
  wrapSocket c name := match s.verify (context c) name (s.presented c) with
    | none => .ok ()
    | some e => .error (.os e)
  getpeercert c := .ok (some [c.byte])
  loadDer der := .ok (s.presented
    (if der = some [1] then .first else if der = some [2] then .second else .third))

theorem answers_script (s : Presentation) (context : Connection → TlsContext) :
    s.Answers context (s.script context) where
  read c der cert hder hcert := by
    obtain rfl := Except.ok.inj hder
    obtain rfl := Except.ok.inj hcert
    cases c <;> rfl
  accepted c name h := by
    cases hverify : s.verify (context c) name (s.presented c) with
    | none => rfl
    | some e => simp [Presentation.script, hverify] at h
  rejected c name e _ h := by
    cases hverify : s.verify (context c) name (s.presented c) with
    | none => simp [Presentation.script, hverify] at h
    | some e' => simpa [Presentation.script, hverify] using h
  read_verifies_not c e _ := nofun
  close_verifies_not c e _ := nofun

/-- One certificate on the first connection, by itself, and another one on every later connection, by a CA; the
system trusts what a CA has issued. -/
def twoFaced : Presentation where
  presented c := certFor (.dns "db.example") (if c = .first then "db.example" else "ca.example") (90 * 86400000000)
  verify context _ cert := match context with
    | .unverified => none
    | .hostnameOnly => some (verifyError 20)
    | .default => if cert.subject = cert.issuer then some (verifyError 18) else none

/-- **Verdict and metadata of two certificates**: `cert_check` reports the CA's certificate as untrusted, and
`cert_check_with_discovery` the self-signed one as a success with a trusted chain. -/
theorem not_one_certificate :
    (∃ r, (certCheck literalRuntime (.str "db.example") 443 (.finite 5) (.finite 5)).outcome
        (twoFaced.script stageContext).answer = some (.ok r) ∧ r.is_self_signed = some false ∧
      r.chain_trusted_by_system = some false ∧
      ¬ ∃ cert, r.Reports literalRuntime (.str "db.example") twoFaced cert cert) ∧
    ∃ r, (certCheckWithDiscovery literalRuntime (.str "10.0.0.5") 443 (.finite 5) (.finite 5) 30).outcome
        (twoFaced.script handshakeContext).answer = some (.ok r) ∧ r.status = .success ∧
      r.is_self_signed = some true ∧ r.chain_trusted_by_system = some true ∧
      ¬ ∃ cert named, r.Reports literalRuntime (.str "10.0.0.5") 443 (.finite 5)
        (twoFaced.script handshakeContext) twoFaced cert named cert := by
  have hverify (cert : Certificate) (name : Json) :
      twoFaced.verify .default name cert = none ↔ decide (cert.subject = cert.issuer) = false := by
    simp [twoFaced]
  have hchecked : ∃ r, (certCheck literalRuntime (.str "db.example") 443 (.finite 5) (.finite 5)).outcome
      (twoFaced.script stageContext).answer = some (.ok r) ∧ r.is_self_signed = some false ∧
    r.chain_trusted_by_system = some false := ⟨_, rfl, by decide, rfl⟩
  have hdiscovered : ∃ r, (certCheckWithDiscovery literalRuntime (.str "10.0.0.5") 443 (.finite 5) (.finite 5)
      30).outcome (twoFaced.script handshakeContext).answer = some (.ok r) ∧ r.status = .success ∧
    r.is_self_signed = some true ∧ r.chain_trusted_by_system = some true := ⟨_, rfl, by decide, by decide, rfl⟩
  constructor
  · obtain ⟨r, hr, hself, huntrusted⟩ := hchecked
    refine ⟨r, hr, hself, huntrusted, ?_⟩
    rintro ⟨cert, hreports⟩
    obtain ⟨e, code, message, hrejected, -⟩ := hreports.untrusted huntrusted
    have hissuer := Option.some.inj (hself.symm.trans hreports.describes.is_self_signed)
    rw [(hverify cert _).mpr hissuer.symm] at hrejected
    cases hrejected
  · obtain ⟨r, hr, hstatus, hself, htrusted⟩ := hdiscovered
    refine ⟨r, hr, hstatus, hself, htrusted, ?_⟩
    rintro ⟨cert, named, hreports⟩
    obtain ⟨canonical, -, haccepted⟩ := hreports.trusted htrusted
    have hissuer := Option.some.inj (hself.symm.trans hreports.describes.is_self_signed)
    rw [hverify, ← hissuer] at haccepted
    cases haccepted

theorem metadata_and_verdicts_twoFaced :
    (∃ r, (certCheck literalRuntime (.str "db.example") 443 (.finite 5) (.finite 5)).outcome
        (twoFaced.script stageContext).answer = some (.ok r) ∧
      r.Reports literalRuntime (.str "db.example") twoFaced (twoFaced.presented .second) (twoFaced.presented .first)) ∧
    ∃ r, (certCheckWithDiscovery literalRuntime (.str "10.0.0.5") 443 (.finite 5) (.finite 5) 30).outcome
        (twoFaced.script handshakeContext).answer = some (.ok r) ∧
      r.Reports literalRuntime (.str "10.0.0.5") 443 (.finite 5) (twoFaced.script handshakeContext) twoFaced
        (twoFaced.presented .first) (twoFaced.presented .second) (twoFaced.presented .third) := by
  have hchecked : ∃ r, (certCheck literalRuntime (.str "db.example") 443 (.finite 5) (.finite 5)).outcome
      (twoFaced.script stageContext).answer = some (.ok r) ∧ r.state = .tlsFailed ∧
    r.issuer_full_dn = some "CN=ca.example" := ⟨_, rfl, rfl, rfl⟩
  have hdiscovered : ∃ r, (certCheckWithDiscovery literalRuntime (.str "10.0.0.5") 443 (.finite 5) (.finite 5)
      30).outcome (twoFaced.script handshakeContext).answer = some (.ok r) ∧
    r.issuer_full_dn = some "CN=ca.example" := ⟨_, rfl, rfl⟩
  constructor
  · obtain ⟨r, hr, hstate, hissuer⟩ := hchecked
    have h := (metadata_and_verdicts literalRuntime twoFaced (.str "db.example") 443 (.finite 5) (.finite 5) 30
      (twoFaced.script stageContext)).1 (answers_script twoFaced stageContext) r hr (by simp [hissuer])
    rw [hstate] at h
    exact ⟨r, hr, h⟩
  · obtain ⟨r, hr, hissuer⟩ := hdiscovered
    exact ⟨r, hr, (metadata_and_verdicts literalRuntime twoFaced (.str "10.0.0.5") 443 (.finite 5) (.finite 5) 30
      (twoFaced.script handshakeContext)).2 (answers_script twoFaced handshakeContext) r hr (by simp [hissuer])⟩

end CertWatch
