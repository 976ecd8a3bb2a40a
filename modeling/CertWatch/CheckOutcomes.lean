/-
# `CertWatch.CheckOutcomes` — every way in which a check function returns.

A check opens two or three connections, and each may end in several ways; what the function makes of them is
said here once.  `CheckReturn` lists the returns of `cert_check`, `DiscoveryReturn` those of
`cert_check_with_discovery`, each with what the network, the clock and the certificate answered on the way, so that
a property of all the results is a case analysis on them.
-/
import CertWatch.CheckThread

namespace CertWatch

open CertWatch.Lib

section

variable {script : CheckScript}

/-! ## One call and one guarded part -/

@[simp] theorem outcome_checkCall (o : CheckOp) : (checkCall o).outcome script.answer = some (script.answer o) :=
  Prog.outcome_perform (S := checkSig) script.answer o

theorem call_ok {β : Type} {o : CheckOp} {f : o.Ret → Check β} {b : β} :
    ((checkCall o).bind f).outcome script.answer = some (.ok b) ↔
      ∃ a, script.answer o = .ok a ∧ (f a).outcome script.answer = some (.ok b) := by
  rw [Prog.outcome_bind_ok]
  simp

/-- A guarded call always goes on, with what it ended with. -/
theorem guarded_call_ok {β : Type} {o : CheckOp} {f : Except PyExc o.Ret → Check β} {b : β} :
    ((checkCall o).attempt.bind f).outcome script.answer = some (.ok b) ↔
      (f (script.answer o)).outcome script.answer = some (.ok b) := by
  rw [Prog.outcome_attempt_bind_ok]
  simp

/-- Closing the socket afterwards leaves the outcome as it was. -/
theorem outcome_finallyClose {α : Type} {c : Connection} {p : Check α} :
    (finallyClose c p).outcome script.answer = p.outcome script.answer := by
  unfold finallyClose
  rw [Prog.bind_eq, Prog.outcome_bind, Prog.outcome_attempt]
  cases hp : p.outcome script.answer with
  | none => rfl
  | some x =>
    show ((checkCall (.close c)).attempt.bind fun _ => Prog.ofExcept x).outcome script.answer = some x
    rw [Prog.outcome_bind, Prog.outcome_attempt, outcome_checkCall]
    exact Prog.outcome_ofExcept (S := checkSig) script.answer x

/-- A socket that is closed at the end, and what follows. -/
theorem finallyClose_bind_ok {α β : Type} {c : Connection} {p : Check α} {f : α → Check β} {b : β} :
    ((finallyClose c p).bind f).outcome script.answer = some (.ok b) ↔
      ∃ a, p.outcome script.answer = some (.ok a) ∧ (f a).outcome script.answer = some (.ok b) := by
  rw [Prog.outcome_bind_ok, outcome_finallyClose]

/-- The time of the check, which never fails. -/
theorem checkedAt_ok {β : Type} {f : String → Check β} {b : β} :
    ((isoZ <$> checkCall (.utcNow .checkedAt) : Check String).bind f).outcome script.answer = some (.ok b) ↔
      (f (isoZ (script.clock .checkedAt))).outcome script.answer = some (.ok b) := Iff.rfl

end

/-! ## Results of `cert_check` -/

/-- The metadata of the result are those of the certificate. -/
structure CertResult.Describes (rt : Runtime) (r : CertResult) (cert : Certificate) : Prop where
  subject_cn : r.subject_cn = firstAttr cert.subject .commonName
  subject_sans : subjectAltNames cert = .ok r.subject_sans
  issuer_cn : r.issuer_cn = firstAttr cert.issuer .commonName
  issuer_o : r.issuer_o = firstAttr cert.issuer .organizationName
  issuer_full_dn : r.issuer_full_dn = some (rt.rfc4514_string cert.issuer)
  is_self_signed : r.is_self_signed = some (decide (cert.subject = cert.issuer))
  not_before : r.not_before = some (isoZ cert.not_valid_before_utc)
  not_after : r.not_after = some (isoZ cert.not_valid_after_utc)

section

variable {rt : Runtime} {hostname : Json} {port : Int} {cert : Certificate} {now : Nat} {checked_at : String}
  {state : ResultState} {trusted : Bool} {verify_code : Option Int} {error_reason : Option String}
  {hostname_matches_override : Option Bool} {r : CertResult}

theorem resultOfCert_describes (h : resultOfCert rt hostname port cert now checked_at state trusted verify_code
    error_reason hostname_matches_override = .ok r) : r.Describes rt cert := by
  obtain ⟨sans, hsans, h⟩ := except_bind_ok h
  obtain ⟨verdict, -, h⟩ := except_bind_ok h
  obtain ⟨algorithm, -, h⟩ := except_bind_ok h
  obtain ⟨size, -, h⟩ := except_bind_ok h
  obtain rfl := Except.ok.inj h
  exact ⟨rfl, hsans, rfl, rfl, rfl, rfl, rfl, rfl⟩

/-- What the result says of the check is what the caller says. -/
theorem resultOfCert_verdicts (h : resultOfCert rt hostname port cert now checked_at state trusted verify_code
    error_reason hostname_matches_override = .ok r) :
    r.state = state ∧ r.error_message = (if trusted then none else error_reason) ∧
      (∃ verdict, hostnameVerdict rt hostname cert hostname_matches_override = .ok verdict ∧
        r.hostname_matches = some verdict) ∧
      r.chain_trusted_by_system = some trusted ∧ r.chain_error_reason = error_reason := by
  obtain ⟨sans, -, h⟩ := except_bind_ok h
  obtain ⟨verdict, hverdict, h⟩ := except_bind_ok h
  obtain ⟨algorithm, -, h⟩ := except_bind_ok h
  obtain ⟨size, -, h⟩ := except_bind_ok h
  obtain rfl := Except.ok.inj h
  exact ⟨rfl, rfl, ⟨verdict, hverdict, rfl⟩, rfl, rfl⟩

end

section

variable (rt : Runtime) (hostname : Json) (port : Int) (connect_timeout handshake_timeout : PyFloat)
  (script : CheckScript)

/-- The verification of stage 1 fails, with this code and text. -/
def VerifyFailed (verify_code : Option Int) (verify_error : String) : Prop :=
  ∃ e code message, (verifiedResult rt hostname port (isoZ (script.clock .checkedAt))).outcome script.answer =
      some (.error (.os e)) ∧
    e.kind = .sslCertVerification code message ∧ verifyInfo e code message = (verify_code, verify_error)

/-- The ways in which `cert_check` returns. -/
inductive CheckReturn : CertResult → Prop
  | unconnected {e : OSError} (hconnect : script.connect .first hostname port connect_timeout = .error (.os e)) :
    CheckReturn {
      state := .connectionFailed, hostname, port
      checked_at := isoZ (script.clock .checkedAt)
      error_message := some e.describe }
  | verified {der : Option (List UInt8)} {cert : Certificate} {r : CertResult}
    (hder : (peerCertificate hostname .first).outcome script.answer = some (.ok der))
    (hcert : script.loadDer der = .ok cert)
    (hr : resultOfCert rt hostname port cert (script.clock .result) (isoZ (script.clock .checkedAt)) .success true
      none none (some true) = .ok r) :
    CheckReturn r
  | handshakeFailed {e : OSError} (hkind : ∀ code message, e.kind ≠ .sslCertVerification code message) :
    CheckReturn {
      state := .tlsFailed, hostname, port
      checked_at := isoZ (script.clock .checkedAt)
      error_message := some e.describe }
  | unrecovered {verify_code : Option Int} {verify_error reason : String}
    (hverify : VerifyFailed rt hostname port script verify_code verify_error) :
    CheckReturn (CertWatch.unrecovered hostname port (isoZ (script.clock .checkedAt)) verify_error reason)
  | recovered {verify_code : Option Int} {verify_error : String} {der : Option (List UInt8)} {cert : Certificate}
    {r : CertResult} (hverify : VerifyFailed rt hostname port script verify_code verify_error)
    (hder : (peerCertificate hostname .second).outcome script.answer = some (.ok der))
    (hcert : script.loadDer der = .ok cert)
    (hr : resultOfCert rt hostname port cert (script.clock .result) (isoZ (script.clock .checkedAt)) .tlsFailed
      false verify_code (some verify_error) none = .ok r) :
    CheckReturn r

end

section

variable {rt : Runtime} {hostname : Json} {port : Int} {connect_timeout handshake_timeout : PyFloat}
  {script : CheckScript}

/-- The certificate that the bytes hold, and the result over it. -/
theorem buildResult_ok {der : Option (List UInt8)} {checked_at : String} {state : ResultState} {trusted : Bool}
    {verify_code : Option Int} {error_reason : Option String} {hostname_matches_override : Option Bool}
    {r : CertResult}
    (h : ((loadCertificate der).bind fun cert => buildResult rt hostname port cert checked_at state trusted
      verify_code error_reason hostname_matches_override).outcome script.answer = some (.ok r)) :
    ∃ cert, script.loadDer der = .ok cert ∧ resultOfCert rt hostname port cert (script.clock .result) checked_at
      state trusted verify_code error_reason hostname_matches_override = .ok r := by
  obtain ⟨cert, hcert, h⟩ := Prog.outcome_bind_ok.mp h
  obtain ⟨loaded, hloaded, hcert⟩ := call_ok.mp hcert
  obtain ⟨now, hnow, h⟩ := call_ok.mp h
  obtain rfl := Except.ok.inj hloaded
  obtain rfl := Except.ok.inj hnow
  rw [Prog.outcome_ofExcept] at hcert h
  refine ⟨cert, ?_, Option.some.inj h⟩
  show script.loadDer der = .ok cert
  cases hload : script.loadDer der with
  | error e => simp [hload, Except.mapError] at hcert
  | ok cert' => simpa [CheckScript.answer, hload, Except.mapError] using hcert

theorem stageOne_ok {s : StageOne}
    (h : (stageOne rt hostname port (isoZ (script.clock .checkedAt)) handshake_timeout).outcome script.answer =
      some (.ok s)) :
    (∃ r, s = .done r ∧ CheckReturn rt hostname port connect_timeout script r) ∨
      ∃ verify_code verify_error, s = .verifyFailed verify_code verify_error ∧
        VerifyFailed rt hostname port script verify_code verify_error := by
  obtain ⟨-, -, h⟩ := call_ok.mp h
  rw [outcome_finallyClose] at h
  obtain ⟨-, -, h⟩ := call_ok.mp h
  obtain ⟨outcome, houtcome, h⟩ := Prog.outcome_attempt_bind_ok.mp h
  rcases outcome with e | r
  · cases e with
    | os e =>
      cases hkind : e.kind with
      | sslCertVerification code message =>
        simp only [afterVerifiedResult, hkind] at h
        obtain rfl := Except.ok.inj (Option.some.inj h)
        exact .inr ⟨_, _, rfl, e, code, message, houtcome, hkind, rfl⟩
      | _ =>
        simp only [afterVerifiedResult, hkind] at h
        obtain rfl := Except.ok.inj (Option.some.inj h)
        exact .inl ⟨_, rfl, .handshakeFailed (by simp [hkind])⟩
    | _ => cases Option.some.inj h
  · obtain rfl := Except.ok.inj (Option.some.inj h)
    obtain ⟨der, hder, hr⟩ := Prog.outcome_bind_ok.mp houtcome
    obtain ⟨cert, hcert, hr⟩ := buildResult_ok hr
    exact .inl ⟨r, rfl, .verified hder hcert hr⟩

theorem stageTwo_ok {verify_code : Option Int} {verify_error : String} {r : CertResult}
    (hverify : VerifyFailed rt hostname port script verify_code verify_error)
    (h : (stageTwo rt hostname port (isoZ (script.clock .checkedAt)) verify_code verify_error connect_timeout
      handshake_timeout).outcome script.answer = some (.ok r)) :
    CheckReturn rt hostname port connect_timeout script r := by
  replace h := guarded_call_ok.mp h
  rcases hconnect : script.answer (.connect .second hostname port connect_timeout) with e | u
  · rw [hconnect] at h
    cases e with
    | os e =>
      obtain rfl := Except.ok.inj (Option.some.inj h)
      exact .unrecovered hverify
    | _ => cases Option.some.inj h
  · rw [hconnect] at h
    obtain ⟨-, -, h⟩ := call_ok.mp h
    obtain ⟨recovery, hrecovery, h⟩ := finallyClose_bind_ok.mp h
    obtain ⟨-, -, hrecovery⟩ := call_ok.mp hrecovery
    obtain ⟨outcome, houtcome, hrecovery⟩ := Prog.outcome_attempt_bind_ok.mp hrecovery
    rcases outcome with e | der
    · cases e with
      | os e =>
        obtain rfl := Except.ok.inj (Option.some.inj hrecovery)
        obtain rfl := Except.ok.inj (Option.some.inj h)
        exact .unrecovered hverify
      | _ => cases Option.some.inj hrecovery
    · obtain rfl := Except.ok.inj (Option.some.inj hrecovery)
      obtain ⟨cert, hcert, hr⟩ := buildResult_ok h
      exact .recovered hverify houtcome hcert hr

/-- **A result of `cert_check` came about in one of these ways.** -/
theorem checked_of_returned {r : CertResult}
    (h : (certCheck rt hostname port connect_timeout handshake_timeout).outcome script.answer = some (.ok r)) :
    CheckReturn rt hostname port connect_timeout script r := by
  replace h := guarded_call_ok.mp (checkedAt_ok.mp h)
  rcases hconnect : script.answer (.connect .first hostname port connect_timeout) with e | u
  · rw [hconnect] at h
    cases e with
    | os e =>
      obtain rfl := Except.ok.inj (Option.some.inj h)
      exact .unconnected hconnect
    | _ => cases Option.some.inj h
  · rw [hconnect] at h
    obtain ⟨s, hs, h⟩ := Prog.outcome_bind_ok.mp h
    obtain ⟨r', rfl, hr⟩ | ⟨verify_code, verify_error, rfl, hverify⟩ := stageOne_ok hs
    · obtain rfl := Except.ok.inj (Option.some.inj h)
      exact hr
    · exact stageTwo_ok hverify h

end

/-! ## Results of `cert_check_with_discovery` -/

/-- The metadata of the result are those of the certificate. -/
structure CertCheckResult.Describes (rt : Runtime) (r : CertCheckResult) (cert : Certificate) : Prop where
  subject_cn : r.subject_cn = firstAttr cert.subject .commonName
  subject_sans : extractCanonicalHostnameAndSans cert = .ok (r.canonical_hostname, r.subject_sans)
  issuer_cn : r.issuer_cn = firstAttr cert.issuer .commonName
  issuer_o : r.issuer_o = firstAttr cert.issuer .organizationName
  issuer_full_dn : r.issuer_full_dn = some (rt.rfc4514_string cert.issuer)
  is_self_signed : r.is_self_signed = some (decide (cert.subject = cert.issuer))
  not_before : r.not_before = some (isoZ cert.not_valid_before_utc)
  not_after : r.not_after = some (isoZ cert.not_valid_after_utc)

/-- The canonical hostname of the result is the certificate's. -/
theorem CertCheckResult.Describes.canonical_hostname {rt : Runtime} {r : CertCheckResult} {cert : Certificate}
    (h : r.Describes rt cert) {canonical : Option String} {all_sans : List String}
    (hname : extractCanonicalHostnameAndSans cert = .ok (canonical, all_sans)) : r.canonical_hostname = canonical := by
  have hnames := h.subject_sans
  rw [hname] at hnames
  exact (Prod.mk.inj (Except.ok.inj hnames)).1.symm

section

variable {rt : Runtime} {ip : Json} {port : Int} {cert : Certificate} {now : Nat} {status : CertStatus}
  {checked_at : String} {canonical : Option String} {all_sans : List String}
  {hostname_matches chain_trusted : Option Bool} {chain_trust_reason error_message : Option String}
  {r : CertCheckResult}

theorem resultOfCertData_describes (h : resultOfCertData rt ip port now status checked_at cert canonical all_sans
    hostname_matches chain_trusted chain_trust_reason error_message = .ok r)
    (hname : extractCanonicalHostnameAndSans cert = .ok (canonical, all_sans)) : r.Describes rt cert := by
  obtain ⟨algorithm, -, h⟩ := except_bind_ok h
  obtain ⟨size, -, h⟩ := except_bind_ok h
  obtain rfl := Except.ok.inj h
  exact ⟨rfl, hname, rfl, rfl, rfl, rfl, rfl, rfl⟩

/-- What the caller supplies, and the expiry at the moment of the result. -/
theorem resultOfCertData_verdicts (h : resultOfCertData rt ip port now status checked_at cert canonical all_sans
    hostname_matches chain_trusted chain_trust_reason error_message = .ok r) :
    r.status = status ∧ r.error_message = error_message ∧
      r.days_until_expiry = some (daysUntil cert.not_valid_after_utc now) ∧
      r.hostname_matches = hostname_matches ∧ r.chain_trusted_by_system = chain_trusted ∧
      r.chain_trust_reason = chain_trust_reason := by
  obtain ⟨algorithm, -, h⟩ := except_bind_ok h
  obtain ⟨size, -, h⟩ := except_bind_ok h
  obtain rfl := Except.ok.inj h
  exact ⟨rfl, rfl, rfl, rfl, rfl, rfl⟩

end

section

variable (rt : Runtime) (ip : Json) (port : Int) (connect_timeout handshake_timeout : PyFloat)
  (expiring_soon_threshold_days : Int) (script : CheckScript)

/-- The first handshake yields this certificate. -/
def Discovers (cert : Certificate) : Prop :=
  (handshakeGetCert ip port ip connect_timeout handshake_timeout).outcome script.answer = some (.ok (.ok cert))

/-- The status that the check decides on, when the certificate carries a name. -/
def decidedStatus (cert : Certificate) (canonical : String) (chain_trusted : Bool) : CertStatus :=
  determineStatus (some canonical) (some (daysUntil cert.not_valid_after_utc (script.clock .decision)))
    (some chain_trusted) expiring_soon_threshold_days

/-- The ways in which `cert_check_with_discovery` returns. -/
inductive DiscoveryReturn : CertCheckResult → Prop
  | failed {e : DiscoveryError} (hfailed : (handshakeGetCert ip port ip connect_timeout handshake_timeout).outcome
      script.answer = some (.ok (.error e))) :
    DiscoveryReturn {
      status := e.status
      ip_address := ip
      port
      checked_at := isoZ (script.clock .checkedAt)
      error_message := some e.message }
  | unnamed {cert : Certificate} {all_sans : List String} {r : CertCheckResult}
    (hcert : Discovers ip port connect_timeout handshake_timeout script cert)
    (hname : extractCanonicalHostnameAndSans cert = .ok (none, all_sans))
    (hr : resultOfCertData rt ip port (script.clock .result) .certNoUsableHostname (isoZ (script.clock .checkedAt))
      cert none all_sans none none none (some "cert has no SAN and no CN — no usable hostname") = .ok r) :
    DiscoveryReturn r
  | verified {cert : Certificate} {canonical : String} {all_sans : List String} {hostname_matches trusted : Bool}
    {reason : Option String} {r : CertCheckResult}
    (hcert : Discovers ip port connect_timeout handshake_timeout script cert)
    (hname : extractCanonicalHostnameAndSans cert = .ok (some canonical, all_sans))
    (hmatches : (handshakeVerifyHostname ip port canonical connect_timeout handshake_timeout).outcome script.answer =
      some (.ok hostname_matches))
    (hchain : (handshakeVerifyChain ip port canonical connect_timeout handshake_timeout).outcome script.answer =
      some (.ok (trusted, reason)))
    (hr : resultOfCertData rt ip port (script.clock .result)
      (decidedStatus expiring_soon_threshold_days script cert canonical trusted) (isoZ (script.clock .checkedAt))
      cert (some canonical) all_sans (some hostname_matches) (some trusted) reason none = .ok r) :
    DiscoveryReturn r

end

section

variable {rt : Runtime} {ip : Json} {port : Int} {connect_timeout handshake_timeout : PyFloat}
  {expiring_soon_threshold_days : Int} {script : CheckScript}

theorem resultWithCertData_ok {status : CertStatus} {checked_at : String} {cert : Certificate}
    {canonical : Option String} {all_sans : List String} {hostname_matches chain_trusted : Option Bool}
    {chain_trust_reason error_message : Option String} {r : CertCheckResult}
    (h : (resultWithCertData rt ip port status checked_at cert canonical all_sans hostname_matches chain_trusted
      chain_trust_reason error_message).outcome script.answer = some (.ok r)) :
    resultOfCertData rt ip port (script.clock .result) status checked_at cert canonical all_sans hostname_matches
      chain_trusted chain_trust_reason error_message = .ok r := by
  obtain ⟨now, hnow, h⟩ := call_ok.mp h
  obtain rfl := Except.ok.inj hnow
  rw [Prog.outcome_ofExcept] at h
  exact Option.some.inj h

/-- **A result of `cert_check_with_discovery` came about in one of these ways.** -/
theorem discovery_of_returned {r : CertCheckResult}
    (h : (certCheckWithDiscovery rt ip port connect_timeout handshake_timeout expiring_soon_threshold_days).outcome
      script.answer = some (.ok r)) :
    DiscoveryReturn rt ip port connect_timeout handshake_timeout expiring_soon_threshold_days script r := by
  obtain ⟨found, hfound, h⟩ := Prog.outcome_bind_ok.mp (checkedAt_ok.mp h)
  rcases found with e | cert
  · obtain rfl := Except.ok.inj (Option.some.inj h)
    exact .failed hfound
  · obtain ⟨⟨canonical, all_sans⟩, hname, h⟩ := Prog.outcome_bind_ok.mp h
    rw [Prog.outcome_ofExcept] at hname
    replace hname := Option.some.inj hname
    obtain ⟨now, hnow, h⟩ := call_ok.mp h
    obtain rfl := Except.ok.inj hnow
    cases canonical with
    | none => exact .unnamed hfound hname (resultWithCertData_ok h)
    | some canonical =>
      obtain ⟨hostname_matches, hmatches, h⟩ := Prog.outcome_bind_ok.mp h
      obtain ⟨⟨trusted, reason⟩, hchain, h⟩ := Prog.outcome_bind_ok.mp h
      exact .verified hfound hname hmatches hchain (resultWithCertData_ok h)

/-! ### The first handshake -/

/-- The statuses of a check that recovered no certificate. -/
def CertStatus.WithoutCert (status : CertStatus) : Prop :=
  status = .connectionRefused ∨ status = .connectionTimeout ∨ status = .tlsFailedNoCert ∨
    status = .tlsFailedMalformedCert

instance (status : CertStatus) : Decidable status.WithoutCert := inferInstanceAs (Decidable (_ ∨ _))

theorem connectError_withoutCert (e : OSError) : (connectError e).status.WithoutCert := by
  unfold connectError CertStatus.WithoutCert
  split
  · simp
  · simp

theorem wrapError_withoutCert (e : OSError) : (wrapError e).status.WithoutCert := by
  unfold wrapError CertStatus.WithoutCert
  split_ifs
  · simp
  · simp
  · simp

/-- What the first handshake ends with: an error of its own, or the parsed leaf of the connection. -/
theorem parseCertificate_ok {der : Option (List UInt8)} {found : Except DiscoveryError Certificate}
    (h : (parseCertificate der).outcome script.answer = some (.ok found)) :
    (∃ e, found = .error e ∧ e.status.WithoutCert) ∨
      ∃ cert, found = .ok cert ∧ der.isSome ∧ script.loadDer der = .ok cert := by
  rcases der with _ | _ | ⟨byte, rest⟩
  · obtain rfl := Except.ok.inj (Option.some.inj h)
    exact .inl ⟨_, rfl, .inr (.inr (.inl rfl))⟩
  · obtain rfl := Except.ok.inj (Option.some.inj h)
    exact .inl ⟨_, rfl, .inr (.inr (.inl rfl))⟩
  · obtain ⟨loaded, hloaded, h⟩ := call_ok.mp h
    obtain rfl := Except.ok.inj hloaded
    obtain rfl := Except.ok.inj (Option.some.inj h)
    cases hload : script.loadDer (some (byte :: rest)) with
    | error e => exact .inl ⟨_, rfl, .inr (.inr (.inr rfl))⟩
    | ok cert => exact .inr ⟨cert, rfl, rfl, rfl⟩

theorem handshakeGetCert_ok {found : Except DiscoveryError Certificate}
    (h : (handshakeGetCert ip port ip connect_timeout handshake_timeout).outcome script.answer =
      some (.ok found)) :
    (∃ e, found = .error e ∧ e.status.WithoutCert) ∨
      ∃ cert der, found = .ok cert ∧ script.wrapSocket .first ip = .ok () ∧
        script.getpeercert .first = .ok (some der) ∧ script.loadDer (some der) = .ok cert := by
  replace h := guarded_call_ok.mp h
  rcases hconnect : script.answer (.connect .first ip port connect_timeout) with e | u
  · rw [hconnect] at h
    cases e with
    | os e =>
      obtain rfl := Except.ok.inj (Option.some.inj h)
      exact .inl ⟨_, rfl, connectError_withoutCert e⟩
    | _ => cases Option.some.inj h
  · rw [hconnect] at h
    obtain ⟨-, -, h⟩ := call_ok.mp h
    rw [outcome_finallyClose] at h
    obtain ⟨-, -, h⟩ := call_ok.mp h
    replace h := guarded_call_ok.mp h
    rcases hwrap : script.answer (.wrapSocket .first ip) with e | u
    · rw [hwrap] at h
      cases e with
      | os e =>
        obtain rfl := Except.ok.inj (Option.some.inj h)
        exact .inl ⟨_, rfl, wrapError_withoutCert e⟩
      | _ => cases Option.some.inj h
    · rw [hwrap] at h
      obtain ⟨der, hder, h⟩ := Prog.outcome_bind_ok.mp h
      replace hder := guarded_call_ok.mp (guarded_call_ok.mp hder)
      rw [Prog.outcome_ofExcept] at hder
      obtain hfailed | ⟨cert, rfl, hsome, hload⟩ := parseCertificate_ok h
      · exact .inl hfailed
      · obtain ⟨bytes, rfl⟩ := Option.isSome_iff_exists.mp hsome
        exact .inr ⟨cert, bytes, rfl, hwrap, Option.some.inj hder, hload⟩

theorem failed_withoutCert {e : DiscoveryError}
    (h : (handshakeGetCert ip port ip connect_timeout handshake_timeout).outcome script.answer =
      some (.ok (.error e))) : e.status.WithoutCert := by
  obtain ⟨e', he', hwithout⟩ | ⟨cert, der, hcert, -⟩ := handshakeGetCert_ok h
  · rwa [Except.error.inj he']
  · cases hcert

/-! ### The second handshake -/

/-- The handshake under the canonical name, and closing its TLS socket. -/
def hostnameHandshake (script : CheckScript) (canonical : String) : Except PyExc Unit := do
  script.wrapSocket .second (.str canonical)
  script.closeTls .second

/-- The second handshake is begun. -/
def HostnameHandshakeBegun (ip : Json) (port : Int) (connect_timeout handshake_timeout : PyFloat)
    (script : CheckScript) : Prop :=
  script.connect .second ip port connect_timeout = .ok () ∧ script.settimeout .second handshake_timeout = .ok () ∧
    script.context .second .hostnameOnly = .ok ()

/-- An outcome of the handshake that counts as a match: it completes, or its verification fails by another code
than the one of a mismatching hostname. -/
def CountsAsMatch (handshake : Except PyExc Unit) : Prop :=
  handshake = .ok () ∨ ∃ e verify_code message, handshake = .error (.os e) ∧
    e.kind = .sslCertVerification verify_code message ∧ verify_code ≠ some 62

theorem outcome_hostnameHandshake {canonical : String} :
    ((checkCall (.wrapSocket .second (.str canonical))).bind fun _ => checkCall (.closeTls .second) :
      Check Unit).outcome script.answer = some (hostnameHandshake script canonical) := by
  rw [Prog.outcome_bind, outcome_checkCall]
  show (Prog.followedBy (S := checkSig) _ (some (script.wrapSocket .second (.str canonical)))).outcome
    script.answer = _
  unfold hostnameHandshake
  cases script.wrapSocket .second (.str canonical) with
  | error e => rfl
  | ok u => exact outcome_checkCall (.closeTls .second)

/-- The verdicts of `_handshake_verify_hostname`, by what they are obtained from. -/
inductive HostnameVerdict (ip : Json) (port : Int) (connect_timeout handshake_timeout : PyFloat)
    (script : CheckScript) (canonical : String) : Bool → Prop
  | matched (hbegun : HostnameHandshakeBegun ip port connect_timeout handshake_timeout script)
    (hcounts : CountsAsMatch (hostnameHandshake script canonical)) :
    HostnameVerdict ip port connect_timeout handshake_timeout script canonical true
  | mismatched {e : OSError} {message : Option String}
    (hhandshake : hostnameHandshake script canonical = .error (.os e))
    (hkind : e.kind = .sslCertVerification (some 62) message) :
    HostnameVerdict ip port connect_timeout handshake_timeout script canonical false
  /-- There is no verification, because the connection or the handshake fails before it. -/
  | unverified {e : OSError}
    (hfailed : script.connect .second ip port connect_timeout = .error (.os e) ∨
      hostnameHandshake script canonical = .error (.os e) ∧
        ∀ code message, e.kind ≠ .sslCertVerification code message) :
    HostnameVerdict ip port connect_timeout handshake_timeout script canonical false

theorem handshakeVerifyHostname_ok {canonical : String} {hostname_matches : Bool}
    (h : (handshakeVerifyHostname ip port canonical connect_timeout handshake_timeout).outcome script.answer =
      some (.ok hostname_matches)) :
    HostnameVerdict ip port connect_timeout handshake_timeout script canonical hostname_matches := by
  replace h := guarded_call_ok.mp h
  rcases hconnect : script.answer (.connect .second ip port connect_timeout) with e | u
  · rw [hconnect] at h
    cases e with
    | os e =>
      obtain rfl := Except.ok.inj (Option.some.inj h)
      exact .unverified (.inl hconnect)
    | _ => cases Option.some.inj h
  · rw [hconnect] at h
    obtain ⟨u, hsettimeout, h⟩ := call_ok.mp h
    rw [outcome_finallyClose] at h
    obtain ⟨u, hcontext, h⟩ := call_ok.mp h
    have hbegun : HostnameHandshakeBegun ip port connect_timeout handshake_timeout script :=
      ⟨hconnect, hsettimeout, hcontext⟩
    obtain ⟨x, hx, h⟩ := Prog.outcome_attempt_bind_ok.mp h
    replace hx := Option.some.inj (hx.symm.trans outcome_hostnameHandshake)
    rcases x with e | u
    · cases e with
      | os e =>
        cases hkind : e.kind with
        | sslCertVerification verify_code message =>
          simp only [hkind] at h
          obtain rfl := Except.ok.inj (Option.some.inj h)
          -- with an empty trust store the chain always fails, and only 62 speaks of the name
          rcases Classical.em (verify_code = some 62) with rfl | hcode
          · exact .mismatched hx.symm hkind
          · rw [show (verify_code != some 62) = true by simpa using hcode]
            exact .matched hbegun (.inr ⟨e, verify_code, message, hx.symm, hkind, hcode⟩)
        | _ =>
          simp only [hkind] at h
          obtain rfl := Except.ok.inj (Option.some.inj h)
          exact .unverified (.inr ⟨hx.symm, by simp [hkind]⟩)
      | _ => cases Option.some.inj h
    · obtain rfl := Except.ok.inj (Option.some.inj h)
      exact .matched hbegun (.inl hx.symm)

/-- **The hostname counts as matching** when the second handshake is begun and ends in one of these ways. -/
theorem handshakeVerifyHostname_true_iff {canonical : String} :
    (handshakeVerifyHostname ip port canonical connect_timeout handshake_timeout).outcome script.answer =
      some (.ok true) ↔
      HostnameHandshakeBegun ip port connect_timeout handshake_timeout script ∧
        CountsAsMatch (hostnameHandshake script canonical) := by
  constructor
  · intro h
    cases handshakeVerifyHostname_ok h with
    | matched hbegun hcounts => exact ⟨hbegun, hcounts⟩
  · rintro ⟨⟨hconnect, hsettimeout, hcontext⟩, hcounts⟩
    refine guarded_call_ok.mpr ?_
    rw [show script.answer (.connect .second ip port connect_timeout) = .ok () from hconnect]
    refine call_ok.mpr ⟨(), hsettimeout, ?_⟩
    rw [outcome_finallyClose]
    refine call_ok.mpr ⟨(), hcontext, Prog.outcome_attempt_bind_ok.mpr ⟨_, outcome_hostnameHandshake, ?_⟩⟩
    obtain hok | ⟨e, verify_code, message, herror, hkind, hcode⟩ := hcounts
    · rw [hok]
      rfl
    · rw [herror]
      simpa [hkind] using hcode

/-! ### The third handshake -/

/-- The verdicts of `_handshake_verify_chain`, by what they are obtained from. -/
inductive ChainVerdict (port : Int) (ip : Json) (connect_timeout : PyFloat) (script : CheckScript)
    (canonical : String) : Bool → Option String → Prop
  /-- The verified handshake completes. -/
  | completed (hwrap : script.wrapSocket .third (.str canonical) = .ok ()) : ChainVerdict port ip connect_timeout
      script canonical true none
  /-- The verification of what the server presents fails. -/
  | untrusted {e : OSError} {verify_code : Option Int} {message : Option String}
    (hwrap : script.wrapSocket .third (.str canonical) = .error (.os e))
    (hkind : e.kind = .sslCertVerification verify_code message) :
    ChainVerdict port ip connect_timeout script canonical false (some (chainTrustReason verify_code))
  /-- There is no verification, because the connection or the handshake fails before it. -/
  | unverified {e : OSError}
    (hfailed : script.connect .third ip port connect_timeout = .error (.os e) ∨
      script.wrapSocket .third (.str canonical) = .error (.os e) ∧
        ∀ code message, e.kind ≠ .sslCertVerification code message) :
    ChainVerdict port ip connect_timeout script canonical false
      (some ("verification_failed:" ++ e.kind.className))

theorem handshakeVerifyChain_ok {canonical : String} {trusted : Bool} {reason : Option String}
    (h : (handshakeVerifyChain ip port canonical connect_timeout handshake_timeout).outcome script.answer =
      some (.ok (trusted, reason))) : ChainVerdict port ip connect_timeout script canonical trusted reason := by
  replace h := guarded_call_ok.mp h
  rcases hconnect : script.answer (.connect .third ip port connect_timeout) with e | u
  · rw [hconnect] at h
    cases e with
    | os e =>
      obtain ⟨rfl, rfl⟩ := Prod.mk.inj (Except.ok.inj (Option.some.inj h))
      exact .unverified (.inl hconnect)
    | _ => cases Option.some.inj h
  · rw [hconnect] at h
    obtain ⟨-, -, h⟩ := call_ok.mp h
    rw [outcome_finallyClose] at h
    obtain ⟨-, -, h⟩ := call_ok.mp h
    replace h := guarded_call_ok.mp h
    rcases hwrap : script.answer (.wrapSocket .third (.str canonical)) with e | u
    · rw [hwrap] at h
      cases e with
      | os e =>
        cases hkind : e.kind with
        | sslCertVerification code message =>
          simp only [hkind] at h
          obtain ⟨rfl, rfl⟩ := Prod.mk.inj (Except.ok.inj (Option.some.inj h))
          exact .untrusted hwrap hkind
        | _ =>
          simp only [hkind] at h
          obtain ⟨rfl, rfl⟩ := Prod.mk.inj (Except.ok.inj (Option.some.inj h))
          rw [← hkind]
          exact .unverified (.inr ⟨hwrap, by simp [hkind]⟩)
      | _ => cases Option.some.inj h
    · rw [hwrap] at h
      obtain ⟨rfl, rfl⟩ := Prod.mk.inj (Except.ok.inj (Option.some.inj (guarded_call_ok.mp h)))
      exact .completed hwrap

end

/-! ## A server -/

/-- An interpreter that leaves texts as they are. -/
def literalRuntime : Runtime where
  lower := id
  upper := id
  repr _ := ""
  floatOfText _ := .error (.valueError "could not convert string to float")
  internal_ca_patterns := none
  rfc4514_string _ := "CN=ca.example"

/-- A certificate for one name, by a CA or by itself. -/
def certFor (san : GeneralName) (issuer : String) (not_after : Nat) : Certificate where
  not_valid_before_utc := 0
  not_valid_after_utc := not_after
  subject := ⟨[[(.commonName, .str "db.example")]]⟩
  issuer := ⟨[[(.commonName, .str issuer)]]⟩
  san := .ok (some [san])
  signature_hash_algorithm := .ok (some "sha256")
  public_key := .ok (.rsa 2048)

/-- A verification that fails with this code. -/
def verifyError (verify_code : Int) : OSError :=
  ⟨.sslCertVerification (some verify_code) (some "certificate verify failed"), "certificate verify failed"⟩

/-- A server that presents the certificate on every connection, and that the system's trust store trusts. -/
def serving (cert : Certificate) : CheckScript where
  connect _ _ _ _ := .ok ()
  wrapSocket c _ := if c = .second then .error (.os (verifyError 20)) else .ok ()
  getpeercert _ := .ok (some [48])
  loadDer _ := .ok cert

end CertWatch
