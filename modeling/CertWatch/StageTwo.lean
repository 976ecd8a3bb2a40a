/-
# `CertWatch.StageTwo` — what `cert_check` says after a failed verification.

When the verification of stage 1 fails and stage 2 recovers a certificate, the check function fills in itself what
OpenSSL would have decided: the category of the issuer, from the code of the failure, and the verdict on the
hostname, by its own matcher.  Both are compared here with what they stand for.
-/
import CertWatch.HostnameRule
import CertWatch.PresentedCertificates

namespace CertWatch

open CertWatch.Lib

section

variable (rt : Runtime) (hostname : Json) (port : Int) (connect_timeout handshake_timeout : PyFloat)
  (script : CheckScript)

/-- Stage 1 connects, and its verification fails with this code and text. -/
structure ReachesStageTwo (verify_code : Option Int) (verify_error : String) : Prop where
  connected : script.connect .first hostname port connect_timeout = .ok ()
  timed : script.settimeout .first handshake_timeout = .ok ()
  prepared : script.context .first .default = .ok ()
  failed : VerifyFailed rt hostname port script verify_code verify_error

/-- Stage 2 connects, and its handshake yields this certificate. -/
structure StageTwoRecovers (cert : Certificate) : Prop where
  connected : script.connect .second hostname port connect_timeout = .ok ()
  timed : script.settimeout .second handshake_timeout = .ok ()
  prepared : script.context .second .unverified = .ok ()
  presented : ∃ der, (peerCertificate hostname .second).outcome script.answer = some (.ok der) ∧
    script.loadDer der = .ok cert

/-- Stage 1 verifies the chain: its handshake completes and yields a certificate. -/
def StageOneVerifies : Prop := ∃ der, (peerCertificate hostname .first).outcome script.answer = some (.ok der)

end

section

variable {rt : Runtime} {hostname : Json} {port : Int} {connect_timeout handshake_timeout : PyFloat}
  {script : CheckScript} {verify_code : Option Int} {verify_error : String} {cert : Certificate} {r : CertResult}

/-! ## The result over a recovered certificate -/

theorem outcome_call_bind {β : Type} {o : CheckOp} {a : o.Ret} {f : o.Ret → Check β} (h : script.answer o = .ok a) :
    ((checkCall o).bind f).outcome script.answer = (f a).outcome script.answer := by
  rw [Prog.outcome_bind, outcome_checkCall, h]
  rfl

theorem outcome_checkedAt_bind {β : Type} {f : String → Check β} :
    ((isoZ <$> checkCall (.utcNow .checkedAt) : Check String).bind f).outcome script.answer =
      (f (isoZ (script.clock .checkedAt))).outcome script.answer := rfl

theorem outcome_guarded_call_bind {β : Type} {o : CheckOp} {f : Except PyExc o.Ret → Check β} :
    ((checkCall o).attempt.bind f).outcome script.answer = (f (script.answer o)).outcome script.answer := by
  rw [Prog.outcome_bind, Prog.outcome_attempt, outcome_checkCall]
  rfl

theorem outcome_loadCertificate_bind {β : Type} {der : Option (List UInt8)} {f : Certificate → Check β}
    (hcert : script.loadDer der = .ok cert) :
    ((loadCertificate der).bind f).outcome script.answer = (f cert).outcome script.answer := by
  have hload : (loadCertificate der).outcome script.answer = some (.ok cert) := by
    refine (outcome_call_bind (o := .loadDer der) rfl).trans ?_
    rw [hcert]
    rfl
  rw [Prog.outcome_bind, hload]
  rfl

theorem outcome_stageOne (h : ReachesStageTwo rt hostname port connect_timeout handshake_timeout script verify_code
    verify_error) :
    (stageOne rt hostname port (isoZ (script.clock .checkedAt)) handshake_timeout).outcome script.answer =
      some (.ok (.verifyFailed verify_code verify_error)) := by
  obtain ⟨e, code, message, houtcome, hkind, hinfo⟩ := h.failed
  refine (outcome_call_bind (o := .settimeout .first handshake_timeout) h.timed).trans ?_
  rw [outcome_finallyClose]
  refine (outcome_call_bind (o := .context .first .default) h.prepared).trans ?_
  refine Prog.outcome_attempt_bind_ok.mpr ⟨_, houtcome, ?_⟩
  simp only [afterVerifiedResult, hkind, hinfo]
  rfl

theorem outcome_recoverCertificate {der : Option (List UInt8)} {checked_at : String}
    (hprepared : script.context .second .unverified = .ok ())
    (hder : (peerCertificate hostname .second).outcome script.answer = some (.ok der)) :
    (recoverCertificate hostname port checked_at verify_error).outcome script.answer = some (.ok (.inr der)) := by
  refine (outcome_call_bind (o := .context .second .unverified) hprepared).trans ?_
  exact Prog.outcome_attempt_bind_ok.mpr ⟨_, hder, rfl⟩

/-- **What stage 2 makes of the certificate that it recovers** is what `cert_check` ends with. -/
theorem outcome_certCheck_of_recovers
    (hreaches : ReachesStageTwo rt hostname port connect_timeout handshake_timeout script verify_code verify_error)
    (hrecovers : StageTwoRecovers hostname port connect_timeout handshake_timeout script cert) :
    (certCheck rt hostname port connect_timeout handshake_timeout).outcome script.answer =
      some (resultOfCert rt hostname port cert (script.clock .result) (isoZ (script.clock .checkedAt)) .tlsFailed
        false verify_code (some verify_error) none) := by
  obtain ⟨der, hder, hcert⟩ := hrecovers.presented
  have htwo : (stageTwo rt hostname port (isoZ (script.clock .checkedAt)) verify_code verify_error connect_timeout
      handshake_timeout).outcome script.answer = some (resultOfCert rt hostname port cert (script.clock .result)
        (isoZ (script.clock .checkedAt)) .tlsFailed false verify_code (some verify_error) none) := by
    unfold stageTwo
    rw [Prog.bind_eq, outcome_guarded_call_bind]
    rw [show script.answer (.connect .second hostname port connect_timeout) = .ok () from hrecovers.connected]
    refine (outcome_call_bind (o := .settimeout .second handshake_timeout) hrecovers.timed).trans ?_
    rw [Prog.bind_eq, Prog.outcome_bind, outcome_finallyClose,
      outcome_recoverCertificate hrecovers.prepared hder]
    refine (outcome_loadCertificate_bind hcert).trans ?_
    exact Prog.outcome_ofExcept (S := checkSig) script.answer _
  unfold certCheck
  rw [Prog.bind_eq, outcome_checkedAt_bind, Prog.bind_eq, outcome_guarded_call_bind]
  rw [show script.answer (.connect .first hostname port connect_timeout) = .ok () from hreaches.connected]
  rw [Prog.bind_eq, Prog.outcome_bind, outcome_stageOne hreaches]
  exact htwo

/-- The parts of stage 1, when it does not raise. -/
theorem stageOne_parts {s : StageOne}
    (h : (stageOne rt hostname port (isoZ (script.clock .checkedAt)) handshake_timeout).outcome script.answer =
      some (.ok s)) :
    script.settimeout .first handshake_timeout = .ok () ∧ script.context .first .default = .ok () ∧
      ∃ outcome,
        (verifiedResult rt hostname port (isoZ (script.clock .checkedAt))).outcome script.answer = some outcome ∧
        (afterVerifiedResult hostname port (isoZ (script.clock .checkedAt)) outcome).outcome script.answer =
          some (.ok s) := by
  obtain ⟨u, htimed, h⟩ := call_ok.mp h
  rw [outcome_finallyClose] at h
  obtain ⟨u, hprepared, h⟩ := call_ok.mp h
  exact ⟨htimed, hprepared, Prog.outcome_attempt_bind_ok.mp h⟩

/-- Stage 1 leads to stage 2 only by a failed verification. -/
theorem verifyFailed_of_after {outcome : Except PyExc CertResult}
    (houtcome : (verifiedResult rt hostname port (isoZ (script.clock .checkedAt))).outcome script.answer = some outcome)
    (h : (afterVerifiedResult hostname port (isoZ (script.clock .checkedAt)) outcome).outcome script.answer =
      some (.ok (.verifyFailed verify_code verify_error))) :
    VerifyFailed rt hostname port script verify_code verify_error := by
  rcases outcome with e | r
  · cases e with
    | os e =>
      cases hkind : e.kind with
      | sslCertVerification code message =>
        simp only [afterVerifiedResult, hkind] at h
        obtain ⟨rfl, rfl⟩ := StageOne.verifyFailed.inj (Except.ok.inj (Option.some.inj h))
        exact ⟨e, code, message, houtcome, hkind, rfl⟩
      | _ =>
        simp only [afterVerifiedResult, hkind] at h
        cases Except.ok.inj (Option.some.inj h)
    | _ => cases Option.some.inj h
  · cases Except.ok.inj (Option.some.inj h)

/-- Stage 1 gives a category only to a certificate that it verifies. -/
theorem verified_of_after (hcategory : r.ca_category ≠ none) {outcome : Except PyExc CertResult}
    (h : (afterVerifiedResult hostname port (isoZ (script.clock .checkedAt)) outcome).outcome script.answer =
      some (.ok (.done r))) : outcome = .ok r := by
  rcases outcome with e | r'
  · cases e with
    | os e =>
      cases hkind : e.kind with
      | sslCertVerification code message =>
        simp only [afterVerifiedResult, hkind] at h
        cases Except.ok.inj (Option.some.inj h)
      | _ =>
        simp only [afterVerifiedResult, hkind] at h
        obtain rfl := StageOne.done.inj (Except.ok.inj (Option.some.inj h))
        exact absurd rfl hcategory
    | _ => cases Option.some.inj h
  · rw [StageOne.done.inj (Except.ok.inj (Option.some.inj h))]

theorem resultOfCert_category {now : Nat} {checked_at : String} {state : ResultState} {trusted : Bool}
    {error_reason : Option String} {hostname_matches_override : Option Bool}
    (h : resultOfCert rt hostname port cert now checked_at state trusted verify_code error_reason
      hostname_matches_override = .ok r) :
    r.ca_category = some (categorizeCa rt (decide (cert.subject = cert.issuer)) (chainPathTrusted verify_code)
      (some (rt.rfc4514_string cert.issuer))) := by
  obtain ⟨sans, -, h⟩ := except_bind_ok h
  obtain ⟨verdict, -, h⟩ := except_bind_ok h
  obtain ⟨algorithm, -, h⟩ := except_bind_ok h
  obtain ⟨size, -, h⟩ := except_bind_ok h
  obtain rfl := Except.ok.inj h
  rfl

/-- Stage 2 gives a category only to a certificate that it recovers. -/
theorem recovers_of_stageTwo (hcategory : r.ca_category ≠ none)
    (h : (stageTwo rt hostname port (isoZ (script.clock .checkedAt)) verify_code verify_error connect_timeout
      handshake_timeout).outcome script.answer = some (.ok r)) :
    ∃ cert, StageTwoRecovers hostname port connect_timeout handshake_timeout script cert ∧
      resultOfCert rt hostname port cert (script.clock .result) (isoZ (script.clock .checkedAt)) .tlsFailed false
        verify_code (some verify_error) none = .ok r := by
  replace h := guarded_call_ok.mp h
  rcases hconnect : script.answer (.connect .second hostname port connect_timeout) with e | u
  · rw [hconnect] at h
    cases e with
    | os e =>
      obtain rfl := Except.ok.inj (Option.some.inj h)
      exact absurd rfl hcategory
    | _ => cases Option.some.inj h
  · rw [hconnect] at h
    obtain ⟨u, htimed, h⟩ := call_ok.mp h
    obtain ⟨recovery, hrecovery, h⟩ := finallyClose_bind_ok.mp h
    obtain ⟨u, hprepared, hrecovery⟩ := call_ok.mp hrecovery
    obtain ⟨outcome, houtcome, hrecovery⟩ := Prog.outcome_attempt_bind_ok.mp hrecovery
    rcases outcome with e | der
    · cases e with
      | os e =>
        obtain rfl := Except.ok.inj (Option.some.inj hrecovery)
        obtain rfl := Except.ok.inj (Option.some.inj h)
        exact absurd rfl hcategory
      | _ => cases Option.some.inj hrecovery
    · obtain rfl := Except.ok.inj (Option.some.inj hrecovery)
      obtain ⟨cert, hcert, hr⟩ := buildResult_ok h
      exact ⟨cert, ⟨hconnect, htimed, hprepared, der, houtcome, hcert⟩, hr⟩

/-- **A category is given to a verified certificate or to a recovered one.** -/
theorem categorized_of_returned (hcategory : r.ca_category ≠ none)
    (h : (certCheck rt hostname port connect_timeout handshake_timeout).outcome script.answer = some (.ok r)) :
    (StageOneVerifies hostname script ∧ ∃ cert, resultOfCert rt hostname port cert (script.clock .result)
      (isoZ (script.clock .checkedAt)) .success true none none (some true) = .ok r) ∨
    ∃ verify_code verify_error cert,
      ReachesStageTwo rt hostname port connect_timeout handshake_timeout script verify_code verify_error ∧
      StageTwoRecovers hostname port connect_timeout handshake_timeout script cert ∧
      resultOfCert rt hostname port cert (script.clock .result) (isoZ (script.clock .checkedAt)) .tlsFailed false
        verify_code (some verify_error) none = .ok r := by
  replace h := guarded_call_ok.mp (checkedAt_ok.mp h)
  rcases hconnect : script.answer (.connect .first hostname port connect_timeout) with e | u
  · rw [hconnect] at h
    cases e with
    | os e =>
      obtain rfl := Except.ok.inj (Option.some.inj h)
      exact absurd rfl hcategory
    | _ => cases Option.some.inj h
  · rw [hconnect] at h
    obtain ⟨s, hs, h⟩ := Prog.outcome_bind_ok.mp h
    obtain ⟨htimed, hprepared, outcome, houtcome, hafter⟩ := stageOne_parts hs
    cases s with
    | done r' =>
      obtain rfl := Except.ok.inj (Option.some.inj h)
      obtain rfl := verified_of_after hcategory hafter
      obtain ⟨der, hder, hr⟩ := Prog.outcome_bind_ok.mp houtcome
      obtain ⟨cert, -, hr⟩ := buildResult_ok hr
      exact .inl ⟨⟨der, hder⟩, cert, hr⟩
    | verifyFailed verify_code verify_error =>
      obtain ⟨cert, hrecovers, hr⟩ := recovers_of_stageTwo hcategory h
      exact .inr ⟨verify_code, verify_error, cert,
        ⟨hconnect, htimed, hprepared, verifyFailed_of_after houtcome hafter⟩, hrecovers, hr⟩

/-! ## The category of the issuer -/

/-- A failed verification did not verify the chain. -/
theorem VerifyFailed.not_stageOneVerifies (h : VerifyFailed rt hostname port script verify_code verify_error) :
    ¬ StageOneVerifies hostname script := by
  rintro ⟨der, hder⟩
  obtain ⟨e, code, message, houtcome, -⟩ := h
  rw [verifiedResult_error houtcome] at hder
  cases Option.some.inj hder

/-- The verification of stage 1 fails in one way. -/
theorem VerifyFailed.unique {verify_code' : Option Int} {verify_error' : String}
    (h : VerifyFailed rt hostname port script verify_code verify_error)
    (h' : VerifyFailed rt hostname port script verify_code' verify_error') : verify_code = verify_code' := by
  obtain ⟨e, code, message, houtcome, hkind, hinfo⟩ := h
  obtain ⟨e', code', message', houtcome', hkind', hinfo'⟩ := h'
  obtain rfl : e = e' := by simpa [houtcome] using houtcome'
  obtain ⟨rfl, rfl⟩ := OSErrorKind.sslCertVerification.inj (hkind.symm.trans hkind')
  exact (Prod.mk.inj (hinfo.symm.trans hinfo')).1

/-- The public label is earned by a verified chain, or by a failure that leaves the chain path trusted; a
self-signed certificate does not have it. -/
structure CertResult.LabelEarned (rt : Runtime) (hostname : Json) (port : Int) (script : CheckScript)
    (r : CertResult) : Prop where
  earned : r.ca_category = some .wellKnownPublic → StageOneVerifies hostname script ∨
    ∃ verify_code verify_error, VerifyFailed rt hostname port script (some verify_code) verify_error ∧
      verify_code ∈ chainPathOkCodes
  precedence : r.is_self_signed = some true → r.ca_category = some .selfSigned

theorem selfSigned_precedence {now : Nat} {checked_at : String} {state : ResultState} {trusted : Bool}
    {error_reason : Option String} {hostname_matches_override : Option Bool}
    (h : resultOfCert rt hostname port cert now checked_at state trusted verify_code error_reason
      hostname_matches_override = .ok r) (hself : r.is_self_signed = some true) :
    r.ca_category = some .selfSigned := by
  have hissuer := Option.some.inj (hself.symm.trans (resultOfCert_describes h).is_self_signed)
  rw [resultOfCert_category h, ← hissuer]
  rfl

/-- The label of a recovered certificate comes from the code of the failure. -/
theorem wellKnownPublic_iff {now : Nat} {checked_at : String} {state : ResultState} {trusted : Bool}
    {error_reason : Option String} {hostname_matches_override : Option Bool}
    (h : resultOfCert rt hostname port cert now checked_at state trusted verify_code error_reason
      hostname_matches_override = .ok r) :
    r.ca_category = some .wellKnownPublic ↔ cert.subject ≠ cert.issuer ∧ chainPathTrusted verify_code = true := by
  rw [resultOfCert_category h, categorizeCa]
  split_ifs with hself hpath
  · simp_all
  · simp_all
  · simp_all
    split <;> simp

theorem except_mapError_ok {α : Type} {x : Except X509Error α} {a : α} (h : x.mapError X509Error.exc = .ok a) :
    x = .ok a := by
  cases x with
  | error e => cases h
  | ok b => exact congrArg Except.ok (Except.ok.inj h)

/-- A certificate that can be read has a result, under a hostname that is a string, and no other one has. -/
theorem resultOfCert_ok_iff {now : Nat} {checked_at : String} {state : ResultState} {trusted : Bool}
    {error_reason : Option String} :
    (∃ r, resultOfCert rt hostname port cert now checked_at state trusted verify_code error_reason none = .ok r) ↔
      cert.Readable ∧ ∃ host, hostname = .str host := by
  constructor
  · rintro ⟨r, h⟩
    obtain ⟨sans, hsans, h⟩ := except_bind_ok h
    obtain ⟨verdict, hverdict, h⟩ := except_bind_ok h
    obtain ⟨algorithm, -, h⟩ := except_bind_ok h
    obtain ⟨size, hsize, -⟩ := except_bind_ok h
    refine ⟨⟨?_, ?_⟩, ?_⟩
    · obtain ⟨names, hnames, -⟩ := except_bind_ok hsans
      exact ⟨names, except_mapError_ok hnames⟩
    · obtain ⟨key, hkey, -⟩ := except_bind_ok hsize
      exact ⟨key, except_mapError_ok hkey⟩
    · cases hostname with
      | str host => exact ⟨host, rfl⟩
      | _ => cases hverdict
  · rintro ⟨⟨⟨names, hnames⟩, key, hkey⟩, host, rfl⟩
    have hverdict := @hostnameMatches_eq rt host cert names hnames
    have hsans : ∃ sans, subjectAltNames cert = .ok sans := by
      cases names <;> exact ⟨_, by simp [subjectAltNames, sanExtension, hnames, Except.mapError]; rfl⟩
    have halgorithm : ∃ algorithm, signatureAlgorithm rt cert = .ok algorithm := by
      unfold signatureAlgorithm
      split
      · exact ⟨_, rfl⟩
      · exact ⟨_, rfl⟩
      · exact ⟨_, by rw [hkey]; rfl⟩
    have hsize : ∃ size, keySize cert = .ok size := ⟨_, by unfold keySize; rw [hkey]; rfl⟩
    obtain ⟨sans, hsans⟩ := hsans
    obtain ⟨algorithm, halgorithm⟩ := halgorithm
    obtain ⟨size, hsize⟩ := hsize
    unfold resultOfCert hostnameVerdict
    simp only [hsans, halgorithm, hsize, hverdict]
    exact ⟨_, rfl⟩

/-- A result without a category says nothing on who signed. -/
theorem is_self_signed_of_returned
    (h : (certCheck rt hostname port connect_timeout handshake_timeout).outcome script.answer = some (.ok r))
    (hcategory : r.ca_category = none) : r.is_self_signed = none := by
  cases checked_of_returned h with
  | unconnected hconnect => rfl
  | handshakeFailed hkind => rfl
  | unrecovered hverify => rfl
  | verified hder hcert hr => simp [resultOfCert_category hr] at hcategory
  | recovered hverify hder hcert hr => simp [resultOfCert_category hr] at hcategory

/-- **When the public label is earned**: it is not, where the verification fails without a code and the certificate
that stage 2 recovers is not self-signed. -/
theorem public_label_earned_iff :
    (∀ r, (certCheck rt hostname port connect_timeout handshake_timeout).outcome script.answer = some (.ok r) →
      r.LabelEarned rt hostname port script) ↔
    ¬ ∃ verify_error cert,
      ReachesStageTwo rt hostname port connect_timeout handshake_timeout script none verify_error ∧
      StageTwoRecovers hostname port connect_timeout handshake_timeout script cert ∧
      (cert.Readable ∧ ∃ host, hostname = .str host) ∧ cert.subject ≠ cert.issuer := by
  constructor
  · rintro hearned ⟨verify_error, cert, hreaches, hrecovers, hreadable, hissuer⟩
    obtain ⟨r, hr⟩ := resultOfCert_ok_iff.mpr hreadable
    have hreturned := (outcome_certCheck_of_recovers hreaches hrecovers).trans (congrArg some hr)
    obtain hverified | ⟨code, error, hfailed, -⟩ :=
      (hearned r hreturned).earned ((wellKnownPublic_iff hr).mpr ⟨hissuer, rfl⟩)
    · exact hreaches.failed.not_stageOneVerifies hverified
    · cases hreaches.failed.unique hfailed
  · intro hnot r hreturned
    by_cases hcategory : r.ca_category = none
    · have hself := is_self_signed_of_returned hreturned hcategory
      exact ⟨by simp [hcategory], by simp [hself]⟩
    · obtain ⟨hverified, cert, hr⟩ | ⟨code, verify_error, cert, hreaches, hrecovers, hr⟩ :=
        categorized_of_returned hcategory hreturned
      · exact ⟨fun _ => .inl hverified, selfSigned_precedence hr⟩
      · refine ⟨fun hpublic => .inr ?_, selfSigned_precedence hr⟩
        obtain ⟨hissuer, htrusted⟩ := (wellKnownPublic_iff hr).mp hpublic
        cases code with
        | none => exact absurd ⟨verify_error, cert, hreaches, hrecovers, resultOfCert_ok_iff.mp ⟨r, hr⟩, hissuer⟩ hnot
        | some code => exact ⟨code, verify_error, hreaches.failed, by simpa [chainPathTrusted] using htrusted⟩

end

/-- A server whose certificate fails the verification with an error that carries no code. -/
def codeless : CheckScript where
  __ := serving (certFor (.dns "db.example") "ca.example" 1500000)
  wrapSocket c _ :=
    if c = .first then .error (.os ⟨.sslCertVerification none none, "certificate verify failed"⟩) else .ok ()

/-- **A public label for a rejected chain**: the failure has no code, and no code means a verified chain. -/
theorem public_label_unearned :
    ∃ r, (certCheck literalRuntime (.str "db.example") 443 (.finite 5) (.finite 5)).outcome codeless.answer =
        some (.ok r) ∧ r.chain_trusted_by_system = some false ∧ r.ca_category = some .wellKnownPublic ∧
      ¬ r.LabelEarned literalRuntime (.str "db.example") 443 codeless := by
  refine ⟨_, rfl, rfl, rfl, fun h => ?_⟩
  have hfailed : VerifyFailed literalRuntime (.str "db.example") 443 codeless none "certificate verify failed" :=
    ⟨_, none, none, rfl, rfl, rfl⟩
  obtain hverified | ⟨code, error, hcode, -⟩ := h.earned rfl
  · exact hfailed.not_stageOneVerifies hverified
  · cases hfailed.unique hcode

/-! ## The hostname verdict on addresses -/

/-- The certificate lists the address, as the reading of literals has it. -/
def ListsAddress {Address : Type} (address : String → Option Address) (cert : Certificate) (a : Address) : Prop :=
  ∃ names, cert.san = .ok (some names) ∧ ∃ text ∈ ipAddresses names, address text = some a

/-- OpenSSL's identity check in stage 1, where the name is the literal of an address: it goes by the addresses
that the certificate lists. -/
structure AddressIdentity (Address : Type) where
  /-- The address that a text is the literal of. -/
  address : String → Option Address
  /-- The certificate passes the check under this name. -/
  Accepts : Certificate → String → Prop
  accepts_iff : ∀ cert name a, address name = some a → (Accepts cert name ↔ ListsAddress address cert a)

/-- The certificate has the text among its DNS names, or as its CN when it has none: verbatim, or from its first dot
on with a wildcard in front. -/
def SpellsName (rt : Runtime) (cert : Certificate) (name : String) : Prop :=
  ∃ names, cert.san = .ok names ∧
    ∃ pattern ∈ triedNames cert names, LabelRule (rstripDots (rt.lower name)) (rt.lower pattern)

section

variable {Address : Type} {rt : Runtime} {host : String} {port : Int} {connect_timeout handshake_timeout : PyFloat}
  {script : CheckScript} {verify_code : Option Int} {verify_error : String} {cert : Certificate} {r : CertResult}
  {a : Address}

/-- The verdict of stage 2 goes by the DNS names alone. -/
theorem hostname_matches_iff_spells
    (hreaches : ReachesStageTwo rt (.str host) port connect_timeout handshake_timeout script verify_code verify_error)
    (hrecovers : StageTwoRecovers (.str host) port connect_timeout handshake_timeout script cert)
    (hr : (certCheck rt (.str host) port connect_timeout handshake_timeout).outcome script.answer = some (.ok r)) :
    r.hostname_matches = some true ↔ SpellsName rt cert host := by
  rw [outcome_certCheck_of_recovers hreaches hrecovers] at hr
  have hresult := Option.some.inj hr
  obtain ⟨⟨⟨names, hnames⟩, -⟩, -⟩ := resultOfCert_ok_iff.mp ⟨r, hresult⟩
  obtain ⟨-, -, ⟨verdict, hverdict, hmatches⟩, -⟩ := resultOfCert_verdicts hresult
  have hverdict := Except.ok.inj (hverdict.symm.trans (hostnameMatches_eq hnames))
  rw [hmatches, hverdict, Option.some_inj, decide_eq_true_iff]
  constructor
  · rintro ⟨pattern, hpattern, hrule⟩
    exact ⟨names, hnames, pattern, hpattern, hrule⟩
  · rintro ⟨names', hnames', hspells⟩
    obtain rfl := Except.ok.inj (hnames.symm.trans hnames')
    exact hspells

/-- **When the verdict on an address is right**: the certificate lists the address and spells it as a DNS name as
well, or does neither. -/
theorem address_verdict_iff (openssl : AddressIdentity Address) (haddress : openssl.address host = some a)
    (hreaches : ReachesStageTwo rt (.str host) port connect_timeout handshake_timeout script verify_code verify_error)
    (hrecovers : StageTwoRecovers (.str host) port connect_timeout handshake_timeout script cert)
    (hr : (certCheck rt (.str host) port connect_timeout handshake_timeout).outcome script.answer = some (.ok r)) :
    (r.hostname_matches = some true ↔ ListsAddress openssl.address cert a) ∧
      (r.hostname_matches = some true ↔ openssl.Accepts cert host) ↔
    ListsAddress openssl.address cert a ∧ SpellsName rt cert host ∨
      ¬ ListsAddress openssl.address cert a ∧ ¬ SpellsName rt cert host := by
  rw [hostname_matches_iff_spells hreaches hrecovers hr, openssl.accepts_iff cert host a haddress]
  tauto

end

/-- The octets of a dotted quad. -/
def dottedQuad (s : String) : Option (List Nat) :=
  let parts := s.toList.splitOn '.'
  let octets := parts.map fun part => part.foldl (fun n c => 10 * n + (c.toNat - '0'.toNat)) 0
  if parts.length = 4 ∧ (∀ part ∈ parts, part ≠ [] ∧ part.length ≤ 3 ∧ part.all Char.isDigit = true) ∧
      ∀ octet ∈ octets, octet ≤ 255
  then some octets else none

/-- An identity check of dotted quads. -/
def byListedAddresses : AddressIdentity (List Nat) where
  address := dottedQuad
  Accepts cert name := ∃ octets, dottedQuad name = some octets ∧ ListsAddress dottedQuad cert octets
  accepts_iff cert name octets hname := by simp [hname]

/-- A server whose certificate, for this name, is by a CA that the trust store does not have. -/
def unknownIssuer (san : GeneralName) : CheckScript where
  __ := serving (certFor san "ca.example" 1500000)
  wrapSocket c _ := if c = .first then .error (.os (verifyError 20)) else .ok ()

theorem unknownIssuer_reaches (san : GeneralName) : ReachesStageTwo literalRuntime (.str "10.0.0.5") 443 (.finite 5)
    (.finite 5) (unknownIssuer san) (some 20) "certificate verify failed" :=
  ⟨rfl, rfl, rfl, _, some 20, some "certificate verify failed", rfl, rfl, rfl⟩

theorem unknownIssuer_recovers (san : GeneralName) : StageTwoRecovers (.str "10.0.0.5") 443 (.finite 5) (.finite 5)
    (unknownIssuer san) (certFor san "ca.example" 1500000) :=
  ⟨rfl, rfl, rfl, _, rfl, rfl⟩

/-- **A listed address that does not match**, and a wildcard over the digits of another one that does. -/
theorem address_verdict_mismatch :
    (∃ r, (certCheck literalRuntime (.str "10.0.0.5") 443 (.finite 5) (.finite 5)).outcome
        (unknownIssuer (.ip "10.0.0.5")).answer = some (.ok r) ∧ r.hostname_matches = some false ∧
      ListsAddress dottedQuad (certFor (.ip "10.0.0.5") "ca.example" 1500000) [10, 0, 0, 5]) ∧
    ∃ r, (certCheck literalRuntime (.str "10.0.0.5") 443 (.finite 5) (.finite 5)).outcome
        (unknownIssuer (.dns "*.0.0.5")).answer = some (.ok r) ∧ r.hostname_matches = some true ∧
      ¬ ListsAddress dottedQuad (certFor (.dns "*.0.0.5") "ca.example" 1500000) [10, 0, 0, 5] := by
  constructor
  · exact ⟨_, rfl, rfl, _, rfl, "10.0.0.5", by decide, by decide⟩
  · refine ⟨_, rfl, rfl, ?_⟩
    rintro ⟨names, hnames, text, htext, -⟩
    obtain rfl := Option.some.inj (Except.ok.inj hnames)
    cases htext

/-- A certificate that neither lists the address nor spells it: there the verdict is right. -/
theorem address_verdict_other :
    ∃ r, (certCheck literalRuntime (.str "10.0.0.5") 443 (.finite 5) (.finite 5)).outcome
        (unknownIssuer (.ip "10.0.0.6")).answer = some (.ok r) ∧
      (r.hostname_matches = some true ↔
        byListedAddresses.Accepts (certFor (.ip "10.0.0.6") "ca.example" 1500000) "10.0.0.5") := by
  have haddress : byListedAddresses.address "10.0.0.5" = some [10, 0, 0, 5] := by decide
  refine ⟨_, rfl, ((address_verdict_iff byListedAddresses haddress (unknownIssuer_reaches _)
    (unknownIssuer_recovers _) rfl).mpr (.inr ⟨?_, ?_⟩)).2⟩
  · rintro ⟨names, hnames, text, htext, hoctets⟩
    obtain rfl := Option.some.inj (Except.ok.inj hnames)
    obtain rfl := List.mem_singleton.mp htext
    revert hoctets
    decide
  · rintro ⟨names, hnames, pattern, hpattern, hrule⟩
    obtain rfl := Except.ok.inj hnames
    obtain rfl := List.mem_singleton.mp hpattern
    revert hrule
    decide

end CertWatch
