/-
# `CertWatch.PayloadInvariants` — what every check in a report satisfies.

The two builders only rearrange a result, so what holds of every payload is what the check functions guarantee
of every result that they can return.  The shapes of those results come first; the invariants of the payloads
are read off them.
-/
import CertWatch.DiscoveryStatus
import CertWatch.CheckPayload

namespace CertWatch

open CertWatch.Lib

/-! ## Shapes of results -/

section

variable {rt : Runtime} {hostname : Json} {port : Int} {connect_timeout handshake_timeout : PyFloat}
  {script : CheckScript} {r : CertResult}

/-- A result of `cert_check` without a certificate: it failed, and says why. -/
structure CertResult.Bare (r : CertResult) : Prop where
  failed : r.state ≠ .success
  explained : r.error_message.isSome
  without : r.issuer_full_dn = none

/-- A result over a certificate: a success is trusted and matching, a failure is neither and says why. -/
structure CertResult.Full (r : CertResult) : Prop where
  withCert : r.issuer_full_dn.isSome
  state : r.state ≠ .connectionFailed
  success : r.state = .success → r.error_message = none ∧ r.chain_trusted_by_system = some true ∧
    r.hostname_matches = some true ∧ r.chain_error_reason = none
  failure : r.state = .tlsFailed → r.error_message.isSome

theorem shape_of_checked (h : CheckReturn rt hostname port connect_timeout script r) : r.Bare ∨ r.Full := by
  cases h with
  | unconnected hconnect => exact .inl ⟨nofun, rfl, rfl⟩
  | handshakeFailed hkind => exact .inl ⟨nofun, rfl, rfl⟩
  | unrecovered hverify => exact .inl ⟨nofun, rfl, rfl⟩
  | verified hder hcert hr =>
    have hissuer := (resultOfCert_describes hr).issuer_full_dn
    obtain ⟨hstate, herror, ⟨verdict, hverdict, hmatches⟩, htrusted, hreason⟩ := resultOfCert_verdicts hr
    obtain rfl := Except.ok.inj hverdict
    exact .inr ⟨by simp [hissuer], by simp [hstate], fun _ => ⟨herror, htrusted, hmatches, hreason⟩,
      by simp [hstate]⟩
  | recovered hverify hder hcert hr =>
    have hissuer := (resultOfCert_describes hr).issuer_full_dn
    obtain ⟨hstate, herror, -⟩ := resultOfCert_verdicts hr
    exact .inr ⟨by simp [hissuer], by simp [hstate], by simp [hstate], fun _ => by simp [herror]⟩

end

section

variable {rt : Runtime} {ip : Json} {port : Int} {connect_timeout handshake_timeout : PyFloat}
  {expiring_soon_threshold_days : Int} {script : CheckScript} {r : CertCheckResult}

/-- A result of `cert_check_with_discovery` without a certificate. -/
structure CertCheckResult.Bare (r : CertCheckResult) : Prop where
  status : r.status.WithoutCert
  explained : r.error_message.isSome
  without : r.issuer_full_dn = none

/-- A result over a certificate without a name: nothing was verified. -/
structure CertCheckResult.Unnamed (r : CertCheckResult) : Prop where
  status : r.status = .certNoUsableHostname
  explained : r.error_message.isSome
  withCert : r.issuer_full_dn.isSome
  unnamed : r.canonical_hostname = none
  unjudged : r.chain_trusted_by_system = none ∧ r.chain_trust_reason = none

/-- A result over a certificate with a name: it carries a verdict on the chain, with a reason against it. -/
structure CertCheckResult.Judged (r : CertCheckResult) (trusted : Bool) : Prop where
  status : ¬ r.status.WithoutCert ∧ r.status ≠ .certNoUsableHostname
  unexplained : r.error_message = none
  withCert : r.issuer_full_dn.isSome
  named : r.canonical_hostname.isSome
  verdict : r.chain_trusted_by_system = some trusted
  reason : r.chain_trust_reason.isSome ↔ trusted = false
  success : r.status = .success → trusted = true
  warning : r.status = .tlsWarning → trusted = false

/-- The status of a named certificate is one of the evaluated ones. -/
theorem decidedStatus_evaluated {cert : Certificate} {canonical : String} {trusted : Bool} :
    ¬ (decidedStatus expiring_soon_threshold_days script cert canonical trusted).WithoutCert ∧
      decidedStatus expiring_soon_threshold_days script cert canonical trusted ≠ .certNoUsableHostname := by
  rw [decidedStatus, determineStatus_named]
  split_ifs <;> decide

theorem reason_of_verdict {canonical : String} {trusted : Bool} {reason : Option String}
    (h : ChainVerdict port ip connect_timeout script canonical trusted reason) :
    reason.isSome ↔ trusted = false := by
  cases h with
  | completed hwrap => simp
  | untrusted hwrap hkind => simp
  | unverified hfailed => simp

theorem shape_of_discovery
    (h : DiscoveryReturn rt ip port connect_timeout handshake_timeout expiring_soon_threshold_days script r) :
    r.Bare ∨ r.Unnamed ∨ ∃ trusted, r.Judged trusted := by
  cases h with
  | failed hfailed => exact .inl ⟨failed_withoutCert hfailed, rfl, rfl⟩
  | unnamed hcert hname hr =>
    have hdescribes := resultOfCertData_describes hr hname
    obtain ⟨hstatus, herror, -, -, htrusted, hreason⟩ := resultOfCertData_verdicts hr
    exact .inr (.inl ⟨hstatus, by simp [herror], by simp [hdescribes.issuer_full_dn],
      hdescribes.canonical_hostname hname, htrusted, hreason⟩)
  | @verified cert canonical _ _ trusted _ _ hcert hname hmatches hchain hr =>
    have hdescribes := resultOfCertData_describes hr hname
    obtain ⟨hstatus, herror, -, -, htrusted, hreason⟩ := resultOfCertData_verdicts hr
    have hdecided := @decidedStatus_trusted expiring_soon_threshold_days script cert canonical trusted
    refine .inr (.inr ⟨trusted, ?_, herror, by simp [hdescribes.issuer_full_dn],
      by simp [hdescribes.canonical_hostname hname], htrusted, ?_, ?_, ?_⟩)
    · rw [hstatus]
      exact decidedStatus_evaluated
    · rw [hreason]
      exact reason_of_verdict (handshakeVerifyChain_ok hchain)
    · rw [hstatus]
      exact hdecided.1
    · rw [hstatus]
      exact hdecided.2

end

/-! ## Recovered certificates -/

section

variable {rt : Runtime} {hostname : Json} {port : Int} {connect_timeout handshake_timeout : PyFloat}
  {script : CheckScript} {r : CertResult}

/-- The part of a check parses a certificate. -/
def Recovers {α : Type} (script : CheckScript) (p : Check α) : Prop :=
  ∃ der cert, CheckOp.loadDer der ∈ p.made script.answer ∧ script.loadDer der = .ok cert

theorem Recovers.bind_left {α β : Type} {p : Check α} {f : α → Check β} (h : Recovers script p) :
    Recovers script (p.bind f) := by
  obtain ⟨der, cert, hmade, hcert⟩ := h
  exact ⟨der, cert, Prog.mem_made_bind_left hmade, hcert⟩

theorem Recovers.bind_right {α β : Type} {p : Check α} {f : α → Check β} {a : α}
    (ha : p.outcome script.answer = some (.ok a)) (h : Recovers script (f a)) : Recovers script (p.bind f) := by
  obtain ⟨der, cert, hmade, hcert⟩ := h
  exact ⟨der, cert, Prog.mem_made_bind_right ha hmade, hcert⟩

theorem Recovers.attempt {α : Type} {p : Check α} (h : Recovers script p) : Recovers script p.attempt := by
  unfold Recovers
  rwa [Prog.made_attempt]

theorem Recovers.after_call {β : Type} {o : CheckOp} {f : o.Ret → Check β} {a : o.Ret}
    (ha : script.answer o = .ok a) (h : Recovers script (f a)) : Recovers script ((checkCall o).bind f) :=
  .bind_right (by rw [outcome_checkCall, ha]) h

theorem Recovers.after_guarded {β : Type} {o : CheckOp} {f : Except PyExc o.Ret → Check β}
    (h : Recovers script (f (script.answer o))) : Recovers script ((checkCall o).attempt.bind f) :=
  .bind_right (by rw [Prog.outcome_attempt, outcome_checkCall]; rfl) h

theorem Recovers.finallyClose {α : Type} {c : Connection} {p : Check α} (h : Recovers script p) :
    Recovers script (CertWatch.finallyClose c p) := h.attempt.bind_left

theorem recovers_loadCertificate {der : Option (List UInt8)} {cert : Certificate} {β : Type}
    {f : Certificate → Check β} (hcert : script.loadDer der = .ok cert) :
    Recovers script ((loadCertificate der).bind f) :=
  .bind_left ⟨der, cert, List.mem_cons_self, hcert⟩

/-- Stage 1 describes a certificate only after it has parsed one. -/
theorem recovers_stageOne {checked_at : String}
    (h : (stageOne rt hostname port checked_at handshake_timeout).outcome script.answer = some (.ok (.done r)))
    (hwith : r.issuer_full_dn.isSome) :
    Recovers script (stageOne rt hostname port checked_at handshake_timeout) := by
  obtain ⟨u, hsettimeout, h⟩ := call_ok.mp h
  refine .after_call hsettimeout (.finallyClose ?_)
  rw [outcome_finallyClose] at h
  obtain ⟨u', hcontext, h⟩ := call_ok.mp h
  refine .after_call hcontext (.bind_left (.attempt ?_))
  obtain ⟨outcome, houtcome, h⟩ := Prog.outcome_attempt_bind_ok.mp h
  rcases outcome with e | r'
  · cases e with
    | os e =>
      cases hkind : e.kind with
      | sslCertVerification code message =>
        simp only [afterVerifiedResult, hkind] at h
        cases Except.ok.inj (Option.some.inj h)
      | _ =>
        simp only [afterVerifiedResult, hkind] at h
        obtain rfl := StageOne.done.inj (Except.ok.inj (Option.some.inj h))
        cases hwith
    | _ => cases Option.some.inj h
  · obtain ⟨der, hder, hr⟩ := Prog.outcome_bind_ok.mp houtcome
    obtain ⟨cert, hcert, -⟩ := buildResult_ok hr
    exact .bind_right hder (recovers_loadCertificate hcert)

/-- Stage 2 likewise. -/
theorem recovers_stageTwo {checked_at verify_error : String} {verify_code : Option Int}
    (h : (stageTwo rt hostname port checked_at verify_code verify_error connect_timeout
      handshake_timeout).outcome script.answer = some (.ok r)) (hwith : r.issuer_full_dn.isSome) :
    Recovers script (stageTwo rt hostname port checked_at verify_code verify_error connect_timeout
      handshake_timeout) := by
  replace h := guarded_call_ok.mp h
  refine .after_guarded ?_
  rcases hconnect : script.answer (.connect .second hostname port connect_timeout) with e | u
  · rw [hconnect] at h
    cases e with
    | os e =>
      obtain rfl := Except.ok.inj (Option.some.inj h)
      cases hwith
    | _ => cases Option.some.inj h
  · rw [hconnect] at h
    obtain ⟨u', hsettimeout, h⟩ := call_ok.mp h
    refine .after_call hsettimeout ?_
    obtain ⟨recovery, hrecovery, h⟩ := finallyClose_bind_ok.mp h
    refine .bind_right (by rw [outcome_finallyClose, hrecovery]) ?_
    obtain ⟨u'', -, hrecovery⟩ := call_ok.mp hrecovery
    obtain ⟨outcome, -, hrecovery⟩ := Prog.outcome_attempt_bind_ok.mp hrecovery
    rcases outcome with e | der
    · cases e with
      | os e =>
        obtain rfl := Except.ok.inj (Option.some.inj hrecovery)
        obtain rfl := Except.ok.inj (Option.some.inj h)
        cases hwith
      | _ => cases Option.some.inj hrecovery
    · obtain rfl := Except.ok.inj (Option.some.inj hrecovery)
      obtain ⟨cert, hcert, -⟩ := buildResult_ok h
      exact recovers_loadCertificate hcert

/-- **A result describes a certificate only if the check has recovered one.** -/
theorem recovers_certCheck
    (h : (certCheck rt hostname port connect_timeout handshake_timeout).outcome script.answer = some (.ok r))
    (hwith : r.issuer_full_dn.isSome) :
    Recovers script (certCheck rt hostname port connect_timeout handshake_timeout) := by
  replace h := guarded_call_ok.mp (checkedAt_ok.mp h)
  refine .bind_right (a := isoZ (script.clock .checkedAt)) rfl (.after_guarded ?_)
  rcases hconnect : script.answer (.connect .first hostname port connect_timeout) with e | u
  · rw [hconnect] at h
    cases e with
    | os e =>
      obtain rfl := Except.ok.inj (Option.some.inj h)
      cases hwith
    | _ => cases Option.some.inj h
  · rw [hconnect] at h
    obtain ⟨stage, hstage, h⟩ := Prog.outcome_bind_ok.mp h
    cases stage with
    | done r' =>
      obtain rfl := Except.ok.inj (Option.some.inj h)
      exact (recovers_stageOne hstage hwith).bind_left
    | verifyFailed verify_code verify_error => exact .bind_right hstage (recovers_stageTwo h hwith)

end

/-! ## Payloads -/

/-- A field of the payload's certificate; of no certificate, every field is `null`. -/
def certField (payload : Dict) (key : String) : Json :=
  match payload.get? "cert" with
  | some (.obj cert) => (Dict.get? cert key).getD .null
  | _ => .null

/-- What holds of the payload of a manual host, whose check may have recovered a certificate. -/
structure ManualPayload (recovered : Prop) (payload : Dict) : Prop where
  without_cert : payload.get? "status" = some (.str "connection_failed") ∨ ¬ recovered →
    payload.get? "cert" = some .null
  success : payload.get? "status" = some (.str "success") →
    (∃ cert, payload.get? "cert" = some (.obj cert)) ∧
      certField payload "chain_trusted_by_system" = .bool true ∧ certField payload "hostname_matches" = .bool true ∧
      certField payload "chain_error_reason" = .null

/-- The connection and no-cert values of `status_detail`. -/
def withoutCertTexts : List String :=
  ["connection_refused", "connection_timeout", "tls_failed_no_cert", "tls_failed_malformed_cert"]

/-- What holds of the payload of a NetBox host. -/
structure NetBoxPayload (payload : Dict) : Prop where
  cert_null_iff : payload.get? "cert" = some .null ↔
    ∃ text ∈ withoutCertTexts, payload.get? "status_detail" = some (.str text)
  status : ∃ status : CertStatus, payload.get? "status_detail" = some (.str status.text) ∧
    payload.get? "status" = some (.str (detailedToLegacyStatus status).text)
  connection_failed_iff : payload.get? "status" = some (.str "connection_failed") ↔
    payload.get? "status_detail" = some (.str "connection_refused") ∨
      payload.get? "status_detail" = some (.str "connection_timeout")
  canonical_null_iff : certField payload "canonical_hostname" = .null ↔
    payload.get? "status_detail" = some (.str "cert_no_usable_hostname") ∨ payload.get? "cert" = some .null
  reason_iff : certField payload "chain_trust_reason" ≠ .null ↔
    certField payload "chain_trusted_by_system" = .bool false
  reason_eq : certField payload "chain_trust_reason" = certField payload "chain_error_reason"
  warning : payload.get? "status_detail" = some (.str "tls_warning") →
    certField payload "chain_trusted_by_system" = .bool false
  success : payload.get? "status_detail" = some (.str "success") →
    certField payload "chain_trusted_by_system" = .bool true

section

variable {rt : Runtime} {host_ref : Json}

@[simp] theorem Json.ofOptStr_eq_null {s : Option String} : Json.ofOptStr s = .null ↔ s = none := by
  cases s <;> simp [Json.ofOptStr]

@[simp] theorem Json.ofOptBool_eq_bool {b : Option Bool} {c : Bool} : Json.ofOptBool b = .bool c ↔ b = some c := by
  cases b <;> simp [Json.ofOptBool]

theorem text_eq_iff {a b : CertStatus} : a.text = b.text ↔ a = b := by
  cases a <;> cases b <;> decide

theorem withoutCert_iff {status : CertStatus} : status.WithoutCert ↔ status.text ∈ withoutCertTexts := by
  cases status <;> decide

/-! ### Of manual hosts -/

theorem manual_cert_bare {r : CertResult} (h : r.state = .connectionFailed ∨ r.issuer_full_dn = none) :
    (buildCheckPayload host_ref r).get? "cert" = some .null := by
  show some (certDictFromResult r) = some .null
  unfold certDictFromResult
  rcases h with h | h
  · rw [if_pos h]
  · simp [h]

theorem manual_cert_full {r : CertResult} (h : r.Full) :
    ∃ cert : Dict, (buildCheckPayload host_ref r).get? "cert" = some (.obj cert) ∧
      cert.get? "chain_trusted_by_system" = some (.ofOptBool r.chain_trusted_by_system) ∧
      cert.get? "hostname_matches" = some (.ofOptBool r.hostname_matches) ∧
      cert.get? "chain_error_reason" = some (.ofOptStr r.chain_error_reason) := by
  have hissuer : r.issuer_full_dn ≠ none := Option.isSome_iff_ne_none.mp h.withCert
  show ∃ cert : Dict, some (certDictFromResult r) = some (.obj cert) ∧ _
  unfold certDictFromResult
  rw [if_neg h.state, if_neg hissuer]
  exact ⟨_, rfl, rfl, rfl, rfl⟩

theorem manualPayload_of_shape {r : CertResult} {recovered : Prop} (h : r.Bare ∨ r.Full)
    (hrecovered : r.issuer_full_dn.isSome → recovered) : ManualPayload recovered (buildCheckPayload host_ref r) := by
  have hstatus : (buildCheckPayload host_ref r).get? "status" = some (.str r.state.text) := rfl
  rcases h with hbare | hfull
  · refine ⟨fun _ => manual_cert_bare (.inr hbare.without), ?_⟩
    rw [hstatus]
    have hfailed := hbare.failed
    cases hstate : r.state with
    | success => exact absurd hstate hfailed
    | _ => simp [ResultState.text]
  · obtain ⟨cert, hcert, htrusted, hmatches, hreason⟩ := @manual_cert_full host_ref r hfull
    refine ⟨?_, ?_⟩
    · rw [hstatus]
      rintro (hfailed | hnot)
      · apply manual_cert_bare
        cases hstate : r.state <;> simp [hstate, ResultState.text] at hfailed ⊢
      · exact absurd (hrecovered hfull.withCert) hnot
    · intro hsuccess
      have hstate : r.state = .success := by
        rw [hstatus] at hsuccess
        cases hstate : r.state <;> simp [hstate, ResultState.text] at hsuccess ⊢
      obtain ⟨-, htrusted', hmatches', hreason'⟩ := hfull.success hstate
      refine ⟨⟨cert, hcert⟩, ?_, ?_, ?_⟩
      · simp [certField, hcert, htrusted, htrusted', Json.ofOptBool]
      · simp [certField, hcert, hmatches, hmatches', Json.ofOptBool]
      · simp [certField, hcert, hreason, hreason', Json.ofOptStr]

/-! ### Of NetBox hosts -/

/-- The fields of a payload whose result has a certificate. -/
theorem netBox_cert_full {r : CertCheckResult} (h : r.issuer_full_dn.isSome) :
    ∃ cert : Dict, (buildCheckPayloadFromDiscovery rt host_ref r).get? "cert" = some (.obj cert) ∧
      cert.get? "canonical_hostname" = some (.ofOptStr r.canonical_hostname) ∧
      cert.get? "chain_trusted_by_system" = some (.ofOptBool r.chain_trusted_by_system) ∧
      cert.get? "chain_trust_reason" = some (.ofOptStr r.chain_trust_reason) ∧
      cert.get? "chain_error_reason" = some (.ofOptStr r.chain_trust_reason) := by
  have hissuer : r.issuer_full_dn ≠ none := Option.isSome_iff_ne_none.mp h
  show ∃ cert : Dict, some (certDictFromDiscoveryResult rt r) = some (.obj cert) ∧ _
  unfold certDictFromDiscoveryResult
  rw [if_neg hissuer]
  exact ⟨_, rfl, rfl, rfl, rfl, rfl⟩

theorem netBox_cert_bare {r : CertCheckResult} (h : r.issuer_full_dn = none) :
    (buildCheckPayloadFromDiscovery rt host_ref r).get? "cert" = some .null := by
  show some (certDictFromDiscoveryResult rt r) = _
  unfold certDictFromDiscoveryResult
  rw [if_pos h]

theorem legacy_connectionFailed_iff {status : CertStatus} :
    (detailedToLegacyStatus status).text = "connection_failed" ↔
      status.text = "connection_refused" ∨ status.text = "connection_timeout" := by
  cases status <;> decide

theorem netBox_detail_iff {r : CertCheckResult} (status : CertStatus) :
    (buildCheckPayloadFromDiscovery rt host_ref r).get? "status_detail" = some (.str status.text) ↔
      r.status = status := by
  show some (Json.str r.status.text) = _ ↔ _
  simpa using text_eq_iff

theorem netBox_withoutCert_iff {r : CertCheckResult} :
    (∃ text ∈ withoutCertTexts,
      (buildCheckPayloadFromDiscovery rt host_ref r).get? "status_detail" = some (.str text)) ↔
      r.status.WithoutCert := by
  rw [withoutCert_iff]
  show (∃ text ∈ withoutCertTexts, some (Json.str r.status.text) = some (.str text)) ↔ _
  simp

theorem netBox_connectionFailed_iff {r : CertCheckResult} :
    (buildCheckPayloadFromDiscovery rt host_ref r).get? "status" = some (.str "connection_failed") ↔
      (buildCheckPayloadFromDiscovery rt host_ref r).get? "status_detail" = some (.str "connection_refused") ∨
        (buildCheckPayloadFromDiscovery rt host_ref r).get? "status_detail" = some (.str "connection_timeout") := by
  show some (Json.str (detailedToLegacyStatus r.status).text) = _ ↔
    some (Json.str r.status.text) = _ ∨ some (Json.str r.status.text) = _
  simpa using legacy_connectionFailed_iff

theorem netBoxPayload_of_bare {r : CertCheckResult} (h : r.Bare) :
    NetBoxPayload (buildCheckPayloadFromDiscovery rt host_ref r) := by
  have hcert := @netBox_cert_bare rt host_ref r h.without
  have hfield (key : String) : certField (buildCheckPayloadFromDiscovery rt host_ref r) key = .null := by
    simp [certField, hcert]
  have hstatus := h.status
  refine ⟨?_, ⟨r.status, rfl, rfl⟩, netBox_connectionFailed_iff, ?_, ?_, ?_, ?_, ?_⟩
  · rw [netBox_withoutCert_iff]
    simp [hcert, hstatus]
  · simp [hfield, hcert]
  · simp [hfield]
  · rw [hfield, hfield]
  · intro hdetail
    rw [(netBox_detail_iff .tlsWarning).mp hdetail] at hstatus
    exact absurd hstatus (by decide)
  · intro hdetail
    rw [(netBox_detail_iff .success).mp hdetail] at hstatus
    exact absurd hstatus (by decide)

theorem netBoxPayload_of_unnamed {r : CertCheckResult} (h : r.Unnamed) :
    NetBoxPayload (buildCheckPayloadFromDiscovery rt host_ref r) := by
  obtain ⟨cert, hcert, hcanonical, htrusted, hreason, hreason'⟩ := @netBox_cert_full rt host_ref r h.withCert
  have hstatus := h.status
  refine ⟨?_, ⟨r.status, rfl, rfl⟩, netBox_connectionFailed_iff, ?_, ?_, ?_, ?_, ?_⟩
  · rw [netBox_withoutCert_iff, hstatus]
    simp only [hcert, Option.some.injEq, reduceCtorEq, false_iff]
    decide
  · have hnull : certField (buildCheckPayloadFromDiscovery rt host_ref r) "canonical_hostname" = .null := by
      simp [certField, hcert, hcanonical, h.unnamed, Json.ofOptStr]
    exact iff_of_true hnull (.inl ((netBox_detail_iff .certNoUsableHostname).mpr hstatus))
  · simp [certField, hcert, hreason, htrusted, h.unjudged]
  · simp [certField, hcert, hreason, hreason']
  · intro hdetail
    rw [(netBox_detail_iff .tlsWarning).mp hdetail] at hstatus
    cases hstatus
  · intro hdetail
    rw [(netBox_detail_iff .success).mp hdetail] at hstatus
    cases hstatus

theorem netBoxPayload_of_judged {r : CertCheckResult} {trusted : Bool} (h : r.Judged trusted) :
    NetBoxPayload (buildCheckPayloadFromDiscovery rt host_ref r) := by
  obtain ⟨cert, hcert, hcanonical, htrusted, hreason, hreason'⟩ := @netBox_cert_full rt host_ref r h.withCert
  refine ⟨?_, ⟨r.status, rfl, rfl⟩, netBox_connectionFailed_iff, ?_, ?_, ?_, ?_, ?_⟩
  · rw [netBox_withoutCert_iff]
    simp [hcert, h.status.1]
  · have hnamed : certField (buildCheckPayloadFromDiscovery rt host_ref r) "canonical_hostname" ≠ .null := by
      simpa [certField, hcert, hcanonical] using Option.isSome_iff_ne_none.mp h.named
    refine iff_of_false hnamed ?_
    rintro (hdetail | hnull)
    · exact h.status.2 ((netBox_detail_iff .certNoUsableHostname).mp hdetail)
    · cases hcert.symm.trans hnull
  · -- the reason is there just where the verdict is `False`
    simp only [certField, hcert, hreason, htrusted, Option.getD_some, h.verdict]
    rw [Json.ofOptBool_eq_bool, ne_eq, Json.ofOptStr_eq_null, ← ne_eq, ← Option.isSome_iff_ne_none, h.reason]
    simp
  · simp [certField, hcert, hreason, hreason']
  · intro hdetail
    have hfalse := h.warning ((netBox_detail_iff .tlsWarning).mp hdetail)
    simp [certField, hcert, htrusted, h.verdict, hfalse]
  · intro hdetail
    have htrue := h.success ((netBox_detail_iff .success).mp hdetail)
    simp [certField, hcert, htrusted, h.verdict, htrue]

end

/-- **The invariants of the payloads**, whatever the connections, the handshakes and the certificates were. -/
theorem payload_invariants (rt : Runtime) (host_ref host : Json) (port : Int)
    (connect_timeout handshake_timeout : PyFloat) (expiring_soon_threshold_days : Int) (script : CheckScript) :
    (∀ r, (certCheck rt host port connect_timeout handshake_timeout).outcome script.answer = some (.ok r) →
      ManualPayload (Recovers script (certCheck rt host port connect_timeout handshake_timeout))
        (buildCheckPayload host_ref r)) ∧
    ∀ r, (certCheckWithDiscovery rt host port connect_timeout handshake_timeout
        expiring_soon_threshold_days).outcome script.answer = some (.ok r) →
      NetBoxPayload (buildCheckPayloadFromDiscovery rt host_ref r) := by
  constructor
  · intro r hr
    exact manualPayload_of_shape (shape_of_checked (checked_of_returned hr)) (recovers_certCheck hr)
  · intro r hr
    rcases shape_of_discovery (discovery_of_returned hr) with hbare | hunnamed | ⟨trusted, hjudged⟩
    · exact netBoxPayload_of_bare hbare
    · exact netBoxPayload_of_unnamed hunnamed
    · exact netBoxPayload_of_judged hjudged

theorem payload_invariants_serving :
    (∃ r, (certCheck literalRuntime (.str "db.example") 443 (.finite 5) (.finite 5)).outcome
        (serving (certFor (.dns "db.example") "ca.example" 1500000)).answer = some (.ok r) ∧
      certField (buildCheckPayload .null r) "hostname_matches" = .bool true) ∧
    ∃ r, (certCheckWithDiscovery literalRuntime (.str "10.0.0.5") 443 (.finite 5) (.finite 5) 30).outcome
        (serving (certFor (.dns "db.example") "ca.example" 1500000)).answer = some (.ok r) ∧
      NetBoxPayload (buildCheckPayloadFromDiscovery literalRuntime .null r) := by
  have hchecked : ∃ r, (certCheck literalRuntime (.str "db.example") 443 (.finite 5) (.finite 5)).outcome
      (serving (certFor (.dns "db.example") "ca.example" 1500000)).answer = some (.ok r) ∧ r.state = .success :=
    ⟨_, rfl, rfl⟩
  have hdiscovered : ∃ r, (certCheckWithDiscovery literalRuntime (.str "10.0.0.5") 443 (.finite 5) (.finite 5)
      30).outcome (serving (certFor (.dns "db.example") "ca.example" 1500000)).answer = some (.ok r) := ⟨_, rfl⟩
  constructor
  · obtain ⟨r, hr, hstate⟩ := hchecked
    have hpayload := (payload_invariants literalRuntime .null (.str "db.example") 443 (.finite 5) (.finite 5) 30
      (serving (certFor (.dns "db.example") "ca.example" 1500000))).1 r hr
    have hstatus : (buildCheckPayload .null r).get? "status" = some (.str r.state.text) := rfl
    exact ⟨r, hr, (hpayload.success (by rw [hstatus, hstate]; rfl)).2.2.1⟩
  · obtain ⟨r, hr⟩ := hdiscovered
    exact ⟨r, hr, (payload_invariants literalRuntime .null (.str "10.0.0.5") 443 (.finite 5) (.finite 5) 30
      (serving (certFor (.dns "db.example") "ca.example" 1500000))).2 r hr⟩

/-! ## Why a check failed -/

/-- A failed check says why, and a successful one says nothing. -/
def SaysWhy (payload : Dict) : Prop :=
  (payload.get? "status" = some (.str "tls_failed") ∨ payload.get? "status" = some (.str "connection_failed") →
    ∃ reason, payload.get? "error_reason" = some (.str reason)) ∧
  (payload.get? "status" = some (.str "success") → payload.get? "error_reason" = some .null)

/-- Handshake 1 finds a certificate with a usable hostname that has expired when its days are counted. -/
def FindsExpired (ip : Json) (port : Int) (connect_timeout handshake_timeout : PyFloat) (script : CheckScript) :
    Prop :=
  ∃ cert canonical all_sans, Discovers ip port connect_timeout handshake_timeout script cert ∧
    extractCanonicalHostnameAndSans cert = .ok (some canonical, all_sans) ∧
    cert.not_valid_after_utc < script.clock .decision

section

variable {rt : Runtime} {host_ref host : Json} {port : Int} {connect_timeout handshake_timeout : PyFloat}
  {expiring_soon_threshold_days : Int} {script : CheckScript}

theorem saysWhy_of_shape {r : CertResult} (h : r.Bare ∨ r.Full) : SaysWhy (buildCheckPayload host_ref r) := by
  show (some (Json.str r.state.text) = _ ∨ some (Json.str r.state.text) = _ →
    ∃ reason, some (Json.ofOptStr r.error_message) = some (.str reason)) ∧
    (some (Json.str r.state.text) = _ → some (Json.ofOptStr r.error_message) = some .null)
  rcases h with hbare | hfull
  · obtain ⟨message, hmessage⟩ := Option.isSome_iff_exists.mp hbare.explained
    have hfailed := hbare.failed
    refine ⟨fun _ => ⟨message, by rw [hmessage]; rfl⟩, ?_⟩
    cases hstate : r.state with
    | success => exact absurd hstate hfailed
    | _ => simp [ResultState.text]
  · cases hstate : r.state with
    | connectionFailed => exact absurd hstate hfull.state
    | success => simp [ResultState.text, (hfull.success hstate).1]
    | tlsFailed =>
      obtain ⟨message, hmessage⟩ := Option.isSome_iff_exists.mp (hfull.failure hstate)
      simp [ResultState.text, hmessage, Json.ofOptStr]

/-- A NetBox check that failed says why if it has a reason at all. -/
theorem saysWhy_netBox_iff {r : CertCheckResult} :
    SaysWhy (buildCheckPayloadFromDiscovery rt host_ref r) ↔
      (r.error_message.isSome ↔ detailedToLegacyStatus r.status ≠ .success) := by
  show (some (Json.str (detailedToLegacyStatus r.status).text) = _ ∨
      some (Json.str (detailedToLegacyStatus r.status).text) = _ →
    ∃ reason, some (Json.ofOptStr r.error_message) = some (.str reason)) ∧
    (some (Json.str (detailedToLegacyStatus r.status).text) = _ → some (Json.ofOptStr r.error_message) = some .null) ↔ _
  cases detailedToLegacyStatus r.status <;> cases r.error_message <;> simp [ResultState.text, Json.ofOptStr]

theorem legacy_decidedStatus {cert : Certificate} {canonical : String} {trusted : Bool} :
    detailedToLegacyStatus (decidedStatus expiring_soon_threshold_days script cert canonical trusted) ≠ .success ↔
      cert.not_valid_after_utc < script.clock .decision := by
  have hexpired := @daysUntil_lt_iff cert.not_valid_after_utc (script.clock .decision) 0
  rw [decidedStatus, determineStatus_named]
  split_ifs with hdays hsoon htrusted
  · simp [detailedToLegacyStatus]
    omega
  all_goals
    simp [detailedToLegacyStatus]
    omega

/-- **Every failed check says why** but one: that of an expired certificate with a name, from NetBox. -/
theorem error_reason_iff (rt : Runtime) (host_ref host : Json) (port : Int)
    (connect_timeout handshake_timeout : PyFloat) (expiring_soon_threshold_days : Int) (script : CheckScript) :
    (∀ r, (certCheck rt host port connect_timeout handshake_timeout).outcome script.answer = some (.ok r) →
      SaysWhy (buildCheckPayload host_ref r)) ∧
    ∀ r, (certCheckWithDiscovery rt host port connect_timeout handshake_timeout
        expiring_soon_threshold_days).outcome script.answer = some (.ok r) →
      (SaysWhy (buildCheckPayloadFromDiscovery rt host_ref r) ↔
        ¬ FindsExpired host port connect_timeout handshake_timeout script) := by
  constructor
  · intro r hr
    exact saysWhy_of_shape (shape_of_checked (checked_of_returned hr))
  · intro r hr
    rw [saysWhy_netBox_iff]
    cases discovery_of_returned hr with
    | @failed e hfailed =>
      have hnone : ¬ FindsExpired host port connect_timeout handshake_timeout script := by
        rintro ⟨cert, canonical, all_sans, hcert, -⟩
        cases Except.ok.inj (Option.some.inj (hfailed.symm.trans hcert))
      have hwithout := failed_withoutCert hfailed
      simp only [hnone, not_false_eq_true, iff_true, Option.isSome_some, true_iff]
      rcases hwithout with h | h | h | h <;> rw [h] <;> decide
    | unnamed hcert hname hr =>
      have hnone : ¬ FindsExpired host port connect_timeout handshake_timeout script := by
        rintro ⟨cert, canonical, all_sans, hcert', hname', -⟩
        obtain rfl := hcert.unique hcert'
        cases Except.ok.inj (hname.symm.trans hname')
      obtain ⟨hstatus, herror, -⟩ := resultOfCertData_verdicts hr
      simp [hnone, hstatus, herror, detailedToLegacyStatus]
    | @verified cert canonical all_sans _ trusted _ _ hcert hname hmatches hchain hr =>
      obtain ⟨hstatus, herror, -⟩ := resultOfCertData_verdicts hr
      rw [hstatus, herror, legacy_decidedStatus]
      have hexpired : FindsExpired host port connect_timeout handshake_timeout script ↔
          cert.not_valid_after_utc < script.clock .decision := by
        constructor
        · rintro ⟨cert', canonical', all_sans', hcert', -, hlate⟩
          obtain rfl := hcert.unique hcert'
          exact hlate
        · intro hlate
          exact ⟨cert, canonical, all_sans, hcert, hname, hlate⟩
      simp [hexpired]

end

/-- A server whose certificate has run out. -/
def servingExpired : CheckScript where
  __ := serving (certFor (.dns "db.example") "ca.example" 1500000)
  clock _ := 2000000

/-- **Failed, and no reason given**: the certificate of a NetBox host has expired. -/
theorem expired_without_reason :
    ∃ r, (certCheckWithDiscovery literalRuntime (.str "10.0.0.5") 443 (.finite 5) (.finite 5) 30).outcome
        servingExpired.answer = some (.ok r) ∧
      (buildCheckPayloadFromDiscovery literalRuntime .null r).get? "status" = some (.str "tls_failed") ∧
      (buildCheckPayloadFromDiscovery literalRuntime .null r).get? "error_reason" = some .null ∧
      ¬ SaysWhy (buildCheckPayloadFromDiscovery literalRuntime .null r) := by
  have hreturned : ∃ r, (certCheckWithDiscovery literalRuntime (.str "10.0.0.5") 443 (.finite 5) (.finite 5)
      30).outcome servingExpired.answer = some (.ok r) ∧ r.status = .certExpired ∧ r.error_message = none :=
    ⟨_, rfl, by decide, rfl⟩
  obtain ⟨r, hr, hstatus, herror⟩ := hreturned
  have hlegacy : (buildCheckPayloadFromDiscovery literalRuntime .null r).get? "status" =
      some (.str (detailedToLegacyStatus r.status).text) := rfl
  have hreason : (buildCheckPayloadFromDiscovery literalRuntime .null r).get? "error_reason" =
      some (.ofOptStr r.error_message) := rfl
  refine ⟨r, hr, by rw [hlegacy, hstatus]; rfl, by rw [hreason, herror]; rfl, ?_⟩
  rw [saysWhy_netBox_iff, hstatus, herror]
  simp [detailedToLegacyStatus]

theorem error_reason_serving :
    (∃ r, (certCheck literalRuntime (.str "db.example") 443 (.finite 5) (.finite 5)).outcome
        servingExpired.answer = some (.ok r) ∧ SaysWhy (buildCheckPayload .null r)) ∧
    ∃ r, (certCheckWithDiscovery literalRuntime (.str "10.0.0.5") 443 (.finite 5) (.finite 5) 30).outcome
        (serving (certFor (.dns "db.example") "ca.example" 1500000)).answer = some (.ok r) ∧
      SaysWhy (buildCheckPayloadFromDiscovery literalRuntime .null r) := by
  have hchecked : ∃ r, (certCheck literalRuntime (.str "db.example") 443 (.finite 5) (.finite 5)).outcome
      servingExpired.answer = some (.ok r) := ⟨_, rfl⟩
  have hdiscovered : ∃ r, (certCheckWithDiscovery literalRuntime (.str "10.0.0.5") 443 (.finite 5) (.finite 5)
      30).outcome (serving (certFor (.dns "db.example") "ca.example" 1500000)).answer = some (.ok r) := ⟨_, rfl⟩
  constructor
  · obtain ⟨r, hr⟩ := hchecked
    exact ⟨r, hr, (error_reason_iff literalRuntime .null (.str "db.example") 443 (.finite 5) (.finite 5) 30
      servingExpired).1 r hr⟩
  · obtain ⟨r, hr⟩ := hdiscovered
    refine ⟨r, hr, ((error_reason_iff literalRuntime .null (.str "10.0.0.5") 443 (.finite 5) (.finite 5) 30
      (serving (certFor (.dns "db.example") "ca.example" 1500000))).2 r hr).mpr ?_⟩
    rintro ⟨cert, canonical, all_sans, -, -, hlate⟩
    exact absurd hlate (Nat.not_lt_zero _)

end CertWatch
