/-
# `CertWatch.DiscoveryStatus` — what the headline status of a discovered certificate says.

`_determine_status` looks at the days that were left when handshake 1 was over, and at the verdict of handshake
3; the result reports the days that are left once handshakes 2 and 3 are over as well.  The two differ when the
certificate passes one of two instants in between.
-/
import CertWatch.CheckOutcomes

namespace CertWatch

open CertWatch.Lib

/-! ## Days as instants -/

/-- A day in microseconds. -/
def dayMicros : Int := 86400000000

/-- Fewer than `d` days are left once the instant `d` days before the end has passed. -/
theorem daysUntil_lt_iff {t now : Nat} {d : Int} : daysUntil t now < d ↔ (t : Int) - d * dayMicros < now := by
  unfold daysUntil dayMicros secondsPerDay
  omega

/-! ## The status that is decided on -/

section

variable {expiring_soon_threshold_days : Int} {script : CheckScript} {cert : Certificate} {canonical : String}
  {chain_trusted : Bool}

theorem determineStatus_named {days : Int} :
    determineStatus (some canonical) (some days) (some chain_trusted) expiring_soon_threshold_days =
      if days < 0 then .certExpired
      else if days ≤ expiring_soon_threshold_days then .certExpiringSoon
      else if chain_trusted = false then .tlsWarning
      else .success := by
  simp [determineStatus]

theorem decidedStatus_expired_iff :
    decidedStatus expiring_soon_threshold_days script cert canonical chain_trusted = .certExpired ↔
      daysUntil cert.not_valid_after_utc (script.clock .decision) < 0 := by
  rw [decidedStatus, determineStatus_named]
  split_ifs <;> simp_all

theorem decidedStatus_expiringSoon_iff :
    decidedStatus expiring_soon_threshold_days script cert canonical chain_trusted = .certExpiringSoon ↔
      0 ≤ daysUntil cert.not_valid_after_utc (script.clock .decision) ∧
        daysUntil cert.not_valid_after_utc (script.clock .decision) ≤ expiring_soon_threshold_days := by
  rw [decidedStatus, determineStatus_named]
  split_ifs <;> simp_all

end

/-! ## Status and reported expiry -/

/-- The status says of the reported days what its name says. -/
def CertCheckResult.Agrees (r : CertCheckResult) (expiring_soon_threshold_days : Int) : Prop :=
  (r.status = .certExpired ↔ ∃ days, r.days_until_expiry = some days ∧ days < 0) ∧
    (r.status = .certExpiringSoon ↔
      ∃ days, r.days_until_expiry = some days ∧ 0 ≤ days ∧ days ≤ expiring_soon_threshold_days)

/-- The instant passes between two readings of the clock. -/
def PassesBetween (instant : Int) (decision result : Nat) : Prop := decision ≤ instant ∧ instant < result

instance (instant : Int) (decision result : Nat) : Decidable (PassesBetween instant decision result) :=
  inferInstanceAs (Decidable (_ ∧ _))

section

variable {rt : Runtime} {ip : Json} {port : Int} {connect_timeout handshake_timeout : PyFloat}
  {expiring_soon_threshold_days : Int} {script : CheckScript} {cert : Certificate} {r : CertCheckResult}

theorem Discovers.unique {cert' : Certificate} (h : Discovers ip port connect_timeout handshake_timeout script cert)
    (h' : Discovers ip port connect_timeout handshake_timeout script cert') : cert = cert' :=
  Except.ok.inj (Except.ok.inj (Option.some.inj (h.symm.trans h')))

/-- A result with a usable hostname has the status that was decided on at the one reading, and the days that
were left at the other. -/
theorem status_and_days
    (hr : (certCheckWithDiscovery rt ip port connect_timeout handshake_timeout expiring_soon_threshold_days).outcome
      script.answer = some (.ok r)) (husable : r.canonical_hostname ≠ none)
    (hcert : Discovers ip port connect_timeout handshake_timeout script cert) :
    (∃ canonical trusted, r.status = decidedStatus expiring_soon_threshold_days script cert canonical trusted) ∧
      r.days_until_expiry = some (daysUntil cert.not_valid_after_utc (script.clock .result)) := by
  cases discovery_of_returned hr with
  | failed hfailed => exact absurd rfl husable
  | unnamed hcert' hname hr => exact absurd ((resultOfCertData_describes hr hname).canonical_hostname hname) husable
  | @verified _ canonical _ _ trusted _ _ hcert' hname hmatches hchain hr =>
    obtain rfl := hcert.unique hcert'
    obtain ⟨hstatus, -, hdays, -⟩ := resultOfCertData_verdicts hr
    exact ⟨⟨canonical, trusted, hstatus⟩, hdays⟩

/-- **The status agrees with the reported expiry exactly when no boundary passes meanwhile**: neither the end of
the certificate nor the instant from which on it is expiring soon. -/
theorem agrees_iff
    (hr : (certCheckWithDiscovery rt ip port connect_timeout handshake_timeout expiring_soon_threshold_days).outcome
      script.answer = some (.ok r)) (husable : r.canonical_hostname ≠ none)
    (hcert : Discovers ip port connect_timeout handshake_timeout script cert)
    (hthreshold : 0 ≤ expiring_soon_threshold_days) (hclock : script.clock .decision ≤ script.clock .result) :
    r.Agrees expiring_soon_threshold_days ↔
      ¬ PassesBetween cert.not_valid_after_utc (script.clock .decision) (script.clock .result) ∧
      ¬ PassesBetween (cert.not_valid_after_utc - (expiring_soon_threshold_days + 1) * dayMicros)
        (script.clock .decision) (script.clock .result) := by
  obtain ⟨⟨canonical, trusted, hstatus⟩, hdays⟩ := status_and_days hr husable hcert
  unfold CertCheckResult.Agrees PassesBetween
  rw [hstatus, decidedStatus_expired_iff, decidedStatus_expiringSoon_iff, hdays]
  simp only [Option.some.injEq, exists_eq_left']
  -- each comparison of days is a comparison of instants, and the two instants are in order
  have hend (now : Nat) := @daysUntil_lt_iff cert.not_valid_after_utc now 0
  have hsoon (now : Nat) := @daysUntil_lt_iff cert.not_valid_after_utc now (expiring_soon_threshold_days + 1)
  have hend₁ := hend (script.clock .decision)
  have hend₂ := hend (script.clock .result)
  have hsoon₁ := hsoon (script.clock .decision)
  have hsoon₂ := hsoon (script.clock .result)
  unfold dayMicros at *
  omega

end

/-- A check in which the certificate runs out between the two readings. -/
def expiringMeanwhile : CheckScript where
  __ := serving (certFor (.dns "db.example") "ca.example" 1500000)
  clock reading := match reading with
    | .checkedAt => 0
    | .decision => 1000000
    | .result => 2000000

/-- **Expiring soon, and expired**: the status is one, the reported days say the other. -/
theorem not_agrees_expiringMeanwhile :
    ∃ r, (certCheckWithDiscovery literalRuntime (.str "10.0.0.5") 443 (.finite 5) (.finite 5) 30).outcome
        expiringMeanwhile.answer = some (.ok r) ∧ r.canonical_hostname = some "db.example" ∧
      r.status = .certExpiringSoon ∧ r.days_until_expiry = some (-1) ∧ ¬ r.Agrees 30 := by
  refine ⟨_, rfl, rfl, by decide, by decide, ?_⟩
  intro hagrees
  obtain ⟨days, hdays, hsoon⟩ := hagrees.2.mp (by decide)
  obtain rfl := Option.some.inj hdays
  revert hsoon
  decide

/-- The server of a certificate that lasts, under a clock that stands still. -/
theorem agrees_serving :
    ∃ r, (certCheckWithDiscovery literalRuntime (.str "10.0.0.5") 443 (.finite 5) (.finite 5) 30).outcome
        (serving (certFor (.dns "db.example") "ca.example" 1500000)).answer = some (.ok r) ∧ r.Agrees 30 := by
  have hcert : Discovers (.str "10.0.0.5") 443 (.finite 5) (.finite 5)
    (serving (certFor (.dns "db.example") "ca.example" 1500000))
    (certFor (.dns "db.example") "ca.example" 1500000) := rfl
  have hreturned : ∃ r, (certCheckWithDiscovery literalRuntime (.str "10.0.0.5") 443 (.finite 5) (.finite 5) 30).outcome
      (serving (certFor (.dns "db.example") "ca.example" 1500000)).answer = some (.ok r) ∧
      r.canonical_hostname = some "db.example" := ⟨_, rfl, rfl⟩
  obtain ⟨r, hr, hname⟩ := hreturned
  refine ⟨r, hr, (agrees_iff hr ?_ hcert (by decide) (by decide)).mpr ⟨by decide, by decide⟩⟩
  simp [hname]

/-! ## Status and verdicts -/

section

variable {rt : Runtime} {ip : Json} {port : Int} {connect_timeout handshake_timeout : PyFloat}
  {expiring_soon_threshold_days : Int} {script : CheckScript} {r : CertCheckResult}

theorem decidedStatus_trusted {cert : Certificate} {canonical : String} {trusted : Bool} :
    (decidedStatus expiring_soon_threshold_days script cert canonical trusted = .success → trusted = true) ∧
      (decidedStatus expiring_soon_threshold_days script cert canonical trusted = .tlsWarning → trusted = false) := by
  rw [decidedStatus, determineStatus_named]
  split_ifs <;> simp_all

/-- The verified handshake under the name completed. -/
def ChainVerified (script : CheckScript) (canonical : String) : Prop :=
  script.wrapSocket .third (.str canonical) = .ok ()

/-- The verification of what the server presented failed, for this reason. -/
def ChainUntrusted (script : CheckScript) (canonical : String) (reason : Option String) : Prop :=
  ∃ e verify_code message, script.wrapSocket .third (.str canonical) = .error (.os e) ∧
    e.kind = .sslCertVerification verify_code message ∧ reason = some (chainTrustReason verify_code)

/-- Nothing was verified: the third connection or its handshake failed otherwise, by this class. -/
def ChainUnknown (port : Int) (ip : Json) (connect_timeout : PyFloat) (script : CheckScript) (canonical : String)
    (reason : Option String) : Prop :=
  ∃ e, (script.connect .third ip port connect_timeout = .error (.os e) ∨
      script.wrapSocket .third (.str canonical) = .error (.os e) ∧
        ∀ code message, e.kind ≠ .sslCertVerification code message) ∧
    reason = some ("verification_failed:" ++ e.kind.className)

/-- **What the status says of the verdicts**: a success has a verified chain, and a warning has one that either
was found untrusted or could not be looked at, as its reason tells. -/
theorem status_of_verdicts
    (hr : (certCheckWithDiscovery rt ip port connect_timeout handshake_timeout expiring_soon_threshold_days).outcome
      script.answer = some (.ok r)) :
    (r.status = .success → r.chain_trusted_by_system = some true ∧
      ∃ canonical, r.canonical_hostname = some canonical ∧ ChainVerified script canonical) ∧
    (r.status = .tlsWarning → r.chain_trusted_by_system = some false ∧
      ∃ canonical, r.canonical_hostname = some canonical ∧
        (ChainUntrusted script canonical r.chain_trust_reason ∨
          ChainUnknown port ip connect_timeout script canonical r.chain_trust_reason)) := by
  cases discovery_of_returned hr with
  | @failed e hfailed =>
    have hwithout := failed_withoutCert hfailed
    constructor
    · intro hstatus
      rw [show e.status = .success from hstatus] at hwithout
      exact absurd hwithout (by decide)
    · intro hstatus
      rw [show e.status = .tlsWarning from hstatus] at hwithout
      exact absurd hwithout (by decide)
  | unnamed hcert hname hr =>
    have hstatus := (resultOfCertData_verdicts hr).1
    rw [hstatus]
    exact ⟨nofun, nofun⟩
  | @verified cert canonical _ _ trusted _ _ hcert hname hmatches hchain hr =>
    -- the status sees the third handshake's verdict only, so the second one's (`hmatches`) plays no part
    have hcanonical := (resultOfCertData_describes hr hname).canonical_hostname hname
    obtain ⟨hstatus, -, -, -, htrusted, hreason⟩ := resultOfCertData_verdicts hr
    obtain ⟨hsuccess, hwarning⟩ :=
      @decidedStatus_trusted expiring_soon_threshold_days script cert canonical trusted
    rw [hstatus, htrusted, hreason]
    constructor
    · intro h
      obtain rfl := hsuccess h
      cases handshakeVerifyChain_ok hchain with
      | completed hwrap => exact ⟨rfl, canonical, hcanonical, hwrap⟩
    · intro h
      obtain rfl := hwarning h
      refine ⟨rfl, canonical, hcanonical, ?_⟩
      cases handshakeVerifyChain_ok hchain with
      | untrusted hwrap hkind => exact .inl ⟨_, _, _, hwrap, hkind, rfl⟩
      | unverified hfailed => exact .inr ⟨_, hfailed, rfl⟩

end

/-- A server that stops answering after the first connection, or after the second one. -/
def gone (c : Connection) : CheckScript where
  __ := serving (certFor (.dns "db.example") "ca.example" (90 * 86400000000))
  connect c' _ _ _ := if c' = c then .error (.os ⟨.connectionRefused, "Connection refused"⟩) else .ok ()

/-- **A success whose name did not match, and a warning without a chain**: the one server is gone in handshake 2
only, the other one in handshake 3. -/
theorem status_despite_verdicts :
    (∃ r, (certCheckWithDiscovery literalRuntime (.str "10.0.0.5") 443 (.finite 5) (.finite 5) 30).outcome
        (gone .second).answer = some (.ok r) ∧ r.status = .success ∧ r.hostname_matches = some false) ∧
    ∃ r, (certCheckWithDiscovery literalRuntime (.str "10.0.0.5") 443 (.finite 5) (.finite 5) 30).outcome
        (gone .third).answer = some (.ok r) ∧ r.status = .tlsWarning ∧
      r.chain_trust_reason = some "verification_failed:ConnectionRefusedError" ∧
      ¬ ∃ reason, ChainUntrusted (gone .third) "db.example" reason := by
  refine ⟨⟨_, rfl, by decide, rfl⟩, _, rfl, by decide, by decide, ?_⟩
  rintro ⟨reason, e, verify_code, message, hwrap, -⟩
  cases hwrap

theorem status_of_verdicts_gone :
    ∃ r, (certCheckWithDiscovery literalRuntime (.str "10.0.0.5") 443 (.finite 5) (.finite 5) 30).outcome
        (gone .third).answer = some (.ok r) ∧ r.chain_trusted_by_system = some false := by
  have hreturned : ∃ r, (certCheckWithDiscovery literalRuntime (.str "10.0.0.5") 443 (.finite 5) (.finite 5) 30).outcome
      (gone .third).answer = some (.ok r) ∧ r.status = .tlsWarning := ⟨_, rfl, by decide⟩
  obtain ⟨r, hr, hstatus⟩ := hreturned
  exact ⟨r, hr, ((status_of_verdicts hr).2 hstatus).1⟩

end CertWatch
