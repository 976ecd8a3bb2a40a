/-
# `CertWatch.CheckEscapes` — which failures of a call escape a check function.

Each check function guards its calls one by one: a connect or a handshake may raise an `OSError`, and what else
it raises escapes the function.  `Tolerated` says of every call what the code around it catches; the two
theorems at the end say that a check returns exactly when every call it makes stays within that.
-/
import CertWatch.CheckThread

namespace CertWatch

open CertWatch.Lib

/-! ## What is caught where -/

/-- The call returned a value. -/
def Returned {α : Type} (r : Except PyExc α) : Prop := ∃ a, r = .ok a

/-- If the call raised, then an `OSError`. -/
def OnlyOSError {α : Type} (r : Except PyExc α) : Prop := ∀ e, r = .error e → e.isOSError = true

/-- The answer to a call stays within what the code around it catches: in `cert_check` for a manual host, in
`cert_check_with_discovery` for a NetBox host. -/
def Tolerated (source : HostSource) (script : CheckScript) : CheckOp → Prop
  | .connect c host port timeout => OnlyOSError (script.connect c host port timeout)
  | .wrapSocket c server_hostname => OnlyOSError (script.wrapSocket c server_hostname)
  | .settimeout c timeout => Returned (script.settimeout c timeout)
  | .context c kind => Returned (script.context c kind)
  | .getpeercert c => match source with
    -- what closing the TLS socket raises replaces what `getpeercert` raised
    | .manual => Returned (script.closeTls c) → OnlyOSError (script.getpeercert c)
    | .netbox => Returned (script.getpeercert c)
  | .closeTls c => source = .manual ∨ c = .second → OnlyOSError (script.closeTls c)
  | .loadDer der => match script.loadDer der with
    | .ok cert => cert.Readable
    | .error _ => source = .netbox
  | .isSet | .utcNow _ | .close _ => True

section

variable {script : CheckScript} {source : HostSource}

theorem returned_ok {α : Type} (a : α) : Returned (.ok a : Except PyExc α) := ⟨a, rfl⟩

theorem not_returned_error {α : Type} (e : PyExc) : ¬ Returned (.error e : Except PyExc α) := by
  rintro ⟨a, h⟩
  cases h

theorem onlyOSError_ok {α : Type} (a : α) : OnlyOSError (.ok a : Except PyExc α) := by
  intro e h
  cases h

theorem onlyOSError_error {α : Type} {e : PyExc} : OnlyOSError (.error e : Except PyExc α) ↔ e.isOSError = true := by
  constructor
  · intro h
    exact h e rfl
  · intro h e' he'
    obtain rfl := Except.error.inj he'
    exact h

theorem isOSError_iff {e : PyExc} : e.isOSError = true ↔ ∃ err, e = .os err := by
  cases e with
  | os err => exact ⟨fun _ => ⟨err, rfl⟩, fun _ => rfl⟩
  | _ =>
    constructor
    · intro h
      cases h
    · rintro ⟨err, h⟩
      cases h

/-- One part after the other; `G` is an outcome without an exception. -/
theorem exact_then {α β : Type} {p : Check α} {f : α → Check β} {T : CheckOp → Prop} {G : Except PyExc β → Prop}
    (hG : ∀ e, ¬ G (.error e)) (hp : p.Exact script.answer T Returned)
    (hf : ∀ a, (f a).Exact script.answer T G) : (p.bind f).Exact script.answer T G := by
  apply Prog.exact_bind hp
  · intro a _ _
    exact hf a
  · intro a _ hnot
    exact absurd (returned_ok a) hnot
  · intro e _
    exact ⟨fun h => absurd h (not_returned_error e), fun h => absurd h (hG e)⟩

/-- An unguarded call: it returns, or its exception escapes. -/
theorem exact_unguarded {β : Type} {o : CheckOp} {f : o.Ret → Check β} {T : CheckOp → Prop}
    {G : Except PyExc β → Prop} (hG : ∀ e, ¬ G (.error e)) (hT : T o ↔ Returned (script.answer o))
    (hf : ∀ a, (f a).Exact script.answer T G) : ((checkCall o).bind f).Exact script.answer T G :=
  exact_then hG (Prog.exact_perform hT) hf

/-- A guarded part: what follows it goes on after a value and after an `OSError`, and raises anything else
again. -/
theorem exact_guarded {α β : Type} {p : Check α} {f : Except PyExc α → Check β} {T : CheckOp → Prop}
    {G : Except PyExc β → Prop} (hG : ∀ e, ¬ G (.error e)) (hp : p.Exact script.answer T OnlyOSError)
    (hok : ∀ a, (f (.ok a)).Exact script.answer T G) (hos : ∀ e, (f (.error (.os e))).Exact script.answer T G)
    (hraise : ∀ e, e.isOSError = false → f (.error e) = .raise e) :
    (p.attempt.bind f).Exact script.answer T G := by
  apply Prog.exact_attempt_bind hp
  · rintro (e | a) - hx
    · obtain ⟨err, rfl⟩ := isOSError_iff.mp (onlyOSError_error.mp hx)
      exact hos err
    · exact hok a
  · rintro (e | a) - hx hends
    · rw [onlyOSError_error, Bool.not_eq_true] at hx
      rw [hraise e hx] at hends
      exact hG e (Prog.ends_raise.mp hends)
    · exact hx (onlyOSError_ok a)

/-- `finally: sock.close()` changes nothing: what closing raises is dropped. -/
theorem exact_finallyClose {α : Type} {c : Connection} {p : Check α} {G : Except PyExc α → Prop}
    (hp : p.Exact script.answer (Tolerated source script) G) :
    (finallyClose c p).Exact script.answer (Tolerated source script) G := by
  have hclose : (checkCall (.close c)).Exact script.answer (Tolerated source script) fun _ => True :=
    Prog.exact_perform Iff.rfl
  apply Prog.exact_attempt_bind hp
  · intro x _ hx
    apply Prog.exact_attempt_bind hclose
    · intro _ _ _
      exact Prog.exact_ofExcept hx
    · intro y _ hy
      exact absurd trivial hy
  · intro x _ hx hends
    rw [Prog.bind_eq, Prog.ends_bind, Prog.outcome_attempt, Prog.outcome_perform] at hends
    exact hx (Prog.ends_ofExcept.mp hends)

/-- The time of the check, as it is printed. -/
theorem exact_checkedAt (source : HostSource) :
    ((isoZ <$> checkCall (.utcNow .checkedAt) : Check String)).Exact script.answer (Tolerated source script)
      Returned := by
  apply Prog.exact_call
  · intro _
    exact Prog.exact_ret (returned_ok _)
  · intro hnot
    exact absurd trivial hnot

/-! ## Reading a certificate -/

theorem exc_not_os (e : X509Error) : e.exc.isOSError = false := by
  cases e <;> rfl

/-- A reading that succeeds exactly under a condition, and never raises an `OSError`. -/
structure ReadsWhen {α : Type} (readable : Prop) (x : Except PyExc α) : Prop where
  returned : Returned x ↔ readable
  never_os : ∀ e, x = .error e → e.isOSError = false

theorem readsWhen_ok {α : Type} (a : α) : ReadsWhen True (.ok a : Except PyExc α) where
  returned := ⟨fun _ => trivial, fun _ => returned_ok a⟩
  never_os := nofun

theorem ReadsWhen.bind {α β : Type} {P Q : Prop} {x : Except PyExc α} {f : α → Except PyExc β}
    (hx : ReadsWhen P x) (hf : ∀ a, x = .ok a → ReadsWhen Q (f a)) : ReadsWhen (P ∧ Q) (x >>= f) := by
  cases x with
  | error e =>
    constructor
    · constructor
      · intro h
        exact absurd h (not_returned_error e)
      · rintro ⟨hP, -⟩
        exact absurd (hx.returned.mpr hP) (not_returned_error e)
    · intro e' he'
      obtain rfl : e = e' := Except.error.inj he'
      exact hx.never_os e rfl
  | ok a =>
    have hP : P := hx.returned.mp (returned_ok a)
    obtain ⟨hret, hos⟩ := hf a rfl
    exact ⟨⟨fun h => ⟨hP, hret.mp h⟩, fun h => hret.mpr h.2⟩, hos⟩

theorem ReadsWhen.congr {α : Type} {P Q : Prop} {x : Except PyExc α} (hx : ReadsWhen P x) (h : P ↔ Q) :
    ReadsWhen Q x :=
  ⟨hx.returned.trans h, hx.never_os⟩

theorem readsWhen_mapError {α : Type} (x : Except X509Error α) :
    ReadsWhen (∃ a, x = .ok a) (x.mapError X509Error.exc) := by
  cases x with
  | error e =>
    constructor
    · constructor
      · intro h
        exact absurd h (not_returned_error e.exc)
      · rintro ⟨a, h⟩
        cases h
    · intro e' he'
      obtain rfl := Except.error.inj he'
      exact exc_not_os e
  | ok a =>
    constructor
    · exact ⟨fun _ => ⟨a, rfl⟩, fun _ => returned_ok a⟩
    · intro e' he'
      cases he'

theorem keySize_reads (cert : Certificate) :
    ReadsWhen ((∃ key, cert.public_key = .ok key) ∧ True) (keySize cert) :=
  (readsWhen_mapError cert.public_key).bind fun _ _ => readsWhen_ok _

theorem subjectAltNames_reads (cert : Certificate) :
    ReadsWhen ((∃ names, cert.san = .ok names) ∧ True) (subjectAltNames cert) := by
  apply (readsWhen_mapError cert.san).bind
  intro names _
  cases names with
  | none => exact readsWhen_ok _
  | some names => exact readsWhen_ok _

theorem hostnameMatches_reads (rt : Runtime) (hostname : String) (cert : Certificate) :
    ReadsWhen ((∃ names, cert.san = .ok names) ∧ True) (hostnameMatches rt (.str hostname) cert) := by
  apply (readsWhen_mapError cert.san).bind
  intro names _
  generalize (dnsNames (names.getD [])).map rt.lower = sans
  show ReadsWhen True (if sans.isEmpty then _ else _)
  split
  · split <;> exact readsWhen_ok _
  · exact readsWhen_ok _

/-- Naming the algorithm reads the public key, unless the hash algorithm is unknown. -/
theorem signatureAlgorithm_reads (rt : Runtime) (cert : Certificate) :
    ∃ Q : Prop, ((∃ key, cert.public_key = .ok key) → Q) ∧ ReadsWhen Q (signatureAlgorithm rt cert) := by
  unfold signatureAlgorithm
  split
  · exact ⟨True, fun _ => trivial, readsWhen_ok _⟩
  · exact ⟨True, fun _ => trivial, readsWhen_ok _⟩
  · exact ⟨_, fun h => ⟨h, trivial⟩, (readsWhen_mapError cert.public_key).bind fun _ _ => readsWhen_ok _⟩

theorem extractCanonical_reads (cert : Certificate) :
    ReadsWhen ((∃ names, cert.san = .ok names) ∧ True) (extractCanonicalHostnameAndSans cert) := by
  apply (readsWhen_mapError cert.san).bind
  intro names _
  split
  · exact readsWhen_ok _
  · split <;> exact readsWhen_ok _

/-- **`_build_result` raises exactly for a certificate that cannot be read.** -/
theorem resultOfCert_reads (rt : Runtime) (hostname : String) (port : Int) (cert : Certificate) (now : Nat)
    (checked_at : String) (state : ResultState) (trusted : Bool) (verify_code : Option Int)
    (error_reason : Option String) (override : Option Bool) :
    ReadsWhen cert.Readable (resultOfCert rt (.str hostname) port cert now checked_at state trusted verify_code
      error_reason override) := by
  obtain ⟨Q, hQ, hsig⟩ := signatureAlgorithm_reads rt cert
  have hmatch : ∃ P : Prop, ((∃ names, cert.san = .ok names) → P) ∧
      ReadsWhen P (hostnameVerdict rt (.str hostname) cert override) := by
    cases override with
    | some b => exact ⟨True, fun _ => trivial, readsWhen_ok b⟩
    | none => exact ⟨_, fun h => ⟨h, trivial⟩, hostnameMatches_reads rt hostname cert⟩
  obtain ⟨P, hP, hmatch⟩ := hmatch
  have hall : (((∃ names, cert.san = .ok names) ∧ True) ∧ P ∧ Q ∧ ((∃ key, cert.public_key = .ok key) ∧ True) ∧
      True) ↔ cert.Readable := by
    constructor
    · rintro ⟨⟨hsan, -⟩, -, -, ⟨hkey, -⟩, -⟩
      exact ⟨hsan, hkey⟩
    · rintro ⟨hsan, hkey⟩
      exact ⟨⟨hsan, trivial⟩, hP hsan, hQ hkey, ⟨hkey, trivial⟩, trivial⟩
  apply ReadsWhen.congr _ hall
  apply (subjectAltNames_reads cert).bind
  intro sans _
  apply hmatch.bind
  intro hn_match _
  apply hsig.bind
  intro signature_algorithm _
  apply (keySize_reads cert).bind
  intro key_size _
  exact readsWhen_ok _

/-- `_result_with_cert_data` raises exactly for a certificate whose key cannot be read. -/
theorem resultOfCertData_reads (rt : Runtime) (ip : Json) (port : Int) (now : Nat) (status : CertStatus)
    (checked_at : String) (cert : Certificate) (canonical : Option String) (all_sans : List String)
    (hostname_matches chain_trusted : Option Bool) (chain_trust_reason error_message : Option String) :
    ReadsWhen (∃ key, cert.public_key = .ok key) (resultOfCertData rt ip port now status checked_at cert canonical
      all_sans hostname_matches chain_trusted chain_trust_reason error_message) := by
  obtain ⟨Q, hQ, hsig⟩ := signatureAlgorithm_reads rt cert
  have hall : (Q ∧ ((∃ key, cert.public_key = .ok key) ∧ True) ∧ True) ↔ ∃ key, cert.public_key = .ok key := by
    constructor
    · rintro ⟨-, ⟨hkey, -⟩, -⟩
      exact hkey
    · intro hkey
      exact ⟨hQ hkey, ⟨hkey, trivial⟩, trivial⟩
  apply ReadsWhen.congr _ hall
  apply hsig.bind
  intro signature_algorithm _
  apply (keySize_reads cert).bind
  intro key_size _
  exact readsWhen_ok _

/-! ## `cert_check` -/

section Manual

variable {rt : Runtime} {name : String} {port : Int} {checked_at : String}

theorem exact_peerCertificate (c : Connection) :
    (peerCertificate (.str name) c).Exact script.answer (Tolerated .manual script) OnlyOSError := by
  apply Prog.exact_bind (G := OnlyOSError) (Prog.exact_perform Iff.rfl)
  · intro _ _ _
    have hget : (checkCall (.getpeercert c)).Exact script.answer (Tolerated .manual script) fun x =>
        Returned (script.closeTls c) → OnlyOSError x := Prog.exact_perform Iff.rfl
    have hclose : (checkCall (.closeTls c)).Exact script.answer (Tolerated .manual script) OnlyOSError := by
      apply Prog.exact_perform
      exact ⟨fun h => h (Or.inl rfl), fun h _ => h⟩
    apply Prog.exact_attempt_bind hget
    · intro x _ hx
      apply Prog.exact_bind hclose
      · intro a ha _
        rw [Prog.outcome_perform] at ha
        exact Prog.exact_ofExcept (hx ⟨a, Option.some.inj ha⟩)
      · intro a _ hnot
        exact absurd (onlyOSError_ok a) hnot
      · intro e _
        rw [onlyOSError_error, onlyOSError_error]
    · intro x _ hx hends
      rw [Classical.not_imp] at hx
      obtain ⟨⟨a, ha⟩, hx⟩ := hx
      have hout : (checkCall (.closeTls c)).outcome script.answer = some (.ok a) := by
        rw [Prog.outcome_perform]
        exact congrArg some ha
      rw [Prog.bind_eq, Prog.ends_bind, hout] at hends
      exact hx (Prog.ends_ofExcept.mp hends)
  · intro a _ hnot
    exact absurd (onlyOSError_ok a) hnot
  · intro e _
    rw [onlyOSError_error, onlyOSError_error]

/-- Building a result reads the clock and the certificate. -/
theorem exact_buildResult {G : Except PyExc CertResult → Prop} (hok : ∀ r, G (.ok r)) {cert : Certificate}
    (hread : cert.Readable) (state : ResultState) (trusted : Bool) (verify_code : Option Int)
    (error_reason : Option String) (override : Option Bool) :
    (buildResult rt (.str name) port cert checked_at state trusted verify_code error_reason override).Exact
      script.answer (Tolerated .manual script) G := by
  have hreads := resultOfCert_reads rt name port cert (script.clock .result) checked_at state trusted verify_code
    error_reason override
  obtain ⟨r, hr⟩ := hreads.returned.mpr hread
  apply Prog.exact_call
  · intro _
    show (Prog.ofExcept (resultOfCert rt (.str name) port cert (script.clock .result) checked_at state trusted
      verify_code error_reason override) : Check CertResult).Exact _ _ _
    rw [hr]
    exact Prog.exact_ret (hok r)
  · intro hnot
    exact absurd trivial hnot

/-- Loading the certificate and building the result from it. -/
theorem exact_loadAndBuild {G : Except PyExc CertResult → Prop} (hok : ∀ r, G (.ok r))
    (herr : ∀ e, e.isOSError = false → ¬ G (.error e)) (der : Option (List UInt8)) (state : ResultState)
    (trusted : Bool) (verify_code : Option Int) (error_reason : Option String) (override : Option Bool) :
    ((loadCertificate der).bind fun cert => buildResult rt (.str name) port cert checked_at state trusted
      verify_code error_reason override).Exact script.answer (Tolerated .manual script) G := by
  cases hload : script.loadDer der with
  | error e =>
    apply Prog.exact_call
    · intro hT
      simp only [Tolerated, hload, reduceCtorEq] at hT
    · intro _ hends
      simp only [CheckScript.answer, hload] at hends
      exact herr _ (exc_not_os e) (Prog.ends_raise.mp hends)
  | ok cert =>
    have hT : Tolerated .manual script (.loadDer der) ↔ cert.Readable := by
      simp only [Tolerated, hload]
    apply Prog.exact_call
    · intro hread
      simp only [CheckScript.answer, hload]
      exact exact_buildResult hok (hT.mp hread) state trusted verify_code error_reason override
    · intro hnot hends
      have hreads := resultOfCert_reads rt name port cert (script.clock .result) checked_at state trusted verify_code
        error_reason override
      simp only [CheckScript.answer, hload] at hends
      obtain ⟨x, hx, hG⟩ := hends
      obtain rfl : resultOfCert rt (.str name) port cert (script.clock .result) checked_at state trusted verify_code
          error_reason override = x := Option.some.inj ((Prog.outcome_ofExcept _ _).symm.trans hx)
      cases hr : resultOfCert rt (.str name) port cert (script.clock .result) checked_at state trusted verify_code
          error_reason override with
      | ok r => exact hnot (hT.mpr (hreads.returned.mp ⟨r, hr⟩))
      | error e =>
        rw [hr] at hG
        exact herr e (hreads.never_os e hr) hG

theorem exact_verifiedResult :
    (verifiedResult rt (.str name) port checked_at).Exact script.answer (Tolerated .manual script) OnlyOSError := by
  apply Prog.exact_bind (exact_peerCertificate .first)
  · intro der _ _
    apply exact_loadAndBuild onlyOSError_ok
    intro e he hG
    rw [onlyOSError_error, he] at hG
    cases hG
  · intro a _ hnot
    exact absurd (onlyOSError_ok a) hnot
  · intro e _
    rw [onlyOSError_error, onlyOSError_error]

/-- **Stage 1** returns exactly when its calls are tolerated. -/
theorem exact_stageOne (handshake_timeout : PyFloat) :
    (stageOne rt (.str name) port checked_at handshake_timeout).Exact script.answer (Tolerated .manual script)
      Returned := by
  apply exact_unguarded not_returned_error Iff.rfl
  intro _
  apply exact_finallyClose
  apply exact_unguarded not_returned_error Iff.rfl
  intro _
  apply exact_guarded not_returned_error exact_verifiedResult
  · intro r
    exact Prog.exact_ret (returned_ok _)
  · intro e
    simp only [afterVerifiedResult]
    split
    · exact Prog.exact_ret (returned_ok _)
    · exact Prog.exact_ret (returned_ok _)
  · intro e he
    cases e with
    | os err => cases he
    | _ => rfl

/-- What stage 2 does on a connected socket. -/
theorem exact_recoverCertificate (verify_error : String) :
    (recoverCertificate (.str name) port checked_at verify_error).Exact script.answer (Tolerated .manual script)
      Returned := by
  apply exact_unguarded not_returned_error Iff.rfl
  intro _
  apply exact_guarded not_returned_error (exact_peerCertificate .second)
  · intro der
    exact Prog.exact_ret (returned_ok _)
  · intro e
    exact Prog.exact_ret (returned_ok _)
  · intro e he
    cases e with
    | os err => cases he
    | _ => rfl

/-- **Stage 2** returns exactly when its calls are tolerated. -/
theorem exact_stageTwo (verify_code : Option Int) (verify_error : String)
    (connect_timeout handshake_timeout : PyFloat) :
    (stageTwo rt (.str name) port checked_at verify_code verify_error connect_timeout handshake_timeout).Exact
      script.answer (Tolerated .manual script) Returned := by
  apply exact_guarded not_returned_error (Prog.exact_perform Iff.rfl)
  · intro _
    apply exact_unguarded not_returned_error Iff.rfl
    intro _
    apply exact_then not_returned_error (exact_finallyClose (exact_recoverCertificate verify_error))
    rintro (r | der)
    · exact Prog.exact_ret (returned_ok _)
    · exact exact_loadAndBuild returned_ok (fun e _ => not_returned_error e) der _ _ _ _ _
  · intro e
    exact Prog.exact_ret (returned_ok _)
  · intro e he
    cases e with
    | os err => cases he
    | _ => rfl

/-- **`cert_check` returns exactly when every call it makes is tolerated.** -/
theorem exact_certCheck (connect_timeout handshake_timeout : PyFloat) :
    (certCheck rt (.str name) port connect_timeout handshake_timeout).Exact script.answer (Tolerated .manual script)
      Returned := by
  apply exact_then not_returned_error (exact_checkedAt .manual)
  intro checked_at
  apply exact_guarded not_returned_error (Prog.exact_perform Iff.rfl)
  · intro _
    apply exact_then not_returned_error (exact_stageOne handshake_timeout)
    rintro (r | ⟨verify_code, verify_error⟩)
    · exact Prog.exact_ret (returned_ok _)
    · exact exact_stageTwo verify_code verify_error connect_timeout handshake_timeout
  · intro e
    exact Prog.exact_ret (returned_ok _)
  · intro e he
    cases e with
    | os err => cases he
    | _ => rfl

end Manual

/-! ## `cert_check_with_discovery` -/

section NetBox

variable {rt : Runtime} {ip : Json} {port : Int} {checked_at : String}

/-- The first handshake returned, and if with a certificate then with one that can be read. -/
def Discovered (x : Except PyExc (Except DiscoveryError Certificate)) : Prop :=
  ∃ y, x = .ok y ∧ ∀ cert, y = .ok cert → cert.Readable

theorem not_discovered_error (e : PyExc) : ¬ Discovered (.error e) := by
  rintro ⟨y, h, -⟩
  cases h

theorem discovered_error (e : DiscoveryError) : Discovered (.ok (.error e)) := by
  refine ⟨_, rfl, ?_⟩
  rintro cert ⟨⟩

/-- What is presented is read, whatever closing the TLS socket raises. -/
theorem exact_presentedCertificate :
    presentedCertificate.Exact script.answer (Tolerated .netbox script) Returned := by
  have hget : (checkCall (.getpeercert .first)).Exact script.answer (Tolerated .netbox script) Returned :=
    Prog.exact_perform Iff.rfl
  have hclose : (checkCall (.closeTls .first)).Exact script.answer (Tolerated .netbox script) fun _ => True := by
    apply Prog.exact_perform
    constructor
    · intro _
      trivial
    · rintro - (h | h) <;> cases h
  apply Prog.exact_attempt_bind hget
  · intro x _ hx
    apply Prog.exact_attempt_bind hclose
    · intro _ _ _
      exact Prog.exact_ofExcept hx
    · intro y _ hy
      exact absurd trivial hy
  · intro x _ hx hends
    rw [Prog.bind_eq, Prog.ends_bind, Prog.outcome_attempt, Prog.outcome_perform] at hends
    exact hx (Prog.ends_ofExcept.mp hends)

theorem exact_parseCertificate (der : Option (List UInt8)) :
    (parseCertificate der).Exact script.answer (Tolerated .netbox script) Discovered := by
  unfold parseCertificate
  split
  · exact Prog.exact_ret (discovered_error _)
  · exact Prog.exact_ret (discovered_error _)
  · rename_i der _
    cases hload : script.loadDer (some der) with
    | error e =>
      apply Prog.exact_call
      · intro _
        simp only [CheckScript.answer, hload]
        exact Prog.exact_ret (discovered_error _)
      · intro hnot
        simp only [Tolerated, hload, not_true_eq_false] at hnot
    | ok cert =>
      apply Prog.exact_call
      · intro hT
        simp only [Tolerated, hload] at hT
        simp only [CheckScript.answer, hload]
        apply Prog.exact_ret
        refine ⟨_, rfl, ?_⟩
        intro cert' hcert
        obtain rfl : cert = cert' := Except.ok.inj hcert
        exact hT
      · intro hnot hends
        simp only [Tolerated, hload] at hnot
        simp only [CheckScript.answer, hload] at hends
        obtain ⟨y, hy, hread⟩ := Prog.ends_ret.mp hends
        exact hnot (hread cert (Except.ok.inj hy).symm)

theorem exact_readCertificate (server_hostname : Json) :
    (readCertificate server_hostname).Exact script.answer (Tolerated .netbox script) Discovered := by
  apply exact_unguarded not_discovered_error Iff.rfl
  intro _
  apply exact_guarded not_discovered_error (Prog.exact_perform Iff.rfl)
  · intro _
    exact exact_then not_discovered_error exact_presentedCertificate exact_parseCertificate
  · intro e
    exact Prog.exact_ret (discovered_error _)
  · intro e he
    cases e with
    | os err => cases he
    | _ => rfl

/-- **The first handshake.** -/
theorem exact_handshakeGetCert (server_hostname : Json) (connect_timeout handshake_timeout : PyFloat) :
    (handshakeGetCert ip port server_hostname connect_timeout handshake_timeout).Exact script.answer
      (Tolerated .netbox script) Discovered := by
  apply exact_guarded not_discovered_error (Prog.exact_perform Iff.rfl)
  · intro _
    apply exact_unguarded not_discovered_error Iff.rfl
    intro _
    exact exact_finallyClose (exact_readCertificate server_hostname)
  · intro e
    exact Prog.exact_ret (discovered_error _)
  · intro e he
    cases e with
    | os err => cases he
    | _ => rfl

/-- **The second handshake.** -/
theorem exact_handshakeVerifyHostname (canonical : String) (connect_timeout handshake_timeout : PyFloat) :
    (handshakeVerifyHostname ip port canonical connect_timeout handshake_timeout).Exact script.answer
      (Tolerated .netbox script) Returned := by
  have hshake : (do
      checkCall (.wrapSocket .second (.str canonical))
      checkCall (.closeTls .second) : Check Unit).Exact script.answer (Tolerated .netbox script) OnlyOSError := by
    -- closing stands inside the `try` here, so an `OSError` of it is caught like one of the handshake
    apply Prog.exact_bind (G := OnlyOSError) (Prog.exact_perform Iff.rfl)
    · intro _ _ _
      apply Prog.exact_perform
      exact ⟨fun h => h (Or.inr rfl), fun h _ => h⟩
    · intro a _ hnot
      exact absurd (onlyOSError_ok a) hnot
    · intro e _
      rw [onlyOSError_error]
  apply exact_guarded not_returned_error (Prog.exact_perform Iff.rfl)
  · intro _
    apply exact_unguarded not_returned_error Iff.rfl
    intro _
    apply exact_finallyClose
    apply exact_unguarded not_returned_error Iff.rfl
    intro _
    apply exact_guarded not_returned_error hshake
    · intro _
      exact Prog.exact_ret (returned_ok _)
    · intro e
      simp only
      split <;> exact Prog.exact_ret (returned_ok _)
    · intro e he
      cases e with
      | os err => cases he
      | _ => rfl
  · intro e
    exact Prog.exact_ret (returned_ok _)
  · intro e he
    cases e with
    | os err => cases he
    | _ => rfl

/-- **The third handshake.** -/
theorem exact_handshakeVerifyChain (canonical : String) (connect_timeout handshake_timeout : PyFloat) :
    (handshakeVerifyChain ip port canonical connect_timeout handshake_timeout).Exact script.answer
      (Tolerated .netbox script) Returned := by
  have hclose : (checkCall (.closeTls .third)).Exact script.answer (Tolerated .netbox script) fun _ => True := by
    apply Prog.exact_perform
    constructor
    · intro _
      trivial
    · rintro - (h | h) <;> cases h
  apply exact_guarded not_returned_error (Prog.exact_perform Iff.rfl)
  · intro _
    apply exact_unguarded not_returned_error Iff.rfl
    intro _
    apply exact_finallyClose
    apply exact_unguarded not_returned_error Iff.rfl
    intro _
    apply exact_guarded not_returned_error (Prog.exact_perform Iff.rfl)
    · intro _
      apply Prog.exact_attempt_bind hclose
      · intro _ _ _
        exact Prog.exact_ret (returned_ok _)
      · intro y _ hy
        exact absurd trivial hy
    · intro e
      simp only
      split <;> exact Prog.exact_ret (returned_ok _)
    · intro e he
      cases e with
      | os err => cases he
      | _ => rfl
  · intro e
    exact Prog.exact_ret (returned_ok _)
  · intro e he
    cases e with
    | os err => cases he
    | _ => rfl

section Certificate

variable {cert : Certificate}

/-- The end of the check: it raises when the key cannot be read. -/
theorem exact_resultWithCertData (hread : cert.Readable) (status : CertStatus) (canonical : Option String)
    (all_sans : List String) (hostname_matches chain_trusted : Option Bool)
    (chain_trust_reason error_message : Option String) :
    (resultWithCertData rt ip port status checked_at cert canonical all_sans hostname_matches chain_trusted
      chain_trust_reason error_message).Exact script.answer (Tolerated .netbox script) Returned := by
  have hreads := resultOfCertData_reads rt ip port (script.clock .result) status checked_at cert canonical all_sans
    hostname_matches chain_trusted chain_trust_reason error_message
  apply Prog.exact_call
  · intro _
    exact Prog.exact_ofExcept (hreads.returned.mpr hread.2)
  · intro hnot
    exact absurd trivial hnot

theorem not_ends_resultWithCertData (hkey : ¬ ∃ key, cert.public_key = .ok key) (status : CertStatus)
    (canonical : Option String) (all_sans : List String) (hostname_matches chain_trusted : Option Bool)
    (chain_trust_reason error_message : Option String) :
    ¬ (resultWithCertData rt ip port status checked_at cert canonical all_sans hostname_matches chain_trusted
      chain_trust_reason error_message).Ends script.answer Returned := by
  have hreads := resultOfCertData_reads rt ip port (script.clock .result) status checked_at cert canonical all_sans
    hostname_matches chain_trusted chain_trust_reason error_message
  intro hends
  exact hkey (hreads.returned.mp (Prog.ends_ofExcept.mp hends))

/-- The rest of the check, for a certificate that can be read. -/
theorem exact_checkCertificate (hread : cert.Readable) (connect_timeout handshake_timeout : PyFloat)
    (expiring_soon_threshold_days : Int) :
    (checkCertificate rt ip port connect_timeout handshake_timeout expiring_soon_threshold_days checked_at
      cert).Exact script.answer (Tolerated .netbox script) Returned := by
  obtain ⟨⟨canonical, all_sans⟩, hextract⟩ := (extractCanonical_reads cert).returned.mpr ⟨hread.1, trivial⟩
  unfold checkCertificate
  rw [hextract]
  apply exact_unguarded not_returned_error
  · exact ⟨fun _ => returned_ok _, fun _ => trivial⟩
  · intro now
    cases canonical with
    | none => exact exact_resultWithCertData hread ..
    | some canonical =>
      apply exact_then not_returned_error (exact_handshakeVerifyHostname canonical connect_timeout handshake_timeout)
      intro hostname_matches
      apply exact_then not_returned_error (exact_handshakeVerifyChain canonical connect_timeout handshake_timeout)
      rintro ⟨chain_trusted, chain_trust_reason⟩
      exact exact_resultWithCertData hread ..

/-- For one that cannot be read, the check never returns. -/
theorem not_ends_checkCertificate (hread : ¬ cert.Readable) (connect_timeout handshake_timeout : PyFloat)
    (expiring_soon_threshold_days : Int) :
    ¬ (checkCertificate rt ip port connect_timeout handshake_timeout expiring_soon_threshold_days checked_at
      cert).Ends script.answer Returned := by
  unfold checkCertificate
  cases hextract : extractCanonicalHostnameAndSans cert with
  | error e =>
    intro hends
    exact not_returned_error e (Prog.ends_raise.mp hends)
  | ok extracted =>
    have hsan := ((extractCanonical_reads cert).returned.mp ⟨_, hextract⟩).1
    have hkey : ¬ ∃ key, cert.public_key = .ok key := fun hkey => hread ⟨hsan, hkey⟩
    apply Prog.not_ends_bind not_returned_error
    rintro ⟨canonical, all_sans⟩
    apply Prog.not_ends_bind not_returned_error
    intro now
    cases canonical with
    | none => apply not_ends_resultWithCertData hkey
    | some canonical =>
      apply Prog.not_ends_bind not_returned_error
      intro hostname_matches
      apply Prog.not_ends_bind not_returned_error
      rintro ⟨chain_trusted, chain_trust_reason⟩
      apply not_ends_resultWithCertData hkey

end Certificate

/-- **`cert_check_with_discovery` returns exactly when every call it makes is tolerated.** -/
theorem exact_certCheckWithDiscovery (connect_timeout handshake_timeout : PyFloat)
    (expiring_soon_threshold_days : Int) :
    (certCheckWithDiscovery rt ip port connect_timeout handshake_timeout expiring_soon_threshold_days).Exact
      script.answer (Tolerated .netbox script) Returned := by
  apply exact_then not_returned_error (exact_checkedAt .netbox)
  intro checked_at
  apply Prog.exact_bind (exact_handshakeGetCert ip connect_timeout handshake_timeout)
  · rintro (e | cert) _ ⟨y, hy, hread⟩
    · exact Prog.exact_ret (returned_ok _)
    · exact exact_checkCertificate (hread cert (Except.ok.inj hy).symm) connect_timeout handshake_timeout
        expiring_soon_threshold_days
  · rintro (e | cert) _ hnot
    · exact absurd (discovered_error e) hnot
    · apply not_ends_checkCertificate
      intro hread
      apply hnot
      refine ⟨_, rfl, ?_⟩
      intro cert' hcert
      obtain rfl : cert = cert' := Except.ok.inj hcert
      exact hread
  · intro e _
    exact ⟨fun h => absurd h (not_discovered_error e), fun h => absurd h (not_returned_error e)⟩

end NetBox

end

end CertWatch
