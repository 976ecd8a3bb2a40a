/-
# `CertWatch.BootstrapView` — what bootstrap comes to, whatever it is answered.

A start is answered by the environment, by the credentials file and by the dashboard.  A view keeps what matters of
the answers: whether there was a file, whether the registration was accepted and saved, what the config request came
to, whether anything was fatal.  The monitor of this module follows the view; bootstrap fails exactly when the
environment is refused or an answer was fatal, and returns the config that the one config request has led to.
-/
import CertWatch.AcceptedConfigs
import CertWatch.Lib.Oracle
import CertWatch.ScriptedRetry
import CertWatch.SurfacingPrograms
import CertWatch.ThreadCalls

namespace CertWatch

open CertWatch.Lib

-- the texts of the environment are carried along, never computed
attribute [local irreducible] strip

/-! ## What the answers say -/

/-- The request may be made again: it did not get through, or the dashboard is busy. -/
def failsRetriably : Except PyExc HttpResponse → Bool
  | .ok resp => retriable (some resp)
  | .error .requests => retriable none
  | .error _ => false

/-- The answer is a 2xx. -/
def is2xx : Except PyExc HttpResponse → Bool
  | .ok resp => 200 ≤ resp.status && resp.status < 300
  | .error _ => false

/-- The credentials are not accepted. -/
def is401 : Except PyExc HttpResponse → Bool
  | .ok resp => resp.status == 401
  | .error _ => false

/-- The document of a 2xx answer. -/
def acceptedDocument : Except PyExc HttpResponse → Option Json
  | .ok ⟨status, .json v⟩ => if 200 ≤ status ∧ status < 300 then some v else none
  | _ => none

/-- The answer to a registration from which a credentials file can be written. -/
def Json.isRegistration : Json → Bool
  | .obj d => ["agent_id", "agent_secret", "registered_at"].all fun k => (Dict.get? d k).isSome
  | _ => false

/-- The document names an identity and a secret. -/
def Json.hasIdentity : Json → Bool
  | .obj d => ["agent_id", "agent_secret"].all fun k => Dict.getD d k .null != .null
  | _ => false

/-- The credentials file holds what a start needs of it. -/
def Json.isCredentials : Json → Bool
  | .obj d => Json.hasIdentity (.obj d) && (Dict.getD d "dashboard_url" .null).isStr
  | _ => false

/-- The call finds that there is no credentials file. -/
def findsNoFile : (o : AgentOp) → Except PyExc o.Ret → Bool
  | .creds .pathExists, .ok present => !present
  | _, _ => false

/-- The call is a registration that was answered 2xx. -/
def registers : (o : AgentOp) → Except PyExc o.Ret → Bool
  | .register _ _ _, r => is2xx r
  | _, _ => false

/-- The call installs the credentials file. -/
def writes : (o : AgentOp) → Except PyExc o.Ret → Bool
  | .creds .replace, .ok _ => true
  | _, _ => false

/-- After the call an accepted registration can not be saved: it lacks a field, or a file operation has failed. -/
def spoils : (o : AgentOp) → Except PyExc o.Ret → Bool
  | .register _ _ _, r => is2xx r && !(acceptedDocument r).any Json.isRegistration
  | .creds .mkdir, .error _ => true
  | .creds .openTmp, .error _ => true
  | .creds (.dump _), .error _ => true
  | .creds .fsync, .error _ => true
  | .creds .replace, .error _ => true
  | _, _ => false

/-- A bootstrap that is answered so fails. -/
def isFatal : (o : AgentOp) → Except PyExc o.Ret → Bool
  | .gethostname, .error e => !e.isOSError
  | .creds .pathExists, .error _ => true
  | .creds .read, .ok v => !v.isCredentials
  | .creds .read, .error _ => true
  | .creds .mkdir, .error _ => true
  | .creds .openTmp, .error _ => true
  | .creds (.dump _), .error _ => true
  | .creds .fsync, .error _ => true
  | .creds .replace, .error _ => true
  | .creds .chmod, .error _ => true
  | .register _ _ _, r => !failsRetriably r && !(acceptedDocument r).any fun v => v.isRegistration && v.hasIdentity
  | .getConfig _, r => !failsRetriably r && !(acceptedDocument r).any fun v => (acceptInitialConfig v).isOk
  | _, _ => false

/-- The call is a replayed report that was answered 401. -/
def isRefused : (o : AgentOp) → Except PyExc o.Ret → Bool
  | .queue (.submit _ _), r => is401 r
  | _, _ => false

/-- The call is made with the agent's credentials and was answered 401. -/
def isUnauthorized : (o : AgentOp) → Except PyExc o.Ret → Bool
  | .getConfig _, r => is401 r
  | .queue (.submit _ _), r => is401 r
  | _, _ => false

/-- The call is a registration or a replayed report that may be tried again. -/
def isTurnedDown : (o : AgentOp) → Except PyExc o.Ret → Bool
  | .register _ _ _, r => failsRetriably r
  | .queue (.submit _ _), r => failsRetriably r
  | _, _ => false

/-- The environment does not let a start begin; the token matters only without a credentials file. -/
def Env.refuses (env : Env) (absent : Bool) : Bool :=
  !(requireEnv env "DASHBOARD_URL").isOk || !(validateNetboxEnv env).isOk ||
    (absent && !(requireEnv env "REGISTRATION_TOKEN").isOk)

/-! ## The view -/

/-- What has become of a start. -/
structure StartView where
  absent : Bool := false
  registered : Bool := false
  spoilt : Bool := false
  written : Bool := false
  failed : Bool := false
  refused : Bool := false
  started : Bool := false
  fetched : List (Except PyExc HttpResponse) := []
  configs : List Dict := []
  retries : Nat := 0

/-- The answer to a config request. -/
def fetchAnswer : (o : AgentOp) → Except PyExc o.Ret → List (Except PyExc HttpResponse)
  | .getConfig _, r => [r]
  | _, _ => []

def AgentOp.initialConfig : AgentOp → List Dict
  | .configState config => [config]
  | _ => []

def AgentOp.isStart : AgentOp → Bool
  | .start _ => true
  | _ => false

/-- What a call adds to the view. -/
def StartView.next (q : StartView) (o : AgentOp) (r : Except PyExc o.Ret) : StartView where
  absent := findsNoFile o r || q.absent
  registered := registers o r || q.registered
  spoilt := spoils o r || q.spoilt
  written := writes o r || q.written
  failed := isFatal o r || q.failed
  refused := isRefused o r || q.refused
  started := o.isStart || q.started
  fetched := fetchAnswer o r ++ q.fetched
  configs := o.initialConfig ++ q.configs
  retries := q.retries + (isTurnedDown o r).toNat

/-- The config is the default after a failure that a retry may mend, and otherwise the one that was fetched. -/
def StartView.Chose (q : StartView) (config : Dict) : Prop :=
  ∃ r, q.fetched = [r] ∧ (failsRetriably r = true → config = defaultConfig) ∧
    (failsRetriably r = false → acceptedDocument r = some (.obj config))

/-- A registration is saved unless it is spoilt, and the config in force is the one that was chosen. -/
structure StartView.Sound (q : StartView) : Prop where
  written : q.written = (q.registered && !q.spoilt)
  spoilt : q.spoilt = true → q.registered = true
  configs : ∀ config ∈ q.configs, q.Chose config

/-- Nothing has gone wrong so far. -/
structure StartView.Underway (env : Env) (q : StartView) : Prop where
  sound : q.Sound
  failed : q.failed = false
  refused : q.refused = false
  environment : Env.refuses env q.absent = false

/-- A start that is followed through `fuel` rounds of each retry loop: it registers only without a file and asks for
one config, and if it is out of fuel, then because it was turned down as often. -/
def startMonitor (env : Env) (fuel : Nat) : Monitor agentSig PyExc StartView where
  possible := Possible
  allows
    | q, .register _ _ _ => q.absent = true
    | q, .getConfig _ => q.fetched = []
    | _, _ => True
  next := StartView.next
  mayHang q := q.Underway env ∧ fuel ≤ q.retries

/-! ## Requests -/

/-- **What a request comes to**: a document, a failure that a retry may mend, or another exception. -/
theorem requestOutcome_cases {r : Except PyExc HttpResponse} (hr : Foreign r) (method path : String) :
    (∃ v, acceptedDocument r = some v ∧ requestOutcome method path r = .ok v) ∨
    (failsRetriably r = true ∧ is2xx r = false ∧
      ∃ e, requestOutcome method path r = .error (.dashboard e) ∧ e.kind.isRetriable = true) ∨
    (failsRetriably r = false ∧ acceptedDocument r = none ∧
      ∃ e, requestOutcome method path r = .error e ∧ ∀ e', e = .dashboard e' → e'.kind.isRetriable = false) := by
  cases r with
  | error e =>
    have hforeign := hr e rfl
    cases e with
    | requests => exact Or.inr (Or.inl ⟨rfl, rfl, _, rfl, rfl⟩)
    | dashboard e => cases hforeign
    | _ => exact Or.inr (Or.inr ⟨rfl, rfl, _, rfl, nofun⟩)
  | ok resp =>
    obtain ⟨status, body⟩ := resp
    by_cases h2xx : 200 ≤ status ∧ status < 300
    · cases body with
      | json v =>
        refine Or.inl ⟨v, if_pos h2xx, ?_⟩
        simp only [requestOutcome, handleResponse, if_pos h2xx]
      | notJson =>
        -- `handle_response` raises the base class for it, which is not retriable
        refine Or.inr (Or.inr ⟨?_, rfl, _, by simp only [requestOutcome, handleResponse, if_pos h2xx]; rfl, ?_⟩)
        · simp only [failsRetriably, retriable]
          grind
        · rintro e he
          rw [← PyExc.dashboard.inj he]
          rfl
    · obtain ⟨e, he, hkind⟩ := @handleResponse_error method path ⟨status, body⟩ h2xx
      have hretriable : e.kind.isRetriable = failsRetriably (.ok ⟨status, body⟩) := by
        rw [Bool.eq_iff_iff, hkind, errorKindOfStatus_isRetriable]
        simp [failsRetriably, retriable]
      by_cases hfails : failsRetriably (.ok ⟨status, body⟩) = true
      · refine Or.inr (Or.inl ⟨hfails, ?_, e, he, hretriable.trans hfails⟩)
        simp only [is2xx, Bool.and_eq_false_iff, decide_eq_false_iff_not]
        omega
      · refine Or.inr (Or.inr ⟨Bool.eq_false_iff.mpr hfails, ?_, _, he, fun e' he' => ?_⟩)
        · cases body with
          | json v => exact if_neg h2xx
          | notJson => rfl
        · rw [← PyExc.dashboard.inj he', hretriable]
          exact Bool.eq_false_iff.mpr hfails

/-- A document comes with a 2xx. -/
theorem of_acceptedDocument {r : Except PyExc HttpResponse} {v : Json} (h : acceptedDocument r = some v) :
    is2xx r = true ∧ failsRetriably r = false := by
  cases r with
  | error e => cases h
  | ok resp =>
    obtain ⟨status, body⟩ := resp
    cases body with
    | notJson => cases h
    | json v' =>
      simp only [acceptedDocument, Option.ite_none_right_eq_some] at h
      obtain ⟨⟨hlow, hhigh⟩, -⟩ := h
      simp only [is2xx, failsRetriably, retriable]
      grind

/-! ## The credentials file -/

section Bootstrap

variable {env : Env} {fuel : Nat}

/-- What `load_credentials` leaves behind. -/
def LoadEnds (q : StartView) : Except PyExc (Option Dict) → Prop
  | .ok none => q = { absent := true }
  | .ok (some d) => q = { failed := !(Json.obj d).isCredentials }
  | .error _ => q = { failed := true }

theorem obeys_load_start : ((loadCredentials.embed credsCalls).tryCatch fun e =>
    .raise (if e = credentialsCorrupt then bootstrapError else e)).Obeys (startMonitor env fuel) LoadEnds {} := by
  have hload : (loadCredentials.embed credsCalls).Obeys (startMonitor env fuel) LoadEnds {} := by
    refine Prog.Obeys.embed (Prog.obeys_bind.mpr (Prog.obeys_perform.mpr ⟨trivial, fun r _ => ?_⟩))
    cases r with
    | error e => rfl
    | ok present =>
      cases present with
      | false => rfl
      | true =>
        refine Prog.obeys_bind.mpr (Prog.obeys_tryCatch.mpr (Prog.obeys_perform.mpr ⟨trivial, fun r _ => ?_⟩))
        cases r with
        | error e => cases e <;> rfl
        | ok data =>
          cases data with
          | obj d => exact congrArg (fun failed => ({ failed } : StartView)) (Bool.or_false _)
          | _ => rfl
  refine Prog.obeys_tryCatch.mpr (hload.mono fun q x hx => ?_)
  cases x with
  | ok creds => exact hx
  | error e => exact hx

/-- An accepted registration, before its save and after it. -/
abbrev registeredView (failed : Bool) (n : Nat) : StartView :=
  { absent := true, registered := true, failed, retries := n }

/-- What `save_credentials` leaves behind. -/
def SaveEnds (failed : Bool) (n : Nat) (q : StartView) : Except PyExc Unit → Prop
  | .ok _ => q = { registeredView failed n with written := true }
  | .error _ => q = { registeredView true n with spoilt := true } ∨ q = { registeredView true n with written := true }

theorem obeys_save_start (agent_id agent_secret dashboard_url registered_at : Json) (failed : Bool) (n : Nat) :
    ((saveCredentials agent_id agent_secret dashboard_url registered_at).embed credsCalls).Obeys (startMonitor env fuel)
      (SaveEnds failed n) (registeredView failed n) := by
  refine Prog.Obeys.embed (Prog.obeys_bind.mpr (Prog.obeys_perform.mpr ⟨trivial, fun r _ => ?_⟩))
  cases r with
  | error e => exact Or.inl rfl
  | ok _ =>
    refine Prog.obeys_bind.mpr (Prog.obeys_perform.mpr ⟨trivial, fun r _ => ?_⟩)
    cases r with
    | error e => exact Or.inl rfl
    | ok _ =>
      -- whatever becomes of the temporary file, the failed write is raised again
      have hfill : (fillCredentialsTmp (credentialsPayload agent_id agent_secret dashboard_url registered_at)).Obeys
          ((startMonitor env fuel).comap credsCalls)
          (fun q x => ((∃ e, x = .error e) ∧ q = { registeredView true n with spoilt := true }) ∨
            (x = .ok () ∧ q = registeredView failed n)) (registeredView failed n) := by
        have hwrite : ((credsCall (.dump (credentialsPayload agent_id agent_secret dashboard_url registered_at))).bind
            fun _ => credsCall .fsync).Obeys ((startMonitor env fuel).comap credsCalls)
            (fun q x => ((∃ e, x = .error e) ∧ q = { registeredView true n with spoilt := true }) ∨
              (x = .ok () ∧ q = registeredView failed n)) (registeredView failed n) := by
          refine Prog.obeys_bind.mpr (Prog.obeys_perform.mpr ⟨trivial, fun r _ => ?_⟩)
          cases r with
          | error e => exact Or.inl ⟨⟨e, rfl⟩, rfl⟩
          | ok _ =>
            refine Prog.obeys_perform.mpr ⟨trivial, fun r _ => ?_⟩
            cases r with
            | error e => exact Or.inl ⟨⟨e, rfl⟩, rfl⟩
            | ok _ => exact Or.inr ⟨rfl, rfl⟩
        refine obeys_fillCredentialsTmp hwrite (fun q hq => hq) fun q e hq => ?_
        rcases hq with ⟨-, rfl⟩ | ⟨he, -⟩
        · exact Prog.obeys_perform.mpr ⟨trivial, fun r _ e' => Or.inl ⟨⟨e', rfl⟩, by cases r <;> rfl⟩⟩
        · cases he
      refine hfill.bind (fun q _ hq => ?_) fun q e hq => ?_
      · rcases hq with ⟨⟨e, he⟩, -⟩ | ⟨-, rfl⟩
        · cases he
        refine Prog.obeys_bind.mpr (Prog.obeys_perform.mpr ⟨trivial, fun r _ => ?_⟩)
        cases r with
        | error e => exact Or.inl rfl
        | ok _ =>
          refine Prog.obeys_perform.mpr ⟨trivial, fun r _ => ?_⟩
          cases r with
          | error e => exact Or.inr rfl
          | ok _ => rfl
      · rcases hq with ⟨-, hq⟩ | ⟨he, -⟩
        · exact Or.inl hq
        · cases he

/-! ## Registering -/

/-- What `_register_with_backoff` leaves behind. -/
def RegisterEnds (q : StartView) : Except PyExc Json → Prop
  | .ok v => ∃ n, q = { registeredView (!(v.isRegistration && v.hasIdentity)) n with spoilt := !v.isRegistration }
  | .error _ => ∃ n accepted,
      q = { absent := true, registered := accepted, spoilt := accepted, failed := true, retries := n }

/-- The view after one answer to a registration. -/
theorem next_register {dashboard_url registration_token : String} {body : Dict} {r : Except PyExc HttpResponse}
    {n : Nat} :
    StartView.next { absent := true, retries := n } (.register dashboard_url registration_token body) r =
      { absent := true, registered := is2xx r, spoilt := is2xx r && !(acceptedDocument r).any Json.isRegistration
        failed := !failsRetriably r && !(acceptedDocument r).any fun v => v.isRegistration && v.hasIdentity
        retries := n + (failsRetriably r).toNat } := by
  simp [StartView.next, findsNoFile, registers, spoils, writes, isFatal, isRefused, AgentOp.isStart, fetchAnswer,
    AgentOp.initialConfig, isTurnedDown]

/-- Each round of the backoff loop is one registration that may be tried again. -/
theorem obeys_registerWithBackoff_start (henv : Env.refuses env true = false)
    (dashboard_url registration_token : String) (body : Dict) (k n attempt : Nat) (hfuel : fuel ≤ n + k) :
    (registerWithBackoff dashboard_url registration_token body k attempt).Obeys (startMonitor env fuel) RegisterEnds
      { absent := true, retries := n } := by
  induction k generalizing n attempt with
  | zero => exact ⟨⟨⟨rfl, nofun, nofun⟩, rfl, rfl, henv⟩, hfuel⟩
  | succ k ih =>
    refine Prog.obeys_bind.mpr (Prog.obeys_attempt.mpr (obeys_request.mpr ?_))
    refine Prog.obeys_perform.mpr ⟨rfl, fun r hr => ?_⟩
    have hforeign : Foreign r := Possible.foreign hr
    show Prog.ThenObeys _ _ _ (StartView.next { absent := true, retries := n }
      (.register dashboard_url registration_token body) r) (.ok (requestOutcome _ _ r))
    rw [next_register]
    rcases requestOutcome_cases hforeign "POST" registerPath with
      ⟨v, hv, houtcome⟩ | ⟨hretriable, h2xx, e, houtcome, he⟩ | ⟨hretriable, hv, e, houtcome, he⟩
    · obtain ⟨h2xx, hretriable⟩ := of_acceptedDocument hv
      rw [houtcome, h2xx, hv, hretriable]
      exact ⟨n, rfl⟩
    · have hnone : acceptedDocument r = none := by
        cases hv : acceptedDocument r with
        | none => rfl
        | some v => cases h2xx.symm.trans (of_acceptedDocument hv).1
      rw [houtcome, h2xx, hnone, hretriable]
      show (if e.kind.isRetriable = true then _ else _ : Agent Json).Obeys _ _ _
      rw [if_pos he]
      refine Prog.obeys_bind.mpr (Prog.obeys_perform.mpr ⟨trivial, fun r hr => ?_⟩)
      obtain ⟨s, rfl⟩ := hr
      exact ih (n + 1) (attempt + 1) (by omega)
    · rw [houtcome, hv, hretriable, Option.any_none, Option.any_none, Bool.not_false, Bool.and_true, Bool.and_true]
      cases e with
      | dashboard e =>
        show (if e.kind.isRetriable = true then _ else _ : Agent Json).Obeys _ _ _
        rw [if_neg (Bool.eq_false_iff.mp (he e rfl))]
        exact ⟨n, is2xx r, rfl⟩
      | _ => exact ⟨n, is2xx r, rfl⟩

/-! ## The first config -/

/-- What `_fetch_initial_config_with_retry` leaves behind. -/
def FetchEnds (q₀ q : StartView) : Except PyExc Dict → Prop
  | .ok config => q₀.failed = false ∧ (∃ r, q = { q₀ with fetched := [r] }) ∧ q.Chose config
  | .error _ => ∃ fetched, q = { q₀ with failed := true, fetched }

/-- The view after the config request. -/
theorem next_getConfig {q : StartView} (hfetched : q.fetched = []) (client : DashboardClient)
    (r : Except PyExc HttpResponse) :
    q.next (.getConfig client) r = { q with failed := isFatal (.getConfig client) r || q.failed, fetched := [r] } := by
  show ({ q with failed := _, fetched := r :: q.fetched } : StartView) = _
  rw [hfetched]

theorem obeys_fetch_start {q₀ : StartView} (hfetched : q₀.fetched = []) (client : DashboardClient)
    {agent_id agent_secret : Json} (hfailed : q₀.failed = (agent_id == .null || agent_secret == .null)) (k : Nat) :
    (fetchInitialConfigWithRetry client agent_id agent_secret 1 (k + 1) 0).Obeys (startMonitor env fuel) (FetchEnds q₀)
      q₀ := by
  refine Prog.obeys_bind.mpr (Prog.obeys_attempt.mpr (Prog.obeys_bind.mpr (Prog.obeys_ofExcept.mpr ?_)))
  unfold requireCredentials
  by_cases hnull : agent_id = .null ∨ agent_secret = .null
  · -- the credentials are incomplete, which the answer that they came with has shown
    rw [if_pos hnull]
    refine ⟨[], ?_⟩
    have htrue : q₀.failed = true := by
      rw [hfailed, Bool.or_eq_true, beq_iff_eq, beq_iff_eq]
      exact hnull
    rw [← htrue, ← hfetched]
  · have hfalse : q₀.failed = false := by
      rw [hfailed, Bool.or_eq_false_iff, beq_eq_false_iff_ne, beq_eq_false_iff_ne]
      exact not_or.mp hnull
    rw [if_neg hnull]
    refine obeys_request.mpr (Prog.obeys_perform.mpr ⟨hfetched, fun r hr => ?_⟩)
    show Prog.ThenObeys _ _ _ (q₀.next (.getConfig client) r) (.ok (requestOutcome _ _ r))
    rw [next_getConfig hfetched]
    rcases requestOutcome_cases (Possible.foreign hr) "GET" client.configPath with
      ⟨v, hv, houtcome⟩ | ⟨hretriable, -, e, houtcome, he⟩ | ⟨hretriable, hv, e, houtcome, he⟩
    · have hretriable := (of_acceptedDocument hv).2
      rw [houtcome, isFatal, hv, hretriable, hfalse]
      refine Prog.obeys_ofExcept.mpr ?_
      cases hconfig : acceptInitialConfig v with
      | error e =>
        refine ⟨[r], ?_⟩
        simp [hconfig, Except.isOk, Except.toBool]
      | ok config =>
        refine ⟨hfalse, ⟨r, ?_⟩, r, rfl, fun h => ?_, fun _ => ?_⟩
        · simp [hconfig, Except.isOk, Except.toBool, ← hfalse]
        · cases hretriable.symm.trans h
        · rw [hv, ConfigFetch.acceptInitialConfig_eq_ok hconfig]
    · -- a single attempt: the first retriable failure already means the default config
      rw [houtcome, isFatal, hretriable]
      show (if e.kind.isRetriable = true then _ else _ : Agent Dict).Obeys _ _ _
      rw [if_pos he, if_pos (Nat.le_refl (0 + 1))]
      exact ⟨hfalse, ⟨r, rfl⟩, r, rfl, fun _ => rfl, fun h => by cases hretriable.symm.trans h⟩
    · rw [houtcome, isFatal, hretriable, hv]
      cases e with
      | dashboard e =>
        show (if e.kind.isRetriable = true then _ else _ : Agent Dict).Obeys _ _ _
        rw [if_neg (Bool.eq_false_iff.mp (he e rfl))]
        exact ⟨[r], rfl⟩
      | _ => exact ⟨[r], rfl⟩

/-! ## Bootstrap -/

/-- What bootstrap leaves behind. -/
def BootEnds (env : Env) (q : StartView) : Except PyExc BootstrapResult → Prop
  | .ok result => q.Underway env ∧ q.Chose result.initial_config ∧ q.started = false
  | .error _ => q.Sound ∧ q.refused = false ∧ (q.failed || Env.refuses env q.absent) = true ∧ q.started = false

/-- Nothing has gone wrong before the config request. -/
structure StartView.Ready (env : Env) (q : StartView) : Prop where
  written : q.written = (q.registered && !q.spoilt)
  spoilt : q.spoilt = true → q.registered = true
  refused : q.refused = false
  started : q.started = false
  fetched : q.fetched = []
  configs : q.configs = []
  environment : Env.refuses env q.absent = false

theorem StartView.Ready.bootEnds {q₀ q : StartView} (h : q₀.Ready env) {x : Except PyExc Dict} (hx : FetchEnds q₀ q x)
    {k : Dict → BootstrapResult} (hk : ∀ config, (k config).initial_config = config) :
    BootEnds env q (x.map k) := by
  cases x with
  | ok config =>
    obtain ⟨hfalse, ⟨r, rfl⟩, hchose⟩ := hx
    refine ⟨⟨⟨h.written, h.spoilt, fun config hconfig => ?_⟩, hfalse, h.refused, h.environment⟩, ?_⟩
    · rw [h.configs] at hconfig
      cases hconfig
    · rw [hk]
      exact ⟨hchose, h.started⟩
  | error e =>
    obtain ⟨fetched, rfl⟩ := hx
    refine ⟨⟨h.written, h.spoilt, fun config hconfig => ?_⟩, h.refused, rfl, h.started⟩
    rw [h.configs] at hconfig
    cases hconfig

/-- From the client on, both paths are the same. -/
theorem obeys_fetchAndReturn {q₀ : StartView} (hready : q₀.Ready env) (client : DashboardClient)
    {agent_id agent_secret : Json} (hfailed : q₀.failed = (agent_id == .null || agent_secret == .null))
    {k : Dict → BootstrapResult} (hk : ∀ config, (k config).initial_config = config) (n : Nat) :
    ((fetchInitialConfigWithRetry client agent_id agent_secret 1 (n + 1) 0).bind fun config => .ret (k config)).Obeys
      (startMonitor env fuel) (BootEnds env) q₀ :=
  (obeys_fetch_start hready.fetched client hfailed n).bind (fun _ _ hx => hready.bootEnds hx hk) fun _ _ hx =>
    hready.bootEnds hx hk

/-- A bootstrap that stops at a fatal answer, before the config request. -/
theorem bootEnds_failed {q : StartView} (hwritten : q.written = (q.registered && !q.spoilt))
    (hspoilt : q.spoilt = true → q.registered = true) (hrefused : q.refused = false) (hstarted : q.started = false)
    (hconfigs : q.configs = []) (hfailed : (q.failed || Env.refuses env q.absent) = true) (e : PyExc) :
    BootEnds env q (.error e) := by
  refine ⟨⟨hwritten, hspoilt, fun config hconfig => ?_⟩, hrefused, hfailed, hstarted⟩
  rw [hconfigs] at hconfig
  cases hconfig

theorem getD_of_getItem {d : Dict} {k : String} {v dflt : Json} (h : d.getItem k = .ok v) : Dict.getD d k dflt = v := by
  rw [Dict.getD, Dict.getItem_eq_ok.mp h]
  rfl

theorem getD_of_not_getItem {d : Dict} {k : String} {e : PyExc} (h : d.getItem k = .error e) :
    Dict.getD d k .null = .null := by
  unfold Dict.getItem at h
  unfold Dict.getD
  cases hget : Dict.get? d k with
  | none => rfl
  | some v =>
    rw [hget] at h
    cases h

/-- What there is to say of two values that may be `None`. -/
theorem not_both (a b : Json) : (!(a != .null && b != .null)) = (a == .null || b == .null) := by
  rw [Bool.not_and, bne, bne, Bool.not_not, Bool.not_not]

theorem obeys_subsequentRun_start (rt : Runtime) (creds : Dict) (henv : Env.refuses env false = false) (n : Nat) :
    (bootstrapSubsequentRun rt creds (n + 1)).Obeys (startMonitor env fuel) (BootEnds env)
      { failed := !(Json.obj creds).isCredentials } := by
  have hbad : (Json.obj creds).isCredentials = false → ∀ e, BootEnds env
      { failed := !(Json.obj creds).isCredentials } (.error e) := by
    intro h e
    refine bootEnds_failed rfl (fun h => by cases h) rfl rfl rfl ?_ e
    rw [h]
    rfl
  have hcredentials : (Json.obj creds).isCredentials = (Dict.getD creds "agent_id" .null != .null &&
      Dict.getD creds "agent_secret" .null != .null && (Dict.getD creds "dashboard_url" .null).isStr) := by
    simp [Json.isCredentials, Json.hasIdentity]
  unfold bootstrapSubsequentRun
  refine Prog.obeys_ofExcept_bind (fun agent_id hid => ?_) fun e he => hbad ?_ e
  · refine Prog.obeys_ofExcept_bind (fun agent_secret hsecret => ?_) fun e he => hbad ?_ e
    · refine Prog.obeys_ofExcept_bind (fun dashboard_url hurl => ?_) fun e he => hbad ?_ e
      · rw [getD_of_getItem hid, getD_of_getItem hsecret, getD_of_getItem hurl] at hcredentials
        refine Prog.obeys_ofExcept_bind (fun client hclient => ?_) fun e he => hbad ?_ e
        · have hstr : dashboard_url.isStr = true := by
            obtain ⟨url, rfl, -⟩ := dashboardClient_eq_ok.mp hclient
            rfl
          refine obeys_fetchAndReturn ⟨rfl, (fun h => by cases h), rfl, rfl, rfl, rfl, henv⟩ client ?_ (fun _ => rfl) n
          rw [hcredentials, hstr, Bool.and_true]
          exact not_both agent_id agent_secret
        · have hstr : ¬ dashboard_url.isStr = true := by
            intro hstr
            cases dashboard_url with
            | str url => cases he
            | _ => cases hstr
          rw [hcredentials, Bool.eq_false_iff.mpr hstr, Bool.and_false]
      · rw [hcredentials, getD_of_not_getItem he]
        exact Bool.and_false _
    · rw [hcredentials, getD_of_not_getItem he]
      simp
  · rw [hcredentials, getD_of_not_getItem he]
    simp

/-- What `resolve_hostname` leaves behind. -/
def HostnameEnds (q : StartView) (x : Except PyExc String) : Prop :=
  (∃ e, x = .error e ∧ q = { absent := true, failed := true }) ∨ (∃ hostname, x = .ok hostname) ∧ q = { absent := true }

/-- Registering takes a host name, which may be impossible to find out. -/
theorem obeys_resolveAgentHostname_start (rt : Runtime) :
    (resolveAgentHostname rt env).Obeys (startMonitor env fuel)
      HostnameEnds
      { absent := true } := by
  unfold resolveAgentHostname
  generalize envText env "AGENT_HOSTNAME" = configured
  split_ifs
  · refine Prog.obeys_bind.mpr (Prog.obeys_tryCatch.mpr (Prog.obeys_perform.mpr ⟨trivial, fun r _ => ?_⟩))
    have hrest : ∀ hn : String, (if hn ≠ "" ∧ rt.lower hn ≠ "localhost" then Prog.ret hn else
        (agentCall .uuid4).bind fun id => .ret ("certwatch-" ++ String.ofList ((id.toList.filter (· != '-')).take 8)) :
        Agent String).Obeys (startMonitor env fuel) HostnameEnds { absent := true } := by
      intro hn
      split_ifs
      · exact Or.inr ⟨⟨_, rfl⟩, rfl⟩
      · refine Prog.obeys_bind.mpr (Prog.obeys_perform.mpr ⟨trivial, fun r hr => ?_⟩)
        obtain ⟨s, id, rfl⟩ := hr
        exact Or.inr ⟨⟨_, rfl⟩, rfl⟩
    cases r with
    | ok hn => exact hrest hn
    | error e =>
      cases e with
      | os e => exact hrest ""
      | _ => exact Or.inl ⟨_, rfl, rfl⟩
  · exact Or.inr ⟨⟨_, rfl⟩, rfl⟩

/-- The platform is optional: whatever its two calls answer, there is a result. -/
theorem obeys_resolvePlatform {Q : Type} {M : Monitor agentSig PyExc Q} {q₀ : Q}
    (hcalls : ∀ o : AgentOp, o = .platformSystem ∨ o = .platformMachine → M.allows q₀ o ∧ ∀ r, M.next q₀ o r = q₀)
    (rt : Runtime) : (resolvePlatform rt).Obeys M (fun q x => (∃ a, x = .ok a) ∧ q = q₀) q₀ := by
  obtain ⟨hsystem, hsystem'⟩ := hcalls _ (.inl rfl)
  obtain ⟨hmachine, hmachine'⟩ := hcalls _ (.inr rfl)
  refine Prog.obeys_bind.mpr (Prog.obeys_attempt.mpr (Prog.obeys_bind.mpr (Prog.obeys_perform.mpr
    ⟨hsystem, fun r _ => ?_⟩)))
  rw [hsystem']
  cases r with
  | error e => exact ⟨⟨_, rfl⟩, rfl⟩
  | ok sys_name =>
    refine Prog.obeys_bind.mpr (Prog.obeys_perform.mpr ⟨hmachine, fun r _ => ?_⟩)
    rw [hmachine']
    cases r <;> exact ⟨⟨_, rfl⟩, rfl⟩

/-- A field of a registration that can be saved. -/
theorem isRegistration_of_items {v agent_id agent_secret registered_at : Json} (hid : v.item "agent_id" = .ok agent_id)
    (hsecret : v.item "agent_secret" = .ok agent_secret) (hat : v.item "registered_at" = .ok registered_at) :
    v.isRegistration = true ∧ v.hasIdentity = (agent_id != .null && agent_secret != .null) := by
  obtain ⟨d, rfl, hget_id⟩ := Json.item_eq_ok.mp hid
  have hget_secret := Dict.getItem_eq_ok.mp hsecret
  have hget_at := Dict.getItem_eq_ok.mp hat
  simp [Json.isRegistration, Json.hasIdentity, Dict.getD, hget_id, hget_secret, hget_at]

theorem isRegistration_of_not_item {v : Json} {k : String} (hk : k ∈ ["agent_id", "agent_secret", "registered_at"])
    {e : PyExc} (h : v.item k = .error e) : v.isRegistration = false := by
  cases v with
  | obj d =>
    have hnone : Dict.get? d k = none := by
      rw [Json.item, Dict.getItem] at h
      cases hget : Dict.get? d k with
      | none => rfl
      | some v =>
        rw [hget] at h
        cases h
    refine Bool.eq_false_iff.mpr fun hall => ?_
    have hsome := List.all_eq_true.mp hall k hk
    rw [hnone] at hsome
    cases hsome
  | _ => rfl

/-- A registration that lacks a field is fatal, and nothing is saved. -/
theorem bootEnds_not_registration {v : Json} (h : v.isRegistration = false) (n : Nat) (e : PyExc) :
    BootEnds env { registeredView (!(v.isRegistration && v.hasIdentity)) n with spoilt := !v.isRegistration }
      (.error e) := by
  rw [h]
  exact bootEnds_failed rfl (fun _ => rfl) rfl rfl rfl rfl e

theorem obeys_firstRun_start (rt : Runtime) (agent_version dashboard_url : String)
    (hurl : (requireEnv env "DASHBOARD_URL").isOk = true) (hnetbox : (validateNetboxEnv env).isOk = true) (n : Nat)
    (hfuel : fuel = n + 1) : (bootstrapFirstRun rt env agent_version dashboard_url fuel).Obeys (startMonitor env fuel)
      (BootEnds env) { absent := true } := by
  have hrefuses : Env.refuses env true = !(requireEnv env "REGISTRATION_TOKEN").isOk := by
    simp [Env.refuses, hurl, hnetbox]
  have hhostname := @obeys_resolveAgentHostname_start env fuel rt
  have hplatform := @obeys_resolvePlatform _ (startMonitor env fuel) { absent := true }
    (by rintro o (rfl | rfl) <;> exact ⟨trivial, fun _ => rfl⟩) rt
  unfold bootstrapFirstRun
  generalize resolveAgentHostname rt env = resolved_hostname at hhostname ⊢
  generalize resolvePlatform rt = resolved_platform at hplatform ⊢
  refine Prog.obeys_ofExcept_bind (fun registration_token htoken => ?_) fun e he => ?_
  swap
  · -- without a token the environment itself is refused
    refine bootEnds_failed rfl (fun h => by cases h) rfl rfl rfl ?_ e
    rw [hrefuses, he]
    rfl
  have henv : Env.refuses env true = false := by
    rw [hrefuses, htoken]
    rfl
  refine hhostname.bind (fun q hostname hq => ?_) fun q e hq => ?_
  swap
  · -- `gethostname` raised something that `resolve_hostname` does not catch
    rcases hq with ⟨-, -, rfl⟩ | ⟨⟨_, h⟩, -⟩
    · exact bootEnds_failed rfl (fun h => by cases h) rfl rfl rfl rfl e
    · cases h
  obtain rfl : q = { absent := true } := by
    rcases hq with ⟨_, h, -⟩ | ⟨-, rfl⟩
    · cases h
    · rfl
  refine hplatform.bind (fun q plat hq => ?_) fun q e hq => ?_
  swap
  · obtain ⟨⟨_, h⟩, -⟩ := hq
    cases h
  obtain rfl := hq.2
  refine Prog.obeys_bind.mpr (Prog.obeys_perform.mpr ⟨trivial, fun r hr => ?_⟩)
  obtain ⟨s, us, rfl⟩ := hr
  have hregister := @obeys_registerWithBackoff_start env fuel henv (rstripSlashes dashboard_url) registration_token
    (registerBody agent_version hostname (utcNowIso us) plat) fuel 0 0 (by omega)
  refine Prog.Obeys.bind hregister (fun q v hq => ?_) fun q e hq => ?_
  swap
  · -- turned down for good, or accepted with a body that is no JSON
    obtain ⟨n, accepted, rfl⟩ := hq
    exact bootEnds_failed (by cases accepted <;> rfl) id rfl rfl rfl rfl e
  obtain ⟨retries, rfl⟩ := hq
  refine Prog.obeys_ofExcept_bind (fun agent_id hid => ?_) fun e he =>
    bootEnds_not_registration (isRegistration_of_not_item (by decide) he) retries e
  refine Prog.obeys_ofExcept_bind (fun agent_secret hsecret => ?_) fun e he =>
    bootEnds_not_registration (isRegistration_of_not_item (by decide) he) retries e
  refine Prog.obeys_ofExcept_bind (fun registered_at hat => ?_) fun e he =>
    bootEnds_not_registration (isRegistration_of_not_item (by decide) he) retries e
  obtain ⟨hregistration, hidentity⟩ := isRegistration_of_items hid hsecret hat
  rw [hregistration, Bool.true_and]
  refine Prog.Obeys.bind (obeys_save_start agent_id agent_secret (.str dashboard_url) registered_at _ retries)
    (fun q _ hq => ?_) fun q e hq => ?_
  · obtain rfl := hq
    refine Prog.obeys_ofExcept_bind (fun client _ => ?_) fun e he => by cases he
    rw [hfuel]
    refine obeys_fetchAndReturn ⟨rfl, fun _ => rfl, rfl, rfl, rfl, rfl, henv⟩ client ?_ (fun _ => rfl) n
    show (!v.hasIdentity) = _
    rw [hidentity]
    exact not_both agent_id agent_secret
  · -- the registration stands, but `agent.json` could not be written
    rcases hq with rfl | rfl
    · exact bootEnds_failed rfl (fun _ => rfl) rfl rfl rfl rfl e
    · exact bootEnds_failed rfl (fun _ => rfl) rfl rfl rfl rfl e

/-- **What bootstrap comes to**, whatever it is answered. -/
theorem obeys_bootstrap_start (rt : Runtime) (agent_version : String) (n : Nat) (hfuel : fuel = n + 1) :
    (bootstrap rt env agent_version fuel).Obeys (startMonitor env fuel) (BootEnds env) {} := by
  unfold bootstrap
  refine Prog.obeys_ofExcept_bind (fun dashboard_url_env hurl => ?_) fun e he => ?_
  swap
  · refine bootEnds_failed rfl (fun h => by cases h) rfl rfl rfl ?_ e
    simp [Env.refuses, he, Except.isOk, Except.toBool]
  refine Prog.obeys_ofExcept_bind (fun _ hnetbox => ?_) fun e he => ?_
  swap
  · refine bootEnds_failed rfl (fun h => by cases h) rfl rfl rfl ?_ e
    simp [Env.refuses, he, Except.isOk, Except.toBool]
  refine Prog.Obeys.bind obeys_load_start (fun q creds hq => ?_) fun q e hq => ?_
  · cases creds with
    | some creds =>
      obtain rfl := hq
      rw [hfuel]
      refine obeys_subsequentRun_start rt creds ?_ n
      simp [Env.refuses, hurl, hnetbox, Except.isOk, Except.toBool]
    | none =>
      obtain rfl := hq
      refine obeys_firstRun_start rt agent_version dashboard_url_env ?_ ?_ n hfuel
      · rw [hurl]
        rfl
      · rw [hnetbox]
        rfl
  · obtain rfl := hq
    exact bootEnds_failed rfl (fun h => by cases h) rfl rfl rfl rfl e

end Bootstrap

end CertWatch
