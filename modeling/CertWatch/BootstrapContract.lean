/-
# `CertWatch.BootstrapContract` — which exceptions leave `bootstrap`.

The callers of `bootstrap` look for `BootstrapError` and nothing else.  What bootstrap comes to is decided by the
environment, the credentials file, the answer that settles a registration, the answer to the config request, and by
whether these requests can be sent: the URL, the token and the secret that they are made with are inputs as well.
This module says for which of them the outcome is a result whose identity consists of strings, or that error.
-/
import CertWatch.StartupTable

namespace CertWatch

open CertWatch.Lib

/-! ## The inputs -/

/-- The exception is of none of the agent's own classes that a start may meet. -/
structure PyExc.FromOutside (e : PyExc) : Prop where
  foreign : e.foreign = true
  ne_bootstrapError : e ≠ bootstrapError
  ne_credentialsCorrupt : e ≠ credentialsCorrupt

/-- The inputs of a start. -/
structure BootstrapInput where
  env : Env
  rt : Runtime
  /-- What `open` and `json.load` make of the bytes of `agent.json`, if there is such a file. -/
  agent_json : Option (Except PyExc Json)
  /-- The answer to a registration that is no longer told to try again. -/
  registration : Except PyExc HttpResponse
  config : Except PyExc HttpResponse
  /-- What `requests` raises for this URL and this credential in the header, if it cannot send such a request.  Its own
  exceptions are answers; others are the `UnicodeEncodeError` of a credential outside Latin-1 and the
  `LocationParseError` of a host with a label that is empty or too long. -/
  unsendable : (url credential : String) → Option PyExc
  agent_json_outside : ∀ e, agent_json = some (.error e) → e.FromOutside
  registration_outside : ∀ e, registration = .error e → e.FromOutside
  config_outside : ∀ e, config = .error e → e.FromOutside
  unsendable_outside : ∀ url credential e, unsendable url credential = some e → e.FromOutside ∧ e ≠ .requests

/-- What becomes of a request to which this would be the answer. -/
def BootstrapInput.exchange (i : BootstrapInput) (url credential : String) (answer : Except PyExc HttpResponse) :
    Except PyExc HttpResponse :=
  match i.unsendable url credential with
  | some e => .error e
  | none => answer

/-- The URL of `register`. -/
def registerUrl (dashboard_url : String) : String := dashboard_url ++ registerPath

/-- The URL of `get_config`. -/
def DashboardClient.configUrl (c : DashboardClient) : String := c.dashboard_url ++ c.configPath

/-- What these inputs answer.  Nothing fails that writes a file, and `gethostname` raises nothing but `OSError`; the
dashboard may tell a registration that reaches it to try again any number of times. -/
def BootstrapInput.Gives (i : BootstrapInput) : (o : AgentOp) → Except PyExc o.Ret → Prop
  | .creds .pathExists, r => r = .ok i.agent_json.isSome
  | .creds .read, r => ∀ loaded, i.agent_json = some loaded → r = loaded
  | .creds .unlinkTmp, _ => True
  | .creds .mkdir, r => r = .ok ()
  | .creds .openTmp, r => r = .ok ()
  | .creds (.dump _), r => r = .ok ()
  | .creds .fsync, r => r = .ok ()
  | .creds .replace, r => r = .ok ()
  | .creds .chmod, r => r = .ok ()
  | .register dashboard_url registration_token _, r =>
    i.unsendable (registerUrl dashboard_url) registration_token = none ∧ failsRetriably r = true ∨
      r = i.exchange (registerUrl dashboard_url) registration_token i.registration
  | .getConfig client, r => r = i.exchange client.configUrl client.authorization i.config
  | .gethostname, r => ∀ e, r = .error e → e.isOSError = true
  | _, _ => True

/-- The answers that a start on these inputs may get. -/
def BootstrapInput.Answers (i : BootstrapInput) (o : AgentOp) (r : Except PyExc o.Ret) : Prop :=
  Possible o r ∧ i.Gives o r

/-- What the callers of `bootstrap` are ready for; the config is a dict by its type. -/
def MeetsContract : Except PyExc BootstrapResult → Prop
  | .ok result => result.agent_id.isStr = true ∧ result.agent_secret.isStr = true ∧ result.dashboard_url.isStr = true
  | .error e => e = bootstrapError

/-! ## What they must be -/

/-- The dashboard refuses: its answer is neither a document nor a reason to try again. -/
def refusedForGood : Except PyExc HttpResponse → Bool
  | .ok resp => !failsRetriably (.ok resp) && (acceptedDocument (.ok resp)).isNone
  | .error _ => false

/-- The document is an object, with manual hosts that can be counted. -/
def Json.isConfig : Json → Bool
  | .obj d => (((Dict.getD d "manual_hosts" (.arr [])).or (.arr [])).len).isOk
  | _ => false

/-- The identity and the secret are strings. -/
def Json.namesStrings : Json → Bool
  | .obj d => ["agent_id", "agent_secret"].all fun k => (Dict.getD d k .null).isStr
  | _ => false

/-- The config request of a client with such an identity ends as its caller expects. -/
def ConfigSettles (named : Bool) (r : Except PyExc HttpResponse) : Prop :=
  refusedForGood r = true ∨
    named = true ∧ (failsRetriably r = true ∨ ∃ v, acceptedDocument r = some v ∧ v.isConfig = true)

/-- Reading the credentials file ends in a way that `load_credentials` looks for. -/
def Recognized : Except PyExc Json → Prop
  | .ok _ => True
  | .error e => e = .jsonDecode ∨ e.isOSError = true

/-- The registration can be sent: the environment gives its URL and its token. -/
def BootstrapInput.CanRegister (i : BootstrapInput) : Prop :=
  i.unsendable (registerUrl (rstripSlashes (envText i.env "DASHBOARD_URL"))) (envText i.env "REGISTRATION_TOKEN") = none

/-- The config request with the identity and the secret of this document can be sent to this dashboard. -/
def BootstrapInput.CanFetch (i : BootstrapInput) (dashboard_url : Json) (d : Dict) : Prop :=
  ∀ client, dashboardClient i.rt dashboard_url (Dict.getD d "agent_id" .null) (Dict.getD d "agent_secret" .null) =
    .ok client → i.unsendable client.configUrl client.authorization = none

/-- It can be sent, and ends as its caller expects. -/
def BootstrapInput.Fetches (i : BootstrapInput) (dashboard_url : Json) (d : Dict) : Prop :=
  i.CanFetch dashboard_url d ∧ ConfigSettles (Json.obj d).namesStrings i.config

/-- A registration can be sent, and is refused, or leads to a client that fetches its config. -/
def BootstrapInput.Registers (i : BootstrapInput) : Prop :=
  i.CanRegister ∧ (refusedForGood i.registration = true ∨ ∃ d, acceptedDocument i.registration = some (.obj d) ∧
    (Json.obj d).isRegistration = true ∧ (Json.obj d).hasIdentity = true ∧
    i.Fetches (.str (envText i.env "DASHBOARD_URL")) d)

/-- Every document is what the code takes it for, and every request can be sent.  The environment may be refused
first, and an answer that is refused ends the start before its documents matter. -/
def BootstrapInput.Sound (i : BootstrapInput) : Prop :=
  Env.refuses i.env i.agent_json.isNone = true ∨
    match i.agent_json with
    | some loaded => Recognized loaded ∧ ∀ d, loaded = .ok (.obj d) →
        (Json.obj d).isCredentials = true ∧ i.Fetches (Dict.getD d "dashboard_url" .null) d
    | none => i.Registers

/-! ## Requests -/

/-- The client raises only its own exceptions for an answer. -/
theorem handleResponse_raises {method path : String} {resp : HttpResponse} {e : PyExc}
    (h : handleResponse method path resp = .error e) : ∃ e', e = .dashboard e' := by
  by_cases h2xx : 200 ≤ resp.status ∧ resp.status < 300
  · unfold handleResponse at h
    rw [if_pos h2xx] at h
    cases hbody : resp.body with
    | json v =>
      rw [hbody] at h
      cases h
    | notJson =>
      rw [hbody] at h
      exact ⟨_, (Except.error.inj h).symm⟩
  · obtain ⟨e', he', -⟩ := @handleResponse_error method path resp h2xx
    exact ⟨e', Except.error.inj (h.symm.trans he')⟩

/-- **What an answer makes of a request**: it is a document, it asks for another try, it refuses, or there is none. -/
theorem requestOutcome_contract (r : Except PyExc HttpResponse) (method path : String) :
    (∃ v, acceptedDocument r = some v ∧ requestOutcome method path r = .ok v) ∨
    (failsRetriably r = true ∧ ∃ e, requestOutcome method path r = .error (.dashboard e) ∧ e.kind.isRetriable = true) ∨
    (refusedForGood r = true ∧ ∃ e, requestOutcome method path r = .error (.dashboard e) ∧ e.kind.isRetriable = false) ∨
    (∃ e, r = .error e ∧ e ≠ .requests ∧ requestOutcome method path r = .error e) := by
  cases r with
  | error e =>
    by_cases he : e = .requests
    · subst he
      exact .inr (.inl ⟨rfl, _, rfl, rfl⟩)
    · refine .inr (.inr (.inr ⟨e, rfl, he, ?_⟩))
      cases e with
      | requests => exact absurd rfl he
      | _ => rfl
  | ok resp =>
    rcases requestOutcome_cases (@foreign_ok HttpResponse resp) method path with
      ⟨v, hv, houtcome⟩ | ⟨hretriable, -, e, houtcome, he⟩ | ⟨hfinal, hnone, e, houtcome, he⟩
    · exact .inl ⟨v, hv, houtcome⟩
    · exact .inr (.inl ⟨hretriable, e, houtcome, he⟩)
    · obtain ⟨e', rfl⟩ := handleResponse_raises houtcome
      refine .inr (.inr (.inl ⟨?_, e', houtcome, he e' rfl⟩))
      rw [refusedForGood, hfinal, hnone]
      rfl

theorem of_refusedForGood {r : Except PyExc HttpResponse} (h : refusedForGood r = true) :
    failsRetriably r = false ∧ acceptedDocument r = none := by
  cases r with
  | error e => cases h
  | ok resp =>
    rw [refusedForGood, Bool.and_eq_true, Bool.not_eq_true', Option.isNone_iff_eq_none] at h
    exact h

theorem failsRetriably_error {e : PyExc} (he : e ≠ .requests) :
    failsRetriably (.error e : Except PyExc HttpResponse) = false := by
  cases e with
  | requests => exact absurd rfl he
  | _ => rfl

/-! ## Requests that cannot be sent -/

section

variable {i : BootstrapInput} {url credential : String} {answer : Except PyExc HttpResponse}

theorem exchange_sent (h : i.unsendable url credential = none) : i.exchange url credential answer = answer := by
  simp only [BootstrapInput.exchange, h]

theorem exchange_unsent {e : PyExc} (h : i.unsendable url credential = some e) :
    i.exchange url credential answer = .error e := by
  simp only [BootstrapInput.exchange, h]

theorem exchange_outside (houtside : ∀ e, answer = .error e → e.FromOutside) {e : PyExc}
    (h : i.exchange url credential answer = .error e) : e.FromOutside := by
  cases hsend : i.unsendable url credential with
  | none => exact houtside e ((exchange_sent hsend).symm.trans h)
  | some e' =>
    obtain rfl := Except.error.inj ((exchange_unsent hsend).symm.trans h)
    exact (i.unsendable_outside url credential e' hsend).1

/-- A request that is not sent is neither refused nor answered with a document, and not made again. -/
theorem not_answered {e : PyExc} (h : i.unsendable url credential = some e) :
    refusedForGood (i.exchange url credential answer) = false ∧
      acceptedDocument (i.exchange url credential answer) = none ∧
      failsRetriably (i.exchange url credential answer) = false := by
  rw [exchange_unsent h]
  exact ⟨rfl, rfl, failsRetriably_error (i.unsendable_outside url credential e h).2⟩

theorem refusedForGood_exchange : refusedForGood (i.exchange url credential answer) = true ↔
    i.unsendable url credential = none ∧ refusedForGood answer = true := by
  cases hsend : i.unsendable url credential with
  | none => rw [exchange_sent hsend, eq_self, true_and]
  | some e =>
    rw [(not_answered hsend).1]
    exact iff_of_false Bool.false_ne_true fun h => nomatch h.1

theorem acceptedDocument_exchange {v : Json} : acceptedDocument (i.exchange url credential answer) = some v ↔
    i.unsendable url credential = none ∧ acceptedDocument answer = some v := by
  cases hsend : i.unsendable url credential with
  | none => rw [exchange_sent hsend, eq_self, true_and]
  | some e =>
    rw [(not_answered hsend).2.1]
    exact iff_of_false nofun fun h => nomatch h.1

theorem configSettles_exchange {named : Bool} : ConfigSettles named (i.exchange url credential answer) ↔
    i.unsendable url credential = none ∧ ConfigSettles named answer := by
  cases hsend : i.unsendable url credential with
  | none => rw [exchange_sent hsend, eq_self, true_and]
  | some e =>
    obtain ⟨hrefused, hnone, hretriable⟩ := @not_answered _ _ _ answer _ hsend
    simp [ConfigSettles, hrefused, hnone, hretriable]

end

/-! ## The start, part by part -/

/-- Follows a start on these inputs and counts the registrations that are to be tried again. -/
def contractMonitor (i : BootstrapInput) (fuel : Nat) : Monitor agentSig PyExc Nat where
  possible := i.Answers
  allows _ _ := True
  next n o r := n + (isTurnedDown o r).toNat
  mayHang n := fuel ≤ n

variable {i : BootstrapInput} {fuel n : Nat}

/-- What `load_credentials` makes of the file. -/
def LoadSettles (i : BootstrapInput) : Except PyExc (Option Dict) → Prop
  | .ok none => i.agent_json = none
  | .ok (some d) => i.agent_json = some (.ok (.obj d))
  | .error e => ∃ loaded, i.agent_json = some loaded ∧ (∀ d, loaded ≠ .ok (.obj d)) ∧
      (e = bootstrapError ↔ Recognized loaded)

theorem obeys_load_contract : ((loadCredentials.embed credsCalls).tryCatch fun e =>
    .raise (if e = credentialsCorrupt then bootstrapError else e)).Obeys (contractMonitor i fuel)
      (fun n x => n = 0 ∧ LoadSettles i x) 0 := by
  -- the file is there or not, and what it loads as decides the rest
  have hload : (loadCredentials.embed credsCalls).Obeys (contractMonitor i fuel) (fun n x => n = 0 ∧ match x with
      | .ok creds => LoadSettles i (.ok creds)
      | .error e => ∃ loaded, i.agent_json = some loaded ∧ (∀ d, loaded ≠ .ok (.obj d)) ∧
          (e = credentialsCorrupt ∧ Recognized loaded ∨
            loaded = .error e ∧ e.FromOutside ∧ ¬ Recognized loaded)) 0 := by
    refine Prog.Obeys.embed (Prog.obeys_bind.mpr (Prog.obeys_perform.mpr ⟨trivial, fun r hr => ?_⟩))
    have hpresent : r.map (Equiv.refl Bool) = .ok i.agent_json.isSome := hr.2
    cases r with
    | error e => cases hpresent
    | ok present =>
      obtain rfl : present = i.agent_json.isSome := Except.ok.inj hpresent
      cases hfile : i.agent_json with
      | none => exact ⟨rfl, hfile⟩
      | some loaded =>
        refine Prog.obeys_bind.mpr (Prog.obeys_tryCatch.mpr (Prog.obeys_perform.mpr ⟨trivial, fun r hr => ?_⟩))
        have hread : r.map (Equiv.refl Json) = loaded := hr.2 loaded hfile
        cases r with
        | error e =>
          obtain rfl : .error e = loaded := hread
          have houtside := i.agent_json_outside e hfile
          have hunrecognized : e ≠ .jsonDecode → e.isOSError = false → ¬ Recognized (.error e) := by
            rintro hjson hos (h | h)
            · exact hjson h
            · cases hos.symm.trans h
          cases e with
          | jsonDecode => exact ⟨rfl, _, rfl, nofun, .inl ⟨rfl, .inl rfl⟩⟩
          | os e => exact ⟨rfl, _, rfl, nofun, .inl ⟨rfl, .inr rfl⟩⟩
          | _ => exact ⟨rfl, _, rfl, nofun, .inr ⟨rfl, houtside, hunrecognized nofun rfl⟩⟩
        | ok data =>
          obtain rfl : .ok data = loaded := hread
          cases data with
          | obj d => exact ⟨rfl, hfile⟩
          | _ => exact ⟨rfl, _, rfl, nofun, .inl ⟨rfl, trivial⟩⟩
  refine Prog.obeys_tryCatch.mpr (hload.mono fun q x hx => ?_)
  cases x with
  | ok creds => exact hx
  | error e =>
    obtain ⟨rfl, loaded, hfile, hobj, hcause⟩ := hx
    refine ⟨rfl, loaded, hfile, hobj, ?_⟩
    rcases hcause with ⟨rfl, hrecognized⟩ | ⟨-, houtside, hnot⟩
    · exact ⟨fun _ => hrecognized, fun _ => rfl⟩
    · rw [if_neg houtside.ne_credentialsCorrupt]
      exact ⟨fun h => absurd h houtside.ne_bootstrapError, fun h => absurd h hnot⟩

/-- A call of the credentials file that does not fail. -/
theorem obeys_creds_ok {α : Type} {o : CredsOp} {k : o.Ret → Creds α} {a : o.Ret} {F : Nat → Except PyExc α → Prop}
    (hok : ∀ r, i.Answers (.creds o) r → r = .ok a)
    (hk : (k a).Obeys ((contractMonitor i fuel).comap credsCalls) F n) :
    ((credsCall o).bind k).Obeys ((contractMonitor i fuel).comap credsCalls) F n := by
  refine Prog.obeys_bind.mpr (Prog.obeys_perform.mpr ⟨trivial, fun r hr => ?_⟩)
  obtain rfl : r = .ok a := by
    have hmap := hok _ hr
    cases r with
    | error e => cases hmap
    | ok b => exact hmap
  exact hk

/-- Nothing fails that writes the file. -/
theorem obeys_save_contract (agent_id agent_secret dashboard_url registered_at : Json) :
    ((saveCredentials agent_id agent_secret dashboard_url registered_at).embed credsCalls).Obeys
      (contractMonitor i fuel) (fun n' x => n' = n ∧ x = .ok ()) n := by
  have hfill : (fillCredentialsTmp (credentialsPayload agent_id agent_secret dashboard_url registered_at)).Obeys
      ((contractMonitor i fuel).comap credsCalls) (fun n' x => n' = n ∧ x = .ok ()) n := by
    refine Prog.obeys_tryCatch.mpr (obeys_creds_ok (fun r hr => hr.2) ?_)
    refine Prog.obeys_perform.mpr ⟨trivial, fun r hr => ?_⟩
    have hok : r.map (Equiv.refl Unit) = .ok () := hr.2
    cases r with
    | error e => cases hok
    | ok _ => exact ⟨rfl, rfl⟩
  refine Prog.Obeys.embed (obeys_creds_ok (fun r hr => hr.2) (obeys_creds_ok (fun r hr => hr.2) ?_))
  refine hfill.bind (fun n' _ hn => ?_) fun _ _ hn => by cases hn.2
  obtain rfl := hn.1
  refine obeys_creds_ok (fun r hr => hr.2) (Prog.obeys_perform.mpr ⟨trivial, fun r hr => ?_⟩)
  have hok : r.map (Equiv.refl Unit) = .ok () := hr.2
  cases r with
  | error e => cases hok
  | ok _ => exact ⟨rfl, rfl⟩

/-- What `_register_with_backoff` makes of the answer that settles the registration. -/
def RegisterSettles (answer : Except PyExc HttpResponse) : Except PyExc Json → Prop
  | .ok v => acceptedDocument answer = some v
  | .error e => acceptedDocument answer = none ∧ (e = bootstrapError ↔ refusedForGood answer = true)

theorem obeys_register_contract (dashboard_url registration_token : String) (body : Dict) (k attempt : Nat)
    (hfuel : fuel ≤ n + k) :
    (registerWithBackoff dashboard_url registration_token body k attempt).Obeys (contractMonitor i fuel) (fun _ x =>
      RegisterSettles (i.exchange (registerUrl dashboard_url) registration_token i.registration) x) n := by
  induction k generalizing n attempt with
  | zero => exact hfuel
  | succ k ih =>
    refine Prog.obeys_bind.mpr (Prog.obeys_attempt.mpr (obeys_request.mpr (Prog.obeys_perform.mpr
      ⟨trivial, fun r hr => ?_⟩)))
    have hsettled : failsRetriably r = false →
        r = i.exchange (registerUrl dashboard_url) registration_token i.registration := fun hfinal =>
      hr.2.resolve_left fun h => by cases hfinal.symm.trans h.2
    rcases requestOutcome_contract r "POST" registerPath with
      ⟨v, hv, houtcome⟩ | ⟨hretriable, e, houtcome, he⟩ | ⟨hrefused, e, houtcome, he⟩ | ⟨e, rfl, he, houtcome⟩
    · rw [houtcome]
      rw [hsettled (of_acceptedDocument hv).2] at hv
      exact hv
    · -- one more round of the loop
      rw [houtcome]
      show (if e.kind.isRetriable = true then _ else _ : Agent Json).Obeys _ _ _
      rw [if_pos he]
      refine Prog.obeys_bind.mpr (Prog.obeys_perform.mpr ⟨trivial, fun r' hr' => ?_⟩)
      obtain ⟨s, rfl⟩ := hr'.1
      have hcount : (contractMonitor i fuel).next n (.register dashboard_url registration_token body) r = n + 1 := by
        show n + (failsRetriably r).toNat = n + 1
        rw [hretriable]
        rfl
      have hagain := ih (n := n + 1) (attempt + 1) (by omega)
      rw [← hcount] at hagain
      exact hagain
    · obtain ⟨hfinal, hnone⟩ := of_refusedForGood hrefused
      rw [hsettled hfinal] at hrefused hnone
      rw [houtcome]
      show (if e.kind.isRetriable = true then _ else _ : Agent Json).Obeys _ _ _
      rw [if_neg (Bool.eq_false_iff.mp he)]
      exact ⟨hnone, fun _ => hrefused, fun _ => rfl⟩
    · have hregistration := hsettled (failsRetriably_error he)
      have houtside := exchange_outside i.registration_outside hregistration.symm
      rw [houtcome]
      cases e with
      | dashboard e => cases houtside.foreign
      | _ =>
        refine ⟨?_, fun h => absurd h houtside.ne_bootstrapError, fun h => ?_⟩
        · rw [← hregistration]
          rfl
        · rw [← hregistration] at h
          cases h

/-! ## The first config -/

/-- What `_fetch_initial_config_with_retry` makes of the answer to the config request. -/
def FetchSettles (answer : Except PyExc HttpResponse) : Except PyExc Dict → Prop
  | .ok config => failsRetriably answer = true ∨
      ∃ v, acceptedDocument answer = some v ∧ acceptInitialConfig v = .ok config
  | .error e => failsRetriably answer = false ∧ (∀ v, acceptedDocument answer = some v → v.isConfig = false) ∧
      (e = bootstrapError ↔ refusedForGood answer = true)

theorem isConfig_iff {v : Json} : v.isConfig = true ↔ ∃ config, acceptInitialConfig v = .ok config := by
  cases v with
  | obj d =>
    simp only [Json.isConfig, acceptInitialConfig]
    cases ((Dict.getD d "manual_hosts" (.arr [])).or (.arr [])).len with
    | ok n => exact iff_of_true rfl ⟨d, rfl⟩
    | error e => exact iff_of_false Bool.false_ne_true (by rintro ⟨_, ⟨⟩⟩)
  | _ => exact iff_of_false Bool.false_ne_true (by rintro ⟨_, ⟨⟩⟩)

theorem len_eq_error {x : Json} {e : PyExc} (h : x.len = .error e) : e = .typeError := by
  cases x with
  | str | arr | obj => cases h
  | _ => exact (Except.error.inj h).symm

/-- A document that is no config raises one of Python's own exceptions. -/
theorem acceptInitialConfig_error {v : Json} {e : PyExc} (h : acceptInitialConfig v = .error e) :
    e = .attributeError ∨ e = .typeError := by
  cases v with
  | obj d =>
    simp only [acceptInitialConfig] at h
    cases hlen : ((Dict.getD d "manual_hosts" (.arr [])).or (.arr [])).len with
    | ok n =>
      rw [hlen] at h
      cases h
    | error e' =>
      rw [hlen] at h
      obtain rfl : e' = e := Except.error.inj h
      exact .inr (len_eq_error hlen)
  | _ => exact .inl (Except.error.inj h).symm

/-- A document settles the fetch, as the config it makes or as the exception. -/
theorem fetchSettles_document {answer : Except PyExc HttpResponse} {v : Json} (hv : acceptedDocument answer = some v) :
    FetchSettles answer (acceptInitialConfig v) := by
  cases haccept : acceptInitialConfig v with
  | ok config => exact .inr ⟨v, hv, haccept⟩
  | error e =>
    refine ⟨(of_acceptedDocument hv).2, fun v' hv' => ?_, fun he => ?_, fun hrefused => ?_⟩
    · obtain rfl := Option.some.inj (hv.symm.trans hv')
      refine Bool.eq_false_iff.mpr fun hisConfig => ?_
      obtain ⟨config, hok⟩ := isConfig_iff.mp hisConfig
      cases haccept.symm.trans hok
    · rcases acceptInitialConfig_error haccept with h | h
      · cases he.symm.trans h
      · cases he.symm.trans h
    · cases hv.symm.trans (of_refusedForGood hrefused).2

/-- So does an exception of the request itself. -/
theorem fetchSettles_outside {e : PyExc} (houtside : e.FromOutside) (he : e ≠ .requests) :
    FetchSettles (.error e) (.error e) := by
  refine ⟨failsRetriably_error he, ?_, fun h => absurd h houtside.ne_bootstrapError, ?_⟩
  · rintro v ⟨⟩
  · rintro ⟨⟩

theorem obeys_fetch_contract (client : DashboardClient) {agent_id agent_secret : Json}
    (hidentity : agent_id ≠ .null ∧ agent_secret ≠ .null) :
    (fetchInitialConfigWithRetry client agent_id agent_secret 1 fuel 0).Obeys (contractMonitor i fuel)
      (fun _ x => FetchSettles (i.exchange client.configUrl client.authorization i.config) x) n := by
  rcases hfuel : fuel with _ | k
  · exact Nat.zero_le n
  refine Prog.obeys_bind.mpr (Prog.obeys_attempt.mpr (Prog.obeys_bind.mpr (Prog.obeys_ofExcept.mpr ?_)))
  rw [requireCredentials, if_neg (not_or.mpr hidentity)]
  refine obeys_request.mpr (Prog.obeys_perform.mpr ⟨trivial, fun r hr => ?_⟩)
  have hanswer : r = i.exchange client.configUrl client.authorization i.config := hr.2
  have houtside : ∀ e, r = .error e → e.FromOutside := fun e he =>
    exchange_outside i.config_outside (hanswer.symm.trans he)
  rw [← hanswer]
  rcases requestOutcome_contract r "GET" client.configPath with
    ⟨v, hv, houtcome⟩ | ⟨hretriable, e, houtcome, he⟩ | ⟨hrefused, e, houtcome, he⟩ | ⟨e, rfl, he, houtcome⟩
  · rw [houtcome]
    exact Prog.obeys_ofExcept.mpr (fetchSettles_document hv)
  · rw [houtcome]
    show (if e.kind.isRetriable = true then _ else _ : Agent Dict).Obeys _ _ _
    rw [if_pos he, if_pos (Nat.le_refl (0 + 1))]
    exact .inl hretriable
  · obtain ⟨hfinal, hnone⟩ := of_refusedForGood hrefused
    rw [houtcome]
    show (if e.kind.isRetriable = true then _ else _ : Agent Dict).Obeys _ _ _
    rw [if_neg (Bool.eq_false_iff.mp he)]
    show FetchSettles r (.error bootstrapError)
    exact ⟨hfinal, fun v hv => (by cases hnone.symm.trans hv), fun _ => hrefused, fun _ => rfl⟩
  · rw [houtcome]
    have hsettles := fetchSettles_outside (houtside e rfl) he
    cases e with
    | dashboard e => cases (houtside _ rfl).foreign
    | _ => exact hsettles

/-! ## Bootstrap -/

/-- What a start whose client could be made comes to. -/
theorem meetsContract_of_fetch {agent_id agent_secret : Json} {k : Dict → BootstrapResult}
    {answer : Except PyExc HttpResponse} {x : Except PyExc Dict}
    (hid : ∀ config, (k config).agent_id = agent_id) (hsecret : ∀ config, (k config).agent_secret = agent_secret)
    (hurl : ∀ config, (k config).dashboard_url.isStr = true) (hx : FetchSettles answer x) :
    MeetsContract (x.map k) ↔ ConfigSettles (agent_id.isStr && agent_secret.isStr) answer := by
  cases x with
  | ok config =>
    have hrefused : ¬ refusedForGood answer = true := by
      intro h
      obtain ⟨hfinal, hnone⟩ := of_refusedForGood h
      rcases hx with hretriable | ⟨v, hv, -⟩
      · cases hfinal.symm.trans hretriable
      · cases hnone.symm.trans hv
    have hdecided : failsRetriably answer = true ∨ ∃ v, acceptedDocument answer = some v ∧ v.isConfig = true :=
      hx.imp_right fun ⟨v, hv, haccept⟩ => ⟨v, hv, isConfig_iff.mpr ⟨config, haccept⟩⟩
    show (k config).agent_id.isStr = true ∧ (k config).agent_secret.isStr = true ∧
      (k config).dashboard_url.isStr = true ↔ _
    rw [hid, hsecret, ConfigSettles, Bool.and_eq_true]
    constructor
    · rintro ⟨hid, hsecret, -⟩
      exact .inr ⟨⟨hid, hsecret⟩, hdecided⟩
    · rintro (h | ⟨⟨hid, hsecret⟩, -⟩)
      · exact absurd h hrefused
      · exact ⟨hid, hsecret, hurl config⟩
  | error e =>
    obtain ⟨hfinal, hnoConfig, hrefused⟩ := hx
    refine hrefused.trans ⟨.inl, ?_⟩
    rintro (h | ⟨-, h | ⟨v, hv, hconfig⟩⟩)
    · exact h
    · cases hfinal.symm.trans h
    · cases (hnoConfig v hv).symm.trans hconfig

/-- From the client on, both paths are the same. -/
theorem obeys_fetchAndReturn_contract (client : DashboardClient) {agent_id agent_secret : Json}
    {k : Dict → BootstrapResult} (hid : ∀ config, (k config).agent_id = agent_id)
    (hsecret : ∀ config, (k config).agent_secret = agent_secret)
    (hurl : ∀ config, (k config).dashboard_url.isStr = true) :
    ((fetchInitialConfigWithRetry client agent_id agent_secret 1 fuel 0).bind fun config => .ret (k config)).Obeys
      (contractMonitor i fuel) (fun _ x => MeetsContract x ↔ (agent_id ≠ .null ∧ agent_secret ≠ .null) ∧
        i.unsendable client.configUrl client.authorization = none ∧
        ConfigSettles (agent_id.isStr && agent_secret.isStr) i.config) n := by
  rw [← configSettles_exchange]
  by_cases hidentity : agent_id ≠ .null ∧ agent_secret ≠ .null
  · refine (obeys_fetch_contract client hidentity).bind (fun _ config hx => ?_) fun _ e hx => ?_
    · exact (meetsContract_of_fetch hid hsecret hurl hx).trans (and_iff_right hidentity).symm
    · exact (meetsContract_of_fetch hid hsecret hurl hx).trans (and_iff_right hidentity).symm
  · -- `_require_credentials` raises before the request
    rcases hfuel : fuel with _ | m
    · exact Nat.zero_le n
    have hnull : requireCredentials agent_id agent_secret =
        .error (.valueError "operation requires both agent_id and agent_secret on the client") :=
      if_pos (by_contra fun h => hidentity (not_or.mp h))
    simp only [fetchInitialConfigWithRetry, hnull]
    exact iff_of_false (by rintro ⟨⟩) fun h => hidentity h.1

/-- The fields of credentials that the client can be made from. -/
theorem isCredentials_of_items {d : Dict} {agent_id agent_secret dashboard_url : Json}
    (hid : d.getItem "agent_id" = .ok agent_id) (hsecret : d.getItem "agent_secret" = .ok agent_secret)
    (hurl : d.getItem "dashboard_url" = .ok dashboard_url) :
    ((Json.obj d).isCredentials = true ↔ (agent_id ≠ .null ∧ agent_secret ≠ .null) ∧ dashboard_url.isStr = true) ∧
      (Json.obj d).namesStrings = (agent_id.isStr && agent_secret.isStr) := by
  have hid' := @getD_of_getItem d "agent_id" agent_id .null hid
  have hsecret' := @getD_of_getItem d "agent_secret" agent_secret .null hsecret
  have hurl' := @getD_of_getItem d "dashboard_url" dashboard_url .null hurl
  simp [Json.isCredentials, Json.hasIdentity, Json.namesStrings, hid', hsecret', hurl']

/-- A start on credentials that lack a field. -/
theorem not_isCredentials {d : Dict} {k : String} (hk : k ∈ ["agent_id", "agent_secret", "dashboard_url"]) {e : PyExc}
    (h : d.getItem k = .error e) : e ≠ bootstrapError ∧ (Json.obj d).isCredentials = false := by
  have hkey := getItem_error h
  have hnull : Dict.getD d k .null = .null := getD_of_not_getItem h
  refine ⟨hkey ▸ nofun, ?_⟩
  simp only [List.mem_cons, List.not_mem_nil, or_false] at hk
  rcases hk with rfl | rfl | rfl <;> simp [Json.isCredentials, Json.hasIdentity, hnull, Json.isStr]

/-- The request that the client of a document sends. -/
theorem canFetch_iff {d : Dict} {agent_id agent_secret dashboard_url : Json} {client : DashboardClient}
    (hid : d.getItem "agent_id" = .ok agent_id) (hsecret : d.getItem "agent_secret" = .ok agent_secret)
    (h : dashboardClient i.rt dashboard_url agent_id agent_secret = .ok client) :
    i.CanFetch dashboard_url d ↔ i.unsendable client.configUrl client.authorization = none := by
  rw [BootstrapInput.CanFetch, getD_of_getItem hid, getD_of_getItem hsecret]
  refine ⟨fun hfetch => hfetch client h, fun hsend client' h' => ?_⟩
  obtain rfl := Except.ok.inj (h.symm.trans h')
  exact hsend

theorem obeys_subsequentRun_contract (d : Dict) :
    (bootstrapSubsequentRun i.rt d fuel).Obeys (contractMonitor i fuel) (fun _ x => MeetsContract x ↔
      (Json.obj d).isCredentials = true ∧ i.Fetches (Dict.getD d "dashboard_url" .null) d) n := by
  have hlacks {k : String} (hk : k ∈ ["agent_id", "agent_secret", "dashboard_url"]) (e : PyExc)
      (h : d.getItem k = .error e) : MeetsContract (.error e) ↔
        (Json.obj d).isCredentials = true ∧ i.Fetches (Dict.getD d "dashboard_url" .null) d := by
    obtain ⟨he, hnot⟩ := not_isCredentials hk h
    exact iff_of_false he fun hboth => by cases hnot.symm.trans hboth.1
  unfold bootstrapSubsequentRun
  refine Prog.obeys_ofExcept_bind (fun agent_id hid => ?_) (hlacks (by decide))
  refine Prog.obeys_ofExcept_bind (fun agent_secret hsecret => ?_) (hlacks (by decide))
  refine Prog.obeys_ofExcept_bind (fun dashboard_url hurl => ?_) (hlacks (by decide))
  obtain ⟨hcredentials, hstrings⟩ := isCredentials_of_items hid hsecret hurl
  rw [hcredentials, BootstrapInput.Fetches, hstrings, getD_of_getItem hurl]
  refine Prog.obeys_ofExcept_bind (fun client hclient => ?_) fun e he => ?_
  · obtain ⟨url, rfl, -⟩ := dashboardClient_eq_ok.mp hclient
    refine Prog.Obeys.mono (obeys_fetchAndReturn_contract client ?_ ?_ ?_) fun _ x hx => ?_
    · exact fun _ => rfl
    · exact fun _ => rfl
    · exact fun _ => rfl
    · rw [hx, canFetch_iff hid hsecret hclient, show (Json.str url).isStr = true from rfl, eq_self, and_true]
  · -- the constructor strips slashes off a string
    cases dashboard_url with
    | str url => cases he
    | _ =>
      obtain rfl := Except.error.inj he
      exact iff_of_false (by rintro ⟨⟩) fun h => Bool.false_ne_true h.1.2

/-- A registration that can be saved, and with which the client can be made. -/
theorem hasIdentity_of_items {v agent_id agent_secret registered_at : Json} (hid : v.item "agent_id" = .ok agent_id)
    (hsecret : v.item "agent_secret" = .ok agent_secret) (hat : v.item "registered_at" = .ok registered_at) :
    v.isRegistration = true ∧ (v.hasIdentity = true ↔ agent_id ≠ .null ∧ agent_secret ≠ .null) ∧
      v.namesStrings = (agent_id.isStr && agent_secret.isStr) := by
  obtain ⟨d, rfl, hget_id⟩ := Json.item_eq_ok.mp hid
  have hget_secret := Dict.getItem_eq_ok.mp hsecret
  have hget_at := Dict.getItem_eq_ok.mp hat
  simp [Json.isRegistration, Json.hasIdentity, Json.namesStrings, Dict.getD, hget_id, hget_secret, hget_at]

/-- Such a registration, and the config request with the identity that it gives. -/
theorem registered_of_items {v agent_id agent_secret registered_at dashboard_url : Json} {client : DashboardClient}
    (hid : v.item "agent_id" = .ok agent_id) (hsecret : v.item "agent_secret" = .ok agent_secret)
    (hat : v.item "registered_at" = .ok registered_at)
    (hclient : dashboardClient i.rt dashboard_url agent_id agent_secret = .ok client) :
    (∃ d, v = .obj d ∧ (Json.obj d).isRegistration = true ∧ (Json.obj d).hasIdentity = true ∧
      i.Fetches dashboard_url d) ↔
      (agent_id ≠ .null ∧ agent_secret ≠ .null) ∧ i.unsendable client.configUrl client.authorization = none ∧
        ConfigSettles (agent_id.isStr && agent_secret.isStr) i.config := by
  obtain ⟨hregistration, hidentity, hstrings⟩ := hasIdentity_of_items hid hsecret hat
  obtain ⟨d, rfl, hget_id⟩ := Json.item_eq_ok.mp hid
  rw [← hidentity, ← canFetch_iff (d := d) hid hsecret hclient, ← hstrings]
  constructor
  · rintro ⟨d', hd, -, h⟩
    obtain rfl := Json.obj.inj hd
    exact h
  · exact fun h => ⟨d, rfl, hregistration, h⟩

/-- A registration that lacks a field. -/
theorem not_registered_of_lack {v : Json} {k : String} (hk : k ∈ ["agent_id", "agent_secret", "registered_at"])
    {e : PyExc} (h : v.item k = .error e) (dashboard_url : Json) : ¬ ∃ d, v = .obj d ∧
      (Json.obj d).isRegistration = true ∧ (Json.obj d).hasIdentity = true ∧ i.Fetches dashboard_url d := by
  rintro ⟨d, rfl, hregistration, -⟩
  cases (isRegistration_of_not_item hk h).symm.trans hregistration

theorem obeys_hostname_contract (rt : Runtime) : (resolveAgentHostname rt i.env).Obeys (contractMonitor i fuel)
    (fun n' x => n' = n ∧ ∃ hostname, x = .ok hostname) n := by
  unfold resolveAgentHostname
  generalize envText i.env "AGENT_HOSTNAME" = configured
  split_ifs
  · have hrest (hn : String) : (if hn ≠ "" ∧ rt.lower hn ≠ "localhost" then Prog.ret hn else
        (agentCall .uuid4).bind fun id => .ret ("certwatch-" ++ String.ofList ((id.toList.filter (· != '-')).take 8)) :
        Agent String).Obeys (contractMonitor i fuel) (fun n' x => n' = n ∧ ∃ hostname, x = .ok hostname) n := by
      split_ifs
      · exact ⟨rfl, _, rfl⟩
      · refine Prog.obeys_bind.mpr (Prog.obeys_perform.mpr ⟨trivial, fun r hr => ?_⟩)
        obtain ⟨s, id, rfl⟩ := hr.1
        exact ⟨rfl, _, rfl⟩
    refine Prog.obeys_bind.mpr (Prog.obeys_tryCatch.mpr (Prog.obeys_perform.mpr ⟨trivial, fun r hr => ?_⟩))
    cases r with
    | ok hn => exact hrest hn
    | error e =>
      cases e with
      | os e => exact hrest ""
      | _ => cases hr.2 _ rfl
  · exact ⟨rfl, _, rfl⟩

theorem requireEnv_error {env : Env} {name : String} {e : PyExc} (h : requireEnv env name = .error e) :
    e = bootstrapError := by
  unfold requireEnv at h
  split at h
  · split_ifs at h
    exact (Except.error.inj h).symm
  · exact (Except.error.inj h).symm

theorem validateNetboxEnv_error {env : Env} {e : PyExc} (h : validateNetboxEnv env = .error e) :
    e = bootstrapError := by
  unfold validateNetboxEnv at h
  split_ifs at h
  exact (Except.error.inj h).symm

theorem item_error_ne {v : Json} {k : String} {e : PyExc} (h : v.item k = .error e) : e ≠ bootstrapError := by
  cases v with
  | obj d =>
    obtain rfl := getItem_error h
    rintro ⟨⟩
  | _ =>
    obtain rfl := Except.error.inj h
    rintro ⟨⟩

theorem envText_of_requireEnv {env : Env} {name val : String} (h : requireEnv env name = .ok val) :
    envText env name = val := by
  unfold requireEnv at h
  split at h
  · rename_i val' hval
    split_ifs at h
    rw [envText, hval]
    exact Except.ok.inj h
  · cases h

/-- The answer to the registration that this environment asks for. -/
def BootstrapInput.registered (i : BootstrapInput) : Except PyExc HttpResponse :=
  i.exchange (registerUrl (rstripSlashes (envText i.env "DASHBOARD_URL"))) (envText i.env "REGISTRATION_TOKEN")
    i.registration

theorem registers_of_refused (hnone : acceptedDocument i.registered = none) :
    i.Registers ↔ refusedForGood i.registered = true := by
  rw [BootstrapInput.registered, refusedForGood_exchange]
  refine and_congr_right fun hcan => ⟨fun h => h.resolve_right ?_, .inl⟩
  rintro ⟨d, hd, -⟩
  cases hnone.symm.trans (acceptedDocument_exchange.mpr ⟨hcan, hd⟩)

theorem registers_of_accepted {v : Json} (hv : acceptedDocument i.registered = some v) :
    i.Registers ↔ ∃ d, v = .obj d ∧ (Json.obj d).isRegistration = true ∧ (Json.obj d).hasIdentity = true ∧
      i.Fetches (.str (envText i.env "DASHBOARD_URL")) d := by
  obtain ⟨hcan, hv⟩ := acceptedDocument_exchange.mp hv
  constructor
  · rintro ⟨-, hrefused | ⟨d, hd, h⟩⟩
    · cases hv.symm.trans (of_refusedForGood hrefused).2
    · exact ⟨d, Option.some.inj (hv.symm.trans hd), h⟩
  · rintro ⟨d, rfl, h⟩
    exact ⟨hcan, .inr ⟨d, hv, h⟩⟩

theorem obeys_firstRun_contract (agent_version : String) {dashboard_url : String}
    (hurl : envText i.env "DASHBOARD_URL" = dashboard_url)
    (hstart : Env.refuses i.env true = !(requireEnv i.env "REGISTRATION_TOKEN").isOk) :
    (bootstrapFirstRun i.rt i.env agent_version dashboard_url fuel).Obeys (contractMonitor i fuel)
      (fun _ x => MeetsContract x ↔ Env.refuses i.env true = true ∨ i.Registers) 0 := by
  have hhostname := @obeys_hostname_contract i fuel 0 i.rt
  have hplatform := @obeys_resolvePlatform _ (contractMonitor i fuel) 0
    (by rintro o (rfl | rfl) <;> exact ⟨trivial, fun _ => rfl⟩) i.rt
  unfold bootstrapFirstRun
  generalize resolveAgentHostname i.rt i.env = resolved_hostname at hhostname ⊢
  generalize resolvePlatform i.rt = resolved_platform at hplatform ⊢
  refine Prog.obeys_ofExcept_bind (fun registration_token htoken => ?_) fun e he => ?_
  swap
  · -- without a token the environment itself is refused
    refine iff_of_true (requireEnv_error he) (.inl ?_)
    rw [hstart, he]
    rfl
  have henv : ¬ Env.refuses i.env true = true := by
    rw [hstart, htoken]
    exact nofun
  refine hhostname.bind (fun n hostname hx => ?_) fun n e hx => by
    obtain ⟨-, _, h⟩ := hx
    cases h
  obtain ⟨rfl, -⟩ := hx
  refine hplatform.bind (fun n plat hx => ?_) fun n e hx => by
    obtain ⟨⟨_, h⟩, -⟩ := hx
    cases h
  obtain ⟨-, rfl⟩ := hx
  refine Prog.obeys_bind.mpr (Prog.obeys_perform.mpr ⟨trivial, fun r hr => ?_⟩)
  obtain ⟨s, us, rfl⟩ := hr.1
  have hregister := @obeys_register_contract i fuel 0 (rstripSlashes dashboard_url) registration_token
    (registerBody agent_version hostname (utcNowIso us) plat) fuel 0 (Nat.le_add_left _ _)
  have hregistered : i.exchange (registerUrl (rstripSlashes dashboard_url)) registration_token i.registration =
      i.registered := by
    rw [BootstrapInput.registered, hurl, envText_of_requireEnv htoken]
  rw [hregistered] at hregister
  rw [or_iff_right henv]
  refine Prog.Obeys.bind hregister (fun n v hv => ?_) fun n e he => ?_
  swap
  · obtain ⟨hnone, hrefused⟩ := he
    exact hrefused.trans (registers_of_refused hnone).symm
  rw [registers_of_accepted hv, hurl]
  have hlacks {k : String} (hk : k ∈ ["agent_id", "agent_secret", "registered_at"]) (e : PyExc)
      (h : v.item k = .error e) : MeetsContract (.error e) ↔ ∃ d, v = .obj d ∧ (Json.obj d).isRegistration = true ∧
        (Json.obj d).hasIdentity = true ∧ i.Fetches (.str dashboard_url) d :=
    iff_of_false (item_error_ne h) (not_registered_of_lack hk h _)
  refine Prog.obeys_ofExcept_bind (fun agent_id hid => ?_) (hlacks (by decide))
  refine Prog.obeys_ofExcept_bind (fun agent_secret hsecret => ?_) (hlacks (by decide))
  refine Prog.obeys_ofExcept_bind (fun registered_at hat => ?_) (hlacks (by decide))
  refine Prog.Obeys.bind (obeys_save_contract agent_id agent_secret (.str dashboard_url) registered_at)
    (fun n' _ _ => ?_) fun _ _ hsaved => by cases hsaved.2
  refine Prog.obeys_ofExcept_bind (fun client hclient => ?_) fun e he => by cases he
  rw [registered_of_items hid hsecret hat hclient]
  refine obeys_fetchAndReturn_contract client ?_ ?_ ?_
  · exact fun _ => rfl
  · exact fun _ => rfl
  · exact fun _ => rfl

/-- **What leaves `bootstrap`**, whatever it is answered on these inputs. -/
theorem obeys_bootstrap_contract (agent_version : String) :
    (bootstrap i.rt i.env agent_version fuel).Obeys (contractMonitor i fuel)
      (fun _ x => MeetsContract x ↔ i.Sound) 0 := by
  have hfirst := @obeys_firstRun_contract i fuel agent_version
  unfold bootstrap
  refine Prog.obeys_ofExcept_bind (fun dashboard_url_env hurl => ?_) fun e he => ?_
  swap
  · refine iff_of_true (requireEnv_error he) (.inl ?_)
    simp [Env.refuses, he, Except.isOk, Except.toBool]
  refine Prog.obeys_ofExcept_bind (fun _ hnetbox => ?_) fun e he => ?_
  swap
  · refine iff_of_true (validateNetboxEnv_error he) (.inl ?_)
    simp [Env.refuses, he, Except.isOk, Except.toBool]
  have hpresent : Env.refuses i.env false = false := by
    simp [Env.refuses, hurl, hnetbox, Except.isOk, Except.toBool]
  have habsent : Env.refuses i.env true = !(requireEnv i.env "REGISTRATION_TOKEN").isOk := by
    simp [Env.refuses, hurl, hnetbox, Except.isOk, Except.toBool]
  refine Prog.Obeys.bind obeys_load_contract (fun n creds hload => ?_) fun n e hload => ?_
  · obtain ⟨rfl, hfile⟩ := hload
    cases creds with
    | none =>
      have hsound : i.Sound ↔ Env.refuses i.env true = true ∨ i.Registers := by
        rw [BootstrapInput.Sound, show i.agent_json = none from hfile]
        rfl
      refine (hfirst (envText_of_requireEnv hurl) habsent).mono fun _ x hx => ?_
      rw [hx, hsound]
    | some d =>
      have hsound : i.Sound ↔
          (Json.obj d).isCredentials = true ∧ i.Fetches (Dict.getD d "dashboard_url" .null) d := by
        rw [BootstrapInput.Sound, show i.agent_json = some (.ok (.obj d)) from hfile, Option.isNone_some,
          or_iff_right (Bool.eq_false_iff.mp hpresent)]
        constructor
        · exact fun h => h.2 d rfl
        · rintro h
          refine ⟨trivial, fun d' hd' => ?_⟩
          obtain rfl := Json.obj.inj (Except.ok.inj hd')
          exact h
      refine (obeys_subsequentRun_contract d).mono fun _ x hx => ?_
      rw [hx, hsound]
  · obtain ⟨-, loaded, hfile, hobj, hrecognized⟩ := hload
    have hsound : i.Sound ↔ Recognized loaded := by
      rw [BootstrapInput.Sound, hfile, Option.isNone_some, or_iff_right (Bool.eq_false_iff.mp hpresent)]
      exact and_iff_left fun d hd => absurd hd (hobj d)
    rw [hsound]
    exact hrecognized

/-- How often a registration was told to try again. -/
def turnedDown (cs : List AgentCall) : Nat := (cs.filter fun c => isTurnedDown c.op c.answer).length

theorem after_contractMonitor (cs : List AgentCall) : (contractMonitor i fuel).after 0 cs = turnedDown cs := by
  induction cs using List.reverseRecOn with
  | nil => rfl
  | append_singleton cs c ih =>
    rw [Monitor.after_concat, ih]
    show turnedDown cs + (isTurnedDown c.op c.answer).toNat = turnedDown (cs ++ [c])
    rw [turnedDown, turnedDown, List.filter_append, List.length_append]
    cases h : isTurnedDown c.op c.answer <;> simp [h]

/-- A start on some inputs, with any answers that these may give. -/
structure BootstrapRun extends BootstrapInput where
  agent_version : String
  fuel : Nat
  answer : Oracle agentSig PyExc
  answered : ∀ cs o, toBootstrapInput.Answers o (answer cs o)

namespace BootstrapRun

variable (run : BootstrapRun)

/-- What `bootstrap` returns or raises, unless it is out of fuel. -/
def outcome : Option (Except PyExc BootstrapResult) :=
  ((bootstrap run.rt run.env run.agent_version run.fuel).run run.answer.handle []).1

/-- The calls that it has made. -/
def log : List AgentCall := ((bootstrap run.rt run.env run.agent_version run.fuel).run run.answer.handle []).2

/-- **When the callers of `bootstrap` get what they look for**: on every input exactly if its documents are what the
code takes them for and its requests can be sent; and a start is out of fuel only if its registration was told to try
again that often. -/
theorem contract_iff : match run.outcome with
    | some x => MeetsContract x ↔ run.Sound
    | none => run.fuel ≤ turnedDown run.log := by
  have hobeys := @obeys_bootstrap_contract run.toBootstrapInput run.fuel run.agent_version
  obtain ⟨new, hlog, -, hends⟩ := hobeys.consult run.answered []
  rw [after_contractMonitor] at hends
  unfold outcome log
  rw [hlog]
  cases houtcome : ((bootstrap run.rt run.env run.agent_version run.fuel).run run.answer.handle []).1 with
  | some x =>
    rw [houtcome] at hends
    exact hends
  | none =>
    rw [houtcome] at hends
    exact hends

end BootstrapRun

/-! ## A file that is not UTF-8 -/

/-- The oracle that gives these answers at once, and everywhere else those of a quiet scene. -/
def BootstrapInput.oracle (i : BootstrapInput) : Oracle agentSig PyExc := fun cs o => match o with
  | .creds .pathExists => .ok i.agent_json.isSome
  | .creds .read => i.agent_json.getD (.ok .null)
  | .creds .unlinkTmp => .ok ()
  | .creds .mkdir => .ok ()
  | .creds .openTmp => .ok ()
  | .creds (.dump _) => .ok ()
  | .creds .fsync => .ok ()
  | .creds .replace => .ok ()
  | .creds .chmod => .ok ()
  | .register dashboard_url registration_token _ =>
    i.exchange (registerUrl dashboard_url) registration_token i.registration
  | .getConfig client => i.exchange client.configUrl client.authorization i.config
  | .gethostname => .ok "agent"
  | o => Scene.oracle { credentials := .null } cs o

theorem BootstrapInput.answered_oracle (i : BootstrapInput) (cs : List AgentCall) (o : AgentOp) :
    i.Answers o (i.oracle cs o) := by
  cases o with
  | creds o =>
    cases o with
    | pathExists => exact ⟨⟨unblocked, foreign_ok⟩, rfl⟩
    | read =>
      refine ⟨⟨unblocked, ?_⟩, fun loaded h => ?_⟩
      · show Foreign (i.agent_json.getD (.ok .null))
        cases hfile : i.agent_json with
        | none => exact foreign_ok
        | some loaded => exact fun e he => (i.agent_json_outside e (hfile.trans (congrArg some he))).foreign
      · show i.agent_json.getD (.ok .null) = loaded
        rw [h]
        rfl
    | unlinkTmp => exact ⟨⟨unblocked, foreign_ok⟩, trivial⟩
    | _ => exact ⟨⟨unblocked, foreign_ok⟩, rfl⟩
  | register => exact ⟨⟨unblocked, fun e he => (exchange_outside i.registration_outside he).foreign⟩, .inr rfl⟩
  | getConfig => exact ⟨⟨unblocked, fun e he => (exchange_outside i.config_outside he).foreign⟩, rfl⟩
  | gethostname => exact ⟨⟨unblocked, foreign_ok⟩, nofun⟩
  | _ => exact ⟨Scene.oracle_possible _ cs _, trivial⟩

/-- The header of a request is sent in Latin-1. -/
def outsideLatin1 (_url credential : String) : Option PyExc :=
  if credential.toList.all (· ≤ 'ÿ') then none else some .unicode

/-- A registered agent with this credentials file, whose dashboard has an empty config for it. -/
def restartWith (agent_json : Except PyExc Json) (houtside : ∀ e, agent_json = .error e → e.FromOutside) :
    BootstrapRun where
  env := dashboardOnly
  rt := CycleInput.plainRuntime
  agent_json := some agent_json
  registration := .ok ⟨401, .notJson⟩
  config := .ok ⟨200, .json (.obj [])⟩
  unsendable := outsideLatin1
  agent_json_outside e he := houtside e (Option.some.inj he)
  registration_outside := nofun
  config_outside := nofun
  unsendable_outside := by
    intro url credential e he
    obtain ⟨-, rfl⟩ : ¬ credential.toList.all (· ≤ 'ÿ') = true ∧ .unicode = e := by
      simpa only [outsideLatin1, Option.ite_none_left_eq_some, Option.some.injEq] using he
    exact ⟨⟨rfl, nofun, nofun⟩, nofun⟩
  agent_version := "1"
  fuel := 1
  answer := BootstrapInput.oracle _
  answered := BootstrapInput.answered_oracle _

/-- Its credentials file was overwritten with bytes that are not UTF-8. -/
def undecodableCredentials : BootstrapRun := restartWith (.error .unicodeDecode) <| by
  rintro e he
  obtain rfl := Except.error.inj he
  exact ⟨rfl, nofun, nofun⟩

/-- Its `UnicodeDecodeError` leaves `bootstrap`. -/
theorem undecodableCredentials_escapes : ¬ ∀ run : BootstrapRun, ∀ x, run.outcome = some x → MeetsContract x := by
  intro h
  have hraised : undecodableCredentials.outcome = some (.error .unicodeDecode) := rfl
  cases h undecodableCredentials _ hraised

/-- Its secret was replaced by one that no header can carry. -/
example : (restartWith (.ok (.obj [("agent_id", .str "agent-1"), ("agent_secret", .str "секрет"),
    ("dashboard_url", .str "https://dashboard.example")])) nofun).outcome = some (.error .unicode) := rfl

end CertWatch
