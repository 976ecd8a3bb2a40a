/-
# `CertWatch.CredentialsFile` — `agent.json` on disk, and how far a start has come with it.

The file is bytes; `json.load` and `json.dump` are parameters, since nothing here depends on what they make of
them.  A file operation may fail, and a failed one leaves `agent.json` as it was and anything in the temporary
file; `os.replace` moves the whole of it or nothing.

A monitor follows one start: the file was found or found absent, a record is ready in the temporary file, the
record has been installed.  The dashboard is asked to register only while the file is absent.
-/
import CertWatch.ThreadCalls

namespace CertWatch

open CertWatch.Lib

-- the texts of the environment are carried along, never computed
attribute [local irreducible] strip

/-! ## The directory -/

/-- What `json.load` makes of the bytes of a file, and the bytes that `json.dump` writes. -/
structure JsonCodec (Bytes : Type) where
  load : Bytes → Except PyExc Json
  dump : Dict → Bytes

/-- `agent.json` and `agent.json.tmp`. -/
structure DataDir (Bytes : Type) where
  agent_json : Option Bytes
  tmp : Option Bytes

variable {Bytes : Type} (codec : JsonCodec Bytes)

/-- The operation fails: `agent.json` is as before. -/
def FileFails {α : Type} (d : DataDir Bytes) (r : Except PyExc α) (d' : DataDir Bytes) : Prop :=
  (∃ e, r = .error e) ∧ d'.agent_json = d.agent_json

/-- What a file operation may do. -/
def credsExec : (o : CredsOp) → DataDir Bytes → Except PyExc o.Ret → DataDir Bytes → Prop
  -- `Path.exists` raises what `stat` raises, unless that says that there is no such file
  | .pathExists, d, r, d' => (r = .ok d.agent_json.isSome ∨ ∃ e, r = .error (.os e)) ∧ d' = d
  | .read, d, r, d' => ((∃ bytes, d.agent_json = some bytes ∧ r = codec.load bytes) ∨ ∃ e, r = .error (.os e)) ∧ d' = d
  | .openTmp, d, r, d' => FileFails d r d' ∨ (r = .ok () ∧ d'.agent_json = d.agent_json)
  | .dump payload, d, r, d' => FileFails d r d' ∨ (r = .ok () ∧ d' = { d with tmp := some (codec.dump payload) })
  | .unlinkTmp, d, r, d' => FileFails d r d' ∨ (r = .ok () ∧ d' = { d with tmp := none })
  | .replace, d, r, d' => FileFails d r d' ∨
      ∃ bytes, d.tmp = some bytes ∧ r = .ok () ∧ d' = ⟨some bytes, none⟩
  | .mkdir, d, r, d' => FileFails d r d' ∨ (r = .ok () ∧ d' = d)
  | .fsync, d, r, d' => FileFails d r d' ∨ (r = .ok () ∧ d' = d)
  | .chmod, d, r, d' => FileFails d r d' ∨ (r = .ok () ∧ d' = d)

/-- What the calls of a process do to the directory. -/
def DirMoves : List (ThreadId × AgentCall) → DataDir Bytes → DataDir Bytes → Prop
  | [], d, d' => d' = d
  | (_, ⟨.creds o, r⟩) :: cs, d, d' => ∃ d₁, credsExec codec o d r d₁ ∧ DirMoves cs d₁ d'
  | _ :: cs, d, d' => DirMoves cs d d'

/-! ## One start -/

/-- How far a start has come. -/
inductive CredsPhase where
  | fresh
  | found
  | absent
  /-- The temporary file holds this record. -/
  | filled (payload : Dict)
  | saved

/-- Where a call takes it. -/
def CredsPhase.next (q : CredsPhase) : (o : AgentOp) → Except PyExc o.Ret → CredsPhase
  | .creds .pathExists, .ok true => .found
  | .creds .pathExists, .ok false => .absent
  | .creds (.dump payload), .ok _ => .filled payload
  | .creds .fsync, .error _ => .absent
  | .creds .replace, .ok _ => .saved
  | .creds .replace, .error _ => .absent
  | _, _ => q

/-- A record as `save_credentials` writes it. -/
def IsRecord (payload : Dict) : Prop :=
  ∃ agent_id agent_secret dashboard_url registered_at,
    payload = credentialsPayload agent_id agent_secret dashboard_url registered_at

/-- The calls of each phase. -/
def CredsPhase.allows (q : CredsPhase) : AgentOp → Prop
  | .register _ _ _ => q = .absent
  | .creds .pathExists => q = .fresh
  | .creds .read => q = .found
  | .creds (.dump payload) => q = .absent ∧ IsRecord payload
  | .creds .fsync => ∃ payload, q = .filled payload ∧ IsRecord payload
  | .creds .replace => ∃ payload, q = .filled payload ∧ IsRecord payload
  | .creds .chmod => q = .saved
  | .creds _ => q = .absent
  | _ => True

/-- A start, as the directory sees it. -/
def credsMonitor : Monitor agentSig PyExc CredsPhase where
  possible _ _ := True
  allows := CredsPhase.allows
  next := CredsPhase.next

/-- What the phase says of the directory. -/
def CredsPhase.Fits : CredsPhase → DataDir Bytes → Prop
  | .fresh, _ => True
  | .found, d => d.agent_json.isSome = true
  | .absent, d => d.agent_json = none
  | .filled payload, d => d.agent_json = none ∧ d.tmp = some (codec.dump payload)
  | .saved, d => d.agent_json.isSome = true

/-- What one step may do to `agent.json`: nothing, or install a whole record where there was no file. -/
def Installs (d d' : DataDir Bytes) : Prop :=
  d'.agent_json = d.agent_json ∨
    (d.agent_json = none ∧ ∃ payload, IsRecord payload ∧ d'.agent_json = some (codec.dump payload))

variable {codec}

/-- **An allowed file operation** keeps the phase in step with the directory, and changes `agent.json` in no
other way than by installing a whole record. -/
theorem credsExec_allowed {o : CredsOp} {d d' : DataDir Bytes} {r : Except PyExc o.Ret} {q : CredsPhase}
    (hallowed : q.allows (.creds o)) (hfits : q.Fits codec d) (hexec : credsExec codec o d r d') :
    CredsPhase.Fits codec (q.next (.creds o) r) d' ∧ Installs codec d d' := by
  cases o with
  | pathExists =>
    obtain ⟨hr, rfl⟩ := hexec
    refine ⟨?_, Or.inl rfl⟩
    rcases hr with rfl | ⟨e, rfl⟩
    · cases hfile : d'.agent_json with
      | none => exact hfile
      | some bytes => exact (congrArg Option.isSome hfile).trans rfl
    · exact hfits
  | read =>
    obtain ⟨hr, rfl⟩ := hexec
    exact ⟨hfits, Or.inl rfl⟩
  | mkdir | openTmp | unlinkTmp =>
    -- only the temporary file is touched, before anything is written to it or after it has failed
    obtain rfl : q = .absent := hallowed
    have hsame : d'.agent_json = d.agent_json := by
      rcases hexec with hfails | ⟨-, hd⟩
      · exact hfails.2
      · first | exact hd | rw [hd]
    exact ⟨hsame.trans hfits, Or.inl hsame⟩
  | dump payload =>
    obtain ⟨rfl, -⟩ := hallowed
    rcases hexec with ⟨⟨e, rfl⟩, hsame⟩ | ⟨rfl, rfl⟩
    · exact ⟨hsame.trans hfits, Or.inl hsame⟩
    · exact ⟨⟨hfits, rfl⟩, Or.inl rfl⟩
  | fsync =>
    obtain ⟨payload, rfl, -⟩ := hallowed
    rcases hexec with ⟨⟨e, rfl⟩, hsame⟩ | ⟨rfl, rfl⟩
    · exact ⟨hsame.trans hfits.1, Or.inl hsame⟩
    · exact ⟨hfits, Or.inl rfl⟩
  | replace =>
    obtain ⟨payload, rfl, hrecord⟩ := hallowed
    rcases hexec with ⟨⟨e, rfl⟩, hsame⟩ | ⟨bytes, htmp, rfl, rfl⟩
    · exact ⟨hsame.trans hfits.1, Or.inl hsame⟩
    · -- the temporary file still holds the whole record
      obtain rfl : codec.dump payload = bytes := Option.some.inj (hfits.2.symm.trans htmp)
      exact ⟨rfl, Or.inr ⟨hfits.1, payload, hrecord, rfl⟩⟩
  | chmod =>
    -- a failing `chmod` leaves the whole record behind
    obtain rfl : q = .saved := hallowed
    have hsame : d'.agent_json = d.agent_json := by
      rcases hexec with hfails | ⟨-, rfl⟩
      · exact hfails.2
      · rfl
    exact ⟨(congrArg Option.isSome hsame).trans hfits, Or.inl hsame⟩

/-! ## The program of a start -/

section Programs

variable {α β : Type} {q : CredsPhase}

/-- Calls that have nothing to do with the file or with registering. -/
def AgentOp.leavesCredentials : AgentOp → Bool
  | .register _ _ _ => false
  | .creds _ => false
  | _ => true

theorem leavesCredentials_of_isProbe {o : AgentOp} (h : o.isProbe = true) : o.leavesCredentials = true := by
  cases o <;> first | rfl | cases h

theorem leavesCredentials_of_isLaunch {o : AgentOp} (h : o.isLaunch = true) : o.leavesCredentials = true := by
  cases o <;> first | rfl | cases h

theorem next_leavesCredentials {o : AgentOp} (h : o.leavesCredentials = true) (r : Except PyExc o.Ret) :
    q.next o r = q := by
  cases o <;> first | rfl | cases h

theorem allows_leavesCredentials {o : AgentOp} (h : o.leavesCredentials = true) : q.allows o := by
  cases o <;> trivial

/-- They keep the phase, whatever it is. -/
theorem obeys_leavesCredentials {p : Agent α} (h : p.Only fun o : AgentOp => o.leavesCredentials = true) :
    p.Obeys credsMonitor (fun q' _ => q' = q) q :=
  h.obeys (fun _ ho => ⟨allows_leavesCredentials ho, fun r _ => next_leavesCredentials ho r⟩) trivial

/-- Such a part of a start. -/
theorem obeys_quiet_bind {F : CredsPhase → Except PyExc β → Prop} {p : Agent α} {f : α → Agent β}
    (h : p.Only fun o : AgentOp => o.leavesCredentials = true) (hf : ∀ a, (f a).Obeys credsMonitor F q)
    (herror : ∀ e, F q (.error e)) : (p.bind f).Obeys credsMonitor F q := by
  refine (obeys_leavesCredentials h).bind (fun q' a hq => ?_) fun q' e hq => ?_
  · rw [hq]
    exact hf a
  · rw [hq]
    exact herror e

theorem ProbeCalls.leaves {p : Agent α} (h : ProbeCalls p) : p.Only fun o : AgentOp => o.leavesCredentials = true :=
  h.mono fun _ => leavesCredentials_of_isProbe

/-- `load_credentials` returns `None` only after it has found no file. -/
theorem obeys_loadCredentials : (loadCredentials.embed credsCalls).Obeys credsMonitor
    (fun q' x => ∀ creds, x = .ok creds → (creds = none → q' = .absent) ∧ (creds ≠ none → q' = .found)) .fresh := by
  refine Prog.Obeys.embed (Prog.obeys_bind.mpr (Prog.obeys_perform.mpr ⟨rfl, fun r _ => ?_⟩))
  cases r with
  | error e => exact nofun
  | ok present =>
    cases present with
    | false =>
      intro creds h
      obtain rfl := Except.ok.inj h
      exact ⟨fun _ => rfl, fun hno => absurd rfl hno⟩
    | true =>
      refine Prog.obeys_bind.mpr (Prog.obeys_tryCatch.mpr (Prog.obeys_perform.mpr ⟨rfl, fun r _ => ?_⟩))
      cases r with
      | error e => cases e <;> exact nofun
      | ok data =>
        cases data with
        | obj d =>
          intro creds h
          obtain rfl := Except.ok.inj h
          exact ⟨nofun, fun _ => rfl⟩
        | _ => exact nofun

/-- `save_credentials` fills the temporary file before it installs it. -/
theorem obeys_saveCredentials (agent_id agent_secret dashboard_url registered_at : Json) :
    ((saveCredentials agent_id agent_secret dashboard_url registered_at).embed credsCalls).Obeys credsMonitor
      (fun _ _ => True) .absent := by
  have hrecord : IsRecord (credentialsPayload agent_id agent_secret dashboard_url registered_at) :=
    ⟨_, _, _, _, rfl⟩
  refine Prog.Obeys.embed (Prog.obeys_bind.mpr (Prog.obeys_perform.mpr ⟨rfl, fun r _ => ?_⟩))
  cases r with
  | error e => trivial
  | ok _ =>
    refine Prog.obeys_bind.mpr (Prog.obeys_perform.mpr ⟨rfl, fun r _ => ?_⟩)
    cases r with
    | error e => trivial
    | ok _ =>
      -- after a failed write the file is unlinked and nothing is installed
      have hunlink : (credsCall .unlinkTmp).Obeys (credsMonitor.comap credsCalls) (fun _ _ => True) .absent :=
        Prog.obeys_perform.mpr ⟨rfl, fun _ _ => trivial⟩
      have hfill : (fillCredentialsTmp (credentialsPayload agent_id agent_secret dashboard_url registered_at)).Obeys
          (credsMonitor.comap credsCalls)
          (fun q' x => (∃ e, x = .error e) ∨
            q' = .filled (credentialsPayload agent_id agent_secret dashboard_url registered_at)) .absent := by
        have hwrite : ((credsCall (.dump (credentialsPayload agent_id agent_secret dashboard_url registered_at))).bind
            fun _ => credsCall .fsync).Obeys (credsMonitor.comap credsCalls)
            (fun q' x => (∃ e, x = .error e) ∧ q' = .absent ∨
              x = .ok () ∧ q' = .filled (credentialsPayload agent_id agent_secret dashboard_url registered_at))
            .absent := by
          refine Prog.obeys_bind.mpr (Prog.obeys_perform.mpr ⟨⟨rfl, hrecord⟩, fun r _ => ?_⟩)
          cases r with
          | error e => exact Or.inl ⟨⟨e, rfl⟩, rfl⟩
          | ok _ =>
            refine Prog.obeys_perform.mpr ⟨⟨_, rfl, hrecord⟩, fun r _ => ?_⟩
            cases r with
            | error e => exact Or.inl ⟨⟨e, rfl⟩, rfl⟩
            | ok _ => exact Or.inr ⟨rfl, rfl⟩
        refine obeys_fillCredentialsTmp hwrite (fun q' hq => ?_) fun q' e hq => ?_
        · rcases hq with ⟨⟨e, he⟩, -⟩ | ⟨-, hq⟩
          · cases he
          · exact Or.inr hq
        · rcases hq with ⟨-, rfl⟩ | ⟨he, -⟩
          · exact hunlink.mono fun _ _ _ e' => Or.inl ⟨e', rfl⟩
          · cases he
      refine hfill.bind (fun q' _ hq => ?_) fun _ _ _ => trivial
      rcases hq with ⟨e, he⟩ | rfl
      · cases he
      refine Prog.obeys_bind.mpr (Prog.obeys_perform.mpr ⟨⟨_, rfl, hrecord⟩, fun r _ => ?_⟩)
      cases r with
      | error e => trivial
      | ok _ => exact Prog.obeys_perform.mpr ⟨rfl, fun r _ => trivial⟩

theorem obeys_registerWithBackoff (dashboard_url registration_token : String) (body : Dict) (fuel attempt : Nat) :
    (registerWithBackoff dashboard_url registration_token body fuel attempt).Obeys credsMonitor
      (fun q' _ => q' = .absent) .absent := by
  have hcalls : (registerWithBackoff dashboard_url registration_token body fuel attempt).Only fun o : AgentOp =>
      (∃ url token body, o = .register url token body) ∨ o.leavesCredentials = true := by
    induction fuel generalizing attempt with
    | zero => trivial
    | succ fuel ih =>
      refine (only_request (Prog.only_perform (Or.inl ⟨_, _, _, rfl⟩))).attempt.bind fun outcome => ?_
      split
      · trivial
      · split_ifs
        · exact Prog.Only.bind (Prog.only_perform (Or.inr rfl)) fun _ => ih _
        · trivial
      · trivial
  refine hcalls.obeys (fun o ho => ?_) trivial
  rcases ho with ⟨url, token, body, rfl⟩ | ho
  · exact ⟨rfl, fun _ _ => rfl⟩
  · exact ⟨allows_leavesCredentials ho, fun r _ => next_leavesCredentials ho r⟩

/-- A start that cannot load the credentials ends there. -/
theorem obeys_loadOrRefuse {Q : Type} {M : Monitor agentSig PyExc Q} {F : Q → Option Dict → Prop} {q : Q}
    (h : (loadCredentials.embed credsCalls).Obeys M (fun q' x => ∀ creds, x = .ok creds → F q' creds) q) :
    ((loadCredentials.embed credsCalls).tryCatch fun e =>
      .raise (if e = credentialsCorrupt then bootstrapError else e)).Obeys M
      (fun q' x => ∀ creds, x = .ok creds → F q' creds) q := by
  refine Prog.obeys_tryCatch.mpr (h.mono fun q' x hx => ?_)
  cases x with
  | ok creds => exact hx
  | error e => exact nofun

theorem obeys_bootstrapSubsequentRun_creds (rt : Runtime) (creds : Dict) (fuel : Nat) :
    (bootstrapSubsequentRun rt creds fuel).Obeys credsMonitor (fun _ _ => True) q := by
  have hcalls : (bootstrapSubsequentRun rt creds fuel).Only fun o : AgentOp => o.leavesCredentials = true := by
    refine (Prog.only_ofExcept _).bind fun agent_id => (Prog.only_ofExcept _).bind fun agent_secret => ?_
    refine (Prog.only_ofExcept _).bind fun dashboard_url => (Prog.only_ofExcept _).bind fun client => ?_
    exact (probe_fetchInitialConfigWithRetry client _ _ 1 fuel 0).leaves.bind fun _ => trivial
  exact (obeys_leavesCredentials hcalls).mono fun _ _ _ => trivial

theorem obeys_bootstrapFirstRun_creds (rt : Runtime) (env : Env) (agent_version dashboard_url : String) (fuel : Nat) :
    (bootstrapFirstRun rt env agent_version dashboard_url fuel).Obeys credsMonitor (fun _ _ => True) .absent := by
  have hhostname := (probe_resolveAgentHostname rt env).leaves
  have hplatform := (probe_resolvePlatform rt).leaves
  unfold bootstrapFirstRun
  generalize resolveAgentHostname rt env = resolved_hostname at hhostname ⊢
  generalize resolvePlatform rt = resolved_platform at hplatform ⊢
  refine obeys_quiet_bind (Prog.only_ofExcept _) (fun registration_token => ?_) fun _ => trivial
  refine obeys_quiet_bind hhostname (fun hostname => ?_) fun _ => trivial
  refine obeys_quiet_bind hplatform (fun plat => ?_) fun _ => trivial
  refine obeys_quiet_bind (Prog.only_perform rfl) (fun started_at => ?_) fun _ => trivial
  refine (obeys_registerWithBackoff _ _ _ fuel 0).bind (fun q' register_resp hq => ?_) fun _ _ _ => trivial
  obtain rfl : q' = .absent := hq
  refine obeys_quiet_bind (Prog.only_ofExcept _) (fun agent_id => ?_) fun _ => trivial
  refine obeys_quiet_bind (Prog.only_ofExcept _) (fun agent_secret => ?_) fun _ => trivial
  refine obeys_quiet_bind (Prog.only_ofExcept _) (fun registered_at => ?_) fun _ => trivial
  refine (obeys_saveCredentials _ _ _ _).bind (fun q' _ _ => ?_) fun _ _ _ => trivial
  refine obeys_quiet_bind (Prog.only_ofExcept _) (fun client => ?_) fun _ => trivial
  have hfetch := (probe_fetchInitialConfigWithRetry client agent_id agent_secret 1 fuel 0).leaves
  exact obeys_quiet_bind hfetch (fun _ => trivial) fun _ => trivial

/-- **A start registers and saves only while there is no file.** -/
theorem obeys_bootstrap_creds (rt : Runtime) (env : Env) (agent_version : String) (fuel : Nat) :
    (bootstrap rt env agent_version fuel).Obeys credsMonitor (fun _ _ => True) .fresh := by
  unfold bootstrap
  generalize validateNetboxEnv env = validated
  refine obeys_quiet_bind (Prog.only_ofExcept _) (fun dashboard_url_env => ?_) fun _ => trivial
  refine obeys_quiet_bind (Prog.only_ofExcept _) (fun _ => ?_) fun _ => trivial
  refine (obeys_loadOrRefuse obeys_loadCredentials).bind (fun q' creds hq => ?_) fun _ _ _ => trivial
  cases creds with
  | some creds => exact obeys_bootstrapSubsequentRun_creds rt creds fuel
  | none =>
    obtain rfl := (hq none rfl).1 rfl
    exact obeys_bootstrapFirstRun_creds rt env agent_version dashboard_url_env fuel

theorem obeys_mainProgram_creds (setup : Setup) :
    (mainProgram setup).Obeys credsMonitor (fun _ _ => True) .fresh := by
  refine Prog.Obeys.bind (F := fun _ _ => True) ?_ (fun _ _ _ => trivial) fun _ _ _ => trivial
  refine obeys_quiet_bind (Prog.only_perform rfl) (fun process_started_at => ?_) fun _ => trivial
  refine (obeys_bootstrap_creds _ _ _ _).attempt_bind fun q' bootstrapped _ => ?_
  cases bootstrapped with
  | error e => trivial
  | ok result =>
    refine (obeys_leavesCredentials ?_).mono fun _ _ _ => trivial
    exact (launch_replayAndStart setup result process_started_at).mono fun _ => leavesCredentials_of_isLaunch

end Programs

/-! ## A start that fails -/

/-- A record that a start can use: an identity and a secret, and a dashboard to use them with. -/
def Complete (loaded : Except PyExc Json) : Prop :=
  ∃ d : Dict, loaded = .ok (.obj d) ∧ (∃ v, d.get? "agent_id" = some v ∧ v ≠ .null) ∧
    (∃ v, d.get? "agent_secret" = some v ∧ v ≠ .null) ∧ ∃ url, d.get? "dashboard_url" = some (.str url)

/-- The answers of a directory whose `agent.json` stays the one that loads as `loaded`. -/
def AnsweredBy (loaded : Except PyExc Json) : (o : AgentOp) → Except PyExc o.Ret → Prop
  | .creds .pathExists, r => r = .ok true ∨ ∃ e, r = .error (.os e)
  | .creds .read, r => r = loaded ∨ ∃ e, r = .error (.os e)
  | _, _ => True

/-- The only calls of a start that fails on its credentials, in this order. -/
def failingCall : Nat → AgentOp → Prop
  | 0, .now => True
  | 1, .creds .pathExists => True
  | 2, .creds .read => True
  | _, _ => False

/-- Such a start, which must not run out of fuel either. -/
def failingMonitor (loaded : Except PyExc Json) : Monitor agentSig PyExc Nat where
  possible o r := Possible o r ∧ AnsweredBy loaded o r
  allows := failingCall
  next n _ _ := n + 1
  mayHang _ := False

section Failing

variable {loaded : Except PyExc Json} {α β : Type}

theorem obeys_loadCredentials_present : (loadCredentials.embed credsCalls).Obeys (failingMonitor loaded)
    (fun _ x => ∀ creds, x = .ok creds → ∃ d, creds = some d ∧ loaded = .ok (.obj d)) 1 := by
  refine Prog.Obeys.embed (Prog.obeys_bind.mpr (Prog.obeys_perform.mpr ⟨trivial, fun r hr => ?_⟩))
  obtain ⟨-, hanswered⟩ := hr
  cases r with
  | error e => exact nofun
  | ok present =>
    obtain rfl : present = true := by
      rcases hanswered with h | ⟨e, h⟩
      · exact Except.ok.inj h
      · cases h
    refine Prog.obeys_bind.mpr (Prog.obeys_tryCatch.mpr (Prog.obeys_perform.mpr ⟨trivial, fun r hr => ?_⟩))
    obtain ⟨-, hanswered⟩ := hr
    cases r with
    | error e => cases e <;> exact nofun
    | ok data =>
      have hdata : loaded = .ok data := by
        rcases hanswered with h | ⟨e, h⟩
        · exact h.symm
        · cases h
      cases data with
      | obj d =>
        intro creds h
        obtain rfl := Except.ok.inj h
        exact ⟨d, rfl, hdata⟩
      | _ => exact nofun

/-- An incomplete record does not get as far as the first request. -/
theorem obeys_subsequentRun_incomplete (rt : Runtime) {d : Dict} {fuel n : Nat} (hfuel : 0 < fuel)
    (h : ¬ Complete (.ok (.obj d))) :
    (bootstrapSubsequentRun rt d fuel).Obeys (failingMonitor loaded) (fun _ x => ∃ e, x = .error e) n := by
  obtain ⟨fuel, rfl⟩ : ∃ k, fuel = k + 1 := ⟨fuel - 1, by omega⟩
  refine Prog.obeys_ofExcept_bind (fun agent_id hid => ?_) fun e _ => ⟨e, rfl⟩
  refine Prog.obeys_ofExcept_bind (fun agent_secret hsecret => ?_) fun e _ => ⟨e, rfl⟩
  refine Prog.obeys_ofExcept_bind (fun dashboard_url hurl => ?_) fun e _ => ⟨e, rfl⟩
  refine Prog.obeys_ofExcept_bind (fun client hclient => ?_) fun e _ => ⟨e, rfl⟩
  have hget : ∀ {k : String} {v : Json}, d.getItem k = .ok v → d.get? k = some v := by
    intro k v hv
    unfold Dict.getItem at hv
    split at hv
    · rename_i u hu
      rw [hu, Except.ok.inj hv]
    · cases hv
  have hnull : requireCredentials agent_id agent_secret =
      .error (.valueError "operation requires both agent_id and agent_secret on the client") := by
    refine if_pos ?_
    by_contra hboth
    rw [not_or] at hboth
    obtain ⟨url, rfl, -⟩ := dashboardClient_eq_ok.mp hclient
    exact h ⟨d, rfl, ⟨_, hget hid, hboth.1⟩, ⟨_, hget hsecret, hboth.2⟩, url, hget hurl⟩
  have hfetch : (fetchInitialConfigWithRetry client agent_id agent_secret 1 (fuel + 1) 0).Obeys
      (failingMonitor loaded) (fun _ x => ∃ e, x = .error e) n := by
    simp only [fetchInitialConfigWithRetry, hnull]
    exact ⟨_, rfl⟩
  refine hfetch.bind (fun _ _ hok => ?_) fun _ e _ => ⟨e, rfl⟩
  obtain ⟨e, he⟩ := hok
  cases he

theorem obeys_bootstrap_failing (rt : Runtime) (env : Env) (agent_version : String) {fuel : Nat} (hfuel : 0 < fuel)
    (h : ¬ Complete loaded) :
    (bootstrap rt env agent_version fuel).Obeys (failingMonitor loaded) (fun _ x => ∃ e, x = .error e) 1 := by
  refine Prog.obeys_ofExcept_bind (fun dashboard_url_env _ => ?_) fun e _ => ⟨e, rfl⟩
  refine Prog.obeys_ofExcept_bind (fun _ _ => ?_) fun e _ => ⟨e, rfl⟩
  refine (obeys_loadOrRefuse obeys_loadCredentials_present).bind (fun _ creds hcreds => ?_) fun _ e _ => ⟨e, rfl⟩
  obtain ⟨d, rfl, rfl⟩ := hcreds creds rfl
  exact obeys_subsequentRun_incomplete rt hfuel h

/-- **A start on a file that holds no complete record returns 1** after at most three calls, none of which is a
request. -/
theorem obeys_mainProgram_failing (setup : Setup) (hfuel : 0 < setup.fuel) (h : ¬ Complete loaded) :
    (mainProgram setup).Obeys (failingMonitor loaded) (fun _ x => x = .ok (some exitBootstrapFailure)) 0 := by
  have hrun : (runAgent setup).Obeys (failingMonitor loaded) (fun _ x => x = .ok exitBootstrapFailure) 0 := by
    refine Prog.obeys_bind.mpr (Prog.obeys_perform.mpr ⟨trivial, fun r hr => ?_⟩)
    obtain ⟨⟨s, t, rfl⟩, -⟩ := hr
    refine (obeys_bootstrap_failing setup.rt setup.env setup.agent_version hfuel h).attempt_bind
      fun _ bootstrapped hfailed => ?_
    obtain ⟨e, rfl⟩ := hfailed
    rfl
  refine hrun.bind (fun _ code hcode => ?_) fun _ e he => ?_
  · exact congrArg Except.ok (congrArg some (Except.ok.inj hcode))
  · cases he

end Failing

end CertWatch
