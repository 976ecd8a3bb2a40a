/-
# `CertWatch.ActionConfigs` — the config that an action is run against.

A heartbeat response may ask for a refresh and carry actions.  The heartbeat thread refreshes first and fills the
queue afterwards; the queue is first in, first out; a worker looks at the config while it holds the action.  So the
config it sees is no older than the one that was fetched for the action's response, in every interleaving.
-/
import CertWatch.ConfigUse
import CertWatch.ThreadCalls

namespace CertWatch

open CertWatch.Lib

variable {α : Type}

/-! ## Requests under a monitor -/

/-- The request was answered by 2xx with this document. -/
def Accepted (r : Except PyExc HttpResponse) (v : Json) : Prop :=
  ∃ resp, r = .ok resp ∧ 200 ≤ resp.status ∧ resp.status < 300 ∧ resp.body = .json v

theorem requestOutcome_eq_ok {method path : String} {r : Except PyExc HttpResponse} {v : Json} :
    requestOutcome method path r = .ok v ↔ Accepted r v := by
  unfold Accepted
  cases r with
  | error e => cases e <;> simp [requestOutcome]
  | ok resp =>
    simp only [requestOutcome, Except.ok.injEq, exists_eq_left']
    unfold handleResponse
    split_ifs with hstatus
    · cases resp.body <;> simp [hstatus]
    · simp only [false_iff]
      rintro ⟨hlow, hhigh, -⟩
      exact hstatus ⟨hlow, hhigh⟩

theorem obeys_request {S : Sig} {Q : Type} {M : Monitor S PyExc Q} {F : Q → Except PyExc Json → Prop} {q : Q}
    {method path : String} {send : Prog S PyExc HttpResponse} :
    (request method path send).Obeys M F q ↔ send.Obeys M (fun q r => F q (requestOutcome method path r)) q := by
  unfold request
  rw [Prog.bind_eq, Prog.obeys_bind, Prog.obeys_tryCatch]
  refine Prog.obeys_congr fun q r => ?_
  cases r with
  | ok resp => exact Prog.obeys_ofExcept
  | error e => cases e <;> rfl

/-! ## The heartbeat thread -/

/-- The response asks for a refresh of the config. -/
def RequiresRefresh (response : Json) : Prop :=
  ∃ v, response.get "config_refresh_required" = .ok v ∧ v.truthy = true

/-- The action is one of the response's. -/
def CarriesAction (response action : Json) : Prop :=
  ∃ pending items, response.get "pending_actions" = .ok pending ∧ (pending.or (.arr [])).iterate = .ok items ∧
    action ∈ items

/-- The calls since the response: the config was fetched if the response asks for it, and what was fetched is in
force. -/
structure Refreshed (response : Json) (between : List AgentCall) : Prop where
  same_response : ∀ c ∈ between, ∀ body, c.op ≠ .heartbeat body
  fetched : RequiresRefresh response → ∃ client r, ⟨.getConfig client, r⟩ ∈ between
  installed : ∀ client r v, ⟨.getConfig client, r⟩ ∈ between → Accepted r v →
    ∃ config r', v = .obj config ∧ ⟨.configReplace config, r'⟩ ∈ between

/-- The thread is at work on this response, and done with its refresh. -/
def AtWorkOn (response : Json) (cs : List AgentCall) : Prop :=
  ∃ before body r between, cs = before ++ ⟨.heartbeat body, r⟩ :: between ∧ Accepted r response ∧
    Refreshed response between

/-- An action is put into the queue only after the refresh of its response. -/
def refreshesFirst : Monitor agentSig PyExc (List AgentCall) :=
  .history Possible fun cs o => ∀ action, o = .put action →
    ∃ response, CarriesAction response action ∧ AtWorkOn response cs

/-- A call that is neither a heartbeat nor a fetch leaves the work where it is. -/
theorem AtWorkOn.concat {response : Json} {cs : List AgentCall} {o : AgentOp} {r : Except PyExc o.Ret}
    (h : AtWorkOn response cs) (hbeat : ∀ body, o ≠ .heartbeat body) (hfetch : ∀ client, o ≠ .getConfig client) :
    AtWorkOn response (cs ++ [⟨o, r⟩]) := by
  obtain ⟨before, body, answer, between, rfl, haccepted, hsame, hfetched, hinstalled⟩ := h
  refine ⟨before, body, answer, between ++ [⟨o, r⟩], by simp, haccepted, fun c hc => ?_, fun hrequired => ?_,
    fun client r' v hmem hv => ?_⟩
  · rcases List.mem_append.mp hc with hc | hc
    · exact hsame c hc
    · obtain rfl := List.mem_singleton.mp hc
      exact hbeat
  · obtain ⟨client, r', hmem⟩ := hfetched hrequired
    exact ⟨client, r', List.mem_append_left _ hmem⟩
  · have hmem' : ⟨.getConfig client, r'⟩ ∈ between := by
      rcases List.mem_append.mp hmem with hmem | hmem
      · exact hmem
      · exact absurd (congrArg Call.op (List.mem_singleton.mp hmem)).symm (hfetch client)
    obtain ⟨config, r'', hobj, hreplaced⟩ := hinstalled client r' v hmem' hv
    exact ⟨config, r'', hobj, List.mem_append_left _ hreplaced⟩

theorem obeys_withoutPut {p : Agent α} (h : p.Only fun o : AgentOp => ∀ action, o ≠ .put action)
    (cs : List AgentCall) : p.Obeys refreshesFirst (fun _ _ => True) cs :=
  h.obeys_history (I := fun _ => True) (fun _ _ _ _ _ => trivial) (fun _ _ _ ho action hput => absurd hput (ho action))
    trivial

theorem only_withoutPut {o : AgentOp} (h : ∀ action, o ≠ .put action) :
    (agentCall o).Only fun o : AgentOp => ∀ action, o ≠ .put action := Prog.only_perform h

/-- An expression that raises ends the program. -/
theorem obeys_ofExcept_then {β : Type} {M : Monitor agentSig PyExc (List AgentCall)} {x : Except PyExc α}
    {f : α → Agent β} {cs : List AgentCall} (h : ∀ a, x = .ok a → (f a).Obeys M (fun _ _ => True) cs) :
    ((Prog.ofExcept x : Agent α).bind f).Obeys M (fun _ _ => True) cs := by
  refine Prog.obeys_bind.mpr (Prog.obeys_ofExcept.mpr ?_)
  cases x with
  | ok a => exact h a rfl
  | error e => trivial

theorem signalAuthError_withoutPut : signalAuthError.Only fun o : AgentOp => ∀ action, o ≠ .put action :=
  (only_withoutPut (by nofun)).bind fun _ => only_withoutPut (by nofun)

section

variable (rt : Runtime) (agent_version : String) (client : DashboardClient)

/-- **The refresh comes to an end before anything else is done about the response.** -/
theorem obeys_refreshIfRequired {response v : Json} {before : List AgentCall} {body : Dict}
    {r : Except PyExc HttpResponse} (haccepted : Accepted r response)
    (hv : response.get "config_refresh_required" = .ok v) :
    (refreshIfRequired client v).Obeys refreshesFirst (fun cs x => x = .ok () → AtWorkOn response cs)
      (before ++ [⟨.heartbeat body, r⟩]) := by
  unfold refreshIfRequired
  split_ifs with htruthy
  · refine Prog.obeys_bind.mpr (Prog.obeys_attempt.mpr (obeys_request.mpr (Prog.obeys_perform.mpr
      ⟨fun action h => (by cases h), fun answer _ => ?_⟩)))
    cases hfetched : requestOutcome "GET" client.configPath answer with
    | error e =>
      -- nothing was fetched
      have hnone : ∀ v, ¬ Accepted answer v := fun v hv' => by
        rw [requestOutcome_eq_ok.mpr hv'] at hfetched
        cases hfetched
      have hdone : AtWorkOn response (before ++ [⟨.heartbeat body, r⟩] ++ [⟨.getConfig client, answer⟩]) := by
        refine ⟨before, body, r, [⟨.getConfig client, answer⟩], by simp, haccepted, fun c hc => ?_,
          fun _ => ⟨client, answer, ?_⟩, fun client' r' v' hmem hv' => ?_⟩
        · obtain rfl := List.mem_singleton.mp hc
          rintro body ⟨⟩
        · exact List.mem_singleton_self _
        · cases List.mem_singleton.mp hmem
          exact absurd hv' (hnone v')
      cases e with
      | dashboard e =>
        show (if e.kind = .auth then signalAuthError.bind fun _ => .raise shutdownRequested else .ret ()).Obeys _ _ _
        split_ifs
        · refine Prog.Obeys.bind (obeys_withoutPut signalAuthError_withoutPut _) (fun _ _ _ => ?_) fun _ _ _ => ?_
          · rintro ⟨⟩
          · rintro ⟨⟩
        · exact fun _ => hdone
      | _ => rintro ⟨⟩
    | ok new_config =>
      have hfetch := requestOutcome_eq_ok.mp hfetched
      show (installConfig new_config).Obeys _ _ _
      refine Prog.obeys_bind.mpr (Prog.obeys_perform.mpr ⟨fun action h => (by cases h), fun old _ => ?_⟩)
      cases old with
      | error e => rintro ⟨⟩
      | ok old =>
        cases new_config with
        | obj config =>
          refine Prog.obeys_bind.mpr (Prog.obeys_perform.mpr ⟨fun action h => (by cases h), fun replaced _ => ?_⟩)
          cases replaced with
          | error e => rintro ⟨⟩
          | ok u =>
            refine Prog.obeys_bind.mpr (Prog.obeys_ofExcept.mpr ?_)
            have hdone : AtWorkOn response (before ++ [⟨.heartbeat body, r⟩] ++ [⟨.getConfig client, answer⟩] ++
                [⟨.configSnapshot, .ok old⟩] ++ [⟨.configReplace config, .ok u⟩]) := by
              refine ⟨before, body, r, [⟨.getConfig client, answer⟩, ⟨.configSnapshot, .ok old⟩,
                ⟨.configReplace config, .ok u⟩], by simp, haccepted, ?_, fun _ => ⟨client, answer, List.mem_cons_self⟩,
                fun client' r' v' hmem hv' => ?_⟩
              · simp
              · obtain ⟨-, rfl⟩ : client' = client ∧ r' = answer := by simpa using hmem
                obtain ⟨resp, rfl, -, -, hbody⟩ := hfetch
                obtain ⟨resp', heq, -, -, hbody'⟩ := hv'
                obtain rfl := Except.ok.inj heq
                rw [hbody] at hbody'
                obtain rfl : Json.obj config = v' := by simpa using hbody'
                exact ⟨config, .ok u, rfl, by simp⟩
            cases ((Dict.getD config "manual_hosts" (.arr [])).or (.arr [])).len with
            | error e => rintro ⟨⟩
            | ok n => exact fun _ => hdone
        | _ => rintro ⟨⟩
  · -- no refresh was asked for
    have hdone : Refreshed response [] := by
      refine ⟨fun c hc => absurd hc List.not_mem_nil, fun hrequired => ?_,
        fun _ _ _ hmem => absurd hmem List.not_mem_nil⟩
      obtain ⟨v', hv', htruthy'⟩ := hrequired
      obtain rfl := Except.ok.inj (hv.symm.trans hv')
      exact absurd htruthy' htruthy
    have hat : AtWorkOn response (before ++ [⟨.heartbeat body, r⟩]) := ⟨before, body, r, [], rfl, haccepted, hdone⟩
    exact fun _ => hat

/-- What `_enqueue_actions` puts into the queue, it puts there after the refresh. -/
theorem obeys_enqueueEach {response : Json} (now_iso : String) {actions : List Json}
    (hcarries : ∀ action ∈ actions, CarriesAction response action) {cs : List AgentCall}
    (hcs : AtWorkOn response cs) : (enqueueEach now_iso actions).Obeys refreshesFirst (fun _ _ => True) cs := by
  induction actions generalizing cs with
  | nil => trivial
  | cons action actions ih =>
    obtain ⟨haction, hactions⟩ := List.forall_mem_cons.mp hcarries
    refine obeys_ofExcept_then fun expires_at _ => obeys_ofExcept_then fun expired _ => ?_
    split_ifs
    · exact ih hactions hcs
    · refine Prog.obeys_bind.mpr (Prog.obeys_perform.mpr ⟨fun action' hput => ⟨response, ?_, hcs⟩, fun r _ => ?_⟩)
      · rwa [← AgentOp.put.inj hput]
      · cases r with
        | error e => trivial
        | ok u => exact ih hactions (hcs.concat nofun nofun)

/-- **A response is refreshed for before its actions are put into the queue.** -/
theorem obeys_processResponse {response : Json} {before : List AgentCall} {body : Dict}
    {r : Except PyExc HttpResponse} (haccepted : Accepted r response) :
    (processResponse client response).Obeys refreshesFirst (fun _ _ => True) (before ++ [⟨.heartbeat body, r⟩]) := by
  refine obeys_ofExcept_then fun v hv => ?_
  refine (obeys_refreshIfRequired client haccepted hv).bind (fun cs _ hdone => ?_) fun _ _ _ => trivial
  refine obeys_ofExcept_then fun pending hpending => ?_
  show (if (pending.or (.arr [])).truthy = true then enqueueActions (pending.or (.arr [])) else .ret ()).Obeys _ _ _
  split_ifs
  · refine Prog.obeys_bind.mpr (Prog.obeys_perform.mpr ⟨nofun, fun now_iso _ => ?_⟩)
    cases now_iso with
    | error e => trivial
    | ok now_iso =>
      refine obeys_ofExcept_then fun items hitems => ?_
      exact obeys_enqueueEach now_iso (fun action hmem => ⟨pending, items, hpending, hitems, hmem⟩)
        ((hdone rfl).concat nofun nofun)
  · trivial

theorem obeys_doHeartbeat (process_started_at : Rat) (cs : List AgentCall) :
    (doHeartbeat agent_version client process_started_at).Obeys refreshesFirst (fun _ _ => True) cs := by
  have hargs : (buildHeartbeatArgs agent_version process_started_at).Only
      fun o : AgentOp => ∀ action, o ≠ .put action :=
    (only_withoutPut (by nofun)).bind fun _ => (only_withoutPut (by nofun)).bind fun _ =>
      (only_withoutPut (by nofun)).bind fun _ => (only_withoutPut (by nofun)).bind fun _ =>
        (Prog.only_ofExcept _).bind fun _ => (Prog.only_ofExcept _).bind fun _ => trivial
  refine (obeys_withoutPut hargs cs).bind (fun cs' args _ => ?_) fun _ _ _ => trivial
  refine Prog.obeys_bind.mpr (Prog.obeys_attempt.mpr (obeys_request.mpr (Prog.obeys_perform.mpr
    ⟨nofun, fun answer _ => ?_⟩)))
  cases houtcome : requestOutcome "POST" client.heartbeatPath answer with
  | ok response => exact obeys_processResponse client (requestOutcome_eq_ok.mp houtcome)
  | error e =>
    cases e with
    | dashboard e =>
      show (if e.kind = .auth then signalAuthError.bind fun _ => .raise shutdownRequested else .ret () :
        Agent Unit).Obeys _ _ _
      split_ifs
      · exact (obeys_withoutPut signalAuthError_withoutPut _).bind (fun _ _ _ => trivial) fun _ _ _ => trivial
      · trivial
    | _ => trivial

theorem obeys_heartbeatLoop (process_started_at : Rat) (fuel : Nat) (cs : List AgentCall) :
    (heartbeatLoop rt agent_version client process_started_at fuel).Obeys refreshesFirst (fun _ _ => True) cs := by
  induction fuel generalizing cs with
  | zero => trivial
  | succ fuel ih =>
    refine (obeys_withoutPut (only_withoutPut (by nofun)) cs).bind (fun cs₁ stopping _ => ?_) fun _ _ _ => trivial
    split_ifs
    · trivial
    refine (obeys_doHeartbeat agent_version client process_started_at cs₁).attempt_bind fun cs₂ tick _ => ?_
    cases tick with
    | error e =>
      show (if e = shutdownRequested then .ret () else .raise e : Agent Unit).Obeys _ _ _
      split_ifs <;> trivial
    | ok u =>
      have hwait : (waitInterval rt "heartbeat_seconds").Only fun o : AgentOp => ∀ action, o ≠ .put action :=
        ((only_withoutPut (by nofun)).bind fun _ => Prog.only_ofExcept _).bind fun _ => only_withoutPut (by nofun)
      refine (obeys_withoutPut hwait cs₂).bind (fun cs₃ woke_early _ => ?_) fun _ _ _ => trivial
      split_ifs
      · trivial
      · exact ih cs₃

/-- **The heartbeat thread refreshes first.** -/
theorem obeys_heartbeatThread_refreshesFirst (process_started_at : Rat) (fuel : Nat) :
    (heartbeatThread rt agent_version client process_started_at fuel).Obeys refreshesFirst (fun _ _ => True) [] := by
  refine Prog.obeys_tryCatch.mpr ((obeys_heartbeatLoop rt agent_version client process_started_at fuel []).mono ?_)
  intro cs x _
  cases x with
  | ok u => trivial
  | error e =>
    have hcatch : (agentCall (.unhandledException "heartbeat_thread_unhandled_exception")).bind (fun _ =>
        agentCall (.set .shutdown)) |>.Only fun o : AgentOp => ∀ action, o ≠ .put action :=
      (only_withoutPut (by nofun)).bind fun _ => only_withoutPut (by nofun)
    exact obeys_withoutPut hcatch cs

end

/-! ## The workers -/

/-- The action that a worker has taken last. -/
def Holding (action : Json) (cs : List AgentCall) : Prop :=
  ∃ before between, cs = before ++ ⟨.get, .ok action⟩ :: between ∧ ∀ c ∈ between, c.op ≠ .get

/-- The action is one for the `check_host` handler. -/
def IsCheckHost (action : Json) : Prop := action.getOr "action_type" (.str "<missing>") = .ok (.str "check_host")

/-- A worker looks at the config only for a `check_host` action that it holds. -/
def looksWhileHolding : Monitor agentSig PyExc (List AgentCall) :=
  .history Possible fun cs o => o = .configSnapshot → ∃ action, IsCheckHost action ∧ Holding action cs

theorem Holding.concat {action : Json} {cs : List AgentCall} {o : AgentOp} {r : Except PyExc o.Ret}
    (h : Holding action cs) (ho : o ≠ .get) : Holding action (cs ++ [⟨o, r⟩]) := by
  obtain ⟨before, between, rfl, hnone⟩ := h
  refine ⟨before, between ++ [⟨o, r⟩], by simp, fun c hc => ?_⟩
  rcases List.mem_append.mp hc with hc | hc
  · exact hnone c hc
  · rw [List.mem_singleton.mp hc]
    exact ho

theorem obeys_withoutSnapshot {p : Agent α} (h : p.Only fun o : AgentOp => o ≠ .configSnapshot)
    (cs : List AgentCall) : p.Obeys looksWhileHolding (fun _ _ => True) cs :=
  h.obeys_history (I := fun _ => True) (fun _ _ _ _ _ => trivial) (fun _ _ _ ho hsnapshot => absurd hsnapshot ho)
    trivial

/-- The handler of a `check_host` action. -/
theorem obeys_onDemand {p : Agent α} (h : OnDemandCalls p) {action : Json} {cs : List AgentCall}
    (haction : IsCheckHost action) (hcs : Holding action cs) : p.Obeys looksWhileHolding (fun _ _ => True) cs := by
  refine (h.obeys_history (I := Holding action) (fun _ o _ hI ho => hI.concat ?_)
    (fun _ _ hI _ _ => ⟨action, haction, hI⟩) hcs).mono fun _ _ _ => trivial
  rintro rfl
  cases ho

section

variable (rt : Runtime) (client : DashboardClient)

/-- **A dispatched action is looked at with the config that is in force while it is held.** -/
theorem obeys_dispatch (netbox_client : Option NetBoxClient) (fuel : Nat) {action : Json} {cs : List AgentCall}
    (hcs : Holding action cs) :
    (dispatch rt client netbox_client fuel action).Obeys looksWhileHolding (fun _ _ => True) cs := by
  refine obeys_ofExcept_then fun action_id _ => obeys_ofExcept_then fun action_type htype =>
    obeys_ofExcept_then fun expires_at _ => ?_
  refine Prog.obeys_bind.mpr (Prog.obeys_perform.mpr ⟨nofun, fun now _ => ?_⟩)
  cases now with
  | error e => trivial
  | ok now =>
    refine obeys_ofExcept_then fun expired _ => ?_
    split_ifs
    · trivial
    refine Prog.obeys_bind.mpr (Prog.obeys_perform.mpr ⟨nofun, fun stopping _ => ?_⟩)
    have hcs' := hcs.concat (r := .ok now) (by nofun : AgentOp.utcNowIso ≠ .get)
    cases stopping with
    | error e => trivial
    | ok stopping =>
      show (if stopping = true then _ else _ : Agent Unit).Obeys _ _ _
      split_ifs
      · trivial
      refine obeys_ofExcept_then fun handler hhandler => ?_
      cases handler with
      | none => trivial
      | some handler =>
        refine obeys_ofExcept_then fun payload _ => obeys_ofExcept_then fun queued_at _ => ?_
        unfold handlerFor at hhandler
        split at hhandler
        · cases hhandler
        · cases hhandler
        · obtain rfl := Option.some.inj (Except.ok.inj hhandler)
          exact obeys_onDemand (onDemand_checkHost rt client fuel _) htype (hcs'.concat nofun)
        · obtain rfl := Option.some.inj (Except.ok.inj hhandler)
          refine obeys_withoutSnapshot ?_ _
          cases netbox_client with
          | none => trivial
          | some netbox_client => exact (Prog.only_embed syncCalls (fun _ => by nofun) _).bind fun _ => trivial
        · cases hhandler

theorem obeys_processAction (netbox_client : Option NetBoxClient) (fuel : Nat) {action : Json} {cs : List AgentCall}
    (hcs : Holding action cs) :
    (processAction rt client netbox_client fuel action).Obeys looksWhileHolding (fun _ _ => True) cs := by
  refine (obeys_dispatch rt client netbox_client fuel hcs).attempt_bind fun cs₁ outcome _ => ?_
  have hhandled : (handleDispatched action outcome).Only fun o : AgentOp => o ≠ .configSnapshot := by
    cases outcome with
    | ok u => trivial
    | error e =>
      refine (Prog.only_ofExcept _).bind fun _ => ?_
      split_ifs
      · exact (Prog.only_perform nofun).bind fun _ => Prog.only_perform nofun
      · trivial
  exact obeys_withoutSnapshot
    (hhandled.attempt.bind fun _ => (Prog.only_perform nofun).bind fun _ => Prog.only_ofExcept _) _

/-- **A worker looks at the config only while it holds an action.** -/
theorem obeys_workerLoop (netbox_client : Option NetBoxClient) (fuel : Nat) (cs : List AgentCall) :
    (workerLoop rt client netbox_client fuel).Obeys looksWhileHolding (fun _ _ => True) cs := by
  induction fuel generalizing cs with
  | zero => trivial
  | succ fuel ih =>
    have hlook : (agentCall (.isSet .shutdown)).Only fun o : AgentOp => o ≠ .configSnapshot :=
      Prog.only_perform (by nofun)
    refine (obeys_withoutSnapshot hlook cs).bind (fun cs₁ stopping _ => ?_) fun _ _ _ => trivial
    split_ifs
    · trivial
    refine Prog.obeys_bind.mpr (Prog.obeys_attempt.mpr (Prog.obeys_perform.mpr ⟨nofun, fun taken _ => ?_⟩))
    cases taken with
    | error e =>
      show (if e = queueEmpty then workerLoop rt client netbox_client fuel else .raise e).Obeys _ _ _
      split_ifs
      · exact ih _
      · trivial
    | ok action =>
      have hheld : Holding action (cs₁ ++ [⟨.get, .ok action⟩]) :=
        ⟨cs₁, [], rfl, fun c hc => absurd hc List.not_mem_nil⟩
      exact (obeys_processAction rt client netbox_client fuel hheld).bind (fun cs₂ _ _ => ih cs₂) fun _ _ _ => trivial

end

end CertWatch
