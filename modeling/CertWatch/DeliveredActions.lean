/-
# `CertWatch.DeliveredActions` — which heartbeat responses get all their actions into the queue.

One round of the heartbeat loop, for a 2xx response with a list of actions.  Nothing guards the entries or the
refresh, so the round goes through exactly when none of the expressions on the way raises; then every action that
is not expired is in the queue, in order.
-/
import CertWatch.ConfigUse
import CertWatch.ScriptedAgent

namespace CertWatch

open CertWatch.Lib

/-! ## A round -/

/-- What a round of the heartbeat loop meets: a config that the request can be built from, a 2xx response with a
list of actions, and a refresh that is not answered 401, in case it is asked for. -/
structure HeartbeatRound where
  config : Dict
  config_version : ∃ v n, config.get? "config_version" = some v ∧ v.toInt = .ok n
  response : Dict
  actions : List Json
  pending_actions : Dict.getD response "pending_actions" .null = .arr actions
  status : Nat
  accepted : 200 ≤ status ∧ status < 300
  get_config : Except PyExc HttpResponse
  not_auth : isAuthFailure get_config = false ∧ ∀ resp, get_config = .ok resp → resp.status ≠ 401
  utc_now_iso : String
  timeout_max : Rat

/-- What the round changes, and how often the loop has looked at the shutdown event. -/
structure RoundState where
  config : Dict
  queue : List Json := []
  looks : Nat := 0

namespace HeartbeatRound

variable (round : HeartbeatRound)

/-- The surroundings of the round; the shutdown event is set once the loop is at its next look. -/
def answer : (o : AgentOp) → RoundState → Except PyExc o.Ret × RoundState
  | .isSet _, s => (.ok (0 < s.looks), { s with looks := s.looks + 1 })
  | .configSnapshot, s => (.ok s.config, s)
  | .configReplace config, s => (.ok (), { s with config })
  | .statsSnapshot, s => (.ok none, s)
  | .now, s => (.ok 0, s)
  | .utcNowIso, s => (.ok round.utc_now_iso, s)
  | .heartbeat _, s => (.ok ⟨round.status, .json (.obj round.response)⟩, s)
  | .getConfig _, s => (round.get_config, s)
  | .put action, s => (.ok (), { s with queue := s.queue ++ [action] })
  | .waitFor seconds, s => (waitForUnset round.timeout_max seconds, s)
  | _, s => (.error (.other "unused"), s)

/-- There is no `expires_at`, or it is not before now. -/
def unexpired (now_iso : String) : Json → Bool
  | .null => true
  | .str expires_at => !decide (expires_at < now_iso)
  | _ => false

/-- An action that the dashboard expects to be carried out. -/
def deliverable (action : Json) : Bool :=
  match action with
  | .obj d => unexpired round.utc_now_iso (Dict.getD d "expires_at" .null)
  | _ => false

section

variable (rt : Runtime) (agent_version : String) (client : DashboardClient) (process_started_at : Rat)

/-- The round, and the look at the shutdown event that begins the next one. -/
def played : Option (Except PyExc Unit) × RoundState :=
  (heartbeatLoop rt agent_version client process_started_at 2).run round.answer { config := round.config }

/-- Every deliverable action is in the queue once and in order, and the loop is at its next tick. -/
def Delivers : Prop :=
  (round.played rt agent_version client process_started_at).2.queue.filter round.deliverable =
      round.actions.filter round.deliverable ∧
    (round.played rt agent_version client process_started_at).2.looks = 2

end

/-! ## When the round goes through -/

/-- The config that a refresh installs. -/
def installed : Option Dict :=
  if (Dict.getD round.response "config_refresh_required" .null).truthy then
    match round.get_config with
    | .ok resp => match resp.body with
      | .json (.obj config) => if 200 ≤ resp.status ∧ resp.status < 300 then some config else none
      | _ => none
    | .error _ => none
  else
    none

/-- The refresh raises nothing: it is not asked for, or it fails as a dashboard call does, or it is answered with
an object whose manual hosts can be counted. -/
def RefreshReturns : Prop :=
  (Dict.getD round.response "config_refresh_required" .null).truthy = true →
    match round.get_config with
    | .ok resp => 200 ≤ resp.status ∧ resp.status < 300 → match resp.body with
      | .json (.obj config) => (Dict.getD config "manual_hosts" (.arr [])).Countable
      | .json _ => False
      | .notJson => True
    | .error .requests => True
    | .error (.dashboard _) => True
    | .error _ => False

/-- An entry of which `expires_at` can be compared. -/
def Comparable (action : Json) : Prop :=
  ∃ d, action = .obj d ∧
    ((Dict.getD d "expires_at" .null).truthy = true → (Dict.getD d "expires_at" .null).isStr = true)

/-- Nothing on the way raises. -/
structure Sound (rt : Runtime) : Prop where
  refresh : round.RefreshReturns
  entries : ∀ action ∈ round.actions, Comparable action
  interval : WaitableInterval rt round.timeout_max "heartbeat_seconds" (round.installed.getD round.config)

/-! ## The parts of a round -/

section

variable {round}

theorem run_agentCall_bind {β : Type} {o : AgentOp} {f : o.Ret → Agent β} {s t : RoundState} {a : o.Ret}
    (h : round.answer o s = (.ok a, t)) :
    ((agentCall o).bind f).run round.answer s = (f a).run round.answer t := by
  rw [Prog.run_bind, Prog.run_perform, h]
  rfl

theorem run_ofExcept_bind {α β : Type} {x : Except PyExc α} {f : α → Agent β} {s : RoundState} {a : α}
    (h : x = .ok a) : ((Prog.ofExcept x : Agent α).bind f).run round.answer s = (f a).run round.answer s := by
  rw [h]
  rfl

/-- The program raises, without a look at the shutdown event. -/
def Raises {α : Type} (round : HeartbeatRound) (p : Agent α) (s : RoundState) : Prop :=
  ∃ e s', p.run round.answer s = (some (.error e), s') ∧ s'.looks = s.looks

theorem Raises.bind {α β : Type} {p : Agent α} {f : α → Agent β} {s : RoundState} (h : Raises round p s) :
    Raises round (p.bind f) s := by
  obtain ⟨e, s', hrun, hlooks⟩ := h
  exact ⟨e, s', by rw [Prog.run_bind, hrun]; rfl, hlooks⟩

/-- A part that goes through. -/
theorem Raises.after {α β : Type} {p : Agent α} {f : α → Agent β} {s t : RoundState} {a : α}
    (hp : p.run round.answer s = (some (.ok a), t)) (hlooks : t.looks = s.looks) (h : Raises round (f a) t) :
    Raises round (p.bind f) s := by
  obtain ⟨e, s', hrun, hlooks'⟩ := h
  refine ⟨e, s', ?_, hlooks'.trans hlooks⟩
  rw [Prog.run_bind, hp]
  exact hrun

theorem raises_ofExcept {α : Type} {e : PyExc} {s : RoundState} :
    Raises round (Prog.ofExcept (.error e) : Agent α) s := ⟨e, s, rfl, rfl⟩

/-! ### The refresh -/

variable (client : DashboardClient)

theorem run_getConfig (s : RoundState) :
    (getConfig client).run round.answer s = (some (requestOutcome "GET" client.configPath round.get_config), s) :=
  run_request (Prog.run_perform _ _ _)

theorem run_installConfig {config : Dict} (s : RoundState) (h : (Dict.getD config "manual_hosts" (.arr [])).Countable) :
    (installConfig (.obj config)).run round.answer s = (some (.ok ()), { s with config }) := by
  obtain ⟨n, hn⟩ := (len_or_empty _).mpr h
  unfold installConfig
  simp only [Prog.bind_eq]
  rw [run_agentCall_bind (a := s.config) (t := s) rfl, run_agentCall_bind (a := ()) (t := { s with config }) rfl,
    run_ofExcept_bind hn]
  rfl

theorem raises_installConfig {new_config : Json} (s : RoundState)
    (h : ∀ config, new_config = .obj config → ¬ (Dict.getD config "manual_hosts" (.arr [])).Countable) :
    Raises round (installConfig new_config) s := by
  refine Raises.after (t := s) (a := s.config) rfl rfl ?_
  cases new_config with
  | obj config =>
    refine Raises.after (t := { s with config }) (a := ()) rfl rfl ?_
    have hlen : ∀ n, ((Dict.getD config "manual_hosts" (.arr [])).or (.arr [])).len ≠ .ok n := fun n hn =>
      h config rfl ((len_or_empty _).mp ⟨n, hn⟩)
    cases hx : ((Dict.getD config "manual_hosts" (.arr [])).or (.arr [])).len with
    | ok n => exact absurd hx (hlen n)
    | error e => exact raises_ofExcept.bind
  | _ => exact ⟨_, _, rfl, rfl⟩

/-- What is left of a refresh once the document is fetched, or not. -/
def afterFetch (fetched : Except PyExc Json) : Agent Unit :=
  match fetched with
  | .ok new_config => installConfig new_config
  | .error (.dashboard e) =>
    if e.kind = .auth then do
      signalAuthError
      .raise shutdownRequested
    else
      return ()
  | .error e => .raise e

theorem run_refreshConfig (s : RoundState) : (refreshConfig client).run round.answer s =
    (afterFetch (requestOutcome "GET" client.configPath round.get_config)).run round.answer s := by
  unfold refreshConfig
  rw [Prog.bind_eq, Prog.run_bind, Prog.run_attempt, run_getConfig]
  rfl

/-- A dashboard error other than a 401 leaves everything as it is. -/
theorem run_afterFetch_dashboard {e : DashboardError} (s : RoundState)
    (h : isAuthFailure (.error (.dashboard e) : Except PyExc Json) = false) :
    (afterFetch (.error (.dashboard e))).run round.answer s = (some (.ok ()), s) := by
  have hkind : e.kind ≠ .auth := by
    change (e.kind == .auth) = false at h
    exact beq_eq_false_iff_ne.mp h
  show (if e.kind = .auth then _ else _ : Agent Unit).run round.answer s = _
  rw [if_neg hkind]
  rfl

/-- What a fetched document makes of a refresh: it goes through with the config that it installs, or raises. -/
theorem run_afterFetch (s : RoundState)
    (hrequired : (Dict.getD round.response "config_refresh_required" .null).truthy = true) :
    (round.RefreshReturns → (afterFetch (requestOutcome "GET" client.configPath round.get_config)).run round.answer s =
        (some (.ok ()), { s with config := round.installed.getD s.config })) ∧
      (¬ round.RefreshReturns →
        Raises round (afterFetch (requestOutcome "GET" client.configPath round.get_config)) s) := by
  have hnot := @requestOutcome_not_auth "GET" client.configPath _ round.not_auth.1 round.not_auth.2
  unfold RefreshReturns installed
  simp only [hrequired, if_true, forall_const]
  cases hget : round.get_config with
  | error e =>
    rw [hget] at hnot
    cases e with
    | requests => exact ⟨fun _ => run_afterFetch_dashboard s hnot, fun h => absurd trivial h⟩
    | dashboard e => exact ⟨fun _ => run_afterFetch_dashboard s hnot, fun h => absurd trivial h⟩
    | _ => exact ⟨False.elim, fun _ => ⟨_, s, rfl, rfl⟩⟩
  | ok resp =>
    rw [hget] at hnot
    show (_ → (afterFetch (handleResponse "GET" client.configPath resp)).run round.answer s = _) ∧
      (_ → Raises round (afterFetch (handleResponse "GET" client.configPath resp)) s)
    by_cases haccepted : 200 ≤ resp.status ∧ resp.status < 300
    · simp only [handleResponse, haccepted, and_self, if_true, forall_const]
      cases resp.body with
      | notJson => exact ⟨fun _ => run_afterFetch_dashboard s rfl, fun h => absurd trivial h⟩
      | json v =>
        show (_ → (installConfig v).run round.answer s = _) ∧ (_ → Raises round (installConfig v) s)
        cases v with
        | obj config =>
          refine ⟨fun h => run_installConfig s h, fun h => raises_installConfig s fun config' heq => ?_⟩
          obtain rfl := Json.obj.inj heq
          exact h
        | _ =>
          refine ⟨False.elim, fun _ => raises_installConfig s fun config heq => ?_⟩
          cases heq
    · -- any other answer than 401 is a dashboard error, which a refresh survives
      obtain ⟨e, he, -⟩ := @handleResponse_error "GET" client.configPath _ haccepted
      change isAuthFailure (handleResponse "GET" client.configPath resp) = false at hnot
      rw [he] at hnot ⊢
      refine ⟨fun _ => ?_, fun h => absurd (fun hyes => absurd hyes haccepted) h⟩
      rw [run_afterFetch_dashboard s hnot]
      obtain ⟨status, body⟩ := resp
      cases body with
      | notJson => rfl
      | json v => cases v <;> simp [haccepted]

/-- **The refresh.** -/
theorem run_refreshIfRequired (s : RoundState) (h : round.RefreshReturns) :
    (refreshIfRequired client (Dict.getD round.response "config_refresh_required" .null)).run round.answer s =
      (some (.ok ()), { s with config := round.installed.getD s.config }) := by
  by_cases hrequired : (Dict.getD round.response "config_refresh_required" .null).truthy = true
  · rw [refreshIfRequired, if_pos hrequired, run_refreshConfig]
    exact (run_afterFetch client s hrequired).1 h
  · rw [refreshIfRequired, if_neg hrequired, installed, if_neg hrequired]
    rfl

theorem raises_refreshIfRequired (s : RoundState) (h : ¬ round.RefreshReturns) :
    Raises round (refreshIfRequired client (Dict.getD round.response "config_refresh_required" .null)) s := by
  by_cases hrequired : (Dict.getD round.response "config_refresh_required" .null).truthy = true
  · rw [refreshIfRequired, if_pos hrequired, Raises, run_refreshConfig]
    exact (run_afterFetch client s hrequired).2 h
  · exact absurd (fun hyes => absurd hyes hrequired) h

/-! ### The actions -/

/-- An entry with this `expires_at` goes into the queue. -/
def keptAt (now_iso : String) (expires_at : Json) : Bool :=
  match expires_at with
  | .str t => t == "" || !decide (t < now_iso)
  | _ => true

/-- The entry goes into the queue. -/
def kept (round : HeartbeatRound) (action : Json) : Bool :=
  match action with
  | .obj d => keptAt round.utc_now_iso (Dict.getD d "expires_at" .null)
  | _ => true

theorem isExpired_comparable {now_iso : String} {expires_at : Json}
    (h : expires_at.truthy = true → expires_at.isStr = true) :
    isExpired expires_at now_iso = .ok (!keptAt now_iso expires_at) := by
  unfold isExpired
  cases expires_at with
  | str t => by_cases ht : t = "" <;> simp [Json.truthy, Json.ltStr, keptAt, ht]
  | _ =>
    split_ifs with htruthy
    · cases h htruthy
    · rfl

theorem expiry_of_comparable (round : HeartbeatRound) {action : Json} (h : Comparable action) :
    ∃ expires_at, action.get "expires_at" = .ok expires_at ∧
      isExpired expires_at round.utc_now_iso = .ok (!kept round action) := by
  obtain ⟨d, rfl, hcomparable⟩ := h
  exact ⟨_, rfl, isExpired_comparable hcomparable⟩

theorem expiry_of_not_comparable (round : HeartbeatRound) {action : Json} (h : ¬ Comparable action) :
    (∃ e, action.get "expires_at" = .error e) ∨
      ∃ expires_at e, action.get "expires_at" = .ok expires_at ∧ isExpired expires_at round.utc_now_iso = .error e := by
  cases action with
  | obj d =>
    refine Or.inr ⟨_, .typeError, rfl, ?_⟩
    have hbad : (Dict.getD d "expires_at" .null).truthy = true ∧ (Dict.getD d "expires_at" .null).isStr = false := by
      by_contra hgood
      refine h ⟨d, rfl, fun htruthy => ?_⟩
      by_contra hstr
      exact hgood ⟨htruthy, Bool.eq_false_iff.mpr hstr⟩
    rw [isExpired, if_pos hbad.1]
    generalize Dict.getD d "expires_at" .null = expires_at at hbad
    cases expires_at with
    | str t => cases hbad.2
    | _ => rfl
  | _ => exact Or.inl ⟨_, rfl⟩

/-- The entries that are kept, in order. -/
theorem run_enqueueEach (actions : List Json) (s : RoundState) (h : ∀ action ∈ actions, Comparable action) :
    (enqueueEach round.utc_now_iso actions).run round.answer s =
      (some (.ok ()), { s with queue := s.queue ++ actions.filter (kept round) }) := by
  induction actions generalizing s with
  | nil => simp [enqueueEach]
  | cons action actions ih =>
    obtain ⟨haction, hactions⟩ := List.forall_mem_cons.mp h
    obtain ⟨expires_at, hget, hexpired⟩ := expiry_of_comparable round haction
    unfold enqueueEach
    simp only [Prog.bind_eq]
    rw [run_ofExcept_bind hget, run_ofExcept_bind hexpired]
    cases hkept : kept round action with
    | true =>
      show ((agentCall (.put action)).bind _).run round.answer s = _
      rw [run_agentCall_bind (a := ()) (t := { s with queue := s.queue ++ [action] }) rfl, ih _ hactions,
        List.filter_cons_of_pos hkept]
      simp
    | false =>
      show (enqueueEach round.utc_now_iso actions).run round.answer s = _
      rw [ih _ hactions, List.filter_cons_of_neg (by simp [hkept])]

theorem raises_enqueueEach (actions : List Json) (s : RoundState) (h : ¬ ∀ action ∈ actions, Comparable action) :
    Raises round (enqueueEach round.utc_now_iso actions) s := by
  induction actions generalizing s with
  | nil => exact absurd (fun action hmem => by cases hmem) h
  | cons action actions ih =>
    by_cases haction : Comparable action
    · have hactions : ¬ ∀ action ∈ actions, Comparable action := fun hall =>
        h (List.forall_mem_cons.mpr ⟨haction, hall⟩)
      obtain ⟨expires_at, hget, hexpired⟩ := expiry_of_comparable round haction
      refine Raises.after (t := s) (a := expires_at) (by rw [hget]; rfl) rfl ?_
      refine Raises.after (t := s) (a := !kept round action) (by rw [hexpired]; rfl) rfl ?_
      cases kept round action with
      | true => exact Raises.after (t := { s with queue := s.queue ++ [action] }) (a := ()) rfl rfl (ih _ hactions)
      | false => exact ih _ hactions
    · rcases expiry_of_not_comparable round haction with ⟨e, he⟩ | ⟨expires_at, e, hget, he⟩
      · refine Raises.bind ?_
        rw [he]
        exact raises_ofExcept
      · refine Raises.after (t := s) (a := expires_at) (by rw [hget]; rfl) rfl (Raises.bind ?_)
        rw [he]
        exact raises_ofExcept

/-! ### The response and the wait -/

theorem run_processResponse (s : RoundState) (hrefresh : round.RefreshReturns)
    (hentries : ∀ action ∈ round.actions, Comparable action) :
    (processResponse client (.obj round.response)).run round.answer s =
      (some (.ok ()), { s with
        config := round.installed.getD s.config, queue := s.queue ++ round.actions.filter (kept round) }) := by
  unfold processResponse
  simp only [Prog.bind_eq]
  rw [run_ofExcept_bind (Json.get_obj _ _), Prog.run_bind, run_refreshIfRequired client s hrefresh, Prog.andThen_ok,
    run_ofExcept_bind (Json.get_obj _ _), round.pending_actions]
  cases hactions : round.actions with
  | nil => simp [Json.or, Json.truthy]
  | cons action actions =>
    show (enqueueActions (.arr (action :: actions))).run round.answer _ = _
    rw [← hactions]
    unfold enqueueActions
    simp only [Prog.bind_eq]
    have hitems : (Json.arr round.actions).iterate = .ok round.actions := rfl
    rw [run_agentCall_bind (a := round.utc_now_iso) rfl, run_ofExcept_bind hitems, run_enqueueEach _ _ hentries]

theorem raises_processResponse (s : RoundState)
    (h : ¬ (round.RefreshReturns ∧ ∀ action ∈ round.actions, Comparable action)) :
    Raises round (processResponse client (.obj round.response)) s := by
  refine Raises.after (t := s) (a := Dict.getD round.response "config_refresh_required" .null) rfl rfl ?_
  by_cases hrefresh : round.RefreshReturns
  · have hentries : ¬ ∀ action ∈ round.actions, Comparable action := fun hall => h ⟨hrefresh, hall⟩
    refine Raises.after (t := { s with config := round.installed.getD s.config }) (a := ())
      (run_refreshIfRequired client s hrefresh) rfl ?_
    refine Raises.after (t := _) (a := .arr round.actions) ?_ rfl ?_
    · rw [Json.get_obj, round.pending_actions]
      rfl
    cases hactions : round.actions with
    | nil => exact absurd (fun action hmem => by rw [hactions] at hmem; cases hmem) hentries
    | cons action actions =>
      show Raises round (enqueueActions (.arr (action :: actions))) _
      rw [← hactions]
      refine Raises.after (t := _) (a := round.utc_now_iso) rfl rfl ?_
      exact Raises.after (t := _) (a := round.actions) rfl rfl (raises_enqueueEach _ _ hentries)
  · exact (raises_refreshIfRequired client s hrefresh).bind

variable (rt : Runtime)

theorem run_waitInterval (key : String) (s : RoundState) (h : WaitableInterval rt round.timeout_max key s.config) :
    (waitInterval rt key).run round.answer s = (some (.ok false), s) := by
  obtain ⟨intervals, v, seconds, hintervals, hv, hfloat, hwaitable⟩ := h
  have hinterval : intervalSeconds rt key s.config = .ok seconds :=
    intervalSeconds_eq_ok.mpr ⟨intervals, v, hintervals, hv, hfloat⟩
  have hcurrent : (currentInterval rt key).run round.answer s = (some (.ok seconds), s) := by
    unfold currentInterval
    simp only [Prog.bind_eq]
    rw [run_agentCall_bind (a := s.config) rfl, hinterval]
    rfl
  unfold waitInterval
  simp only [Prog.bind_eq]
  rw [Prog.run_bind, hcurrent, Prog.andThen_ok, Prog.run_perform]
  show (some (waitForUnset round.timeout_max seconds), s) = _
  rw [waitForUnset_waitable hwaitable]

theorem raises_waitInterval (key : String) (s : RoundState) (h : ¬ WaitableInterval rt round.timeout_max key s.config) :
    Raises round (waitInterval rt key) s := by
  cases hinterval : intervalSeconds rt key s.config with
  | error e =>
    refine Raises.bind (Raises.after (t := s) (a := s.config) rfl rfl ?_)
    rw [hinterval]
    exact raises_ofExcept
  | ok seconds =>
    obtain ⟨intervals, v, hintervals, hv, hfloat⟩ := intervalSeconds_eq_ok.mp hinterval
    have hnot : ¬ seconds.Waitable round.timeout_max := fun hwaitable =>
      h ⟨intervals, v, seconds, hintervals, hv, hfloat, hwaitable⟩
    refine Raises.after (t := s) (a := seconds) ?_ rfl ?_
    · unfold currentInterval
      simp only [Prog.bind_eq]
      rw [run_agentCall_bind (a := s.config) rfl, hinterval]
      rfl
    · refine ⟨.overflowError, s, ?_, rfl⟩
      rw [Prog.run_perform]
      show (some (waitForUnset round.timeout_max seconds), s) = _
      rw [waitForUnset_not_waitable hnot]

/-! ### The round -/

variable (agent_version : String) (process_started_at : Rat)

theorem run_sendHeartbeat (args : HeartbeatArgs) (s : RoundState) :
    (sendHeartbeat client args).run round.answer s = (some (.ok (.obj round.response)), s) := by
  unfold sendHeartbeat
  rw [run_request (Prog.run_perform (S := agentSig) round.answer (AgentOp.heartbeat args.body) s)]
  show (some (handleResponse "POST" client.heartbeatPath ⟨round.status, .json (.obj round.response)⟩), s) = _
  rw [handleResponse, if_pos round.accepted]

theorem run_buildHeartbeatArgs (s : RoundState) (hconfig : s.config = round.config) :
    ∃ args, (buildHeartbeatArgs agent_version process_started_at).run round.answer s = (some (.ok args), s) := by
  obtain ⟨v, n, hv, hn⟩ := round.config_version
  unfold buildHeartbeatArgs
  simp only [Prog.bind_eq]
  rw [run_agentCall_bind (a := s.config) rfl, run_agentCall_bind (a := none) rfl,
    run_agentCall_bind (a := (0 : Rat)) rfl, run_agentCall_bind (a := round.utc_now_iso) rfl, hconfig,
    run_ofExcept_bind (Dict.getItem_eq_ok.mpr hv), run_ofExcept_bind hn]
  exact ⟨_, rfl⟩

/-- A tick is its response. -/
theorem run_doHeartbeat (s : RoundState) (hconfig : s.config = round.config) :
    (doHeartbeat agent_version client process_started_at).run round.answer s =
      (processResponse client (.obj round.response)).run round.answer s := by
  obtain ⟨args, hargs⟩ := run_buildHeartbeatArgs agent_version process_started_at s hconfig
  unfold doHeartbeat
  simp only [Prog.bind_eq]
  rw [Prog.run_bind, hargs, Prog.andThen_ok, Prog.run_bind, Prog.run_attempt, run_sendHeartbeat]
  rfl

/-- The state after the first look at the shutdown event. -/
def looked (round : HeartbeatRound) : RoundState := { config := round.config, looks := 1 }

/-- The round, from the tick on. -/
theorem played_eq : round.played rt agent_version client process_started_at =
    ((doHeartbeat agent_version client process_started_at).attempt.bind fun tick => match tick with
      | .ok () => (waitInterval rt "heartbeat_seconds").bind fun woke_early =>
        if woke_early then .ret () else heartbeatLoop rt agent_version client process_started_at 1
      | .error e => if e = shutdownRequested then .ret () else .raise e : Agent Unit).run round.answer
        round.looked := rfl

theorem played_sound (h : round.Sound rt) : round.played rt agent_version client process_started_at =
    (some (.ok ()),
      { config := round.installed.getD round.config, queue := round.actions.filter (kept round), looks := 2 }) := by
  rw [played_eq, Prog.run_bind, Prog.run_attempt, run_doHeartbeat client agent_version process_started_at _ rfl,
    run_processResponse client _ h.refresh h.entries]
  show ((waitInterval rt "heartbeat_seconds").bind _ : Agent Unit).run round.answer _ = _
  rw [Prog.run_bind, run_waitInterval rt _ _ h.interval]
  rfl

theorem looks_unsound (h : ¬ round.Sound rt) :
    (round.played rt agent_version client process_started_at).2.looks = 1 := by
  rw [played_eq, Prog.run_bind, Prog.run_attempt, run_doHeartbeat client agent_version process_started_at _ rfl]
  by_cases hresponse : round.RefreshReturns ∧ ∀ action ∈ round.actions, Comparable action
  · rw [run_processResponse client _ hresponse.1 hresponse.2]
    have hinterval : ¬ WaitableInterval rt round.timeout_max "heartbeat_seconds" (round.installed.getD round.config) :=
      fun hinterval => h ⟨hresponse.1, hresponse.2, hinterval⟩
    -- the wait is made in the state that the response has left
    obtain ⟨e, s', hrun, hlooks⟩ := raises_waitInterval rt "heartbeat_seconds" { round.looked with
      config := round.installed.getD round.config, queue := [] ++ round.actions.filter (kept round) } hinterval
    show (((waitInterval rt "heartbeat_seconds").bind _ : Agent Unit).run round.answer _).2.looks = 1
    rw [Prog.run_bind]
    erw [hrun]
    exact hlooks
  · obtain ⟨e, s', hrun, hlooks⟩ := raises_processResponse client round.looked hresponse
    rw [hrun]
    show ((if e = shutdownRequested then .ret () else .raise e : Agent Unit).run round.answer s').2.looks = 1
    split_ifs <;> exact hlooks

/-- What is deliverable is kept. -/
theorem kept_of_deliverable {action : Json} (h : round.deliverable action = true) : kept round action = true := by
  cases action with
  | obj d =>
    change unexpired round.utc_now_iso (Dict.getD d "expires_at" .null) = true at h
    show keptAt round.utc_now_iso (Dict.getD d "expires_at" .null) = true
    generalize Dict.getD d "expires_at" .null = expires_at at h ⊢
    cases expires_at with
    | str t => exact Bool.or_eq_true_iff.mpr (Or.inr h)
    | _ => rfl
  | _ => rfl

end

/-- **When no deliverable action is lost**: exactly when nothing on the way raises. -/
theorem delivers_iff (rt : Runtime) (agent_version : String) (client : DashboardClient) (process_started_at : Rat) :
    round.Delivers rt agent_version client process_started_at ↔ round.Sound rt := by
  constructor
  · rintro ⟨-, hlooks⟩
    by_contra hunsound
    rw [looks_unsound client rt agent_version process_started_at hunsound] at hlooks
    omega
  · intro hsound
    unfold Delivers
    rw [played_sound client rt agent_version process_started_at hsound]
    refine ⟨?_, rfl⟩
    show (round.actions.filter (kept round)).filter round.deliverable = _
    rw [List.filter_filter]
    refine List.filter_congr fun action _ => ?_
    cases hdeliverable : round.deliverable action with
    | false => rfl
    | true => simp [kept_of_deliverable hdeliverable]

end HeartbeatRound

/-- A text among the actions. -/
def mixedActions : List Json := [.str "oops", .obj [("action_id", .str "a"), ("action_type", .str "sync_netbox")]]

/-- A response with these actions that asks for no refresh. -/
def mixedRound : HeartbeatRound where
  config := [("config_version", .int 1), ("intervals", .obj [("heartbeat_seconds", .int 15)])]
  config_version := ⟨.int 1, 1, rfl, rfl⟩
  response := [("pending_actions", .arr mixedActions)]
  actions := mixedActions
  pending_actions := rfl
  status := 200
  accepted := is2xx_200
  get_config := .error .requests
  not_auth := ⟨rfl, nofun⟩
  utc_now_iso := ""
  timeout_max := 9223372036

/-- The second action is lost, and the heartbeat thread ends. -/
theorem mixedRound_loses : ¬ ∀ (round : HeartbeatRound) (rt : Runtime) agent_version client process_started_at,
    round.Delivers rt agent_version client process_started_at := by
  intro h
  have hlooks : (mixedRound.played smallSetup.rt "" someClient 0).2.looks = 1 := rfl
  exact absurd (hlooks.symm.trans (h mixedRound smallSetup.rt "" someClient 0).2) nofun

end CertWatch
