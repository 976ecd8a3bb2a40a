/-
# `CertWatch.FirstSync` — the gate between the first NetBox sync and the startup cycle.

The NetBox thread opens the gate once, after its first sync or on its way out, and never between a fetch and the
installation of what was fetched.  So whoever finds the gate open after a first fetch that succeeded finds a fetched
list in place.
-/
import CertWatch.ThreadCalls
import CertWatch.ThreadExits

namespace CertWatch

open CertWatch.Lib

variable {α : Type}

/-! ## The monitor -/

/-- What a thread has done about syncs and the gate. -/
structure GateView where
  /-- How many fetches have begun. -/
  begins : Nat := 0
  /-- The list that the last call has fetched. -/
  fetched : Option (List DiscoveredHost) := none
  opened : Bool := false

def GateView.next (q : GateView) : AgentOp → GateView
  | .sync .fetchBegins => { q with begins := q.begins + 1 }
  | .sync (.fetchReturns hosts) => { q with fetched := some hosts }
  | .sync (.replaceHosts _) => { q with fetched := none }
  | .set .firstSync => { q with opened := true }
  | _ => q

/-- The calls about fetches and the gate: the gate is opened once, and after that no first fetch begins or returns. -/
def GateView.allows (q : GateView) : AgentOp → Prop
  | .sync .fetchBegins => q.opened = true → 0 < q.begins
  | .sync (.fetchReturns _) => q.opened = true → q.begins ≠ 1
  | .sync (.replaceHosts hosts) => q.fetched = some hosts
  | .set .firstSync => q.opened = false
  | _ => True

/-- What was fetched is installed by the next call. -/
def gateMonitor : Monitor agentSig PyExc GateView where
  possible := Possible
  allows q o := (∀ hosts, q.fetched = some hosts → o = .sync (.replaceHosts hosts)) ∧ q.allows o
  next q o _ := q.next o

/-- The call is about neither. -/
def AgentOp.leavesGate : AgentOp → Bool
  | .sync .fetchBegins => false
  | .sync (.fetchReturns _) => false
  | .sync (.replaceHosts _) => false
  | .set .firstSync => false
  | _ => true

theorem next_leavesGate {o : AgentOp} (h : o.leavesGate = true) (q : GateView) : q.next o = q ∧ q.allows o := by
  unfold GateView.next GateView.allows
  split <;> first | cases h | exact ⟨rfl, trivial⟩

theorem obeys_leavesGate {p : Agent α} {q : GateView} (h : p.Only fun o : AgentOp => o.leavesGate = true)
    (hq : q.fetched = none) : p.Obeys gateMonitor (fun q' _ => q' = q) q := by
  refine h.obeys (fun o ho =>
    ⟨⟨fun hosts hfetched => ?_, (next_leavesGate ho q).2⟩, fun r _ => (next_leavesGate ho q).1⟩)
    trivial
  rw [hq] at hfetched
  cases hfetched

/-! ## A sync -/

theorem leaves_syncCall {o : SyncOp} (h : (AgentOp.sync o).leavesGate = true) :
    (syncCall o).Only fun o : SyncOp => (AgentOp.sync o).leavesGate = true := Prog.only_perform h

/-- What the monitor sees of a sync. -/
abbrev syncGate : Monitor syncSig PyExc GateView := gateMonitor.comap syncCalls

/-- What a sync is answered in the agent. -/
theorem possible_sync {o : SyncOp} {r : Except PyExc o.Ret} (h : syncGate.possible o r) : ∃ s, syncAnswers s o r := by
  obtain ⟨s, h⟩ := h
  cases r with
  | ok a => exact ⟨s, h⟩
  | error e => exact ⟨s, h⟩

theorem sync_leavesGate {p : Sync α} {q : GateView} (h : p.Only fun o : SyncOp => (AgentOp.sync o).leavesGate = true)
    (hq : q.fetched = none) : p.Obeys syncGate (fun q' _ => q' = q) q := by
  refine h.obeys (fun o ho => ⟨⟨fun hosts hfetched => ?_, (next_leavesGate (o := .sync o) ho q).2⟩,
    fun r _ => (next_leavesGate (o := .sync o) ho q).1⟩) trivial
  rw [hq] at hfetched
  cases hfetched

theorem leaves_request {method path : String} {send : Sync HttpResponse}
    (h : send.Only fun o : SyncOp => (AgentOp.sync o).leavesGate = true) :
    (request method path send).Only fun o : SyncOp => (AgentOp.sync o).leavesGate = true := by
  refine (h.tryCatch fun e => ?_).bind fun resp => Prog.only_ofExcept _
  cases e <;> trivial

theorem leaves_submitWithRetry (client : DashboardClient) (body : DiscoveredHostsBody) (fuel : Nat) (attempts : Int) :
    (submitWithRetry client true body fuel attempts).Only fun o : SyncOp => (AgentOp.sync o).leavesGate = true := by
  induction fuel generalizing attempts with
  | zero => trivial
  | succ fuel ih =>
    refine Prog.Only.bind (leaves_syncCall rfl) fun interrupted => ?_
    split_ifs
    · trivial
    refine (leaves_request (leaves_syncCall rfl)).attempt.bind fun outcome => ?_
    have hwait : (syncBackoffWait true (syncBackoffDelay (attempts + 1))).Only
        fun o : SyncOp => (AgentOp.sync o).leavesGate = true :=
      leaves_syncCall rfl
    unfold handleSyncOutcome
    split
    · exact (Prog.only_ofExcept _).bind fun _ => (leaves_syncCall rfl).bind fun _ => trivial
    · split
      all_goals first
        | trivial
        | refine hwait.bind fun woke_early => ?_
          split_ifs
          · trivial
          · exact ih _
    · trivial

/-- The view after a fetch that ended in this way. -/
def GateView.afterFetch (q : GateView) (x : Except PyExc (List DiscoveredHost)) : GateView :=
  { q with begins := q.begins + 1, fetched := x.toOption }

theorem leaves_wrapNetBoxError {p : Sync α} (h : p.Only fun o : SyncOp => (AgentOp.sync o).leavesGate = true) :
    (wrapNetBoxError p).Only fun o : SyncOp => (AgentOp.sync o).leavesGate = true := h.tryCatch fun _ => trivial

attribute [local irreducible] strip in
theorem leaves_parseFilterExpr (expr : String) :
    (parseFilterExpr expr).Only fun o : SyncOp => (AgentOp.sync o).leavesGate = true := by
  unfold parseFilterExpr
  split
  · trivial
  · exact (leaves_syncCall rfl).bind fun _ => trivial

theorem leaves_listDevices (fuel : Nat) :
    (listDevices fuel).Only fun o : SyncOp => (AgentOp.sync o).leavesGate = true := by
  induction fuel with
  | zero => trivial
  | succ fuel ih =>
    refine (leaves_syncCall rfl).bind fun device => ?_
    cases device with
    | none => trivial
    | some d => exact ih.bind fun _ => trivial

/-- A part of a sync that leaves the gate alone. -/
theorem obeys_leaving {β : Type} {p : Sync α} {f : α → Sync β} {q : GateView} {F : GateView → Except PyExc β → Prop}
    (hp : p.Only fun o : SyncOp => (AgentOp.sync o).leavesGate = true) (hq : q.fetched = none)
    (hf : ∀ a, (f a).Obeys syncGate F q) (herr : ∀ e, F q (.error e)) : (p.bind f).Obeys syncGate F q := by
  refine (sync_leavesGate hp hq).bind (fun q' a hq' => ?_) fun q' e hq' => ?_
  · rw [hq']
    exact hf a
  · rw [hq']
    exact herr e

attribute [local irreducible] strip in
theorem obeys_fetchHosts (client : NetBoxClient) (fuel : Nat) {q : GateView} (hq : q.fetched = none)
    (hopened : q.opened = true → 0 < q.begins) :
    (client.fetchHosts fuel).Obeys syncGate (fun q' x => q' = q.afterFetch x) q := by
  have hidle : ∀ hosts, q.fetched ≠ some hosts := fun hosts h => by
    rw [hq] at h
    cases h
  -- until the list is there, only the count has changed
  have hbegun : ∀ e, ({ q with begins := q.begins + 1 } : GateView) = q.afterFetch (.error e) := fun e => by
    show _ = ({ q with begins := q.begins + 1, fetched := none } : GateView)
    rw [← hq]
  have hparse := leaves_parseFilterExpr client.filter_expr
  unfold NetBoxClient.fetchHosts
  -- which of the two ways the filter is parsed does not matter
  generalize parseFilterExpr client.filter_expr = parse at hparse ⊢
  refine Prog.obeys_bind.mpr (Prog.obeys_perform.mpr ⟨⟨fun hosts h => absurd h (hidle hosts), hopened⟩, fun r hr => ?_⟩)
  obtain ⟨s, rfl⟩ := possible_sync hr
  · refine obeys_leaving (leaves_wrapNetBoxError hparse) hq (fun filter_kwargs => ?_) hbegun
    refine obeys_leaving (leaves_wrapNetBoxError ?_) hq (fun devices => ?_) hbegun
    · exact (leaves_syncCall rfl).bind fun _ => leaves_listDevices fuel
    refine obeys_leaving (Prog.only_ofExcept _) hq (fun hosts => ?_) hbegun
    refine Prog.obeys_bind.mpr (Prog.obeys_perform.mpr ⟨⟨fun hosts' h => absurd h (hidle hosts'), fun h => ?_⟩,
      fun r hr => ?_⟩)
    · have hbefore := hopened h
      show q.begins + 1 ≠ 1
      omega
    · obtain ⟨s, rfl⟩ := possible_sync hr
      rfl

/-- A sync begins one fetch, and leaves nothing fetched behind. -/
theorem obeys_runNetboxSync (client : DashboardClient) (netbox_client : NetBoxClient) (action_id : Option String)
    (fuel : Nat) {q : GateView} (hq : q.fetched = none) (hopened : q.opened = true → 0 < q.begins) :
    (runNetboxSync client true netbox_client action_id fuel).Obeys syncGate
      (fun q' _ => q' = { q with begins := q.begins + 1 }) q := by
  have hnone : ∀ e, q.afterFetch (.error e) = { q with begins := q.begins + 1 } := fun e => by
    show ({ q with begins := q.begins + 1, fetched := none } : GateView) = _
    rw [← hq]
  refine Prog.obeys_bind.mpr (Prog.obeys_perform.mpr ⟨⟨fun hosts h => ?_, trivial⟩, fun r hr => ?_⟩)
  · rw [hq] at h
    cases h
  obtain ⟨s, us, rfl⟩ := possible_sync hr
  · refine (obeys_fetchHosts netbox_client fuel hq hopened).attempt_bind fun q' fetched hq' => ?_
    obtain rfl := hq'
    split
    · exact hnone _
    · exact hnone _
    · rename_i hosts
      -- the list is installed at once
      refine Prog.obeys_bind.mpr (Prog.obeys_perform.mpr ⟨⟨fun hosts' h => ?_, rfl⟩, fun r hr => ?_⟩)
      · exact congrArg (AgentOp.sync ∘ SyncOp.replaceHosts) (Option.some.inj h)
      obtain ⟨s, rfl⟩ := possible_sync hr
      have hinstalled : syncGate.next (q.afterFetch (.ok hosts)) (.replaceHosts hosts) (.ok ()) =
          { q with begins := q.begins + 1 } := hnone .requests
      rw [hinstalled]
      exact sync_leavesGate (leaves_submitWithRetry _ _ _ _) hq

/-! ## The NetBox thread -/

/-- Nothing is fetched, and if the gate is open a fetch has begun before. -/
structure GateView.Idle (gate : Bool) (q : GateView) : Prop where
  fetched : q.fetched = none
  opened : q.opened = gate
  begins : gate = true → 0 < q.begins

theorem GateView.Idle.free {gate : Bool} {q : GateView} (hq : q.Idle gate) {o : AgentOp} :
    ∀ hosts, q.fetched = some hosts → o = .sync (.replaceHosts hosts) := fun hosts h => by
  rw [hq.fetched] at h
  cases h

theorem idle_leavesGate {p : Agent α} {gate : Bool} {q : GateView} (h : p.Only fun o : AgentOp => o.leavesGate = true)
    (hq : q.Idle gate) : p.Obeys gateMonitor (fun q' _ => q'.Idle gate) q :=
  (obeys_leavesGate h hq.fetched).mono fun _ _ hq' => hq' ▸ hq

theorem leaves_agentCall {o : AgentOp} (h : o.leavesGate = true) :
    (agentCall o).Only fun o : AgentOp => o.leavesGate = true := Prog.only_perform h

theorem leaves_signalAuthError : signalAuthError.Only fun o : AgentOp => o.leavesGate = true :=
  (leaves_agentCall rfl).bind fun _ => leaves_agentCall rfl

theorem leaves_waitInterval (rt : Runtime) (key : String) :
    (waitInterval rt key).Only fun o : AgentOp => o.leavesGate = true :=
  ((leaves_agentCall rfl).bind fun _ => Prog.only_ofExcept _).bind fun _ => leaves_agentCall rfl

/-- A sync of the agent. -/
theorem idle_runNetboxSync (client : DashboardClient) (netbox_client : NetBoxClient) (action_id : Option String)
    (fuel : Nat) {gate : Bool} {q : GateView} (hq : q.Idle gate) :
    ((runNetboxSync client true netbox_client action_id fuel).embed syncCalls).Obeys gateMonitor
      (fun q' _ => q'.Idle gate ∧ 0 < q'.begins) q := by
  have hopened : q.opened = true → 0 < q.begins := fun h => hq.begins (hq.opened.symm.trans h)
  refine Prog.Obeys.embed ((obeys_runNetboxSync client netbox_client action_id fuel hq.fetched hopened).mono ?_)
  rintro q' _ rfl
  exact ⟨⟨hq.fetched, hq.opened, fun _ => Nat.succ_pos _⟩, Nat.succ_pos _⟩

/-- Opening the gate. -/
theorem obeys_openGateUnless_gate {gate : Bool} {q : GateView} (hq : q.Idle gate) :
    (openGateUnless gate).Obeys gateMonitor
      (fun q' x => q'.fetched = none ∧ q'.opened = true ∧ q'.begins = q.begins ∧ x = .ok ()) q := by
  unfold openGateUnless
  split_ifs with h
  · exact ⟨hq.fetched, hq.opened.trans h, rfl, rfl⟩
  · refine Prog.obeys_perform.mpr ⟨⟨hq.free, hq.opened.trans (Bool.eq_false_iff.mpr h)⟩, fun r hr => ?_⟩
    obtain ⟨s, rfl⟩ := hr
    exact ⟨hq.fetched, rfl, rfl, rfl⟩

/-- The flag of the loop says whether the gate is open. -/
theorem idle_syncLoop (rt : Runtime) (client : DashboardClient) (netbox_client : NetBoxClient) (fuel : Nat)
    {first_sync_completed : Bool} {q : GateView} (hq : q.Idle first_sync_completed) :
    (syncLoop rt client netbox_client fuel first_sync_completed).Obeys gateMonitor
      (fun q' x => ∃ left completed, x = .ok (left, completed) ∧ q'.Idle completed) q := by
  induction fuel generalizing first_sync_completed q with
  | zero => trivial
  | succ fuel ih =>
    unfold syncLoop
    refine Prog.obeys_bind.mpr (Prog.obeys_perform.mpr ⟨⟨hq.free, trivial⟩, fun r hr => ?_⟩)
    obtain ⟨s, rfl⟩ := hr
    rw [Prog.thenObeys_ok]
    split_ifs
    · exact ⟨_, _, rfl, hq⟩
    refine (idle_runNetboxSync client netbox_client none fuel hq).attempt_bind fun q₁ outcome hq₁ => ?_
    obtain ⟨hidle, hbegins⟩ := hq₁
    split_ifs
    · -- the handler of a 401 makes its two calls and leaves
      refine Prog.obeys_bind.mpr (Prog.obeys_bind.mpr (Prog.obeys_perform.mpr ⟨⟨hidle.free, trivial⟩, fun r hr => ?_⟩))
      obtain ⟨s, rfl⟩ := hr
      refine Prog.obeys_perform.mpr ⟨⟨hidle.free, trivial⟩, fun r hr => ?_⟩
      obtain ⟨s, rfl⟩ := hr
      exact ⟨_, _, rfl, hidle⟩
    refine (obeys_openGateUnless_gate hidle).bind (fun q₂ _ hq₂ => ?_) fun _ _ hq₂ => by cases hq₂.2.2.2
    obtain ⟨hfetched, hopened, hcount, -⟩ := hq₂
    have hopen : q₂.Idle true := ⟨hfetched, hopened, fun _ => hcount ▸ hbegins⟩
    refine (idle_leavesGate (leaves_waitInterval rt _) hopen).attempt_bind fun q₃ waited hq₃ => ?_
    split
    · exact ⟨_, _, rfl, hq₃⟩
    · exact ⟨_, _, rfl, hq₃⟩
    · exact ih hq₃

/-- The thread ends with the gate open. -/
theorem obeys_netboxSyncThread (rt : Runtime) (client : DashboardClient) (netbox_client : NetBoxClient) (fuel : Nat) :
    (netboxSyncThread rt client netbox_client fuel).Obeys gateMonitor (fun q' _ => q'.opened = true) {} := by
  have hclosed : ({} : GateView).Idle false := ⟨rfl, rfl, nofun⟩
  refine (idle_syncLoop rt client netbox_client fuel hclosed).bind (fun q left hleft => ?_) fun _ _ he => ?_
  · obtain ⟨raised, completed, hleft, hq⟩ := hleft
    obtain rfl := Except.ok.inj hleft
    have hguard : (guardLoop "netbox_sync_thread_unhandled_exception" (.ofExcept raised)).Obeys gateMonitor
        (fun q' x => q'.Idle completed ∧ x = .ok ()) q := by
      refine Prog.obeys_tryCatch.mpr (Prog.obeys_ofExcept.mpr ?_)
      cases raised with
      | ok u => exact ⟨hq, rfl⟩
      | error e =>
        refine Prog.obeys_bind.mpr (Prog.obeys_perform.mpr ⟨⟨hq.free, trivial⟩, fun r hr => ?_⟩)
        obtain ⟨s, rfl⟩ := hr
        refine Prog.obeys_perform.mpr ⟨⟨hq.free, trivial⟩, fun r hr => ?_⟩
        obtain ⟨s, rfl⟩ := hr
        exact ⟨hq, rfl⟩
    refine hguard.bind (fun q' _ hq' => ?_) fun _ _ he => by cases he.2
    exact (obeys_openGateUnless_gate hq'.1).mono fun _ _ h => h.2.1
  · obtain ⟨_, _, he, -⟩ := he
    cases he

/-! ## The workers -/

section

variable (rt : Runtime) (client : DashboardClient) (netbox_client : Option NetBoxClient)

theorem leavesGate_of_isOnDemand {o : AgentOp} (h : o.isOnDemand = true) : o.leavesGate = true := by
  cases o <;> first | rfl | cases h

variable {gate : Bool} {q : GateView}

theorem idle_syncNetbox (fuel : Nat) (ctx : ActionContext) (hq : q.Idle gate) :
    (syncNetbox rt client netbox_client fuel ctx).Obeys gateMonitor (fun q' _ => q'.Idle gate) q := by
  cases netbox_client with
  | none => exact hq
  | some netbox_client =>
    exact (idle_runNetboxSync client netbox_client _ fuel hq).bind (fun _ _ h => h.1) fun _ _ h => h.1

/-- A part that leaves the gate idle. -/
theorem idle_bind {β : Type} {p : Agent α} {f : α → Agent β}
    (hp : p.Obeys gateMonitor (fun q' _ => q'.Idle gate) q)
    (hf : ∀ a q, q.Idle gate → (f a).Obeys gateMonitor (fun q' _ => q'.Idle gate) q) :
    (p.bind f).Obeys gateMonitor (fun q' _ => q'.Idle gate) q :=
  hp.bind (fun q' a hq' => hf a q' hq') fun _ _ => id

theorem idle_dispatch (fuel : Nat) (action : Json) (hq : q.Idle gate) :
    (dispatch rt client netbox_client fuel action).Obeys gateMonitor (fun q' _ => q'.Idle gate) q := by
  have hread : ∀ {β : Type} (x : Except PyExc β) {q : GateView}, q.Idle gate →
      (Prog.ofExcept x : Agent β).Obeys gateMonitor (fun q' _ => q'.Idle gate) q :=
    fun x _ hq => Prog.obeys_ofExcept.mpr hq
  refine idle_bind (hread _ hq) fun action_id q hq => idle_bind (hread _ hq) fun action_type q hq => ?_
  refine idle_bind (hread _ hq) fun expires_at q hq => ?_
  refine idle_bind (idle_leavesGate (leaves_agentCall rfl) hq) fun now q hq => ?_
  refine idle_bind (hread _ hq) fun expired q hq => ?_
  split_ifs
  · exact hq
  refine idle_bind (idle_leavesGate (leaves_agentCall rfl) hq) fun stopping q hq => ?_
  split_ifs
  · exact hq
  cases hhandler : handlerFor rt client netbox_client fuel action_type with
  | error e => exact hq
  | ok handler =>
    cases handler with
    | none => exact hq
    | some handler =>
      show Prog.Obeys gateMonitor _ (Prog.bind (.ofExcept (action.getOr "payload" (.obj []))) _) q
      refine idle_bind (hread _ hq) fun payload q hq => ?_
      refine idle_bind (hread (action.getOr "queued_at" (.str "")) hq) fun queued_at q hq => ?_
      rcases handlerFor_some hhandler with rfl | rfl
      · exact idle_leavesGate ((onDemand_checkHost rt client fuel _).mono fun _ => leavesGate_of_isOnDemand) hq
      · exact idle_syncNetbox rt client netbox_client fuel _ hq

theorem idle_processAction (fuel : Nat) (action : Json) (hq : q.Idle gate) :
    (processAction rt client netbox_client fuel action).Obeys gateMonitor (fun q' _ => q'.Idle gate) q := by
  refine (idle_dispatch rt client netbox_client fuel action hq).attempt_bind fun q outcome hq => ?_
  have hhandled : (handleDispatched action outcome).Only fun o : AgentOp => o.leavesGate = true := by
    cases outcome with
    | ok u => trivial
    | error e =>
      refine (Prog.only_ofExcept _).bind fun _ => ?_
      split_ifs
      · exact leaves_signalAuthError
      · trivial
  refine (idle_leavesGate hhandled hq).attempt_bind fun q handled hq => ?_
  exact idle_leavesGate ((leaves_agentCall rfl).bind fun _ => Prog.only_ofExcept _) hq

theorem idle_workerLoop (fuel : Nat) (hq : q.Idle gate) :
    (workerLoop rt client netbox_client fuel).Obeys gateMonitor (fun q' _ => q'.Idle gate) q := by
  induction fuel generalizing q with
  | zero => trivial
  | succ fuel ih =>
    refine idle_bind (idle_leavesGate (leaves_agentCall rfl) hq) fun stopping q hq => ?_
    split_ifs
    · exact hq
    refine (idle_leavesGate (leaves_agentCall rfl) hq).attempt_bind fun q taken hq => ?_
    split
    · exact idle_bind (idle_processAction rt client netbox_client fuel _ hq) fun _ _ => ih
    · split_ifs
      · exact ih hq
      · exact hq

end

/-! ## The main thread -/

def AgentOp.opensGate : AgentOp → Bool
  | .set .firstSync => true
  | _ => false

def AgentOp.beginsFetch : AgentOp → Bool
  | .sync .fetchBegins => true
  | _ => false

/-- What the main thread has made of the gate. -/
inductive Wiring where
  | building
  | preset
  | netboxStarted
  deriving DecidableEq, Repr

def Wiring.next : Wiring → AgentOp → Wiring
  | .building, .set .firstSync => .preset
  | .building, .start (.netbox _ _) => .netboxStarted
  | q, _ => q

/-- The main thread opens the gate itself, or starts the NetBox thread, never both. -/
def wiringMonitor : Monitor agentSig PyExc Wiring where
  possible := Possible
  allows q o := (o.opensGate = true → q ≠ .netboxStarted) ∧
    ∀ client netbox_client, o = .start (.netbox client netbox_client) → q ≠ .preset
  next q o _ := q.next o

/-- The call does not open the gate, and starts none but these threads. -/
def AgentOp.StartsAmong (threads : List ThreadSpec) (o : AgentOp) : Prop :=
  o.opensGate = false ∧ ∀ thread, o = .start thread → thread ∈ threads

theorem startsAmong_agentCall {threads : List ThreadSpec} {o : AgentOp} (h : o.opensGate = false)
    (hstart : ∀ thread, o ≠ .start thread) : (agentCall o).Only (AgentOp.StartsAmong threads) :=
  Prog.only_perform ⟨h, fun thread ho => absurd ho (hstart thread)⟩

theorem startsAmong_startEach {threads threads' : List ThreadSpec} (h : threads ⊆ threads') :
    (startEach threads).Only (AgentOp.StartsAmong threads') := by
  induction threads with
  | nil => trivial
  | cons thread threads ih =>
    obtain ⟨hthread, hthreads⟩ := List.cons_subset.mp h
    refine Prog.Only.bind (Prog.only_perform ⟨rfl, fun thread' ho => ?_⟩) fun _ => ih hthreads
    obtain rfl := AgentOp.start.inj ho
    exact hthread

theorem startsAmong_startAndWait (threads : List ThreadSpec) :
    (startAndWait threads).Only (AgentOp.StartsAmong threads) := by
  have hinstall : installSignalHandlers.Only (AgentOp.StartsAmong threads) := by
    refine Prog.Only.tryCatch ?_ fun e => ?_
    · exact (startsAmong_agentCall rfl (by nofun)).bind fun _ => startsAmong_agentCall rfl (by nofun)
    · cases e <;> trivial
  have hjoin : ∀ ids, (joinEach ids).Only (AgentOp.StartsAmong threads) := by
    intro ids
    induction ids with
    | nil => trivial
    | cons id ids ih => exact (startsAmong_agentCall rfl (by nofun)).bind fun _ => ih
  refine hinstall.bind fun _ => (startsAmong_startEach (List.Subset.refl _)).bind fun _ => ?_
  refine (startsAmong_agentCall rfl (by nofun)).bind fun _ => (startsAmong_agentCall rfl (by nofun)).bind fun _ => ?_
  refine (hjoin _).bind fun _ => (startsAmong_agentCall rfl (by nofun)).bind fun _ => ?_
  exact (startsAmong_agentCall rfl (by nofun)).bind fun _ => trivial

/-- From here on the gate is not opened, and with the gate open no NetBox thread is started. -/
theorem obeys_startsAmong {threads : List ThreadSpec} {p : Agent α} {q : Wiring}
    (h : p.Only (AgentOp.StartsAmong threads)) (hq : q = .preset → ∀ thread ∈ threads, thread.id ≠ .netbox) :
    p.Obeys wiringMonitor (fun _ _ => True) q := by
  induction p generalizing q with
  | ret a => trivial
  | raise e => trivial
  | hang => trivial
  | call o k ih =>
    obtain ⟨⟨hgate, hstart⟩, hk⟩ := h
    refine ⟨⟨fun ho => absurd (hgate.symm.trans ho) nofun, fun client netbox_client ho hpreset => ?_⟩,
      fun r _ => ih r (hk r) fun hnext => hq ?_⟩
    · exact hq hpreset _ (hstart _ ho) rfl
    · change q.next o = .preset at hnext
      unfold Wiring.next at hnext
      split at hnext
      · cases hgate
      · cases hnext
      · exact hnext

theorem startsAmong_startup {p : Agent α} (h : StartupCalls p) : p.Only (AgentOp.StartsAmong []) :=
  h.mono fun o ho => by
    refine ⟨?_, fun thread hstart => ?_⟩
    · cases o <;> first | rfl | cases ho
    · rw [hstart] at ho
      cases ho

/-- A part before the gate is decided. -/
theorem obeys_building {β : Type} {p : Agent α} {f : α → Agent β} (hp : p.Only (AgentOp.StartsAmong []))
    (hf : ∀ a, (f a).Obeys wiringMonitor (fun _ _ => True) .building) :
    (p.bind f).Obeys wiringMonitor (fun _ _ => True) .building := by
  have hstill : ∀ o : AgentOp, o.StartsAmong [] → Wiring.next .building o = .building := by
    rintro o ⟨hgate, hstart⟩
    unfold Wiring.next
    split
    · cases hgate
    · exact absurd (hstart _ rfl) List.not_mem_nil
    · rfl
  have hobeys := hp.obeys (M := wiringMonitor) (q := .building)
    (fun o ho => ⟨⟨fun _ => nofun, fun _ _ _ => nofun⟩, fun _ _ => hstill o ho⟩) trivial
  refine hobeys.bind (fun q a hq => ?_) fun _ _ _ => trivial
  rw [hq]
  exact hf a

theorem netbox_not_mem_agentThreads (num_workers : Nat) (client : DashboardClient) (process_started_at : Rat) :
    ∀ thread ∈ agentThreads num_workers client none process_started_at, thread.id ≠ .netbox := by
  intro thread hthread
  simp only [agentThreads, Option.map_none, Option.toList_none, List.cons_append, List.mem_cons, List.mem_append,
    List.mem_map, List.not_mem_nil, or_false] at hthread
  rcases hthread with rfl | ⟨worker_id, -, rfl⟩ | rfl <;> nofun

attribute [local irreducible] strip in
theorem obeys_mainProgram_wiring (setup : Setup) :
    (mainProgram setup).Obeys wiringMonitor (fun _ _ => True) .building := by
  refine Prog.Obeys.bind (F := fun _ _ => True) ?_ (fun _ _ _ => trivial) fun _ _ _ => trivial
  refine obeys_building (startsAmong_agentCall rfl (by nofun)) fun process_started_at => ?_
  refine obeys_building (startsAmong_startup (startup_bootstrap _ _ _ _)).attempt fun bootstrapped => ?_
  cases bootstrapped with
  | error e => trivial
  | ok result =>
    refine obeys_building (startsAmong_startup (Prog.only_embed queueCalls (fun _ => rfl) _)).attempt fun replayed => ?_
    split_ifs
    · trivial
    refine obeys_building (startsAmong_agentCall rfl (by nofun)) fun stopping => ?_
    split_ifs
    · exact obeys_building (startsAmong_agentCall rfl (by nofun)) fun _ => trivial
    refine obeys_building (startsAmong_agentCall rfl (by nofun)) fun _ => ?_
    refine obeys_building (Prog.only_ofExcept _) fun netbox_client => ?_
    cases netbox_client with
    | some netbox_client => exact obeys_startsAmong (startsAmong_startAndWait _) nofun
    | none =>
      refine Prog.obeys_bind.mpr (Prog.obeys_perform.mpr ⟨⟨fun _ => nofun, fun _ _ _ => nofun⟩, fun r hr => ?_⟩)
      obtain ⟨s, rfl⟩ := hr
      exact obeys_startsAmong (startsAmong_startAndWait _) fun _ => netbox_not_mem_agentThreads _ _ _

/-- What the main thread has done of the two. -/
theorem after_wiring {cs : List AgentCall} (h : wiringMonitor.Lawful .building cs) :
    ((∃ c ∈ cs, c.op.opensGate = true) → wiringMonitor.after .building cs = .preset) ∧
      (∀ client netbox_client r, ⟨.start (.netbox client netbox_client), r⟩ ∈ cs →
        wiringMonitor.after .building cs = .netboxStarted) := by
  induction cs using List.reverseRecOn with
  | nil =>
    refine ⟨fun ⟨c, hc, _⟩ => ?_, fun _ _ _ hc => ?_⟩
    · cases hc
    · cases hc
  | append_singleton cs c ih =>
    obtain ⟨hcs, ⟨hgate, hstart⟩, -⟩ := wiringMonitor.lawful_concat.mp h
    obtain ⟨ihgate, ihstart⟩ := ih hcs
    rw [wiringMonitor.after_concat]
    generalize wiringMonitor.after .building cs = q at hgate hstart ihgate ihstart
    obtain ⟨o, r⟩ := c
    show (_ → q.next o = .preset) ∧ (∀ _ _ _, _ → q.next o = .netboxStarted)
    refine ⟨fun ⟨c, hc, hopens⟩ => ?_, fun client netbox_client r' hc => ?_⟩
    · rcases List.mem_append.mp hc with hc | hc
      · rw [ihgate ⟨c, hc, hopens⟩]
        rfl
      · obtain rfl := List.mem_singleton.mp hc
        have hq := hgate hopens
        change o.opensGate = true at hopens
        unfold AgentOp.opensGate at hopens
        split at hopens
        · cases q <;> first | rfl | exact absurd rfl hq
        · cases hopens
    · rcases List.mem_append.mp hc with hc | hc
      · rw [ihstart client netbox_client r' hc]
        rfl
      · obtain ⟨rfl, -⟩ := Call.mk.inj (List.mem_singleton.mp hc)
        have hq := hstart client netbox_client rfl
        cases q <;> first | rfl | exact absurd rfl hq

/-! ## Every run -/

variable {setup : Setup} {main_thread : Bool} {Meets : AgentLabel → AgentPool → Prop} {P : AgentPool}

/-- The threads that sync. -/
def ThreadId.Syncs (i : ThreadId) : Prop := i = .netbox ∨ ∃ n, i = .worker n

theorem ReachableBy.gate_follows (h : ReachableBy setup main_thread Meets P) {i : ThreadId} (hi : i.Syncs)
    {p : Agent (Option Int)} (hp : P.threads i = some p) :
    gateMonitor.Lawful {} (ownEvents i P.shared.log) ∧
      p.Obeys gateMonitor (fun q _ => i = .netbox → q.opened = true)
        (gateMonitor.after {} (ownEvents i P.shared.log)) := by
  refine h.follows (fun _ _ => id) ?_ hp
  rintro p₀ (⟨rfl, -⟩ | ⟨thread, rfl, rfl⟩)
  · rcases hi with hi | ⟨n, hi⟩ <;> cases hi
  · cases thread with
    | netbox client netbox_client =>
      exact (obeys_netboxSyncThread _ client netbox_client setup.fuel).bind (fun _ _ h _ => h) fun _ _ h _ => h
    | worker worker_id client netbox_client =>
      have hclosed : ({} : GateView).Idle false := ⟨rfl, rfl, nofun⟩
      exact (idle_workerLoop _ client netbox_client setup.fuel hclosed).bind (fun _ _ _ hi => by cases hi)
        fun _ _ _ hi => by cases hi
    | _ => rcases hi with hi | ⟨n, hi⟩ <;> cases hi

section View

variable {cs : List AgentCall}

theorem opened_next (q : GateView) (o : AgentOp) : (q.next o).opened = (q.opened || o.opensGate) := by
  unfold GateView.next AgentOp.opensGate
  split <;> simp

theorem begins_next (q : GateView) (o : AgentOp) :
    (q.next o).begins = q.begins + if o.beginsFetch = true then 1 else 0 := by
  unfold GateView.next AgentOp.beginsFetch
  split <;> simp

theorem after_begins (cs : List AgentCall) :
    (gateMonitor.after {} cs).begins = cs.countP fun c => c.op.beginsFetch := by
  induction cs using List.reverseRecOn with
  | nil => rfl
  | append_singleton cs c ih =>
    rw [gateMonitor.after_concat, List.countP_append, ← ih, List.countP_singleton]
    exact begins_next _ _

/-- The gate is opened once at most, and the view tells whether it is. -/
theorem count_opensGate (h : gateMonitor.Lawful {} cs) :
    (cs.countP fun c => c.op.opensGate) = if (gateMonitor.after {} cs).opened = true then 1 else 0 := by
  induction cs using List.reverseRecOn with
  | nil => rfl
  | append_singleton cs c ih =>
    obtain ⟨hcs, ⟨-, hallowed⟩, -⟩ := gateMonitor.lawful_concat.mp h
    rw [List.countP_append, ih hcs, List.countP_singleton, gateMonitor.after_concat]
    show _ = if ((gateMonitor.after {} cs).next c.op).opened = true then 1 else 0
    rw [opened_next]
    by_cases hc : c.op.opensGate = true
    · have hclosed : (gateMonitor.after {} cs).opened = false := by
        obtain ⟨o, r⟩ := c
        change o.opensGate = true at hc
        unfold AgentOp.opensGate at hc
        split at hc
        · exact hallowed
        · cases hc
      simp [hc, hclosed]
    · simp [hc]

/-- What is fetched was fetched by the last call. -/
theorem exists_fetched (h : gateMonitor.Lawful {} cs) {hosts : List DiscoveredHost}
    (hfetched : (gateMonitor.after {} cs).fetched = some hosts) :
    ∃ cs' r, cs = cs' ++ [⟨.sync (.fetchReturns hosts), r⟩] := by
  induction cs using List.reverseRecOn with
  | nil => cases hfetched
  | append_singleton cs c ih =>
    obtain ⟨hcs, ⟨hinstall, -⟩, -⟩ := gateMonitor.lawful_concat.mp h
    rw [gateMonitor.after_concat] at hfetched
    obtain ⟨o, r⟩ := c
    change ((gateMonitor.after {} cs).next o).fetched = some hosts at hfetched
    have hkept : (gateMonitor.after {} cs).fetched ≠ some hosts := fun hbefore => by
      -- then the call has installed the list
      obtain rfl : o = .sync (.replaceHosts hosts) := hinstall hosts hbefore
      cases hfetched
    unfold GateView.next at hfetched
    split at hfetched
    · exact absurd hfetched hkept
    · obtain rfl := Option.some.inj hfetched
      exact ⟨cs, r, rfl⟩
    · cases hfetched
    · exact absurd hfetched hkept
    · exact absurd hfetched hkept

/-- What was installed was fetched right before. -/
theorem fetched_before {hosts : List DiscoveredHost} {r : Except PyExc Unit} {cs' : List AgentCall}
    (h : gateMonitor.Lawful {} (cs ++ ⟨.sync (.replaceHosts hosts), r⟩ :: cs')) :
    ∃ cs₀ r', cs = cs₀ ++ [⟨.sync (.fetchReturns hosts), r'⟩] := by
  obtain ⟨hcs, ⟨-, hallowed⟩, -⟩ := gateMonitor.lawful_at.mp h
  exact exists_fetched hcs hallowed

end View

/-- The main thread opens the gate only in a run without a NetBox thread. -/
theorem ReachableBy.no_preset (h : ReachableBy setup main_thread Meets P) {r : Except PyExc Unit}
    (hset : (.main, ⟨.set .firstSync, r⟩) ∈ P.shared.log) : P.threads .netbox = none := by
  by_contra hthread
  obtain ⟨thread, hstarted, hid⟩ := h.started_of_thread (i := .netbox) nofun hthread
  obtain ⟨client, netbox_client, rfl⟩ : ∃ client netbox_client, thread = .netbox client netbox_client := by
    cases thread with
    | netbox client netbox_client => exact ⟨client, netbox_client, rfl⟩
    | _ => cases hid
  obtain ⟨r', hstart⟩ := h.start_mem hstarted
  cases hp : P.threads .main with
  | none =>
    have hown := mem_ownEvents_iff.mpr hset
    rw [h.traced.of_none hp] at hown
    cases hown
  | some p =>
    have hprogram : ∀ p₀, MayRun setup .main p₀ → p₀.Obeys wiringMonitor (fun _ _ => True) .building := by
      rintro p₀ (⟨-, rfl⟩ | ⟨thread, hid, -⟩)
      · exact obeys_mainProgram_wiring setup
      · cases thread <;> cases hid
    obtain ⟨hpreset, hnetbox⟩ := after_wiring (h.follows (fun _ _ => id) hprogram hp).1
    have hboth := (hpreset ⟨_, mem_ownEvents_iff.mpr hset, rfl⟩).symm.trans
      (hnetbox client netbox_client r' (mem_ownEvents_iff.mpr hstart))
    cases hboth

/-- A list was fetched and installed by one thread, one right after the other. -/
def Installed (hosts : List DiscoveredHost) (log : List (ThreadId × AgentCall)) : Prop :=
  ∃ i r r', [⟨.sync (.fetchReturns hosts), r⟩, ⟨.sync (.replaceHosts hosts), r'⟩] <:+: ownEvents i log

theorem ReachableBy.installed_of_replaced (h : ReachableBy setup main_thread Meets P) {i : ThreadId}
    {hosts : List DiscoveredHost} {r : Except PyExc Unit}
    (hmem : (i, ⟨.sync (.replaceHosts hosts), r⟩) ∈ P.shared.log) :
    Installed hosts P.shared.log := by
  have hi : i.Syncs := by
    have hcalled := h.calledBy hmem
    cases i with
    | netbox => exact Or.inl rfl
    | worker n => exact Or.inr ⟨n, rfl⟩
    | _ => cases hcalled
  obtain ⟨cs, cs', hown⟩ := List.append_of_mem (mem_ownEvents_iff.mpr hmem)
  cases hp : P.threads i with
  | none =>
    rw [h.traced.of_none hp] at hown
    cases cs <;> cases hown
  | some p =>
    have hlawful := (h.gate_follows hi hp).1
    rw [hown] at hlawful
    obtain ⟨cs₀, r', rfl⟩ := fetched_before hlawful
    exact ⟨i, r', r, cs₀, cs', by rw [hown]; simp⟩

/-- Only an installation changes the hosts in place. -/
theorem hosts_effect (s : AgentState) (o : AgentOp) (r : Except PyExc o.Ret) :
    (∃ hosts, o = .sync (.replaceHosts hosts) ∧ (effect s o r).netbox_hosts = hosts) ∨
      (∀ hosts, o ≠ .sync (.replaceHosts hosts)) ∧ (effect s o r).netbox_hosts = s.netbox_hosts := by
  by_cases ho : ∃ hosts, o = .sync (.replaceHosts hosts)
  · obtain ⟨hosts, rfl⟩ := ho
    exact Or.inl ⟨hosts, rfl, rfl⟩
  · refine Or.inr ⟨fun hosts h => ho ⟨hosts, h⟩, ?_⟩
    unfold effect
    split
    · rename_i event _
      cases event <;> rfl
    all_goals first | rfl | exact absurd ⟨_, rfl⟩ ho

/-- Once a list has been installed, the hosts in place are an installed list. -/
theorem ReachableBy.hosts_installed (h : ReachableBy setup main_thread Meets P)
    (hsome : ∃ i hosts r, (i, ⟨.sync (.replaceHosts hosts), r⟩) ∈ P.shared.log) :
    ∃ i r, (i, ⟨.sync (.replaceHosts P.shared.netbox_hosts), r⟩) ∈ P.shared.log := by
  induction h with
  | initial =>
    obtain ⟨i, hosts, r, hmem⟩ := hsome
    cases hmem
  | @step label P P' _ _ hstep ih =>
    have hkept : P'.shared.netbox_hosts = P.shared.netbox_hosts →
        (∃ i hosts r, (i, ⟨.sync (.replaceHosts hosts), r⟩) ∈ P.shared.log) →
        ∃ i r, (i, ⟨.sync (.replaceHosts P'.shared.netbox_hosts), r⟩) ∈ P'.shared.log := fun heq hsome => by
      obtain ⟨i, r, hmem⟩ := ih hsome
      exact ⟨i, r, hstep.extends.log.subset (heq ▸ hmem)⟩
    cases hstep with
    | @call i _ _ hcall =>
      cases hcall with
      | @call o k r s' hi hex =>
        obtain ⟨-, -, rfl⟩ := hex
        have hlog : ((effect P.shared o r).record i ⟨o, r⟩).log = P.shared.log ++ [(i, ⟨o, r⟩)] :=
          congrArg (· ++ [_]) (log_effect _ _ _)
        -- either this call installs a list, or it leaves the one in place
        rcases hosts_effect P.shared o r with ⟨hosts, rfl, hhosts⟩ | ⟨hother, hhosts⟩
        · exact ⟨i, r, List.mem_append_right _ (List.mem_singleton_self _)⟩
        · refine hkept hhosts ?_
          obtain ⟨j, hosts, r', hmem⟩ := hsome
          rw [hlog] at hmem
          rcases List.mem_append.mp hmem with hmem | hmem
          · exact ⟨j, hosts, r', hmem⟩
          · have hcall := (Prod.mk.inj (List.mem_singleton.mp hmem)).2
            exact absurd (Call.mk.inj hcall).1.symm (hother hosts)
    | begins _ _ => exact hkept rfl hsome
    | @signal signum _ _ _ =>
      refine hkept ?_ ?_
      · show (P.shared.receive signum).netbox_hosts = _
        unfold AgentState.receive
        split_ifs <;> rfl
      · rwa [show AgentState.log _ = _ from log_receive _ _] at hsome
    | request => exact hkept rfl hsome

/-! ## The gate -/

/-- The check thread has found the gate open. -/
def PassedGate (log : List (ThreadId × AgentCall)) : Prop :=
  (.check, ⟨.isSet .firstSync, .ok true⟩) ∈ log ∨ ∃ timeout, (.check, ⟨.wait .firstSync timeout, .ok true⟩) ∈ log

/-- The first fetch of the NetBox thread has returned a list. -/
def FirstFetchSucceeded (log : List (ThreadId × AgentCall)) : Prop :=
  ∃ hosts r cs cs', ownEvents .netbox log = cs ++ ⟨.sync (.fetchReturns hosts), r⟩ :: cs' ∧
    (cs.countP fun c => c.op.beginsFetch) = 1

/-- What the gate does in a run. -/
structure FirstSyncGate (P : AgentPool) : Prop where
  /-- The NetBox thread opens it once at most, -/
  once : ((ownEvents .netbox P.shared.log).countP fun c => c.op.opensGate) ≤ 1
  /-- and has opened it when it ends. -/
  by_exit : ∀ p, P.threads .netbox = some p → p.Ended →
    ((ownEvents .netbox P.shared.log).countP fun c => c.op.opensGate) = 1
  /-- A check thread that has passed an open gate, after a first fetch that succeeded, is given a fetched list. -/
  populated : ∀ pre post hosts, P.shared.log = pre ++ (.check, ⟨.hostsSnapshot, .ok hosts⟩) :: post → PassedGate pre →
    FirstFetchSucceeded P.shared.log → Installed hosts pre

/-- An open gate was opened by a call. -/
theorem ReachableBy.opened_of_passed (h : ReachableBy setup main_thread Meets P) (hpassed : PassedGate P.shared.log) :
    ∃ i r, (i, ⟨.set .firstSync, r⟩) ∈ P.shared.log := by
  have hset : P.shared.isSet .firstSync = true := by
    rcases hpassed with hmem | ⟨timeout, hmem⟩
    · obtain ⟨P₀, -, hanswer, hext⟩ := h.made hmem
      apply hext.isSet
      rw [isSet_record]
      exact (Except.ok.inj hanswer).symm
    · obtain ⟨P₀, -, hanswer, hext⟩ := h.made hmem
      apply hext.isSet
      rw [isSet_record]
      exact (Except.ok.inj hanswer.1).symm
  rcases (h.isSet_iff .firstSync).mp hset with hmem | ⟨he, -⟩
  · exact hmem
  · cases he

/-- When the gate is open after a first fetch that succeeds sooner or later, its list is installed. -/
theorem installed_before_open {cs cs₁ cs₂ : List AgentCall} {hosts : List DiscoveredHost} {r : Except PyExc Unit}
    (h : gateMonitor.Lawful {} (cs₁ ++ cs₂)) (hopen : ∃ c ∈ cs₁, c.op.opensGate = true)
    (hfetch : ∃ cs', cs₁ ++ cs₂ = cs ++ ⟨.sync (.fetchReturns hosts), r⟩ :: cs')
    (hfirst : (cs.countP fun c => c.op.beginsFetch) = 1) : ∃ r', ⟨.sync (.replaceHosts hosts), r'⟩ ∈ cs₁ := by
  obtain ⟨cs', hsplit⟩ := hfetch
  obtain ⟨c, hc, hopens⟩ := hopen
  have hlawful := h
  rw [hsplit] at hlawful
  obtain ⟨hcs, ⟨-, hallowed⟩, -, hafter⟩ := gateMonitor.lawful_at.mp hlawful
  -- the first fetch returns with the gate closed, so what opens it comes later
  have hclosed : ∀ d ∈ cs, ¬ d.op.opensGate = true := by
    have hopened : ¬ (gateMonitor.after {} cs).opened = true := fun hopened =>
      hallowed hopened ((after_begins cs).trans hfirst)
    have hnone := count_opensGate hcs
    rw [if_neg hopened] at hnone
    exact List.countP_eq_zero.mp hnone
  rcases List.append_eq_append_iff.mp hsplit with ⟨as, rfl, -⟩ | ⟨bs, rfl, hbs⟩
  · exact absurd hopens (hclosed c (List.mem_append_left _ hc))
  · cases bs with
    | nil =>
      rw [List.append_nil] at hc
      exact absurd hopens (hclosed c hc)
    | cons d bs =>
      obtain ⟨rfl, rfl⟩ := List.cons.inj hbs
      cases bs with
      | nil =>
        rcases List.mem_append.mp hc with hc | hc
        · exact absurd hopens (hclosed c hc)
        · obtain rfl := List.mem_singleton.mp hc
          cases hopens
      | cons d bs =>
        -- the call after the fetch installs the list
        obtain ⟨⟨hinstall, -⟩, -⟩ := hafter
        have hfetched : (gateMonitor.after {} (cs ++ [⟨.sync (.fetchReturns hosts), r⟩])).fetched = some hosts := by
          rw [gateMonitor.after_concat]
          rfl
        obtain ⟨o, r'⟩ := d
        obtain rfl : o = .sync (.replaceHosts hosts) := hinstall hosts hfetched
        exact ⟨r', by simp⟩

/-- **The first-sync gate**, in every interleaving. -/
theorem ReachableBy.first_sync_gate (h : ReachableBy setup main_thread Meets P) : FirstSyncGate P where
  once := by
    cases hp : P.threads .netbox with
    | none =>
      rw [h.traced.of_none hp]
      exact Nat.zero_le 1
    | some p =>
      rw [count_opensGate (h.gate_follows (Or.inl rfl) hp).1]
      split_ifs <;> omega
  by_exit p hp hended := by
    obtain ⟨hlawful, hobeys⟩ := h.gate_follows (Or.inl rfl) hp
    rw [count_opensGate hlawful, if_pos]
    cases p with
    | ret a => exact hobeys rfl
    | raise e => exact hobeys rfl
    | hang => cases hended
    | call o k => cases hended
  populated pre post hosts hlog hpassed hfirst := by
    obtain ⟨P₀, k, hP₀, rfl, -, -, hanswer, hcont⟩ := h.before hlog
    obtain rfl : hosts = P₀.shared.netbox_hosts := Except.ok.inj hanswer
    obtain ⟨fetched, r, cs, cs', hown, hcount⟩ := hfirst
    cases hp : P.threads .netbox with
    | none =>
      rw [h.traced.of_none hp] at hown
      cases cs <;> cases hown
    | some p =>
      have hlawful := (h.gate_follows (Or.inl rfl) hp).1
      obtain ⟨i, r', hset⟩ := hP₀.opened_of_passed hpassed
      have hset' : (i, ⟨.set .firstSync, r'⟩) ∈ P.shared.log := by
        rw [hlog]
        exact List.mem_append_left _ hset
      -- the main thread has not opened it, since there is a NetBox thread
      obtain rfl : i = .netbox := by
        have hcalled := h.calledBy hset'
        cases i with
        | netbox => rfl
        | main =>
          rw [h.no_preset hset'] at hp
          cases hp
        | _ => cases hcalled
      rw [hlog, ownEvents_append] at hlawful hown
      obtain ⟨r'', hreplaced⟩ := installed_before_open hlawful ⟨_, mem_ownEvents_iff.mpr hset, rfl⟩ ⟨cs', hown⟩ hcount
      obtain ⟨j, r₃, hmem⟩ := hP₀.hosts_installed ⟨.netbox, fetched, r'', mem_ownEvents_iff.mp hreplaced⟩
      exact hP₀.installed_of_replaced hmem

/-- An environment that names the dashboard and NetBox. -/
def dashboardAndNetbox : Env := fun name =>
  if name = "DASHBOARD_URL" then some "u"
  else if name = "NETBOX_URL" then some "n"
  else if name = "NETBOX_TOKEN" then some "t"
  else if name = "NETBOX_FILTER" then some "f"
  else none

/-- A dashboard that takes the discovered hosts. -/
def taking : Scene := { credentials := registered, submit_hosts := some ⟨200, .json (.obj [])⟩ }

def netboxSetup : Setup := { smallSetup with env := dashboardAndNetbox }

/-- The first sync is through, and the check thread has passed the gate and looked at the hosts. -/
def gatePassed : AgentPool :=
  (AgentPool.initial netboxSetup true).moves netboxSetup taking
    [.calls .main 13, .begins 3, .calls .netbox 12, .begins 2, .calls .check 3]

theorem first_sync_gate_gatePassed :
    FirstSyncGate gatePassed ∧ PassedGate gatePassed.shared.log ∧ FirstFetchSucceeded gatePassed.shared.log := by
  have hlook : gatePassed.shared.log[25]? = some (.check, ⟨.isSet .firstSync, .ok true⟩) := rfl
  have hown : ∃ cs cs', ownEvents .netbox gatePassed.shared.log = cs ++ ⟨.sync (.fetchReturns []), .ok ()⟩ :: cs' ∧
      (cs.countP fun c => c.op.beginsFetch) = 1 :=
    ⟨(ownEvents .netbox gatePassed.shared.log).take 6, (ownEvents .netbox gatePassed.shared.log).drop 7, rfl, rfl⟩
  obtain ⟨cs, cs', hown⟩ := hown
  exact ⟨(alive_initial.moves _).reachable.first_sync_gate, Or.inl (List.mem_of_getElem? hlook), [], _, cs, cs', hown⟩

end CertWatch
