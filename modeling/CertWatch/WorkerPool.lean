/-
# `CertWatch.WorkerPool` — the action workers and their queue, whatever the handlers do.

`ActionWorkerPool` of `action_workers.py` for any handlers: a handler is called and ends in any way, and what happens
in between is up to the others.  The workers of `CertWatch.ActionWorkers` are such workers with the two handlers of the
agent in place of those calls.

The queue counts its unfinished actions.  In every interleaving of the workers with whoever puts actions and sets the
shutdown event, no action is taken or handled twice and the count is that of the actions that are queued or in hand.
-/
import CertWatch.ActionWorkers
import CertWatch.TimestampOrder
import CertWatch.Lib.Monitor
import CertWatch.Lib.WorkLedger

namespace CertWatch

open CertWatch.Lib

/-! ## The pool -/

/-- A pool as it is constructed: the action types that have a handler, and whether there is an event for
authentication errors. -/
structure ActionWorkerPool where
  handlers : List String
  auth_error_event : Bool

/-- What a worker asks of the queue, of the events and of the handlers. -/
inductive WorkerOp where
  /-- `self._shutdown_event.is_set()`. -/
  | isSet
  /-- `self._queue.get(timeout=0.5)`. -/
  | get
  | utcNowIso
  /-- The call of the handler. -/
  | handlerStarts (ctx : ActionContext)
  /-- Its end. -/
  | handlerEnds (ctx : ActionContext)
  | set (event : AgentEvent)
  | taskDone

/-- What each call returns. -/
abbrev WorkerOp.Ret : WorkerOp → Type
  | .isSet => Bool
  | .get => Json
  | .utcNowIso => String
  | _ => Unit

abbrev workerSig : Sig := ⟨WorkerOp, WorkerOp.Ret⟩

/-- Programs of a worker. -/
abbrev Worker (α : Type) := Prog workerSig PyExc α

abbrev workerCall (o : WorkerOp) : Worker o.Ret := Prog.perform (S := workerSig) o

abbrev WorkerCall := Call workerSig PyExc

namespace ActionWorkerPool

variable (pool : ActionWorkerPool)

/-- `self._handlers.get(action_type) is not None`; a list or a dictionary cannot be looked up. -/
def isRegistered : Json → Except PyExc Bool
  | .arr _ => .error .typeError
  | .obj _ => .error .typeError
  | .str action_type => .ok (decide (action_type ∈ pool.handlers))
  | _ => .ok false

/-- `_dispatch`. -/
def dispatch (action : Json) : Worker Unit := do
  let action_id ← .ofExcept (action.getOr "action_id" (.str "<missing>"))
  let action_type ← .ofExcept (action.getOr "action_type" (.str "<missing>"))
  let expires_at ← .ofExcept (action.getOr "expires_at" (.str ""))
  let now ← workerCall .utcNowIso
  let expired ← .ofExcept (isExpired expires_at now)
  if expired then
    return ()
  else do
    let stopping ← workerCall .isSet
    if stopping then
      return ()
    else do
      let registered ← .ofExcept (pool.isRegistered action_type)
      if registered then do
        let payload ← .ofExcept (action.getOr "payload" (.obj []))
        let queued_at ← .ofExcept (action.getOr "queued_at" (.str ""))
        let ctx : ActionContext := { action_id, action_type, payload := payload.or (.obj []), queued_at, expires_at }
        workerCall (.handlerStarts ctx)
        workerCall (.handlerEnds ctx)
      else
        return ()

/-- The events that an authentication error sets. -/
def signalAuthError : Worker Unit := do
  if pool.auth_error_event then
    workerCall (.set .authError)
    workerCall (.set .shutdown)
  else
    workerCall (.set .shutdown)

/-- The `except` clauses around a dispatch, whose log records read the action. -/
def handleDispatched (action : Json) (outcome : Except PyExc Unit) : Worker Unit :=
  match outcome with
  | .ok () => return ()
  | .error _ => do
    let _ ← .ofExcept (action.get "action_id")
    if isAuthFailure outcome then pool.signalAuthError else return ()

/-- The body of the loop for an action that was taken; `task_done` is its `finally`. -/
def processAction (action : Json) : Worker Unit := do
  let outcome ← (pool.dispatch action).attempt
  let handled ← (pool.handleDispatched action outcome).attempt
  workerCall .taskDone
  .ofExcept handled

/-- One round of the loop: whether there is another one. -/
def round : Worker Bool := do
  let stopping ← workerCall .isSet
  if stopping then
    return false
  else do
    match ← (workerCall .get).attempt with
    | .ok action => do
      pool.processAction action
      return true
    | .error e => if e = queueEmpty then return true else .raise e

/-- `_worker_loop`. -/
def workerLoop : Nat → Worker Unit
  | 0 => .hang
  | fuel + 1 => do
    let goes_on ← pool.round
    if goes_on then workerLoop fuel else return ()

end ActionWorkerPool

/-! ## The workers of the agent -/

/-- The pool that the runner constructs. -/
def agentWorkers : ActionWorkerPool := ⟨["check_host", "sync_netbox"], true⟩

section

variable (rt : Runtime) (client : DashboardClient) (netbox_client : Option NetBoxClient) (fuel : Nat)

/-- The handler for the action's type. -/
def agentHandler (ctx : ActionContext) : Agent Unit :=
  match ctx.action_type with
  | .str "check_host" => checkHost rt client fuel ctx
  | .str "sync_netbox" => syncNetbox rt client netbox_client fuel ctx
  | _ => .ret ()

/-- The calls of a worker in the agent. -/
def onAgent : (o : WorkerOp) → Agent o.Ret
  | .isSet => agentCall (.isSet .shutdown)
  | .get => agentCall .get
  | .utcNowIso => agentCall .utcNowIso
  | .handlerStarts _ => .ret ()
  | .handlerEnds ctx => agentHandler rt client netbox_client fuel ctx
  | .set event => agentCall (.set event)
  | .taskDone => agentCall .taskDone

/-- What the lookup of the handlers comes to. -/
theorem handlerFor_cases (action_type : Json) :
    (∃ e, handlerFor rt client netbox_client fuel action_type = .error e ∧
      agentWorkers.isRegistered action_type = .error e) ∨
    (handlerFor rt client netbox_client fuel action_type = .ok none ∧
      agentWorkers.isRegistered action_type = .ok false) ∨
    ∃ handler, handlerFor rt client netbox_client fuel action_type = .ok (some handler) ∧
      agentWorkers.isRegistered action_type = .ok true ∧
      ∀ ctx : ActionContext, ctx.action_type = action_type →
        agentHandler rt client netbox_client fuel ctx = handler ctx := by
  unfold handlerFor
  split
  · exact .inl ⟨_, rfl, rfl⟩
  · exact .inl ⟨_, rfl, rfl⟩
  · exact .inr (.inr ⟨_, rfl, rfl, fun ctx hctx => by simp only [agentHandler, hctx]⟩)
  · exact .inr (.inr ⟨_, rfl, rfl, fun ctx hctx => by simp only [agentHandler, hctx]⟩)
  · rename_i harr hobj hcheck hsync
    refine .inr (.inl ⟨rfl, ?_⟩)
    cases action_type with
    | arr xs => exact absurd rfl (harr xs)
    | obj d => exact absurd rfl (hobj d)
    | str text =>
      have hne : text ≠ "check_host" ∧ text ≠ "sync_netbox" :=
        ⟨fun h => hcheck (congrArg Json.str h), fun h => hsync (congrArg Json.str h)⟩
      simp [ActionWorkerPool.isRegistered, agentWorkers, hne]
    | _ => rfl

/-- The same beginning, and a rest that is the same after whatever it returns. -/
theorem bind_eq_interpret {α β : Type} {f : (o : WorkerOp) → Agent o.Ret} {p : Worker α} {g : α → Worker β}
    {q : Agent α} {h : α → Agent β} (hp : q = p.interpret f) (hg : ∀ a, h a = (g a).interpret f) :
    q.bind h = (p.bind g).interpret f := by
  rw [Prog.interpret_bind, hp, funext hg]

theorem bind_eq_interpret_bind {α β γ : Type} {f : (o : WorkerOp) → Agent o.Ret} {p : Worker α} {g : α → Worker β}
    {q : Agent α} {h : α → Agent γ} {k : β → Agent γ} (hp : q = p.interpret f)
    (hg : ∀ a, h a = ((g a).interpret f).bind k) : q.bind h = ((p.bind g).interpret f).bind k := by
  rw [Prog.interpret_bind, Prog.bind_assoc, hp, funext hg]

theorem onAgent_eq (o : WorkerOp) : onAgent rt client netbox_client fuel o =
    (workerCall o).interpret (onAgent rt client netbox_client fuel) :=
  (@Prog.interpret_perform workerSig agentSig PyExc (onAgent rt client netbox_client fuel) o).symm

/-- The dispatcher of the agent is that of its pool. -/
theorem dispatch_eq (action : Json) : dispatch rt client netbox_client fuel action =
    (agentWorkers.dispatch action).interpret (onAgent rt client netbox_client fuel) := by
  refine bind_eq_interpret (Prog.interpret_ofExcept _ _).symm fun action_id => ?_
  refine bind_eq_interpret (Prog.interpret_ofExcept _ _).symm fun action_type => ?_
  refine bind_eq_interpret (Prog.interpret_ofExcept _ _).symm fun expires_at => ?_
  refine bind_eq_interpret (onAgent_eq rt client netbox_client fuel .utcNowIso) fun now => ?_
  refine bind_eq_interpret (Prog.interpret_ofExcept _ _).symm fun expired => ?_
  split_ifs
  · rfl
  refine bind_eq_interpret (onAgent_eq rt client netbox_client fuel .isSet) fun stopping => ?_
  split_ifs
  · rfl
  obtain ⟨e, hfor, hregistered⟩ | ⟨hfor, hregistered⟩ | ⟨handler, hfor, hregistered, hhandler⟩ :=
    handlerFor_cases rt client netbox_client fuel action_type
  · rw [hfor, hregistered]
    rfl
  · rw [hfor, hregistered]
    rfl
  · rw [hfor, hregistered]
    simp only [Prog.bind_eq, Prog.ofExcept_ok, Prog.ret_bind, if_true]
    refine bind_eq_interpret (Prog.interpret_ofExcept _ _).symm fun payload => ?_
    refine bind_eq_interpret (Prog.interpret_ofExcept _ _).symm fun queued_at => ?_
    exact (hhandler _ rfl).symm.trans (onAgent_eq rt client netbox_client fuel (.handlerEnds _))

theorem handleDispatched_eq (action : Json) (outcome : Except PyExc Unit) : handleDispatched action outcome =
    (agentWorkers.handleDispatched action outcome).interpret (onAgent rt client netbox_client fuel) := by
  cases outcome with
  | ok _ => rfl
  | error e =>
    refine bind_eq_interpret (Prog.interpret_ofExcept _ _).symm fun _ => ?_
    split_ifs
    · exact bind_eq_interpret (onAgent_eq rt client netbox_client fuel (.set .authError)) fun _ =>
        onAgent_eq rt client netbox_client fuel (.set .shutdown)
    · rfl

theorem processAction_eq (action : Json) : processAction rt client netbox_client fuel action =
    (agentWorkers.processAction action).interpret (onAgent rt client netbox_client fuel) := by
  refine bind_eq_interpret ?_ fun outcome => bind_eq_interpret ?_ fun handled => ?_
  · rw [Prog.interpret_attempt, dispatch_eq]
  · rw [Prog.interpret_attempt, handleDispatched_eq rt client netbox_client fuel]
  · exact bind_eq_interpret (onAgent_eq rt client netbox_client fuel .taskDone) fun _ =>
      (Prog.interpret_ofExcept _ _).symm

/-- **The worker loop of the agent is that of its pool**, round by round, with the handlers of the agent in place of
the calls of a handler. -/
theorem workerLoop_eq : workerLoop rt client netbox_client (fuel + 1) =
    (agentWorkers.round.interpret (onAgent rt client netbox_client fuel)).bind fun goes_on =>
      if goes_on then workerLoop rt client netbox_client fuel else .ret () := by
  refine bind_eq_interpret_bind (onAgent_eq rt client netbox_client fuel .isSet) fun stopping => ?_
  split_ifs
  · rfl
  refine bind_eq_interpret_bind ?_ fun taken => ?_
  · rw [Prog.interpret_attempt, ← onAgent_eq]
    rfl
  cases taken with
  | ok action => exact bind_eq_interpret_bind (processAction_eq rt client netbox_client fuel action) fun _ => rfl
  | error e =>
    show (if e = queueEmpty then workerLoop rt client netbox_client fuel else .raise e) =
      ((if e = queueEmpty then (.ret true : Worker Bool) else .raise e).interpret _).bind _
    split_ifs <;> rfl

end

/-! ## The workers in their surroundings -/

/-- What the workers share: the events, the queue with its count, and a log of all calls. -/
structure WorkerState (n : Nat) where
  shutdown : Bool := false
  auth_error : Bool := false
  ledger : Ledger (Fin n) Json := {}
  log : List (Fin n × WorkerCall) := []

variable {n : Nat}

/-- The answers that a call may have; a handler may end in any way. -/
def workerAnswers (s : WorkerState n) : (o : WorkerOp) → Except PyExc o.Ret → Prop
  | .isSet, r => r = .ok s.shutdown
  | .get, r => match s.ledger.queue with
    | [] => r = .error queueEmpty
    | action :: _ => r = .ok action.item
  | .utcNowIso, r => ∃ us, r = .ok (utcNowIso us)
  | .handlerStarts _, r => r = .ok ()
  | .handlerEnds _, _ => True
  | .set _, r => r = .ok ()
  | .taskDone, r => r =
    if s.ledger.unfinished = 0 then .error (.valueError "task_done() called too many times") else .ok ()

/-- What a call does to the shared state. -/
def workerEffect (i : Fin n) (s : WorkerState n) : (o : WorkerOp) → Except PyExc o.Ret → WorkerState n
  | .get, .ok _ => { s with ledger := s.ledger.take i }
  | .handlerStarts _, _ => { s with ledger := s.ledger.begin i }
  | .set .shutdown, _ => { s with shutdown := true }
  | .set .authError, _ => { s with auth_error := true }
  | .taskDone, .ok _ => { s with ledger := s.ledger.finish i }
  | _, _ => s

def workerExec (i : Fin n) (o : WorkerOp) (s : WorkerState n) (r : Except PyExc o.Ret) (s' : WorkerState n) : Prop :=
  workerAnswers s o r ∧ s' = { workerEffect i s o r with log := s.log ++ [(i, ⟨o, r⟩)] }

abbrev Workers (n : Nat) := Pool (Fin n) workerSig PyExc Unit (WorkerState n)

namespace ActionWorkerPool

variable (pool : ActionWorkerPool) (fuel : Nat)

/-- `start`: every worker is at the beginning of its loop. -/
def start (n : Nat) : Workers n where
  threads _ := some (pool.workerLoop fuel)
  shared := {}

/-- One step: a call of a worker, an action that somebody puts, or somebody else's `shutdown_event.set()`. -/
inductive Step : Workers n → Workers n → Prop where
  | call {i : Fin n} {P P' : Workers n} (hcall : Pool.Step workerExec i P P') : Step P P'
  | put {P : Workers n} (action : Dict) :
    Step P { P with shared := { P.shared with ledger := P.shared.ledger.put (.obj action) } }
  | shutdown {P : Workers n} : Step P { P with shared := { P.shared with shutdown := true } }

/-- The states of all runs. -/
inductive Runs : Workers n → Prop where
  | start : Runs (pool.start fuel n)
  | step {P P' : Workers n} (hrun : Runs P) (hstep : Step P P') : Runs P'

end ActionWorkerPool

/-! ## One worker -/

/-- What a worker has in hand, and whether it has called the handler. -/
def progressAfter (p : Option (Json × Bool)) : WorkerCall → Option (Json × Bool)
  | ⟨.get, .ok action⟩ => some (action, false)
  | ⟨.handlerStarts _, _⟩ => p.map fun x => (x.1, true)
  | ⟨.taskDone, .ok _⟩ => none
  | _ => p

/-- What it has in hand after these calls. -/
def progress (cs : List WorkerCall) : Option (Json × Bool) := cs.foldl progressAfter none

theorem progress_concat (cs : List WorkerCall) (c : WorkerCall) :
    progress (cs ++ [c]) = progressAfter (progress cs) c := by
  rw [progress, List.foldl_append]
  rfl

/-- The action has no expiry, or one that is not before this time. -/
def LiveAt (expires_at : Json) (now : String) : Prop :=
  expires_at.truthy = false ∨ ∃ text, expires_at = .str text ∧ ¬ text < now

theorem liveAt_of_isExpired {expires_at : Json} {now : String} (h : isExpired expires_at now = .ok false) :
    LiveAt expires_at now := by
  unfold isExpired at h
  split_ifs at h with htruthy
  · cases expires_at with
    | str text => exact .inr ⟨text, rfl, of_decide_eq_false (Except.ok.inj h)⟩
    | _ => cases h
  · exact .inl (Bool.eq_false_of_not_eq_true htruthy)

/-- For times as the agent prints them, that is the order of the instants. -/
theorem LiveAt.not_before {expires_at now : Instant} (h : LiveAt (.str expires_at.iso) now.iso) :
    ¬ expires_at.Before now := by
  intro hbefore
  obtain hfalsy | ⟨text, htext, hnot⟩ := h
  · rw [expires_at.iso_truthy] at hfalsy
    cases hfalsy
  · obtain rfl := Json.str.inj htext
    exact hnot ((expires_at.iso_lt_iff now).mpr hbefore)

/-- The context that the dispatcher makes of an action. -/
def contextOf (action : Dict) : ActionContext where
  action_id := Dict.getD action "action_id" (.str "<missing>")
  action_type := Dict.getD action "action_type" (.str "<missing>")
  payload := (Dict.getD action "payload" (.obj [])).or (.obj [])
  queued_at := Dict.getD action "queued_at" (.str "")
  expires_at := Dict.getD action "expires_at" (.str "")

/-- The last three calls have picked up an action that is live and whose type has a handler, and have found the event
unset. -/
def PicksUp (pool : ActionWorkerPool) (cs : List WorkerCall) (ctx : ActionContext) : Prop :=
  ∃ before action now, cs = before ++ [⟨.get, .ok (.obj action)⟩, ⟨.utcNowIso, .ok now⟩, ⟨.isSet, .ok false⟩] ∧
    ctx = contextOf action ∧ LiveAt ctx.expires_at now ∧
    ∃ action_type, ctx.action_type = .str action_type ∧ action_type ∈ pool.handlers

/-- The answers that a worker reckons with. -/
def workerPossible : (o : WorkerOp) → Except PyExc o.Ret → Prop
  | .isSet, r => ∃ stopping, r = .ok stopping
  | .get, r => r = .error queueEmpty ∨ ∃ action, r = .ok (.obj action)
  | .utcNowIso, r => ∃ now, r = .ok now
  | .handlerStarts _, r => r = .ok ()
  | .handlerEnds _, _ => True
  | .set _, r => r = .ok ()
  | .taskDone, r => r = .ok ()

/-- A worker takes an action with empty hands, calls a handler for one that it has just picked up, and reports one done
that it has in hand. -/
def workerAllows (pool : ActionWorkerPool) (cs : List WorkerCall) : WorkerOp → Prop
  | .get => progress cs = none
  | .handlerStarts ctx => PicksUp pool cs ctx
  | .taskDone => progress cs ≠ none
  | _ => True

abbrev workerMonitor (pool : ActionWorkerPool) : Monitor workerSig PyExc (List WorkerCall) :=
  .history workerPossible (workerAllows pool)

/-- The action is in hand. -/
def HasTaken (action : Dict) (cs : List WorkerCall) : Prop := ∃ begun, progress cs = some (.obj action, begun)

theorem HasTaken.concat {action : Dict} {cs : List WorkerCall} {c : WorkerCall} (h : HasTaken action cs)
    (hget : c.op ≠ .get) (hdone : c.op ≠ .taskDone) : HasTaken action (cs ++ [c]) := by
  obtain ⟨begun, hp⟩ := h
  obtain ⟨o, r⟩ := c
  unfold HasTaken
  rw [progress_concat, hp]
  cases o with
  | get => exact absurd rfl hget
  | taskDone => exact absurd rfl hdone
  | handlerStarts _ => exact ⟨true, rfl⟩
  | _ => exact ⟨begun, rfl⟩

theorem isRegistered_eq_true {pool : ActionWorkerPool} {action_type : Json}
    (h : pool.isRegistered action_type = .ok true) : ∃ text, action_type = .str text ∧ text ∈ pool.handlers := by
  cases action_type with
  | str text => exact ⟨text, rfl, of_decide_eq_true (Except.ok.inj h)⟩
  | _ => cases h

namespace ActionWorkerPool

variable (pool : ActionWorkerPool) {action : Dict} {cs : List WorkerCall}

/-- The dispatcher, for an object. -/
theorem dispatch_obj (action : Dict) : pool.dispatch (.obj action) = (workerCall .utcNowIso).bind fun now =>
    (Prog.ofExcept (isExpired (contextOf action).expires_at now)).bind fun expired => if expired then .ret () else
      (workerCall .isSet).bind fun stopping => if stopping then .ret () else
        (Prog.ofExcept (pool.isRegistered (contextOf action).action_type)).bind fun registered =>
          if registered then (workerCall (.handlerStarts (contextOf action))).bind fun _ =>
            workerCall (.handlerEnds (contextOf action)) else .ret () := rfl

/-- **The dispatcher calls a handler only for what it has picked up**, and keeps the action in hand. -/
theorem obeys_dispatch (h : HasTaken action (cs ++ [⟨.get, .ok (.obj action)⟩])) :
    (pool.dispatch (.obj action)).Obeys (workerMonitor pool) (fun cs _ => HasTaken action cs)
      (cs ++ [⟨.get, .ok (.obj action)⟩]) := by
  rw [dispatch_obj]
  refine Prog.obeys_bind.mpr (Prog.obeys_perform.mpr ⟨trivial, fun r hr => ?_⟩)
  obtain ⟨now, rfl⟩ := hr
  have hnow := h.concat (c := ⟨.utcNowIso, .ok now⟩) nofun nofun
  refine Prog.obeys_ofExcept_bind (fun expired hexpired => ?_) fun e _ => hnow
  split_ifs with hskipped
  · exact hnow
  refine Prog.obeys_bind.mpr (Prog.obeys_perform.mpr ⟨trivial, fun r hr => ?_⟩)
  obtain ⟨stopping, rfl⟩ := hr
  have hlook := hnow.concat (c := ⟨.isSet, .ok stopping⟩) nofun nofun
  refine Prog.thenObeys_ok.mpr ?_
  split_ifs with hstopping
  · exact hlook
  refine Prog.obeys_ofExcept_bind (fun registered hregistered => ?_) fun e _ => hlook
  split_ifs with hknown
  · -- the handler is called right after the two looks
    obtain rfl := Bool.eq_false_of_not_eq_true hskipped
    obtain rfl := Bool.eq_false_of_not_eq_true hstopping
    obtain rfl := hknown
    have hpicks : PicksUp pool _ (contextOf action) :=
      ⟨cs, action, now, rfl, rfl, liveAt_of_isExpired hexpired, isRegistered_eq_true hregistered⟩
    refine Prog.obeys_bind.mpr (Prog.obeys_perform.mpr ⟨?_, fun r hr => ?_⟩)
    · show PicksUp pool (cs ++ [⟨.get, .ok (.obj action)⟩] ++ [⟨.utcNowIso, .ok now⟩] ++ [⟨.isSet, .ok false⟩]) _
      rw [List.append_assoc, List.append_assoc]
      exact hpicks
    obtain rfl : r = .ok () := hr
    have hstarts := hlook.concat (c := ⟨.handlerStarts (contextOf action), .ok ()⟩) nofun nofun
    exact Prog.obeys_perform.mpr ⟨trivial, fun r _ => hstarts.concat nofun nofun⟩
  · exact hlook

theorem obeys_set {event : AgentEvent} (h : HasTaken action cs) : (workerCall (.set event)).Obeys (workerMonitor pool)
    (fun cs x => HasTaken action cs ∧ x = .ok ()) cs :=
  Prog.obeys_perform.mpr ⟨trivial, fun _ hr => ⟨h.concat nofun nofun, hr⟩⟩

theorem obeys_handleDispatched (h : HasTaken action cs) (outcome : Except PyExc Unit) :
    (pool.handleDispatched (.obj action) outcome).Obeys (workerMonitor pool)
      (fun cs x => HasTaken action cs ∧ x = .ok ()) cs := by
  cases outcome with
  | ok _ => exact ⟨h, rfl⟩
  | error e =>
    refine Prog.obeys_ofExcept_bind (fun _ _ => ?_) nofun
    split_ifs
    · unfold ActionWorkerPool.signalAuthError
      split_ifs
      · exact (obeys_set pool h).bind (fun cs _ hcs => obeys_set pool hcs.1) fun cs e hcs => hcs
      · exact obeys_set pool h
    · exact ⟨h, rfl⟩

/-- **An action that was taken is reported done once**, whatever became of it. -/
theorem obeys_processAction (h : HasTaken action (cs ++ [⟨.get, .ok (.obj action)⟩])) :
    (pool.processAction (.obj action)).Obeys (workerMonitor pool) (fun cs x => progress cs = none ∧ x = .ok ())
      (cs ++ [⟨.get, .ok (.obj action)⟩]) := by
  refine (obeys_dispatch pool h).attempt_bind fun cs outcome hcs => ?_
  refine (obeys_handleDispatched pool hcs outcome).attempt_bind fun cs handled hhandled => ?_
  obtain ⟨⟨begun, hprogress⟩, rfl⟩ := hhandled
  refine Prog.obeys_bind.mpr (Prog.obeys_perform.mpr ⟨?_, fun r hr => ?_⟩)
  · show progress cs ≠ none
    rw [hprogress]
    nofun
  · obtain rfl : r = .ok () := hr
    exact ⟨progress_concat _ _, rfl⟩

/-- How a round leaves a worker: with empty hands, and after a look that found the event set if it is the last one. -/
def RoundEnds (cs : List WorkerCall) (x : Except PyExc Bool) : Prop :=
  (x = .ok true ∧ progress cs = none) ∨ (x = .ok false ∧ ∃ before, cs = before ++ [⟨.isSet, .ok true⟩])

theorem obeys_round (h : progress cs = none) : pool.round.Obeys (workerMonitor pool) RoundEnds cs := by
  refine Prog.obeys_bind.mpr (Prog.obeys_perform.mpr ⟨trivial, fun r hr => ?_⟩)
  obtain ⟨stopping, rfl⟩ := hr
  refine Prog.thenObeys_ok.mpr ?_
  split_ifs with hstopping
  · obtain rfl := hstopping
    exact .inr ⟨rfl, cs, rfl⟩
  have hlook : progress (cs ++ [⟨.isSet, .ok stopping⟩]) = none := (progress_concat _ _).trans h
  refine Prog.obeys_bind.mpr (Prog.obeys_attempt.mpr (Prog.obeys_perform.mpr ⟨hlook, fun r hr => ?_⟩))
  obtain rfl | ⟨action, rfl⟩ := hr
  · exact .inl ⟨rfl, (progress_concat _ _).trans hlook⟩
  · have htaken : HasTaken action (cs ++ [⟨.isSet, .ok stopping⟩] ++ [⟨.get, .ok (.obj action)⟩]) :=
      ⟨false, progress_concat _ _⟩
    refine (obeys_processAction pool htaken).bind (fun cs _ hcs => .inl ⟨rfl, hcs.1⟩) fun cs e hcs => ?_
    cases hcs.2

/-- **A worker's loop**: it ends after a look that found the event set, and never with an exception. -/
theorem obeys_workerLoop (fuel : Nat) (h : progress cs = none) : (pool.workerLoop fuel).Obeys (workerMonitor pool)
    (fun cs x => x = .ok () ∧ ∃ before, cs = before ++ [⟨.isSet, .ok true⟩]) cs := by
  induction fuel generalizing cs with
  | zero => trivial
  | succ fuel ih =>
    refine (obeys_round pool h).bind (fun cs goes_on hcs => ?_) fun cs e hcs => ?_
    · obtain ⟨hgoes, hprogress⟩ | ⟨hgoes, hset⟩ := hcs
      · obtain rfl := Except.ok.inj hgoes
        exact ih hprogress
      · obtain rfl := Except.ok.inj hgoes
        exact ⟨rfl, hset⟩
    · obtain ⟨he, -⟩ | ⟨he, -⟩ := hcs <;> cases he

end ActionWorkerPool

/-! ## What a call does -/

section Effect

variable {i j : Fin n} {s : WorkerState n} {o : WorkerOp} {r : Except PyExc o.Ret}

/-- What a worker has in hand, as its own calls tell it. -/
def WorkerState.inHand (s : WorkerState n) (i : Fin n) : Option (Json × Bool) :=
  (s.ledger.held i).map fun h => (h.item, h.begun)

theorem held_effect_ne (hji : j ≠ i) : (workerEffect i s o r).ledger.held j = s.ledger.held j := by
  unfold workerEffect
  split
  · exact Ledger.held_take_ne hji
  · exact Ledger.held_begin_ne hji
  · rfl
  · rfl
  · exact Ledger.held_finish_ne hji
  · rfl

/-- `get` returns the first action, or raises `queue.Empty`. -/
theorem workerAnswers_get {r : Except PyExc Json} (h : workerAnswers s .get r) :
    (s.ledger.queue = [] ∧ r = .error queueEmpty) ∨ ∃ x queue, s.ledger.queue = x :: queue ∧ r = .ok x.item := by
  simp only [workerAnswers] at h
  split at h
  · rename_i hqueue
    exact .inl ⟨hqueue, h⟩
  · rename_i x queue hqueue
    exact .inr ⟨x, queue, hqueue, h⟩

/-- **The ledger has in a worker's hands what its own calls say.** -/
theorem inHand_effect (h : workerAnswers s o r) :
    (workerEffect i s o r).inHand i = progressAfter (s.inHand i) ⟨o, r⟩ := by
  cases o with
  | get =>
    obtain ⟨-, rfl⟩ | ⟨x, queue, hqueue, rfl⟩ := workerAnswers_get h
    · rfl
    · show ((s.ledger.take i).held i).map _ = some (x.item, false)
      rw [Ledger.held_take_self hqueue]
      rfl
  | handlerStarts ctx =>
    show ((s.ledger.begin i).held i).map _ = (s.inHand i).map _
    rw [Ledger.held_begin_self, WorkerState.inHand, Option.map_map, Option.map_map]
    rfl
  | taskDone =>
    cases r with
    | ok _ =>
      show ((s.ledger.finish i).held i).map _ = none
      rw [Ledger.held_finish_self]
      rfl
    | error e => rfl
  | set event => cases event <;> rfl
  | _ => cases r <;> rfl

theorem shutdown_effect (h : s.shutdown = true) : (workerEffect i s o r).shutdown = true := by
  unfold workerEffect
  split <;> first | rfl | exact h

end Effect

/-! ## All workers -/

theorem progress_of_picksUp {pool : ActionWorkerPool} {cs : List WorkerCall} {ctx : ActionContext}
    (h : PicksUp pool cs ctx) : ∃ action, progress cs = some (action, false) := by
  obtain ⟨before, action, now, rfl, -⟩ := h
  refine ⟨.obj action, ?_⟩
  rw [progress, List.foldl_append]
  rfl

/-- What holds in every state of every run. -/
structure PoolInvariant (pool : ActionWorkerPool) (fuel : Nat) (P : Workers n) : Prop where
  traced : P.Traced (fun _ p => p = pool.workerLoop fuel) WorkerState.log
  possible : ∀ i c, (i, c) ∈ P.shared.log → workerPossible c.op c.answer
  sound : P.shared.ledger.Sound
  objects : ∀ x ∈ P.shared.ledger.queue, ∃ action, x.item = .obj action
  hands : ∀ i, P.shared.inHand i = progress (ownEvents i P.shared.log)
  seen : ∀ i, (i, ⟨.isSet, .ok true⟩) ∈ P.shared.log → P.shared.shutdown = true
  looks : P.shared.log.Pairwise fun a b => a.2 = ⟨.isSet, .ok true⟩ → b.2 ≠ ⟨.isSet, .ok false⟩

section Invariant

variable {pool : ActionWorkerPool} {fuel : Nat} {P P' : Workers n} {i : Fin n}

/-- What is left of a worker still obeys, from where its own calls have taken it. -/
theorem PoolInvariant.obeys (h : PoolInvariant pool fuel P) {p : Worker Unit} (hi : P.threads i = some p) :
    p.Obeys (workerMonitor pool) (fun cs x => x = .ok () ∧ ∃ before, cs = before ++ [⟨.isSet, .ok true⟩])
      (ownEvents i P.shared.log) := by
  obtain ⟨p₀, rfl, htrace⟩ := h.traced.of_some hi
  have hpossible : ∀ c ∈ ownEvents i P.shared.log, workerPossible c.op c.answer :=
    fun c hc => h.possible i c (mem_ownEvents_iff.mp hc)
  have hobeys := ((@ActionWorkerPool.obeys_workerLoop pool [] fuel rfl).trace hpossible htrace).2
  rw [Monitor.after_history, List.nil_append] at hobeys
  exact hobeys

theorem PoolInvariant.empty_hands (h : PoolInvariant pool fuel P) (hi : progress (ownEvents i P.shared.log) = none) :
    P.shared.ledger.held i = none :=
  Option.map_eq_none_iff.mp ((h.hands i).trans hi)

theorem PoolInvariant.full_hands (h : PoolInvariant pool fuel P) {action : Json} {begun : Bool}
    (hi : progress (ownEvents i P.shared.log) = some (action, begun)) :
    ∃ hand, P.shared.ledger.held i = some hand ∧ hand.begun = begun := by
  obtain ⟨hand, hheld, hview⟩ := Option.map_eq_some_iff.mp ((h.hands i).trans hi)
  exact ⟨hand, hheld, congrArg Prod.snd hview⟩

variable {o : WorkerOp} {r : Except PyExc o.Ret} (hallows : workerAllows pool (ownEvents i P.shared.log) o)
  (hanswers : workerAnswers P.shared o r)

include hallows hanswers in
/-- The answers are those that a worker reckons with: `task_done` never finds the count at zero. -/
theorem PoolInvariant.possible_answer (h : PoolInvariant pool fuel P) : workerPossible o r := by
  cases o with
  | isSet => exact ⟨_, hanswers⟩
  | get =>
    obtain ⟨-, rfl⟩ | ⟨x, queue, hqueue, rfl⟩ := workerAnswers_get hanswers
    · exact .inl rfl
    · obtain ⟨action, hitem⟩ := h.objects x (hqueue ▸ List.mem_cons_self)
      exact .inr ⟨action, congrArg Except.ok hitem⟩
  | utcNowIso =>
    obtain ⟨us, hus⟩ := hanswers
    exact ⟨_, hus⟩
  | taskDone =>
    obtain ⟨⟨action, begun⟩, hprogress⟩ := Option.ne_none_iff_exists'.mp hallows
    obtain ⟨hand, hheld, -⟩ := h.full_hands hprogress
    exact hanswers.trans (if_neg (Nat.pos_iff_ne_zero.mp (h.sound.unfinished_pos hheld)))
  | handlerEnds _ => trivial
  | handlerStarts _ | set _ => exact hanswers

include hallows in
/-- Every call keeps the books. -/
theorem PoolInvariant.sound_effect (h : PoolInvariant pool fuel P) : (workerEffect i P.shared o r).ledger.Sound := by
  cases o with
  | get =>
    cases r with
    | ok _ => exact h.sound.take (h.empty_hands hallows)
    | error _ => exact h.sound
  | handlerStarts ctx =>
    obtain ⟨action, hprogress⟩ := progress_of_picksUp hallows
    obtain ⟨hand, hheld, hbegun⟩ := h.full_hands hprogress
    exact h.sound.begin hheld hbegun
  | taskDone =>
    obtain ⟨⟨action, begun⟩, hprogress⟩ := Option.ne_none_iff_exists'.mp hallows
    obtain ⟨hand, hheld, -⟩ := h.full_hands hprogress
    cases r with
    | ok _ => exact h.sound.finish hheld
    | error _ => exact h.sound
  | set event => cases event <;> exact h.sound
  | _ => cases r <;> exact h.sound

theorem mem_queue_effect {s : WorkerState n} {x : Ledger.Numbered Json}
    (hx : x ∈ (workerEffect i s o r).ledger.queue) : x ∈ s.ledger.queue := by
  unfold workerEffect at hx
  split at hx
  · exact Ledger.mem_queue_of_take hx
  all_goals exact hx

/-- A call keeps the invariant. -/
theorem PoolInvariant.call (h : PoolInvariant pool fuel P) (hcall : Pool.Step workerExec i P P') :
    PoolInvariant pool fuel P' := by
  have htraced := h.traced.step (fun i o s r s' hexec => by rw [hexec.2]) hcall
  cases hcall with
  | @call o k r s' hi hexec =>
    obtain ⟨hanswers, rfl⟩ := hexec
    have hallows : workerAllows pool (ownEvents i P.shared.log) o := (h.obeys hi).1
    refine ⟨htraced, fun j c hc => ?_, h.sound_effect hallows, fun x hx => h.objects x (mem_queue_effect hx),
      fun j => ?_, fun j hj => ?_, ?_⟩
    · rcases List.mem_append.mp hc with hc | hc
      · exact h.possible j c hc
      · obtain ⟨-, rfl⟩ := Prod.mk.inj (List.mem_singleton.mp hc)
        exact h.possible_answer hallows hanswers
    · show (workerEffect i P.shared o r).inHand j = progress (ownEvents j (P.shared.log ++ [(i, ⟨o, r⟩)]))
      by_cases hji : j = i
      · subst hji
        rw [ownEvents_concat_self, progress_concat, ← h.hands j]
        exact inHand_effect hanswers
      · rw [ownEvents_concat_ne (Ne.symm hji), ← h.hands j, WorkerState.inHand, held_effect_ne hji]
        rfl
    · rcases List.mem_append.mp hj with hj | hj
      · exact shutdown_effect (h.seen j hj)
      · obtain ⟨-, hcall⟩ := Prod.mk.inj (List.mem_singleton.mp hj)
        cases hcall
        exact (Except.ok.inj hanswers).symm
    · refine List.pairwise_append.mpr ⟨h.looks, List.pairwise_singleton _ _, fun a ha b hb hset hunset => ?_⟩
      obtain rfl := List.mem_singleton.mp hb
      cases hunset
      have hseen := h.seen a.1 (by rw [← hset]; exact ha)
      rw [← Except.ok.inj hanswers] at hseen
      cases hseen

theorem poolInvariant_start : PoolInvariant pool fuel (pool.start fuel n) where
  traced _ := ⟨_, rfl, .nil _⟩
  possible _ _ hc := by cases hc
  sound := Ledger.sound_empty
  objects _ hx := by cases hx
  hands _ := rfl
  seen _ hc := by cases hc
  looks := .nil

/-- **The invariant holds in every state of every run.** -/
theorem ActionWorkerPool.Runs.invariant (h : pool.Runs fuel P) : PoolInvariant pool fuel P := by
  induction h with
  | start => exact poolInvariant_start
  | step _ hstep ih =>
    cases hstep with
    | call hcall => exact ih.call hcall
    | put action =>
      refine { ih with traced := ih.traced.shared rfl, sound := ih.sound.put _, objects := fun x hx => ?_ }
      rcases List.mem_append.mp hx with hx | hx
      · exact ih.objects x hx
      · rw [List.mem_singleton.mp hx]
        exact ⟨action, rfl⟩
    | shutdown => exact { ih with traced := ih.traced.shared rfl, seen := fun _ _ => rfl }

end Invariant

/-! ## The accounts -/

/-- How many workers are between `get` and `task_done`. -/
def WorkerState.processing (s : WorkerState n) : Nat :=
  (Finset.univ.filter fun i => (progress (ownEvents i s.log)).isSome).card

/-- The accounts of a pool in one state of a run. -/
structure PoolAccounts (pool : ActionWorkerPool) (P : Workers n) : Prop where
  /-- No queued action is taken twice. -/
  taken_once : (P.shared.ledger.taken.map Prod.snd).Nodup
  /-- No handler is called twice for a queued action, and only by the worker that has taken it. -/
  started_once : (P.shared.ledger.starts.map Prod.snd).Nodup
  started_by_taker : ∀ i x, (i, x) ∈ P.shared.ledger.starts →
    ∃ number, x = some number ∧ (i, number) ∈ P.shared.ledger.taken
  unfinished_eq : P.shared.ledger.unfinished = P.shared.ledger.queue.length + P.shared.processing
  /-- A handler is called for the action that was just taken, which is live and of a type that has a handler. -/
  picked_up : ∀ pre i ctx r post, P.shared.log = pre ++ (i, ⟨.handlerStarts ctx, r⟩) :: post →
    PicksUp pool (ownEvents i pre) ctx
  /-- A worker that has found the event set calls no handler any more. -/
  not_after_shutdown : ∀ pre i ctx r post, P.shared.log = pre ++ (i, ⟨.handlerStarts ctx, r⟩) :: post →
    ⟨.isSet, .ok true⟩ ∉ ownEvents i pre
  /-- A worker whose loop has ended has left the event set. -/
  ends_after_shutdown : ∀ i p, P.threads i = some p → p.Ended → P.shared.shutdown = true

section Accounts

variable {pool : ActionWorkerPool} {fuel : Nat} {P : Workers n}

theorem PoolInvariant.busy_eq (h : PoolInvariant pool fuel P) : P.shared.ledger.busy = P.shared.processing := by
  unfold Ledger.busy WorkerState.processing
  refine congrArg Finset.card (Finset.filter_congr fun i _ => ?_)
  rw [← h.hands i, WorkerState.inHand, Option.isSome_map]

theorem PoolInvariant.picked_up (h : PoolInvariant pool fuel P) {pre post : List (Fin n × WorkerCall)} {i : Fin n}
    {ctx : ActionContext} {r : Except PyExc Unit} (hlog : P.shared.log = pre ++ (i, ⟨.handlerStarts ctx, r⟩) :: post) :
    PicksUp pool (ownEvents i pre) ctx := by
  have hown : ownEvents i P.shared.log = ownEvents i pre ++ ⟨.handlerStarts ctx, r⟩ :: ownEvents i post := by
    rw [hlog, ownEvents_append, ownEvents_cons_self]
  have hpossible : ∀ c ∈ ownEvents i P.shared.log, workerPossible c.op c.answer :=
    fun c hc => h.possible i c (mem_ownEvents_iff.mp hc)
  cases hi : P.threads i with
  | none =>
    rw [h.traced.of_none hi] at hown
    cases List.append_eq_nil_iff.mp hown.symm |>.2
  | some p =>
    obtain ⟨p₀, rfl, htrace⟩ := h.traced.of_some hi
    have hlawful := ((@ActionWorkerPool.obeys_workerLoop pool [] fuel rfl).trace hpossible htrace).1
    rw [hown] at hlawful
    exact hlawful.allowed

/-- Among a worker's calls none finds the event unset after one that has found it set. -/
theorem PoolInvariant.own_looks (h : PoolInvariant pool fuel P) {pre post : List (Fin n × WorkerCall)}
    (hlog : P.shared.log = pre ++ post) (i : Fin n) :
    (ownEvents i pre).Pairwise fun a b => a = ⟨.isSet, .ok true⟩ → b ≠ ⟨.isSet, .ok false⟩ := by
  have hlooks := h.looks
  rw [hlog] at hlooks
  refine List.pairwise_filterMap.mpr ((List.pairwise_append.mp hlooks).1.imp fun {a b} hab c hc d hd => ?_)
  split_ifs at hc hd
  obtain rfl := Option.some.inj hc
  obtain rfl := Option.some.inj hd
  exact hab

theorem PoolInvariant.not_after_shutdown (h : PoolInvariant pool fuel P) {pre post : List (Fin n × WorkerCall)}
    {i : Fin n} {ctx : ActionContext} {r : Except PyExc Unit}
    (hlog : P.shared.log = pre ++ (i, ⟨.handlerStarts ctx, r⟩) :: post) :
    ⟨.isSet, .ok true⟩ ∉ ownEvents i pre := by
  intro hset
  have hlooks := h.own_looks hlog i
  obtain ⟨before, action, now, hown, -⟩ := h.picked_up hlog
  rw [hown] at hlooks hset
  -- the last look of all is the one before the handler
  rw [show before ++ [⟨.get, .ok (.obj action)⟩, ⟨.utcNowIso, .ok now⟩, ⟨.isSet, .ok false⟩] =
    (before ++ [⟨.get, .ok (.obj action)⟩, ⟨.utcNowIso, .ok now⟩]) ++ [⟨.isSet, .ok false⟩] from by simp] at hlooks hset
  rcases List.mem_append.mp hset with hset | hset
  · exact (List.pairwise_append.mp hlooks).2.2 _ hset _ (List.mem_singleton_self _) rfl rfl
  · cases List.mem_singleton.mp hset

theorem PoolInvariant.ends_after_shutdown (h : PoolInvariant pool fuel P) {i : Fin n} {p : Worker Unit}
    (hi : P.threads i = some p) (hended : p.Ended) : P.shared.shutdown = true := by
  have hobeys := h.obeys hi
  cases p with
  | ret _ =>
    obtain ⟨-, before, hown⟩ := hobeys
    exact h.seen i (mem_ownEvents_iff.mp (hown ▸ List.mem_append_right _ (List.mem_singleton_self _)))
  | raise e => cases hobeys.1
  | hang => cases hended
  | call o k => cases hended

/-- A call of a worker in a run. -/
theorem ActionWorkerPool.Runs.call (h : pool.Runs fuel P) {i : Fin n} {o : WorkerOp} {r : Except PyExc o.Ret}
    {k : Except PyExc o.Ret → Worker Unit} (hi : P.threads i = some (.call o k)) (hr : workerAnswers P.shared o r) :
    pool.Runs fuel ⟨Function.update P.threads i (some (k r)),
      { workerEffect i P.shared o r with log := P.shared.log ++ [(i, ⟨o, r⟩)] }⟩ :=
  .step h (.call (.call hi ⟨hr, rfl⟩))

end Accounts

end CertWatch
