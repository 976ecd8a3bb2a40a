/-
# `CertWatch.ActionSnapshots` — the place of a config and the place of an action in a run.

Configs come into force in the order of the calls that install them, and actions leave the queue in the order of
the calls that put them there.  The log of a run keeps both orders, so that what a worker sees can be compared with
what the response of its action asked for.
-/
import CertWatch.ActionConfigs
import CertWatch.ScriptedAgent

namespace CertWatch

open CertWatch.Lib

/-! ## What is read off the log -/

/-- The config that a call puts in force. -/
def installedOf : AgentCall → Option Dict
  | ⟨.configState initial, _⟩ => some initial
  | ⟨.configReplace new_config, _⟩ => some new_config
  | _ => none

/-- The action that a call puts into the queue. -/
def putOf : AgentCall → Option Json
  | ⟨.put action, _⟩ => some action
  | _ => none

/-- The action that a call takes out of the queue. -/
def takenOf : AgentCall → Option Json
  | ⟨.get, .ok action⟩ => some action
  | _ => none

/-- The configs in the order in which they came into force. -/
def installs (log : List (ThreadId × AgentCall)) : List Dict := log.filterMap fun e => installedOf e.2

/-- The actions in the order in which they were put. -/
def puts (log : List (ThreadId × AgentCall)) : List Json := log.filterMap fun e => putOf e.2

/-- The actions in the order in which they were taken. -/
def gets (log : List (ThreadId × AgentCall)) : List Json := log.filterMap fun e => takenOf e.2

@[simp] theorem installs_append (log log' : List (ThreadId × AgentCall)) :
    installs (log ++ log') = installs log ++ installs log' := List.filterMap_append

@[simp] theorem installs_cons (e : ThreadId × AgentCall) (log : List (ThreadId × AgentCall)) :
    installs (e :: log) = (installedOf e.2).toList ++ installs log := by
  cases h : installedOf e.2 <;> simp [installs, h]

@[simp] theorem puts_concat (log : List (ThreadId × AgentCall)) (e : ThreadId × AgentCall) :
    puts (log ++ [e]) = puts log ++ (putOf e.2).toList := by
  cases h : putOf e.2 <;> simp [puts, h]

@[simp] theorem gets_concat (log : List (ThreadId × AgentCall)) (e : ThreadId × AgentCall) :
    gets (log ++ [e]) = gets log ++ (takenOf e.2).toList := by
  cases h : takenOf e.2 <;> simp [gets, h]

theorem putOf_eq_some {c : AgentCall} {action : Json} (h : putOf c = some action) : ∃ r, c = ⟨.put action, r⟩ := by
  unfold putOf at h
  split at h
  · obtain rfl := Option.some.inj h
    exact ⟨_, rfl⟩
  · cases h

/-- What installs a config is `ConfigState` itself or its `replace`. -/
theorem installedOf_eq_some {c : AgentCall} {config : Dict} (h : installedOf c = some config) :
    c.op = .configState config ∨ c.op = .configReplace config := by
  unfold installedOf at h
  split at h
  · exact Or.inl (congrArg AgentOp.configState (Option.some.inj h))
  · exact Or.inr (congrArg AgentOp.configReplace (Option.some.inj h))
  · cases h

/-! ## What a call does to the queue and to the config -/

/-- What is in the queue and what is put is what is taken and what is left. -/
theorem queue_effect {s : AgentState} {o : AgentOp} {r : Except PyExc o.Ret} (h : answers s o r) :
    s.action_queue ++ (putOf ⟨o, r⟩).toList = (takenOf ⟨o, r⟩).toList ++ (effect s o r).action_queue := by
  cases o with
  | put action => rfl
  | get =>
    rcases h with ⟨rfl, -⟩ | ⟨action, rfl, hhead⟩
    · exact List.append_nil _
    · obtain ⟨rest, hqueue⟩ := List.head?_eq_some_iff.mp hhead
      show s.action_queue ++ [] = action :: s.action_queue.tail
      rw [List.append_nil, hqueue, List.tail_cons]
  | set event => cases event <;> exact List.append_nil _
  | recordCheckCycle _ | signal _ => cases r <;> exact List.append_nil _
  | sync o => cases o <;> first | exact List.append_nil _ | (cases r <;> exact List.append_nil _)
  | _ => exact List.append_nil _

/-- Short of the setup, a call puts at most one more config in force. -/
theorem configs_effect {o : AgentOp} (ho : ∀ initial, o ≠ .configState initial) (s : AgentState)
    (r : Except PyExc o.Ret) : (effect s o r).configs = s.configs ++ (installedOf ⟨o, r⟩).toList := by
  cases o with
  | configState initial => exact absurd rfl (ho initial)
  | configReplace new_config => rfl
  | set event => cases event <;> exact (List.append_nil _).symm
  | recordCheckCycle _ | get | signal _ => cases r <;> exact (List.append_nil _).symm
  | sync o => cases o <;> first | exact (List.append_nil _).symm | (cases r <;> exact (List.append_nil _).symm)
  | _ => exact (List.append_nil _).symm

/-! ## The setup of the config -/

def AgentOp.isConfigState : AgentOp → Bool
  | .configState _ => true
  | _ => false

/-- The main thread sets the config up once, and starts no thread before. -/
def setsUpFirst : Monitor agentSig PyExc Bool where
  possible := Possible
  allows isSetUp o := (o.isConfigState = true → isSetUp = false) ∧ ∀ thread, o = .start thread → isSetUp = true
  next isSetUp o _ := isSetUp || o.isConfigState

/-- The call neither sets the config up nor starts a thread. -/
def AgentOp.Prepares (o : AgentOp) : Prop := o.isConfigState = false ∧ ∀ thread, o ≠ .start thread

section

variable {α β : Type}

theorem obeys_prepares {p : Agent α} {f : α → Agent β} {isSetUp : Bool} (hp : p.Only AgentOp.Prepares)
    (hf : ∀ a, (f a).Obeys setsUpFirst (fun _ _ => True) isSetUp) :
    (p.bind f).Obeys setsUpFirst (fun _ _ => True) isSetUp := by
  have hobeys := hp.obeys (M := setsUpFirst) (q := isSetUp) (fun o ho => ⟨⟨fun hsets => ?_, fun thread hstart => ?_⟩,
    fun r _ => ?_⟩) trivial
  · refine hobeys.bind (fun q a hq => ?_) fun _ _ _ => trivial
    rw [hq]
    exact hf a
  · cases ho.1.symm.trans hsets
  · exact absurd hstart (ho.2 thread)
  · show (isSetUp || o.isConfigState) = isSetUp
    rw [ho.1, Bool.or_false]

/-- Once the config is set up, threads may be started. -/
theorem obeys_setUp {p : Agent α} (h : p.Only fun o : AgentOp => o.isConfigState = false) :
    p.Obeys setsUpFirst (fun _ _ => True) true := by
  refine (h.obeys (M := setsUpFirst) (q := true) (fun o ho => ⟨⟨fun hsets => ?_, fun _ _ => rfl⟩, fun _ _ => rfl⟩)
    trivial).mono fun _ _ _ => trivial
  cases ho.symm.trans hsets

theorem prepares_agentCall {o : AgentOp} (h : o.isConfigState = false) (hstart : ∀ thread, o ≠ .start thread) :
    (agentCall o).Only AgentOp.Prepares := Prog.only_perform ⟨h, hstart⟩

theorem prepares_of_isStartup {o : AgentOp} (h : o.isStartup = true) : o.Prepares := by
  refine ⟨?_, fun thread hstart => ?_⟩
  · cases o <;> first | rfl | cases h
  · rw [hstart] at h
    cases h

theorem notConfigState_startAndWait (threads : List ThreadSpec) :
    (startAndWait threads).Only fun o : AgentOp => o.isConfigState = false := by
  have hcall : ∀ {o : AgentOp}, o.isConfigState = false →
      (agentCall o).Only fun o : AgentOp => o.isConfigState = false :=
    fun ho => Prog.only_perform ho
  have hinstall : installSignalHandlers.Only fun o : AgentOp => o.isConfigState = false := by
    refine ((hcall (by rfl)).bind fun _ => hcall (by rfl)).tryCatch fun e => ?_
    cases e <;> trivial
  have hstart : ∀ ts, (startEach ts).Only fun o : AgentOp => o.isConfigState = false := by
    intro ts
    induction ts with
    | nil => trivial
    | cons thread ts ih => exact (hcall (by rfl)).bind fun _ => ih
  have hjoin : ∀ ids, (joinEach ids).Only fun o : AgentOp => o.isConfigState = false := by
    intro ids
    induction ids with
    | nil => trivial
    | cons id ids ih => exact (hcall (by rfl)).bind fun _ => ih
  refine hinstall.bind fun _ => (hstart threads).bind fun _ => (hcall (by rfl)).bind fun _ => ?_
  refine (hcall (by rfl)).bind fun _ => (hjoin _).bind fun _ => (hcall (by rfl)).bind fun _ => ?_
  exact (hcall (by rfl)).bind fun _ => trivial

theorem obeys_buildAndStart_setsUpFirst (setup : Setup) (result : BootstrapResult) (process_started_at : Rat) :
    (buildAndStart setup result process_started_at).Obeys setsUpFirst (fun _ _ => True) false := by
  unfold buildAndStart
  generalize buildNetboxClientIfConfigured setup.env = built
  refine Prog.obeys_bind.mpr (Prog.obeys_perform.mpr ⟨⟨fun _ => rfl, by nofun⟩, fun r _ => ?_⟩)
  cases r with
  | error e => trivial
  | ok u =>
    refine obeys_setUp ((Prog.only_ofExcept _).bind fun netbox_client => Prog.Only.bind ?_ fun _ =>
      notConfigState_startAndWait _)
    unfold openGateUnless
    split_ifs
    · trivial
    · exact Prog.only_perform rfl

theorem obeys_mainProgram_setsUpFirst (setup : Setup) :
    (mainProgram setup).Obeys setsUpFirst (fun _ _ => True) false := by
  refine Prog.Obeys.bind (F := fun _ _ => True) ?_ (fun _ _ _ => trivial) fun _ _ _ => trivial
  refine obeys_prepares (prepares_agentCall rfl (by nofun)) fun process_started_at => ?_
  refine obeys_prepares ((startup_bootstrap _ _ _ _).mono fun _ => prepares_of_isStartup).attempt fun bootstrapped => ?_
  cases bootstrapped with
  | error e => trivial
  | ok result =>
    refine obeys_prepares (Prog.only_embed queueCalls (fun _ => ⟨rfl, by nofun⟩) _).attempt fun replayed => ?_
    split_ifs
    · trivial
    refine obeys_prepares (prepares_agentCall rfl (by nofun)) fun stopping => ?_
    split_ifs
    · exact obeys_prepares (prepares_agentCall rfl (by nofun)) fun _ => trivial
    · exact obeys_buildAndStart_setsUpFirst setup result process_started_at

end

/-- Until the config is set up, no thread is started. -/
theorem lawful_setsUpFirst {cs : List AgentCall} (h : setsUpFirst.Lawful false cs)
    (hafter : setsUpFirst.after false cs = false) : ∀ c ∈ cs, c.op.Prepares := by
  induction cs using List.reverseRecOn with
  | nil => exact fun c hc => absurd hc List.not_mem_nil
  | append_singleton cs c ih =>
    obtain ⟨hcs, ⟨-, hstart⟩, -⟩ := setsUpFirst.lawful_concat.mp h
    rw [setsUpFirst.after_concat] at hafter
    obtain ⟨hbefore, hc⟩ := Bool.or_eq_false_iff.mp hafter
    intro c' hc'
    rcases List.mem_append.mp hc' with hc' | hc'
    · exact ih hcs hbefore c' hc'
    · rw [List.mem_singleton.mp hc']
      exact ⟨hc, fun thread ho => absurd ((hstart thread ho).symm.trans hbefore) nofun⟩

/-! ## Every run -/

variable {setup : Setup} {main_thread : Bool} {Meets : AgentLabel → AgentPool → Prop} {P : AgentPool}

/-- **The config is set up before anything else is installed.** -/
theorem ReachableBy.installs_nil (h : ReachableBy setup main_thread Meets P) {initial : Dict}
    {k : Except PyExc Unit → Agent (Option Int)} (hmain : P.threads .main = some (.call (.configState initial) k)) :
    installs P.shared.log = [] := by
  have hprogram : ∀ p₀, MayRun setup .main p₀ → p₀.Obeys setsUpFirst (fun _ _ => True) false := by
    rintro p₀ (⟨-, rfl⟩ | ⟨thread, hid, -⟩)
    · exact obeys_mainProgram_setsUpFirst setup
    · cases thread <;> cases hid
  obtain ⟨hlawful, hnext⟩ := h.follows (fun _ _ => id) hprogram hmain
  have hprepares := lawful_setsUpFirst hlawful (hnext.1.1 rfl)
  -- so no other thread has begun
  have hstarted : P.shared.started = [] := by
    refine List.eq_nil_iff_forall_not_mem.mpr fun thread hthread => ?_
    obtain ⟨r, hmem⟩ := h.start_mem hthread
    exact (hprepares _ (mem_ownEvents_iff.mpr hmem)).2 thread rfl
  refine List.filterMap_eq_nil_iff.mpr fun e he => ?_
  obtain ⟨i, c⟩ := e
  by_contra hinstall
  obtain ⟨config, hconfig⟩ := Option.ne_none_iff_exists'.mp hinstall
  by_cases hi : i = .main
  · subst hi
    rcases installedOf_eq_some hconfig with hop | hop
    · have hno := (hprepares c (mem_ownEvents_iff.mpr he)).1
      rw [hop] at hno
      cases hno
    · have hcalled := h.calledBy he
      rw [hop] at hcalled
      cases hcalled
  · have hnone : P.threads i = none := by
      by_contra hthread
      obtain ⟨thread, hmem, -⟩ := h.started_of_thread hi hthread
      rw [hstarted] at hmem
      cases hmem
    have hown := mem_ownEvents_iff.mpr he
    rw [h.traced.of_none hnone] at hown
    cases hown

/-- **What is in force is what was installed.** -/
theorem ReachableBy.configs_eq (h : ReachableBy setup main_thread Meets P) :
    P.shared.configs = installs P.shared.log := by
  induction h with
  | initial => rfl
  | @step label P P' hP hmeets hstep ih =>
    have hP' := ReachableBy.step hP hmeets hstep
    cases hstep with
    | @call i _ _ hcall =>
      cases hcall with
      | @call o k r s' hi hex =>
        obtain ⟨-, -, rfl⟩ := hex
        show (effect P.shared o r).configs = installs ((effect P.shared o r).log ++ [(i, ⟨o, r⟩)])
        rw [log_effect, installs_append, installs_cons]
        by_cases ho : ∃ initial, o = .configState initial
        · obtain ⟨initial, rfl⟩ := ho
          have hcalled := hP'.calledBy (List.mem_append_right _ (List.mem_singleton_self _))
          have hmain : i = .main := by cases i <;> first | rfl | cases hcalled
          subst hmain
          rw [hP.installs_nil hi]
          rfl
        · rw [configs_effect (fun initial h => ho ⟨initial, h⟩), ih]
          simp [installs]
    | begins _ _ => exact ih
    | signal _ _ =>
      show (P.shared.receive _).configs = installs (P.shared.receive _).log
      rw [log_receive, ← ih]
      unfold AgentState.receive
      split_ifs <;> rfl
    | request => exact ih

/-- **The queue is first in, first out.** -/
theorem ReachableBy.puts_eq (h : ReachableBy setup main_thread Meets P) :
    puts P.shared.log = gets P.shared.log ++ P.shared.action_queue := by
  induction h with
  | initial => rfl
  | @step label P P' _ _ hstep ih =>
    cases hstep with
    | @call i _ _ hcall =>
      cases hcall with
      | @call o k r s' hi hex =>
        obtain ⟨-, hanswer, rfl⟩ := hex
        show puts ((effect P.shared o r).log ++ [(i, ⟨o, r⟩)]) =
          gets ((effect P.shared o r).log ++ [(i, ⟨o, r⟩)]) ++ (effect P.shared o r).action_queue
        rw [log_effect, puts_concat, gets_concat, ih, List.append_assoc, List.append_assoc]
        exact congrArg _ (queue_effect hanswer)
    | begins _ _ => exact ih
    | signal _ _ =>
      show puts (P.shared.receive _).log = gets (P.shared.receive _).log ++ (P.shared.receive _).action_queue
      rw [log_receive, ih]
      unfold AgentState.receive
      split_ifs <;> rfl
    | request => exact ih

/-- A reader of the config sees what was installed last. -/
theorem ReachableBy.snapshot_latest (h : ReachableBy setup main_thread Meets P) {i : ThreadId} {config : Dict}
    {pre post : List (ThreadId × AgentCall)} (hlog : P.shared.log = pre ++ (i, ⟨.configSnapshot, .ok config⟩) :: post) :
    (installs pre).getLast? = some config := by
  obtain ⟨P₀, k, hP₀, rfl, -, -, hanswer, -⟩ := h.before hlog
  rw [← hP₀.configs_eq]
  exact hanswer.2 config rfl

/-- What is taken from the queue is what was put there in the same place. -/
theorem ReachableBy.taken_put (h : ReachableBy setup main_thread Meets P) {i : ThreadId} {action : Json}
    {pre post : List (ThreadId × AgentCall)} (hlog : P.shared.log = pre ++ (i, ⟨.get, .ok action⟩) :: post) :
    (puts pre)[(gets pre).length]? = some action := by
  obtain ⟨P₀, k, hP₀, rfl, -, -, hanswer, -⟩ := h.before hlog
  rcases hanswer with ⟨hempty, -⟩ | ⟨a, ha, hhead⟩
  · cases hempty
  · obtain rfl := Except.ok.inj ha
    rw [hP₀.puts_eq, List.getElem?_append_right (Nat.le_refl _), Nat.sub_self, ← List.head?_eq_getElem?, hhead]

/-- What one thread's history allows of a call in the log. -/
theorem ReachableBy.allowed (h : ReachableBy setup main_thread Meets P) {i : ThreadId}
    {allows : List AgentCall → AgentOp → Prop}
    (hprogram : ∀ p₀, MayRun setup i p₀ → p₀.Obeys (.history Possible allows) (fun _ _ => True) []) {c : AgentCall}
    {pre post : List (ThreadId × AgentCall)} (hlog : P.shared.log = pre ++ (i, c) :: post) :
    allows (ownEvents i pre) c.op := by
  have hown : ownEvents i P.shared.log = ownEvents i pre ++ c :: ownEvents i post := by
    rw [hlog, ownEvents_append, ownEvents_cons_self]
  cases hi : P.threads i with
  | none =>
    rw [h.traced.of_none hi] at hown
    simp at hown
  | some p =>
    have hlawful := (h.follows (fun _ _ => id) hprogram hi).1
    rw [hown] at hlawful
    exact hlawful.allowed

/-! ## From a response to a worker -/

/-- How an action came to the worker that holds it: a response carried it, the heartbeat thread refreshed and put it
into the queue, and the worker took it out in its turn. -/
structure ActionTrip (log : List (ThreadId × AgentCall)) (worker_id : Nat) where
  response : Json
  action : Json
  body : Dict
  answer : Except PyExc HttpResponse
  put_answer : Except PyExc Unit
  /-- The calls before the response, from it to the put, from that to the taking, and since. -/
  before : List (ThreadId × AgentCall)
  refresh : List (ThreadId × AgentCall)
  queued : List (ThreadId × AgentCall)
  held : List (ThreadId × AgentCall)
  log_eq : log = before ++ (.heartbeat, ⟨.heartbeat body, answer⟩) ::
    (refresh ++ (.heartbeat, ⟨.put action, put_answer⟩) :: (queued ++ (.worker worker_id, ⟨.get, .ok action⟩) :: held))
  accepted : Accepted answer response
  carries : CarriesAction response action
  same_response : ∀ c, (.heartbeat, c) ∈ refresh → ∀ body, c.op ≠ .heartbeat body
  same_place : (puts (before ++ (.heartbeat, ⟨.heartbeat body, answer⟩) :: refresh)).length =
    (gets (before ++ (.heartbeat, ⟨.heartbeat body, answer⟩) ::
      (refresh ++ (.heartbeat, ⟨.put action, put_answer⟩) :: queued))).length
  holding : ∀ c, (.worker worker_id, c) ∈ held → c.op ≠ .get

/-- The config in this place is no older than what the response of the action asked for. -/
structure ActionTrip.UpToDate {log : List (ThreadId × AgentCall)} {worker_id : Nat} (trip : ActionTrip log worker_id)
    (n : Nat) : Prop where
  /-- It is no older than the config in force before the response. -/
  not_before : (installs trip.before).length ≤ n + 1
  requested : RequiresRefresh trip.response → ∃ client r, (.heartbeat, ⟨.getConfig client, r⟩) ∈ trip.refresh
  /-- What was fetched for the response is in force since, and it is no older than that. -/
  fetched : ∀ client r v, (.heartbeat, ⟨.getConfig client, r⟩) ∈ trip.refresh → Accepted r v →
    ∃ fetched m, v = .obj fetched ∧ (installs log)[m]? = some fetched ∧ (installs trip.before).length ≤ m ∧ m ≤ n

theorem obeys_worker {setup : Setup} {worker_id : Nat} {p₀ : Agent (Option Int)}
    (h : MayRun setup (.worker worker_id) p₀) : p₀.Obeys looksWhileHolding (fun _ _ => True) [] := by
  rcases h with ⟨hid, -⟩ | ⟨thread, hid, rfl⟩
  · cases hid
  · cases thread with
    | worker id client netbox_client =>
      exact (obeys_workerLoop setup.rt client netbox_client setup.fuel []).bind (fun _ _ _ => trivial)
        fun _ _ _ => trivial
    | _ => cases hid

theorem obeys_heartbeat {setup : Setup} {p₀ : Agent (Option Int)} (h : MayRun setup .heartbeat p₀) :
    p₀.Obeys refreshesFirst (fun _ _ => True) [] := by
  rcases h with ⟨hid, -⟩ | ⟨thread, hid, rfl⟩
  · cases hid
  · cases thread with
    | heartbeat client process_started_at =>
      exact (obeys_heartbeatThread_refreshesFirst setup.rt setup.agent_version client process_started_at
        setup.fuel).bind (fun _ _ _ => trivial) fun _ _ _ => trivial
    | _ => cases hid

/-- **Every look of a worker at the config is one for an action on such a trip.** -/
theorem ReachableBy.exists_trip (h : ReachableBy setup main_thread Meets P) {worker_id : Nat} {config : Dict}
    {pre post : List (ThreadId × AgentCall)}
    (hlog : P.shared.log = pre ++ (.worker worker_id, ⟨.configSnapshot, .ok config⟩) :: post) :
    ∃ trip : ActionTrip pre worker_id, IsCheckHost trip.action ∧
      Refreshed trip.response (ownEvents .heartbeat trip.refresh) := by
  -- the worker has taken the action
  obtain ⟨action, haction, before', between, hown, hheld⟩ := h.allowed (fun _ => obeys_worker) hlog rfl
  obtain ⟨taken, held, rfl, -, rfl⟩ := split_of_ownEvents hown
  have hlog_taken : P.shared.log = taken ++ (.worker worker_id, ⟨.get, .ok action⟩) ::
      (held ++ (.worker worker_id, ⟨.configSnapshot, .ok config⟩) :: post) := by
    rw [hlog, List.append_assoc, List.cons_append]
  -- the heartbeat thread has put it into the queue
  obtain ⟨put, ⟨j, c⟩, queued, rfl, hput, hplace⟩ := split_of_filterMap (h.taken_put hlog_taken)
  obtain ⟨put_answer, rfl⟩ := putOf_eq_some hput
  have hlog_put : P.shared.log = put ++ (j, ⟨.put action, put_answer⟩) ::
      (queued ++ (.worker worker_id, ⟨.get, .ok action⟩) ::
        (held ++ (.worker worker_id, ⟨.configSnapshot, .ok config⟩) :: post)) := by
    rw [hlog_taken, List.append_assoc, List.cons_append]
  obtain rfl : j = .heartbeat := by
    have hcalled := h.calledBy (i := j) (c := ⟨.put action, put_answer⟩) (by
      rw [hlog_put]
      exact List.mem_append_right _ List.mem_cons_self)
    cases j <;> first | rfl | cases hcalled
  -- and has seen to the response first
  obtain ⟨response, hcarries, before'', body, answer, refreshed, hbeat, haccepted, hrefreshed⟩ :=
    h.allowed (fun _ => obeys_heartbeat) hlog_put action rfl
  obtain ⟨before, refresh, rfl, -, rfl⟩ := split_of_ownEvents hbeat
  refine ⟨⟨response, action, body, answer, put_answer, before, refresh, queued, held, by simp, haccepted, hcarries,
    fun c hc => hrefreshed.same_response c (mem_ownEvents_iff.mpr hc), ?_,
    fun c hc => hheld c (mem_ownEvents_iff.mpr hc)⟩, haction, hrefreshed⟩
  simpa [puts] using hplace

/-- **What a worker sees is up to date.** -/
theorem ActionTrip.upToDate {log : List (ThreadId × AgentCall)} {worker_id : Nat} (trip : ActionTrip log worker_id)
    (hrefreshed : Refreshed trip.response (ownEvents .heartbeat trip.refresh)) {n : Nat}
    (hn : (installs log).length = n + 1) : trip.UpToDate n := by
  have hinstalls : installs log = installs trip.before ++ (installs trip.refresh ++
      installs (trip.queued ++ (.worker worker_id, ⟨.get, .ok trip.action⟩) :: trip.held)) := by
    refine (congrArg installs trip.log_eq).trans ?_
    simp [installedOf]
  refine ⟨?_, fun hrequired => ?_, fun client r v hmem hv => ?_⟩
  · rw [← hn, hinstalls, List.length_append]
    omega
  · obtain ⟨client, r, hr⟩ := hrefreshed.fetched hrequired
    exact ⟨client, r, mem_ownEvents_iff.mp hr⟩
  · obtain ⟨fetched, r', rfl, hreplaced⟩ := hrefreshed.installed client r v (mem_ownEvents_iff.mpr hmem) hv
    -- the place of the fetched config
    have hplace : fetched ∈ installs trip.refresh :=
      List.mem_filterMap.mpr ⟨_, mem_ownEvents_iff.mp hreplaced, rfl⟩
    obtain ⟨m, hm⟩ := List.mem_iff_getElem?.mp hplace
    obtain ⟨hlt, -⟩ := List.getElem?_eq_some_iff.mp hm
    have hlength : (installs log).length = (installs trip.before).length + ((installs trip.refresh).length +
        (installs (trip.queued ++ (.worker worker_id, ⟨.get, .ok trip.action⟩) :: trip.held)).length) := by
      rw [hinstalls, List.length_append, List.length_append]
    refine ⟨fetched, (installs trip.before).length + m, rfl, ?_, by omega, by omega⟩
    rw [hinstalls, List.getElem?_append_right (by omega), List.getElem?_append_left (by omega), ← hm]
    congr 1
    omega

/-! ## Every run -/

/-- At its call in place `m` the reader sees the config in place `n`. -/
def Observes (log : List (ThreadId × AgentCall)) (i : ThreadId) (m n : Nat) (config : Dict) : Prop :=
  log[m]? = some (i, ⟨.configSnapshot, .ok config⟩) ∧ (installs (log.take m)).length = n + 1 ∧
    (installs log)[n]? = some config

/-- The order of the configs that the threads of a run see. -/
structure ConfigOrder (log : List (ThreadId × AgentCall)) : Prop where
  /-- Every look at the config sees one that was installed, the last so far. -/
  observes : ∀ m i config, log[m]? = some (i, ⟨.configSnapshot, .ok config⟩) → ∃ n, Observes log i m n config
  /-- No reader goes back. -/
  forward : ∀ i m m' n n' config config', Observes log i m n config → Observes log i m' n' config' → m ≤ m' → n ≤ n'
  /-- A worker looks at the config for a `check_host` action, and sees none that is out of date for it. -/
  up_to_date : ∀ m n worker_id config, Observes log (.worker worker_id) m n config →
    ∃ trip : ActionTrip (log.take m) worker_id, IsCheckHost trip.action ∧ trip.UpToDate n

theorem split_at {α : Type} {l : List α} {m : Nat} {a : α} (h : l[m]? = some a) :
    l = l.take m ++ a :: l.drop (m + 1) := by
  obtain ⟨hlt, rfl⟩ := List.getElem?_eq_some_iff.mp h
  rw [← List.drop_eq_getElem_cons, List.take_append_drop]

/-- **Actions never run against a config older than their response.** -/
theorem action_configs_in_order {setup : Setup} {main_thread : Bool} {P : AgentPool}
    (h : Reachable setup main_thread P) : ConfigOrder P.shared.log where
  observes := by
    intro m i config hm
    have hlog := split_at hm
    have hlast := h.snapshot_latest hlog
    rw [List.getLast?_eq_getElem?] at hlast
    obtain ⟨hlt, -⟩ := List.getElem?_eq_some_iff.mp hlast
    refine ⟨(installs (P.shared.log.take m)).length - 1, hm, by omega, ?_⟩
    have hinstalls := (congrArg installs hlog).trans (installs_append _ _)
    rw [hinstalls, List.getElem?_append_left hlt, hlast]
  forward := by
    rintro i m m' n n' config config' ⟨-, hn, -⟩ ⟨-, hn', -⟩ hle
    have hprefix : installs (P.shared.log.take m) <+: installs (P.shared.log.take m') :=
      (List.take_prefix_take_left hle).filterMap _
    have hlength := hprefix.length_le
    omega
  up_to_date := by
    rintro m n worker_id config ⟨hm, hn, -⟩
    obtain ⟨trip, haction, hrefreshed⟩ := h.exists_trip (split_at hm)
    exact ⟨trip, haction, trip.upToDate hrefreshed hn⟩

/-! ## A run with a refresh -/

def versionOne : Dict := [("config_version", .int 1)]

/-- A dashboard that asks for a refresh and has an action for the agent. -/
def refreshingScene : Scene where
  credentials := registered
  get_config := some ⟨200, .json (.obj versionOne)⟩
  heartbeat := some ⟨200, .json (.obj [("config_refresh_required", .bool true),
    ("pending_actions", .arr [.obj [("action_type", .str "check_host")]])])⟩
  pending_reports := some []

/-- The worker has the action, and has looked at the config. -/
def actionTaken : AgentPool :=
  (AgentPool.initial smallSetup true).moves smallSetup refreshingScene
    [.calls .main 13, .begins 0, .begins 1, .calls .heartbeat 11, .calls (.worker 0) 5]

/-- The worker sees the second config, the one that was fetched for the response. -/
theorem action_configs_in_order_actionTaken :
    Observes actionTaken.shared.log (.worker 0) 28 1 versionOne ∧
      ∃ trip : ActionTrip (actionTaken.shared.log.take 28) 0, IsCheckHost trip.action ∧ trip.UpToDate 1 := by
  have hreachable : Reachable smallSetup true actionTaken := (alive_initial.moves _).reachable
  have hobserves : Observes actionTaken.shared.log (.worker 0) 28 1 versionOne := ⟨rfl, rfl, rfl⟩
  exact ⟨hobserves, (action_configs_in_order hreachable).up_to_date 28 1 0 versionOne hobserves⟩

end CertWatch
