/-
# `CertWatch.ScriptedAgent` — whole runs of an agent, written down move by move.

A scene says what the world outside answers; a list of moves says which thread makes how many calls, which thread
begins, and when a signal arrives.  What such a list leads to is computed, and is a reachable state.
-/
import CertWatch.AgentHistory
import CertWatch.CycleCoverage

namespace CertWatch

open CertWatch.Lib

/-! ## Scenes -/

/-- What the world outside an agent answers. -/
structure Scene where
  /-- The document in `agent.json`. -/
  credentials : Json
  /-- The answers of the dashboard; an absent one is a dashboard that is not reachable. -/
  register : Option HttpResponse := none
  get_config : Option HttpResponse := none
  heartbeat : Option HttpResponse := none
  submit_hosts : Option HttpResponse := none
  submit_report : Option HttpResponse := none
  /-- The files in `pending_reports`; an absent list is a directory that cannot be read. -/
  pending_reports : Option (List String) := none
  /-- What a report's file is read as; where it is absent, no such file can be read or written. -/
  record : Option Json := none
  /-- What the check of a manual host comes to, on demand and in a cycle. -/
  cert_check : Option CertResult := none

/-- What the `requests` package makes of an answer. -/
def ofDashboard : Option HttpResponse → Except PyExc HttpResponse
  | some resp => .ok resp
  | none => .error .requests

theorem foreign_ofDashboard (answer : Option HttpResponse) : Foreign (ofDashboard answer) := by
  intro e he
  cases answer with
  | some resp => cases he
  | none => rw [← Except.error.inj he]; rfl

/-- A file operation that fails. -/
def ioError : PyExc := .os ⟨.other "OSError", "I/O error"⟩

/-- What an operation comes to, if it does not fail. -/
def orIoError {α : Type} : Option α → Except PyExc α
  | some a => .ok a
  | none => .error ioError

theorem foreign_value {α : Type} (a : α) : Foreign (.ok a : Except PyExc α) := fun e he => by cases he

theorem foreign_orIoError {α : Type} (a : Option α) : Foreign (orIoError a) := by
  intro e he
  cases a with
  | some a => cases he
  | none => rw [← Except.error.inj he]; rfl

theorem foreign_ioError {α : Type} : Foreign (.error ioError : Except PyExc α) := foreign_orIoError none

/-- A state in which no call blocks. -/
structure AgentState.Unblocked (s : AgentState) : Prop where
  events : ∀ event, s.isSet event = true
  configured : s.configs ≠ []

namespace Scene

variable (scene : Scene)

def queueAnswer (s : AgentState) : (o : QueueOp) → Except PyExc o.Ret
  | .now => .ok 0
  | .utcNowIso => .ok (utcNowIso 0)
  | .isSet => .ok s.shutdown
  | .waitFor _ => .ok s.shutdown
  | .sleep _ => .ok ()
  | .mkdir => .ok ()
  | .iterdir => orIoError scene.pending_reports
  | .openTmp _ | .dump _ _ | .fsync _ | .replace _ _ | .chmod _ | .unlink _ => orIoError (scene.record.map fun _ => ())
  | .read _ _ => orIoError scene.record
  | .submit _ _ => ofDashboard scene.submit_report
  | _ => .error ioError

def syncAnswer (s : AgentState) : (o : SyncOp) → Except PyExc o.Ret
  | .utcNowIso => .ok (utcNowIso 0)
  | .fetchBegins => .ok ()
  | .fetchReturns _ => .ok ()
  | .replaceHosts _ => .ok ()
  | .parseQs _ => .ok []
  | .devicesFilter _ => .ok ()
  | .nextDevice => .ok none
  | .submit _ => ofDashboard scene.submit_hosts
  | .isSet => .ok s.shutdown
  | .waitFor _ => .ok s.shutdown
  | .sleep _ => .ok ()
  | .recordNetboxSync _ => .ok ()

def credsAnswer : (o : CredsOp) → Except PyExc o.Ret
  | .pathExists => .ok true
  | .read => .ok scene.credentials
  | _ => .error ioError

/-- The answer to a call, unless it blocks. -/
def answer (s : AgentState) : (o : AgentOp) → Option (Except PyExc o.Ret)
  | .isSet event => some (.ok (s.isSet event))
  | .set _ => some (.ok ())
  | .wait event timeout => if timeout = none ∧ s.isSet event = false then none else some (.ok (s.isSet event))
  | .waitFor _ => some (.ok s.shutdown)
  | .now => some (.ok 0)
  | .sleep _ => some (.ok ())
  | .utcNowIso => some (.ok (utcNowIso 0))
  | .uuid4 => some (.ok "0")
  | .configState _ => some (.ok ())
  | .configSnapshot => match s.configs.getLast? with
    | some config => some (.ok config)
    | none => none
  | .configReplace _ => some (.ok ())
  | .statsSnapshot => some (.ok s.stats.snapshotForHeartbeat)
  | .hostsSnapshot => some (.ok s.netbox_hosts)
  | .put _ => some (.ok ())
  | .get => match s.action_queue with
    | action :: _ => some (.ok action)
    | [] => some (.error queueEmpty)
  | .taskDone => some (.ok ())
  | .register _ _ _ => some (ofDashboard scene.register)
  | .getConfig _ => some (ofDashboard scene.get_config)
  | .heartbeat _ => some (ofDashboard scene.heartbeat)
  | .certCheck _ _ _ _ => some (orIoError scene.cert_check)
  | .runChecks _ hosts => some (orIoError (scene.cert_check.map fun result =>
    hosts.map fun entry => (entry.identity_key, .manual result)))
  | .recordCheckCycle _ => some (.ok ())
  | .creds o => some (scene.credsAnswer o)
  | .queue o => some (scene.queueAnswer s o)
  | .sync o => some (scene.syncAnswer s o)
  | .signal _ => some (if s.main_thread then .ok () else .error (.valueError "signal only works in main thread"))
  | .start _ => some (.ok ())
  | .join _ => some (.ok ())
  | .unhandledException _ => some (.ok ())
  | _ => some (.error ioError)

theorem queueAnswers_scene (s : AgentState) (o : QueueOp) : queueAnswers s o (scene.queueAnswer s o) := by
  cases o with
  | now => exact ⟨0, rfl⟩
  | utcNowIso => exact ⟨0, rfl⟩
  | isSet | waitFor _ | sleep _ => rfl
  | mkdir => exact foreign_value _
  | iterdir | openTmp _ | dump _ _ | fsync _ | replace _ _ | chmod _ | unlink _ | read _ _ => exact foreign_orIoError _
  | submit _ _ => exact foreign_ofDashboard _
  | _ => exact foreign_ioError

theorem syncAnswers_scene (s : AgentState) (o : SyncOp) : syncAnswers s o (scene.syncAnswer s o) := by
  cases o with
  | utcNowIso => exact ⟨0, rfl⟩
  | fetchBegins | fetchReturns _ | replaceHosts _ | isSet | waitFor _ | sleep _ => rfl
  | parseQs _ | devicesFilter _ | recordNetboxSync _ => exact foreign_value _
  | nextDevice => exact ⟨foreign_value none, fun d hd => by cases hd⟩
  | submit _ => exact foreign_ofDashboard _

/-- What the scene answers is a possible answer. -/
theorem answers_scene {s : AgentState} {o : AgentOp} {r : Except PyExc o.Ret} (h : scene.answer s o = some r) :
    answers s o r := by
  cases o with
  | wait event timeout =>
    simp only [answer] at h
    split_ifs at h with hblocks
    obtain rfl := Option.some.inj h
    refine ⟨rfl, fun ht => ?_⟩
    cases hset : s.isSet event with
    | true => rfl
    | false => exact absurd ⟨ht, hset⟩ hblocks
  | configSnapshot =>
    simp only [answer] at h
    split at h
    · rename_i config hlast
      obtain rfl := Option.some.inj h
      exact ⟨foreign_value _, fun c hc => by rw [← Except.ok.inj hc]; exact hlast⟩
    · cases h
  | get =>
    simp only [answer] at h
    split at h
    · rename_i action actions hqueue
      obtain rfl := Option.some.inj h
      exact Or.inr ⟨action, rfl, by rw [hqueue]; rfl⟩
    · rename_i hqueue
      obtain rfl := Option.some.inj h
      exact Or.inl ⟨rfl, hqueue⟩
  | waitFor _ => obtain rfl := Option.some.inj h; exact Or.inl rfl
  | now | utcNowIso | uuid4 => obtain rfl := Option.some.inj h; exact ⟨_, rfl⟩
  | statsSnapshot => obtain rfl := Option.some.inj h; exact ⟨foreign_value _, fun stats hs => (Except.ok.inj hs).symm⟩
  | register _ _ _ | getConfig _ | heartbeat _ => obtain rfl := Option.some.inj h; exact foreign_ofDashboard _
  | certCheck _ _ _ _ | runChecks _ _ => obtain rfl := Option.some.inj h; exact foreign_orIoError _
  | recordCheckCycle _ => obtain rfl := Option.some.inj h; exact foreign_value _
  | creds o =>
    obtain rfl := Option.some.inj h
    cases o with
    | pathExists | read => exact foreign_value _
    | _ => exact foreign_ioError
  | queue o => obtain rfl := Option.some.inj h; exact scene.queueAnswers_scene s o
  | sync o => obtain rfl := Option.some.inj h; exact scene.syncAnswers_scene s o
  | isSet _ | set _ | sleep _ | configState _ | configReplace _ | hostsSnapshot | put _ | taskDone | signal _
    | start _ | join _ | unhandledException _ => obtain rfl := Option.some.inj h; rfl
  | _ => obtain rfl := Option.some.inj h; exact foreign_ioError

/-- The answers of a scene in a state that stays as it is. -/
def still (s : AgentState) (o : AgentOp) : Except PyExc o.Ret := (scene.answer s o).getD (.error ioError)

theorem answers_still {s : AgentState} (h : s.Unblocked) (o : AgentOp) : answers s o (scene.still s o) := by
  have hsome : ∃ r, scene.answer s o = some r := by
    cases o with
    | wait event timeout =>
      refine ⟨_, if_neg fun hblocks => ?_⟩
      cases (h.events event).symm.trans hblocks.2
    | configSnapshot =>
      have hlast : s.configs.getLast? ≠ none := fun hnone => h.configured (List.getLast?_eq_none_iff.mp hnone)
      obtain ⟨config, hlast⟩ := Option.ne_none_iff_exists'.mp hlast
      exact ⟨.ok config, by simp only [answer, hlast]⟩
    | get =>
      cases hqueue : s.action_queue with
      | nil => exact ⟨.error queueEmpty, by simp only [answer, hqueue]⟩
      | cons action actions => exact ⟨.ok action, by simp only [answer, hqueue]⟩
    | _ => exact ⟨_, rfl⟩
  obtain ⟨r, hr⟩ := hsome
  rw [still, hr]
  exact scene.answers_scene hr

end Scene

/-! ## Moves -/

/-- What happens next. -/
inductive Move where
  /-- A thread makes so many calls, unless it blocks or ends before that. -/
  | calls (i : ThreadId) (n : Nat)
  /-- The thread that was started at this place begins. -/
  | begins (n : Nat)
  /-- A signal arrives; the move is void while its handler is not installed. -/
  | signal (signum : Signal)
  | request

namespace AgentPool

variable (setup : Setup) (scene : Scene)

/-- The next call of a thread. -/
def call (i : ThreadId) (P : AgentPool) : AgentPool :=
  match P.threads i with
  | some (.call o k) => match scene.answer P.shared o with
    | some r => ⟨Function.update P.threads i (some (k r)), (effect P.shared o r).record i ⟨o, r⟩⟩
    | none => P
  | _ => P

/-- The next calls of a thread. -/
def calls (i : ThreadId) : Nat → AgentPool → AgentPool
  | 0, P => P
  | n + 1, P => calls i n (P.call scene i)

def move : Move → AgentPool → AgentPool
  | .calls i n, P => P.calls scene i n
  | .begins n, P => match P.shared.started[n]? with
    | some thread => if (P.threads thread.id).isNone then P.spawn thread.id (agentProgram setup thread) else P
    | none => P
  | .signal signum, P =>
    if P.shared.main_thread = true ∧ signum ∈ P.shared.handlers then { P with shared := P.shared.receive signum } else P
  | .request, P => { P with shared := P.shared.request }

def moves : List Move → AgentPool → AgentPool
  | [], P => P
  | m :: ms, P => moves ms (P.move setup scene m)

end AgentPool

section

variable {setup : Setup} {main_thread : Bool} {scene : Scene} {P : AgentPool}

/-- A thread that makes calls moves along its trace. -/
theorem calls_trace {i : ThreadId} {p p' : Agent (Option Int)} {cs : List AgentCall} (h : p.Trace cs p')
    (hp' : P.threads i = some p') (n : Nat) :
    ∃ cs' p'', (P.calls scene i n).threads i = some p'' ∧ p.Trace cs' p'' := by
  induction n generalizing P p' cs with
  | zero => exact ⟨cs, p', hp', h⟩
  | succ n ih =>
    show ∃ cs' p'', ((P.call scene i).calls scene i n).threads i = some p'' ∧ p.Trace cs' p''
    unfold AgentPool.call
    split
    · rename_i o k hcall
      obtain rfl := Option.some.inj (hp'.symm.trans hcall)
      split
      · exact ih (h.concat _) (Function.update_self ..)
      · exact ih h hp'
    · exact ih h hp'

/-- A state of a run in which no signal has ended the process. -/
structure Alive (setup : Setup) (main_thread : Bool) (P : AgentPool) : Prop where
  reachable : Reachable setup main_thread P
  alive : P.shared.killed = false

theorem killed_effect (s : AgentState) (o : AgentOp) (r : Except PyExc o.Ret) : (effect s o r).killed = s.killed := by
  unfold effect
  split
  · rename_i event _
    cases event <;> rfl
  all_goals rfl

theorem Alive.call (h : Alive setup main_thread P) (i : ThreadId) : Alive setup main_thread (P.call scene i) := by
  unfold AgentPool.call
  split
  · rename_i o k hi
    split
    · rename_i r hr
      refine ⟨.step h.reachable trivial (.call (.call hi ⟨h.alive, scene.answers_scene hr, rfl⟩)), ?_⟩
      exact (killed_effect _ _ _).trans h.alive
    · exact h
  · exact h

theorem Alive.calls (h : Alive setup main_thread P) (i : ThreadId) (n : Nat) :
    Alive setup main_thread (P.calls scene i n) := by
  induction n generalizing P with
  | zero => exact h
  | succ n ih => exact ih (h.call i)

theorem Alive.move (h : Alive setup main_thread P) (m : Move) : Alive setup main_thread (P.move setup scene m) := by
  cases m with
  | calls i n => exact h.calls i n
  | begins n =>
    show Alive _ _ (match P.shared.started[n]? with | some thread => _ | none => P)
    split
    · rename_i thread hthread
      split_ifs with hnone
      · refine ⟨.step h.reachable trivial (.begins (List.mem_of_getElem? hthread) ?_), h.alive⟩
        exact Option.isNone_iff_eq_none.mp hnone
      · exact h
    · exact h
  | signal signum =>
    show Alive _ _ (if _ then _ else P)
    split_ifs with hhandled
    · refine ⟨.step h.reachable trivial (.signal h.alive hhandled.1), ?_⟩
      show (P.shared.receive signum).killed = false
      rw [AgentState.receive, if_pos hhandled.2]
      exact h.alive
    · exact h
  | request => exact ⟨.step h.reachable trivial .request, h.alive⟩

/-- **What the moves lead to is reachable.** -/
theorem Alive.moves (h : Alive setup main_thread P) (ms : List Move) :
    Alive setup main_thread (P.moves setup scene ms) := by
  induction ms generalizing P with
  | nil => exact h
  | cons m ms ih => exact ih (h.move m)

/-- The calls of one thread, as steps. -/
theorem continues_calls {Meets : AgentLabel → AgentPool → Prop} {i : ThreadId} (hkilled : P.shared.killed = false)
    (hmeets : ∀ P, Meets (.call i) P) (n : Nat) : Continues setup Meets P (P.calls scene i n) := by
  induction n generalizing P with
  | zero => exact .refl
  | succ n ih =>
    show Continues setup Meets P ((P.call scene i).calls scene i n)
    unfold AgentPool.call
    split
    · rename_i o k hi
      split
      · rename_i r hr
        refine .head ⟨.call i, hmeets P, .call (.call hi ⟨hkilled, scene.answers_scene hr, rfl⟩)⟩ (ih ?_)
        exact (killed_effect _ _ _).trans hkilled
      · exact ih hkilled
    · exact ih hkilled

theorem alive_initial : Alive setup main_thread (.initial setup main_thread) := ⟨.initial, rfl⟩

end

/-! ## A registered agent -/

/-- An environment that names the dashboard. -/
def dashboardOnly : Env := fun name => if name = "DASHBOARD_URL" then some "u" else none

/-- An agent with one worker, its loops followed for three rounds. -/
def smallSetup : Setup where
  rt := CycleInput.plainRuntime
  env := dashboardOnly
  num_workers := 1
  fuel := 3
  float_foreign := fun _ e he => by rw [← Except.error.inj he]; rfl

/-- The credentials of a registered agent. -/
def registered : Json :=
  .obj [("agent_id", .str "a"), ("agent_secret", .str "s"), ("dashboard_url", .str "u"), ("registered_at", .str "r")]

/-- What the main thread of a registered agent has done after so many calls. -/
def mainAfter (scene : Scene) (n : Nat) : AgentPool :=
  (AgentPool.initial smallSetup true).calls scene .main n

end CertWatch
