/-
# `CertWatch.SurfacingPrograms` — reports, syncs, cycles and handlers let a 401 through.

One lemma for each function between a dashboard call and the handler of its authentication error, in the order
in which they call each other.
-/
import CertWatch.AuthSurfacing
import CertWatch.CycleRuns

namespace CertWatch

open CertWatch.Lib

-- the texts of the environment are carried along, never computed
attribute [local irreducible] strip

variable {α : Type}

theorem foreign_of_map {β : Type} {f : α → β} {r : Except PyExc α} (h : Foreign (r.map f)) : Foreign r := by
  cases r with
  | ok a => exact foreign_ok
  | error e => exact foreign_error (h e rfl)

/-! ## Calls -/

/-- What the monitor sees of the report queue. -/
abbrev queueMonitor : Monitor queueSig PyExc AuthPhase := authMonitor.comap queueCalls

/-- What the monitor sees of a sync. -/
abbrev syncMonitor : Monitor syncSig PyExc AuthPhase := authMonitor.comap syncCalls

/-- What the monitor sees of a cycle. -/
abbrev cycleMonitor : Monitor cycleSig PyExc AuthPhase := authMonitor.comap cycleCalls

def QueueOp.isSubmit : QueueOp → Bool
  | .submit _ _ => true
  | _ => false

def SyncOp.isSubmit : SyncOp → Bool
  | .submit _ => true
  | _ => false

/-- Every call of the queue but a submission is plain. -/
theorem queue_plain {o : QueueOp} (h : o.isSubmit = false) : Plain queueMonitor o := by
  refine ⟨trivial, fun r hr => ⟨?_, foreign_of_map (Possible.foreign hr)⟩⟩
  cases o with
  | submit path body => cases h
  | _ => rfl

theorem sync_plain {o : SyncOp} (h : o.isSubmit = false) : Plain syncMonitor o := by
  refine ⟨trivial, fun r hr => ⟨?_, foreign_of_map (Possible.foreign hr)⟩⟩
  cases o with
  | submit body => cases h
  | _ => rfl

theorem quiet_queueCall {o : QueueOp} (h : o.isSubmit = false) : Quiet queueMonitor (queueCall o) :=
  (queue_plain h).quiet

theorem quiet_syncCall {o : SyncOp} (h : o.isSubmit = false) : Quiet syncMonitor (syncCall o) :=
  (sync_plain h).quiet

theorem surfaces_submitReport (client : DashboardClient) (path : String) (body : ReportBody) :
    Surfaces queueMonitor (submitReport client path body) := by
  refine surfaces_request (Prog.obeys_perform.mpr ⟨trivial, fun r hr => ?_⟩)
  cases r with
  | ok resp =>
    show calmNext (.queue (.submit path body)) (.ok resp) = _
    simp only [calmNext, isAuthAnswer, beq_iff_eq]
  | error e => exact ⟨rfl, foreign_of_map (Possible.foreign hr) e rfl⟩

/-! ## The report queue -/

theorem quiet_ignoreMissing {p : Queue Unit} (hp : Quiet queueMonitor p) : Quiet queueMonitor (ignoreMissing p) := by
  refine hp.tryCatch fun e he => ?_
  split
  · exact quiet_ret ()
  · exact quiet_raise he

theorem quiet_atomicWriteJson (path : String) (payload : Dict) : Quiet queueMonitor (atomicWriteJson path payload) := by
  have hfill : Quiet queueMonitor (fillTmp (tmpFile path) payload) := by
    refine Quiet.tryCatch ((quiet_queueCall rfl).bind fun _ => quiet_queueCall rfl) fun e he => ?_
    exact (quiet_ignoreMissing (quiet_queueCall rfl)).bind fun _ => quiet_raise he
  exact (quiet_queueCall rfl).bind fun _ => (quiet_queueCall rfl).bind fun _ => hfill.bind fun _ =>
    (quiet_queueCall rfl).bind fun _ => quiet_queueCall rfl

theorem quiet_savePendingReport (report_id : String) (payload : Dict) :
    Quiet queueMonitor (savePendingReport report_id payload) :=
  (quiet_queueCall rfl).bind fun _ => (quiet_queueCall rfl).bind fun _ =>
    (quiet_atomicWriteJson _ _).bind fun _ => quiet_ret _

theorem quiet_loadPendingReport (site : ReadSite) (path : String) :
    Quiet queueMonitor (loadPendingReport site path) := by
  refine Quiet.bind ((quiet_queueCall rfl).tryCatch fun e he => ?_) fun data => ?_
  · cases e with
    | jsonDecode => exact quiet_raise ⟨by rintro ⟨⟩, rfl⟩
    | os e => exact quiet_raise ⟨by rintro ⟨⟩, rfl⟩
    | _ => exact quiet_raise he
  · cases data with
    | obj d => exact quiet_ret _
    | _ => exact quiet_raise ⟨by rintro ⟨⟩, rfl⟩

theorem quiet_incrementAttempts (path : String) : Quiet queueMonitor (incrementAttempts path) :=
  (quiet_loadPendingReport _ _).bind fun _ => (quiet_ofExcept (foreign_toInt _).ordinary).bind fun _ =>
    (quiet_atomicWriteJson _ _).bind fun _ => quiet_ret _

theorem quiet_backoffWait (shutdown_event : Bool) (delay : Rat) :
    Quiet queueMonitor (backoffWait shutdown_event delay) := by
  unfold backoffWait
  split_ifs
  · exact quiet_queueCall rfl
  · exact (quiet_queueCall rfl).bind fun _ => quiet_ret _

theorem quiet_finishAttempt (path : String) (started_mono : Rat) (status : SubmissionStatus) (attempts : Int)
    (summary : Json) : Quiet queueMonitor (finishAttempt path started_mono status attempts summary) :=
  (quiet_ignoreMissing (quiet_queueCall rfl)).bind fun _ => (quiet_queueCall rfl).bind fun _ => quiet_ret _

section

variable (client : DashboardClient) (shutdown_event : Bool)

theorem surfaces_submitWire (path : String) (wire : Dict) : Surfaces queueMonitor (submitWire client path wire) :=
  (quiet_ofExcept (foreign_wireBody wire).ordinary).surfaces.bind fun _ => surfaces_submitReport client path _

/-- An attempt that was not answered 401. -/
theorem surfaces_handleOutcome {path : String} {wire : Dict} {started_mono : Rat} {attempts : Int}
    {retry : Queue ReportSubmissionResult} (hretry : Surfaces queueMonitor retry) {outcome : Except PyExc Json}
    (hord : Ordinary outcome) :
    Surfaces queueMonitor (handleOutcome shutdown_event path wire started_mono attempts retry outcome) := by
  cases outcome with
  | ok response =>
    exact ((quiet_ofExcept (foreign_get _ _).ordinary).bind fun _ => quiet_finishAttempt _ _ _ _ _).surfaces
  | error e =>
    cases e with
    | dashboard e =>
      obtain ⟨kind, message, code, request_id, status_code, body⟩ := e
      cases kind with
      | auth => cases hord.2
      | conflict =>
        exact ((quiet_ofExcept (foreign_get _ _).ordinary).bind fun _ => quiet_finishAttempt _ _ _ _ _).surfaces
      | validation => exact (quiet_finishAttempt _ _ _ _ _).surfaces
      | payloadTooLarge =>
        exact ((quiet_ofExcept (foreign_len _).ordinary).bind fun _ => quiet_finishAttempt _ _ _ _ _).surfaces
      | server | network | rateLimit =>
        refine (quiet_backoffWait _ _).surfaces.bind fun woke_early => ?_
        split_ifs
        · exact ((quiet_queueCall rfl).bind fun _ => quiet_ret _).surfaces
        · exact hretry
      | notFound | base => exact surfaces_raise hord.error_cast
    | _ => exact surfaces_raise hord.error_cast

/-- **`_retry_loop_for_path`** lets the authentication error of any attempt through. -/
theorem surfaces_retryLoopForPath (path : String) (wire : Dict) (started_mono : Rat) (fuel : Nat) :
    Surfaces queueMonitor (retryLoopForPath client shutdown_event path wire started_mono fuel) := by
  induction fuel with
  | zero => trivial
  | succ fuel ih =>
    refine (quiet_incrementAttempts path).surfaces.bind fun attempts => ?_
    refine (surfaces_submitWire client path wire).attempt_bind (fun x hx => ?_) fun x hx => ?_
    · exact surfaces_handleOutcome shutdown_event ih hx
    · obtain ⟨⟨kind, message, code, request_id, status_code, body⟩, rfl, rfl⟩ := exists_of_isAuthFailure hx
      exact Or.inl ⟨rfl, rfl⟩

theorem surfaces_submitPayloadWithRetry (fuel : Nat) (report_id : String) (payload : Dict) :
    Surfaces queueMonitor (submitPayloadWithRetry client shutdown_event fuel report_id payload) :=
  (quiet_queueCall rfl).surfaces.bind fun _ => (quiet_savePendingReport _ _).surfaces.bind fun _ =>
    surfaces_retryLoopForPath client shutdown_event _ _ _ fuel

end

/-! ## Syncs -/

theorem quiet_parseFilterExpr (expr : String) : Quiet syncMonitor (parseFilterExpr expr) := by
  unfold parseFilterExpr
  split
  · exact quiet_ret _
  · exact (quiet_syncCall rfl).bind fun _ => quiet_ret _

theorem quiet_wrapNetBoxError {p : Sync α} (hp : Quiet syncMonitor p) : Quiet syncMonitor (wrapNetBoxError p) :=
  hp.tryCatch fun _ _ => quiet_raise ⟨nofun, rfl⟩

/-- The devices of a listing raise nothing of the agent's own. -/
def ForeignDevices (q : AuthPhase) (x : Except PyExc (List Device)) : Prop :=
  q = .calm ∧ Ordinary x ∧ ∀ ds, x = .ok ds → ∀ d ∈ ds, d.Foreign

theorem obeys_listDevices (fuel : Nat) : (listDevices fuel).Obeys syncMonitor ForeignDevices .calm := by
  induction fuel with
  | zero => trivial
  | succ fuel ih =>
    refine Prog.obeys_bind.mpr (Prog.obeys_perform.mpr ⟨trivial, fun r hr => ?_⟩)
    have hpossible : Possible (.sync .nextDevice) (r.map (Equiv.refl _)) := hr
    cases r with
    | error e => exact ⟨rfl, hpossible.foreign.ordinary.error_cast, nofun⟩
    | ok next =>
      cases next with
      | none =>
        refine ⟨rfl, ordinary_ok _, fun ds hds => ?_⟩
        obtain rfl := Except.ok.inj hds
        exact fun d hd => absurd hd List.not_mem_nil
      | some d =>
        obtain ⟨s, -, hdevice⟩ := hpossible
        refine Prog.Obeys.bind ih (fun q ds hq => ?_) fun q e hq => ⟨hq.1, hq.2.1.error_cast, nofun⟩
        refine ⟨hq.1, ordinary_ok _, fun ds' hds' => ?_⟩
        obtain rfl := Except.ok.inj hds'
        intro d' hd'
        rcases List.mem_cons.mp hd' with rfl | hd'
        · exact hdevice _ rfl
        · exact hq.2.2 ds rfl d' hd'

theorem quiet_fetchHosts (client : NetBoxClient) (fuel : Nat) : Quiet syncMonitor (client.fetchHosts fuel) := by
  have hparse := quiet_parseFilterExpr client.filter_expr
  unfold NetBoxClient.fetchHosts
  generalize parseFilterExpr client.filter_expr = parse at hparse ⊢
  refine (quiet_syncCall rfl).bind fun _ => (quiet_wrapNetBoxError hparse).bind fun kwargs => ?_
  have hquery : (wrapNetBoxError ((syncCall (.devicesFilter kwargs)).bind fun _ => listDevices fuel)).Obeys
      syncMonitor ForeignDevices .calm := by
    refine Prog.obeys_tryCatch.mpr ?_
    refine Prog.Obeys.mono (F := ForeignDevices) ?_ fun q x hx => ?_
    · refine Prog.Obeys.bind (quiet_syncCall rfl : Quiet syncMonitor _) (fun q _ hq => ?_) fun q e hq => ?_
      · rw [hq.1]
        exact obeys_listDevices fuel
      · exact ⟨hq.1, hq.2.error_cast, nofun⟩
    · cases x with
      | ok ds => exact hx
      | error e => exact ⟨hx.1, ⟨nofun, rfl⟩, nofun⟩
  refine Prog.Obeys.bind hquery (fun q ds hq => ?_) fun q e hq => ⟨hq.1, hq.2.1.error_cast⟩
  rw [hq.1]
  refine (quiet_ofExcept (foreign_convertDevices (hq.2.2 ds rfl)).ordinary).bind fun _ => ?_
  exact (quiet_syncCall rfl).bind fun _ => quiet_ret _

section

variable (client : DashboardClient) (shutdown_event : Bool)

theorem surfaces_submitDiscoveredHosts (body : DiscoveredHostsBody) :
    Surfaces syncMonitor (submitDiscoveredHosts client body) := by
  refine surfaces_request (Prog.obeys_perform.mpr ⟨trivial, fun r hr => ?_⟩)
  cases r with
  | ok resp =>
    show calmNext (.sync (.submit body)) (.ok resp) = _
    simp only [calmNext, isAuthAnswer, beq_iff_eq]
  | error e => exact ⟨rfl, foreign_of_map (Possible.foreign hr) e rfl⟩

theorem quiet_syncBackoffWait (delay : Rat) : Quiet syncMonitor (syncBackoffWait shutdown_event delay) := by
  unfold syncBackoffWait
  split_ifs
  · exact quiet_syncCall rfl
  · exact (quiet_syncCall rfl).bind fun _ => quiet_ret _

theorem quiet_syncShutdownSet : Quiet syncMonitor (syncShutdownSet shutdown_event) := by
  unfold syncShutdownSet
  split_ifs
  · exact quiet_syncCall rfl
  · exact quiet_ret _

/-- An attempt that was not answered 401. -/
theorem surfaces_handleSyncOutcome {body : DiscoveredHostsBody} {attempts : Int} {retry : Sync NetBoxSyncResult}
    (hretry : Surfaces syncMonitor retry) {outcome : Except PyExc Json} (hord : Ordinary outcome) :
    Surfaces syncMonitor (handleSyncOutcome shutdown_event body attempts retry outcome) := by
  cases outcome with
  | ok response =>
    exact ((quiet_ofExcept (foreign_get _ _).ordinary).bind fun _ => (quiet_syncCall rfl).bind fun _ =>
      quiet_ret _).surfaces
  | error e =>
    cases e with
    | dashboard e =>
      obtain ⟨kind, message, code, request_id, status_code, ebody⟩ := e
      cases kind with
      | auth => cases hord.2
      | server | network | rateLimit =>
        refine (quiet_syncBackoffWait _ _).surfaces.bind fun woke_early => ?_
        split_ifs
        · exact surfaces_ret _
        · exact hretry
      | validation | payloadTooLarge | notFound | conflict | base => exact surfaces_ret _
    | _ => exact surfaces_raise hord.error_cast

/-- **`_submit_with_retry`** lets the authentication error of any attempt through. -/
theorem surfaces_submitWithRetry (body : DiscoveredHostsBody) (fuel : Nat) (attempts : Int) :
    Surfaces syncMonitor (submitWithRetry client shutdown_event body fuel attempts) := by
  induction fuel generalizing attempts with
  | zero => trivial
  | succ fuel ih =>
    refine (quiet_syncShutdownSet shutdown_event).surfaces.bind fun interrupted => ?_
    split_ifs
    · exact surfaces_ret _
    refine (surfaces_submitDiscoveredHosts client body).attempt_bind (fun x hx => ?_) fun x hx => ?_
    · exact surfaces_handleSyncOutcome shutdown_event (ih _) hx
    · obtain ⟨⟨kind, message, code, request_id, status_code, ebody⟩, rfl, rfl⟩ := exists_of_isAuthFailure hx
      exact Or.inl ⟨rfl, rfl⟩

theorem surfaces_runNetboxSync (netbox_client : NetBoxClient) (action_id : Option String) (fuel : Nat) :
    Surfaces syncMonitor (runNetboxSync client shutdown_event netbox_client action_id fuel) := by
  refine (quiet_syncCall rfl).surfaces.bind fun synced_at => (quiet_fetchHosts _ _).attempt_bind fun x hx => ?_
  split
  · exact surfaces_ret _
  · exact surfaces_raise hx.error_cast
  · exact (quiet_syncCall rfl).surfaces.bind fun _ => surfaces_submitWithRetry client shutdown_event _ _ _

end

/-! ## Cycles -/

/-- The submission of a cycle obeys whatever monitor the queue does. -/
theorem Obeys.onQueue {Q : Type} {M : Monitor agentSig PyExc Q} {p : Queue α} {F : Q → Except PyExc α → Prop} {q : Q}
    (h : p.Obeys (M.comap queueCalls) F q) : (onQueue p).Obeys (M.comap cycleCalls) F q := by
  induction p generalizing q with
  | ret a => exact h
  | raise e => exact h
  | hang => exact h
  | call o k ih => exact ⟨h.1, fun r hr => ih r (h.2 r hr)⟩

theorem quiet_cycleQueueCall {o : QueueOp} (h : o.isSubmit = false) :
    Quiet cycleMonitor (cycleCall (.queue o)) := by
  refine Plain.quiet ⟨trivial, fun r hr => ⟨?_, foreign_of_map (Possible.foreign hr)⟩⟩
  cases o with
  | submit path body => cases h
  | _ => rfl

theorem quiet_runChecks (settings : CheckSettings) (hosts : List HostEntry) :
    Quiet cycleMonitor (cycleCall (.runChecks settings hosts)) :=
  Plain.quiet ⟨trivial, fun _ hr => ⟨rfl, foreign_of_map (Possible.foreign hr)⟩⟩

theorem quiet_cycleUuid4 : Quiet cycleMonitor (cycleCall .uuid4) :=
  Plain.quiet ⟨trivial, fun _ hr => ⟨rfl, foreign_of_map (Possible.foreign hr)⟩⟩

section

variable {rt : Runtime} (hrt : ∀ text, Foreign (rt.floatOfText text))

include hrt in
theorem quiet_checkHosts (config : Dict) (netbox_hosts : List DiscoveredHost) :
    Quiet cycleMonitor (checkHosts rt config netbox_hosts) := by
  refine (quiet_ofExcept (foreign_toCheck rt config netbox_hosts).ordinary).bind fun to_check => ?_
  refine (quiet_ofExcept (foreign_expiringSoonThreshold config).ordinary).bind fun threshold => ?_
  split_ifs
  · exact quiet_ret _
  · refine (quiet_ofExcept (foreign_checkSettings hrt config threshold).ordinary).bind fun settings => ?_
    refine (quiet_runChecks settings to_check).bind fun results => ?_
    exact quiet_ofExcept (foreign_buildChecks rt results to_check).ordinary

include hrt in
theorem surfaces_runOneCycle (client : DashboardClient) (config : Dict) (report_type : String)
    (netbox_hosts : List DiscoveredHost) (fuel : Nat) :
    Surfaces cycleMonitor (runOneCycle rt client config report_type netbox_hosts fuel) := by
  refine (quiet_cycleQueueCall rfl).surfaces.bind fun _ => (quiet_cycleQueueCall rfl).surfaces.bind fun _ => ?_
  refine (quiet_checkHosts hrt config netbox_hosts).surfaces.bind fun checks => ?_
  refine (quiet_cycleQueueCall rfl).surfaces.bind fun _ => (quiet_cycleQueueCall rfl).surfaces.bind fun _ => ?_
  refine quiet_cycleUuid4.surfaces.bind fun report_id => ?_
  refine Surfaces.bind (Obeys.onQueue ?_) fun _ => surfaces_ret _
  rw [submitReportWithRetry_eq]
  exact surfaces_submitPayloadWithRetry client true fuel _ _

end

end CertWatch
