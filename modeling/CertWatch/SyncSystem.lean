/-
# `CertWatch.SyncSystem` — any number of syncs over one agent and one dashboard.

Syncs start at any time and interleave call by call.  The rules below say that no sync ever leaves the
histories of `CertWatch.SyncHistory`, whatever its calls return and whatever the other syncs do; the run
rule turns that into invariants of the log.
-/
import CertWatch.SyncHistory
import CertWatch.Lib.Pool

namespace CertWatch

open CertWatch.Lib

-- the texts of the environment are carried along, never computed
attribute [local irreducible] strip

section Rules

variable {ι : Type} [DecidableEq ι] {i : ι} {w : SyncWorld ι}

/-- The history of sync `i` so far. -/
def At (i : ι) (h : List SyncEvent) (w : SyncWorld ι) : Prop := ownEvents i w.log = h

/-- What a sync relies on: its own history is its own. -/
def OthersSync (i : ι) (w w' : SyncWorld ι) : Prop := ownEvents i w'.log = ownEvents i w.log

theorem OthersSync.trans {a b c : SyncWorld ι} (h : OthersSync i a b) (h' : OthersSync i b c) :
    OthersSync i a c := Eq.trans h' h

/-- What a sync does with a call: nothing, or an event that its history allows. -/
def SyncStep (i : ι) (w w' : SyncWorld ι) : Prop :=
  w' = w ∨ ∃ e, w' = w.record i e ∧ SyncHistory (ownEvents i w'.log)

theorem At.others {h : List SyncEvent} {w w' : SyncWorld ι} (ha : At i h w) (ho : OthersSync i w w') :
    At i h w' := Eq.trans ho ha

theorem At.record {h : List SyncEvent} (ha : At i h w) (e : SyncEvent) : At i (h ++ [e]) (w.record i e) := by
  unfold At at ha ⊢
  rw [SyncWorld.log_record, ownEvents_concat_self, ha]

theorem At.step {h : List SyncEvent} (ha : At i h w) {e : SyncEvent} (hh : SyncHistory (h ++ [e])) :
    SyncStep i w (w.record i e) := by
  refine Or.inr ⟨e, rfl, ?_⟩
  rw [show ownEvents i (w.record i e).log = h ++ [e] from ha.record e]
  exact hh

omit [DecidableEq ι] in
theorem wp_syncCall {R G : SyncWorld ι → SyncWorld ι → Prop} {o : SyncOp}
    {Q : Except PyExc o.Ret → SyncWorld ι → Prop} :
    (syncCall o).wp (syncExec i) R G Q w ↔
      ∀ s, R w s → ∀ r s', syncExec i o s r s' → G s s' ∧ Q r s' :=
  Prog.wp_perform

/-- A call that leaves the world alone. -/
theorem wp_syncStill {o : SyncOp} {h : List SyncEvent} {Q : Except PyExc o.Ret → SyncWorld ι → Prop}
    (ho : ∀ s r s', syncExec i o s r s' → s' = s) (ha : At i h w) (hQ : ∀ r s, At i h s → Q r s) :
    (syncCall o).wp (syncExec i) (OthersSync i) (SyncStep i) Q w := by
  refine wp_syncCall.mpr fun s hs r s' hex => ?_
  obtain rfl := ho s r s' hex
  exact ⟨Or.inl rfl, hQ r _ (ha.others hs)⟩

/-- A call that records one event and returns. -/
theorem wp_syncEvent {o : SyncOp} {h : List SyncEvent} {e : SyncEvent}
    {Q : Except PyExc o.Ret → SyncWorld ι → Prop} {a : o.Ret}
    (ho : ∀ s r s', syncExec i o s r s' → r = .ok a ∧ s' = s.record i e) (ha : At i h w)
    (hh : SyncHistory (h ++ [e])) (hQ : ∀ s, At i (h ++ [e]) s → Q (.ok a) s) :
    (syncCall o).wp (syncExec i) (OthersSync i) (SyncStep i) Q w := by
  refine wp_syncCall.mpr fun s hs r s' hex => ?_
  obtain ⟨rfl, rfl⟩ := ho s r s' hex
  have hs' := ha.others hs
  exact ⟨hs'.step hh, hQ _ (hs'.record e)⟩

/-! ## Fetching -/

theorem fetchHistory_concat (ds : List Device) (d : Device) :
    fetchHistory ds ++ [.yielded d] = fetchHistory (ds ++ [d]) := by
  simp [fetchHistory]

/-- The listing: each device that is yielded is one event, in order, also when it breaks off. -/
theorem wp_listDevices (fuel : Nat) (ds : List Device) (ha : At i (fetchHistory ds) w) :
    (listDevices fuel).wp (syncExec i) (OthersSync i) (SyncStep i)
      (fun x w' => (∃ ds', At i (fetchHistory ds') w') ∧
        ∀ rest, x = .ok rest → At i (fetchHistory (ds ++ rest)) w') w := by
  induction fuel generalizing w ds with
  | zero => trivial
  | succ fuel ih =>
    simp only [listDevices, Prog.bind_eq, Prog.wp_bind]
    refine wp_syncCall.mpr fun s hs r s' hex => ?_
    have hat := ha.others hs
    rcases hex with ⟨hr, rfl⟩ | ⟨d, rfl, rfl⟩
    · refine ⟨Or.inl rfl, ?_⟩
      rcases r with e | next
      · exact ⟨⟨ds, hat⟩, nofun⟩
      · cases next with
        | some d => exact absurd rfl (hr d)
        | none =>
          refine ⟨⟨ds, hat⟩, fun rest hrest => ?_⟩
          obtain rfl := Except.ok.inj hrest
          rw [List.append_nil]
          exact hat
    · have hhist : SyncHistory (fetchHistory ds ++ [.yielded d]) := by
        rw [fetchHistory_concat]
        exact .fetching _
      refine ⟨hat.step hhist, ?_⟩
      have hat' := hat.record (.yielded d)
      rw [fetchHistory_concat] at hat'
      rw [Prog.thenPost_ok, Prog.wp_bind]
      refine Prog.wp_mono ?_ (ih (ds ++ [d]) hat')
      rintro (e | rest) s'' ⟨hsome, hok⟩
      · exact ⟨hsome, nofun⟩
      · refine ⟨hsome, fun all hall => ?_⟩
        obtain rfl := Except.ok.inj hall
        have := hok rest rfl
        rwa [List.append_assoc] at this

theorem wp_parseFilterExpr {h : List SyncEvent} (expr : String) (ha : At i h w) :
    (parseFilterExpr expr).wp (syncExec i) (OthersSync i) (SyncStep i) (fun _ w' => At i h w') w := by
  unfold parseFilterExpr
  rcases Classical.em (strip expr = "") with hblank | hblank
  · rw [if_pos hblank]
    exact ha
  · simp only [if_neg hblank, Prog.bind_eq, Prog.wp_bind]
    refine wp_syncStill (o := .parseQs expr) (fun _ _ _ h => h) ha ?_
    rintro (e | parsed) s hs
    · exact hs
    · exact hs

/-- **`fetch_hosts`**: it returns only with the conversion of every device that was yielded; when it raises,
its history is still that of a fetch. -/
theorem wp_fetchHosts (client : NetBoxClient) (fuel : Nat) (ha : At i [] w) :
    (client.fetchHosts fuel).wp (syncExec i) (OthersSync i) (SyncStep i)
      (fun x w' => match x with
        | .ok hosts => ∃ ds, convertDevices ds = .ok hosts ∧ At i (fetchHistory ds ++ [.fetched hosts]) w'
        | .error _ => ∃ ds, At i (fetchHistory ds) w') w := by
  simp only [NetBoxClient.fetchHosts, wrapNetBoxError, Prog.bind_eq, Prog.wp_bind]
  refine wp_syncEvent (o := .fetchBegins) (a := ()) (fun _ _ _ h => h) ha (.fetching []) fun s₁ h₁ => ?_
  rw [Prog.thenPost_ok, Prog.wp_bind, Prog.wp_tryCatch]
  have hparse := wp_parseFilterExpr client.filter_expr h₁
  generalize parseFilterExpr client.filter_expr = parse at hparse ⊢
  refine Prog.wp_mono ?_ hparse
  rintro (e | kwargs) s₂ h₂
  · exact ⟨[], h₂⟩
  rw [Prog.catchPost_ok, Prog.thenPost_ok, Prog.wp_bind, Prog.wp_tryCatch, Prog.wp_bind]
  refine wp_syncStill (o := .devicesFilter kwargs) (fun _ _ _ h => h) h₂ ?_
  rintro (e | u) s₃ h₃
  · exact ⟨[], h₃⟩
  rw [Prog.thenPost_ok]
  refine Prog.wp_mono ?_ (wp_listDevices fuel [] h₃)
  rintro (e | devices) s₄ ⟨hsome, hok⟩
  · exact hsome
  have h₄ : At i (fetchHistory devices) s₄ := hok devices rfl
  rw [Prog.catchPost_ok, Prog.thenPost_ok, Prog.wp_bind, Prog.wp_ofExcept]
  refine Prog.thenPost_intro (fun hosts hconv => ?_) fun e _ => ⟨devices, h₄⟩
  rw [Prog.wp_bind]
  refine wp_syncEvent (o := .fetchReturns hosts) (a := ()) (fun _ _ _ h => h) h₄ (.fetched hconv) fun s₅ h₅ => ?_
  exact ⟨devices, hconv, h₅⟩

/-! ## Submitting -/

variable {ds : List Device} {hosts : List DiscoveredHost}

/-- A sync that installed its list and has submitted only its image. -/
def Submitting (i : ι) (ds : List Device) (hosts : List DiscoveredHost) (w : SyncWorld ι) : Prop :=
  ∃ tail, (∀ e ∈ tail, SubmitsImage hosts e) ∧ At i (installHistory ds hosts ++ tail) w

/-- A sync with its list installed, and what its result says about the dashboard. -/
def SyncConcluded (i : ι) (hosts : List DiscoveredHost) (x : Except PyExc NetBoxSyncResult) (w : SyncWorld ι) :
    Prop :=
  SyncEvent.installed hosts ∈ ownEvents i w.log ∧
    ∀ r, x = .ok r → r.status = .success → AcceptedIn (ownEvents i w.log)

theorem Submitting.concluded (h : Submitting i ds hosts w) {x : Except PyExc NetBoxSyncResult}
    (hx : ∀ r, x = .ok r → r.status ≠ .success) : SyncConcluded i hosts x w := by
  obtain ⟨tail, -, hat⟩ := h
  refine ⟨?_, fun r hr hs => absurd hs (hx r hr)⟩
  rw [show ownEvents i w.log = _ from hat]
  simp [installHistory]

/-- A call of a submitting sync that leaves the world alone. -/
theorem wp_submittingStill {o : SyncOp} {Q : Except PyExc o.Ret → SyncWorld ι → Prop}
    (ho : ∀ s r s', syncExec i o s r s' → s' = s) (h : Submitting i ds hosts w)
    (hQ : ∀ r s, Submitting i ds hosts s → Q r s) :
    (syncCall o).wp (syncExec i) (OthersSync i) (SyncStep i) Q w := by
  obtain ⟨tail, htail, hat⟩ := h
  exact wp_syncStill ho hat fun r s hs => hQ r s ⟨tail, htail, hs⟩

theorem wp_syncShutdownSet {shutdown_event : Bool} (h : Submitting i ds hosts w) :
    (syncShutdownSet shutdown_event).wp (syncExec i) (OthersSync i) (SyncStep i)
      (fun _ w' => Submitting i ds hosts w') w := by
  unfold syncShutdownSet
  split_ifs
  · exact wp_submittingStill (o := .isSet) (fun _ _ _ h => h.2) h fun _ _ hs => hs
  · exact h

theorem wp_syncBackoffWait {shutdown_event : Bool} {delay : Rat} (h : Submitting i ds hosts w) :
    (syncBackoffWait shutdown_event delay).wp (syncExec i) (OthersSync i) (SyncStep i)
      (fun _ w' => Submitting i ds hosts w') w := by
  unfold syncBackoffWait
  split_ifs
  · exact wp_submittingStill (o := .waitFor delay) (fun _ _ _ h => h.2) h fun _ _ hs => hs
  · simp only [Prog.bind_eq, Prog.wp_bind]
    refine wp_submittingStill (o := .sleep delay) (fun _ _ _ h => h.2) h ?_
    rintro (e | u) s hs
    · exact hs
    · exact hs

/-- One submission: a 2xx that came back means that the dashboard accepted. -/
theorem wp_submitDiscoveredHosts {client : DashboardClient} {body : DiscoveredHostsBody}
    (hconv : convertDevices ds = .ok hosts) (hbody : body.hosts = hosts.map hostToPayload)
    (h : Submitting i ds hosts w) :
    (submitDiscoveredHosts client body).wp (syncExec i) (OthersSync i) (SyncStep i)
      (fun x w' => ∃ tail, (∀ e ∈ tail, SubmitsImage hosts e) ∧ At i (installHistory ds hosts ++ tail) w' ∧
        ∀ v, x = .ok v → AcceptedIn tail) w := by
  obtain ⟨tail, htail, hat⟩ := h
  simp only [submitDiscoveredHosts, request, Prog.bind_eq, Prog.wp_bind, Prog.wp_tryCatch]
  refine wp_syncCall.mpr fun s hs r s' hex => ?_
  obtain ⟨accepted, rfl, hr⟩ := hex
  have hat' := (hat.others hs).record (.submitted body accepted)
  rw [List.append_assoc] at hat'
  have htail' : ∀ e ∈ tail ++ [SyncEvent.submitted body accepted], SubmitsImage hosts e := by
    intro e he
    rcases List.mem_append.mp he with he | he
    · exact htail e he
    · exact ⟨body, accepted, List.mem_singleton.mp he, hbody⟩
  have hstep : SyncStep i s (s.record i (.submitted body accepted)) := by
    refine (hat.others hs).step ?_
    rw [List.append_assoc]
    exact .installed hconv htail'
  refine ⟨hstep, ?_⟩
  rcases hr with rfl | ⟨resp, rfl, haccepted⟩
  · exact ⟨_, htail', hat', nofun⟩
  · rw [Prog.catchPost_ok, Prog.thenPost_ok, Prog.wp_ofExcept]
    refine ⟨_, htail', hat', fun v hv => ?_⟩
    by_cases hok : 200 ≤ resp.status ∧ resp.status < 300
    · refine ⟨body, List.mem_append_right tail ?_⟩
      rw [haccepted hok]
      exact List.mem_cons_self
    · obtain ⟨e, he, -⟩ := @handleResponse_error "POST" client.discoveredHostsPath resp hok
      rw [he] at hv
      cases hv

/-- What the loop makes of an attempt keeps to the protocol. -/
theorem wp_handleSyncOutcome {shutdown_event : Bool} {body : DiscoveredHostsBody} {attempts : Int}
    {retry : Sync NetBoxSyncResult} {x : Except PyExc Json} {tail : List SyncEvent}
    (hconv : convertDevices ds = .ok hosts) (htail : ∀ e ∈ tail, SubmitsImage hosts e)
    (hat : At i (installHistory ds hosts ++ tail) w) (haccepted : ∀ v, x = .ok v → AcceptedIn tail)
    (hretry : ∀ s, Submitting i ds hosts s →
      retry.wp (syncExec i) (OthersSync i) (SyncStep i) (SyncConcluded i hosts) s) :
    (handleSyncOutcome shutdown_event body attempts retry x).wp (syncExec i) (OthersSync i) (SyncStep i)
      (SyncConcluded i hosts) w := by
  have hsub : Submitting i ds hosts w := ⟨tail, htail, hat⟩
  rcases x with e | response
  · cases e with
    | dashboard e =>
      obtain ⟨kind, message, code, request_id, status_code, ebody⟩ := e
      cases kind with
      | auth => exact hsub.concluded nofun
      | server | network | rateLimit =>
        simp only [handleSyncOutcome, Prog.bind_eq, Prog.wp_bind]
        refine Prog.wp_mono ?_ (wp_syncBackoffWait hsub)
        rintro (e | woke_early) s hs
        · exact hs.concluded nofun
        rw [Prog.thenPost_ok]
        cases woke_early with
        | false => exact hretry s hs
        | true =>
          -- woken by the shutdown: the sync ends unrecorded
          refine hs.concluded fun r hr => ?_
          obtain rfl := Except.ok.inj hr
          exact nofun
      | validation | payloadTooLarge | notFound | conflict | base =>
        refine hsub.concluded fun r hr => ?_
        obtain rfl := Except.ok.inj hr
        exact nofun
    | _ => exact hsub.concluded nofun
  · -- an accepted list is recorded, and only an accepted one
    have hacc := haccepted response rfl
    simp only [handleSyncOutcome, Prog.bind_eq, Prog.wp_bind, Prog.wp_ofExcept]
    refine Prog.thenPost_intro (fun summary _ => ?_) fun e _ => hsub.concluded nofun
    rw [Prog.wp_bind]
    refine wp_syncEvent (o := .recordNetboxSync body.synced_at) (a := ()) (fun _ _ _ h => h) hat
      (.recorded hconv htail hacc) fun s hs => ?_
    have hown : ownEvents i s.log = _ := hs
    obtain ⟨b, hb⟩ := hacc
    refine ⟨?_, fun _ _ _ => ⟨b, ?_⟩⟩
    · rw [hown]
      simp [installHistory]
    · rw [hown]
      exact List.mem_append_left _ (List.mem_append_right _ hb)

/-- **`_submit_with_retry`** submits the image of the installed list and nothing else. -/
theorem wp_submitWithRetry {client : DashboardClient} {shutdown_event : Bool} {body : DiscoveredHostsBody}
    (hconv : convertDevices ds = .ok hosts) (hbody : body.hosts = hosts.map hostToPayload) (fuel : Nat)
    (attempts : Int) (h : Submitting i ds hosts w) :
    (submitWithRetry client shutdown_event body fuel attempts).wp (syncExec i) (OthersSync i) (SyncStep i)
      (SyncConcluded i hosts) w := by
  induction fuel generalizing attempts w with
  | zero => trivial
  | succ fuel ih =>
    simp only [submitWithRetry, Prog.bind_eq, Prog.wp_bind]
    refine Prog.wp_mono ?_ (wp_syncShutdownSet h)
    rintro (e | interrupted) s hs
    · exact hs.concluded nofun
    rw [Prog.thenPost_ok]
    cases interrupted with
    | true =>
      refine hs.concluded fun r hr => ?_
      obtain rfl := Except.ok.inj hr
      exact nofun
    | false =>
      simp only [Bool.false_eq_true, if_false, Prog.wp_bind, Prog.wp_attempt]
      refine Prog.wp_mono ?_ (wp_submitDiscoveredHosts hconv hbody hs)
      rintro x s' ⟨tail, htail, hat, hacc⟩
      rw [Prog.thenPost_ok]
      exact wp_handleSyncOutcome hconv htail hat hacc fun s'' hs'' => ih (attempts + 1) hs''

/-! ## A whole sync -/

/-- How a sync may have ended: what it fetched is installed, and success means acceptance. -/
def Ended (i : ι) (x : Except PyExc NetBoxSyncResult) (w : SyncWorld ι) : Prop :=
  ((∃ hosts, SyncEvent.fetched hosts ∈ ownEvents i w.log) →
    ∃ hosts, SyncEvent.installed hosts ∈ ownEvents i w.log) ∧
  ∀ r, x = .ok r → r.status = .success → AcceptedIn (ownEvents i w.log)

theorem ended_of_fetching {x : Except PyExc NetBoxSyncResult} (h : At i (fetchHistory ds) w)
    (hx : ∀ r, x = .ok r → r.status ≠ .success) : Ended i x w := by
  refine ⟨fun hfetched => ?_, fun r hr hs => absurd hs (hx r hr)⟩
  rw [show ownEvents i w.log = _ from h] at hfetched
  simp [fetchHistory] at hfetched

/-- **A sync keeps to its protocol**, from its start, whatever its calls return. -/
theorem wp_runNetboxSync {dashboard_client : DashboardClient} {shutdown_event : Bool}
    {netbox_client : NetBoxClient} {action_id : Option String} (fuel : Nat) (ha : At i [] w) :
    (runNetboxSync dashboard_client shutdown_event netbox_client action_id fuel).wp (syncExec i)
      (OthersSync i) (SyncStep i) (Ended i) w := by
  simp only [runNetboxSync, Prog.bind_eq, Prog.wp_bind]
  refine wp_syncStill (o := .utcNowIso) (fun _ _ _ h => h.2) ha ?_
  rintro (e | synced_at) s₁ h₁
  · refine ⟨fun hfetched => ?_, nofun⟩
    rw [show ownEvents i s₁.log = [] from h₁] at hfetched
    simp at hfetched
  rw [Prog.thenPost_ok, Prog.wp_bind, Prog.wp_attempt]
  have hfetch := wp_fetchHosts netbox_client fuel h₁
  generalize netbox_client.fetchHosts fuel = fetch at hfetch ⊢
  refine Prog.wp_mono ?_ hfetch
  rintro (e | hosts) s₂ h₂
  · -- the fetch raised: nothing was installed, and nothing is submitted
    obtain ⟨ds, h₂⟩ := h₂
    rw [Prog.thenPost_ok]
    cases e with
    | netBoxSync e =>
      refine ended_of_fetching h₂ fun r hr => ?_
      obtain rfl := Except.ok.inj hr
      exact nofun
    | _ => exact ended_of_fetching h₂ nofun
  · obtain ⟨ds, hconv, h₂⟩ := h₂
    rw [Prog.thenPost_ok, Prog.wp_bind]
    have hhist : fetchHistory ds ++ [.fetched hosts] ++ [.installed hosts] = installHistory ds hosts ++ [] := by
      simp [installHistory]
    refine wp_syncEvent (o := .replaceHosts hosts) (a := ()) (fun _ _ _ h => h) h₂ ?_ fun s₃ h₃ => ?_
    · rw [hhist]
      exact .installed hconv (List.forall_mem_nil _)
    · rw [hhist] at h₃
      rw [Prog.thenPost_ok]
      refine Prog.wp_mono ?_ (wp_submitWithRetry hconv rfl fuel 0 ⟨[], List.forall_mem_nil _, h₃⟩)
      intro x s₄ h₄
      exact ⟨fun _ => ⟨hosts, h₄.1⟩, h₄.2⟩

end Rules

/-! ## The transition system -/

variable {ι : Type} [DecidableEq ι]

/-- Syncs by name over the shared world. -/
abbrev SyncSys (ι : Type) := Pool ι syncSig PyExc NetBoxSyncResult (SyncWorld ι)

namespace SyncSys

/-- A process starts with no sync, over whatever inventory the dashboard has. -/
def init (inventory : List Dict) : SyncSys ι := ⟨fun _ => none, .fresh inventory⟩

/-- A scheduled or action-triggered sync starts, or some sync makes its next call. -/
inductive Step : SyncSys ι → SyncSys ι → Prop where
  | start {s : SyncSys ι} (i : ι) (dashboard_client : DashboardClient) (shutdown_event : Bool)
      (netbox_client : NetBoxClient) (action_id : Option String) (fuel : Nat) : s.threads i = none →
      Step s (s.spawn i (runNetboxSync dashboard_client shutdown_event netbox_client action_id fuel))
  | call {s s' : SyncSys ι} (i : ι) : Pool.Step syncExec i s s' → Step s s'

/-- The runs of a process whose steps all meet a condition. -/
def ReachableBy (cond : SyncSys ι → SyncSys ι → Prop) (inventory : List Dict) (s : SyncSys ι) : Prop :=
  Relation.ReflTransGen (fun a b => Step a b ∧ cond a b) (init inventory) s

/-- All runs. -/
abbrev Reachable (inventory : List Dict) (s : SyncSys ι) : Prop := ReachableBy (fun _ _ => True) inventory s

/-- Every sync stands at a program that keeps to the protocol, and has kept to it so far. -/
structure Disciplined (s : SyncSys ι) : Prop where
  absent : ∀ i, s.threads i = none → ownEvents i s.shared.log = []
  history : ∀ i, SyncHistory (ownEvents i s.shared.log)
  threads : Pool.Ok syncExec OthersSync SyncStep Ended s

theorem syncStep_others {i j : ι} (hij : i ≠ j) {w w' : SyncWorld ι} (h : SyncStep i w w') :
    OthersSync j w w' := by
  rcases h with rfl | ⟨e, rfl, -⟩
  · rfl
  · exact ownEvents_concat_ne hij _ _

theorem ended_others {i : ι} {x : Except PyExc NetBoxSyncResult} {w w' : SyncWorld ι} (h : Ended i x w)
    (ho : OthersSync i w w') : Ended i x w' := by
  unfold Ended
  rw [show ownEvents i w'.log = ownEvents i w.log from ho]
  exact h

theorem disciplined_init (inventory : List Dict) : Disciplined (init inventory : SyncSys ι) where
  absent _ _ := rfl
  history _ := .idle
  threads := nofun

/-- What a step of the system does: nothing to the world, or one event of one sync. -/
def Moves (s s' : SyncSys ι) : Prop :=
  s'.shared = s.shared ∨ ∃ i e, s'.shared = s.shared.record i e ∧ SyncHistory (ownEvents i s'.shared.log)

/-- A call of sync `i` is at most one event of its own history, and leaves every sync at its protocol. -/
theorem Disciplined.call {s s' : SyncSys ι} {i : ι} (hd : Disciplined s) (h : Pool.Step syncExec i s s') :
    SyncStep i s.shared s'.shared ∧ Pool.Ok syncExec OthersSync SyncStep Ended s' := by
  apply Pool.ok_step (R := OthersSync) (G := SyncStep) (Q := Ended)
  · intro j w
    rfl
  · intro j a b c
    exact OthersSync.trans
  · intro j x a b
    exact ended_others
  · intro j k hjk a b
    exact syncStep_others hjk
  · exact hd.threads
  · exact h

/-- **The step lemma**: every step keeps the discipline and is at most one legal event. -/
theorem Disciplined.step {s s' : SyncSys ι} (hd : Disciplined s) (h : Step s s') :
    Disciplined s' ∧ Moves s s' := by
  cases h with
  | start i dashboard_client shutdown_event netbox_client action_id fuel hnone =>
    refine ⟨⟨?_, hd.history, Pool.ok_spawn hd.threads (wp_runNetboxSync fuel (hd.absent i hnone))⟩, Or.inl rfl⟩
    intro j hj
    apply hd.absent j
    by_cases hji : j = i
    · rw [hji]
      exact hnone
    · exact (Function.update_of_ne hji _ _).symm.trans hj
  | call i hcall =>
    obtain ⟨hmove, hok⟩ := hd.call hcall
    have hmoves : Moves s s' := by
      rcases hmove with heq | ⟨e, heq, hh⟩
      · exact Or.inl heq
      · exact Or.inr ⟨i, e, heq, hh⟩
    refine ⟨⟨?_, ?_, hok⟩, hmoves⟩
    · intro j hj
      obtain ⟨hne, hsame⟩ := hcall.unused hj
      rw [syncStep_others (Ne.symm hne) hmove]
      exact hd.absent j hsame
    · intro j
      by_cases hji : j = i
      · subst hji
        rcases hmove with heq | ⟨e, -, hh⟩
        · rw [heq]
          exact hd.history j
        · exact hh
      · rw [syncStep_others (Ne.symm hji) hmove]
        exact hd.history j

/-- The run lemma. -/
theorem ReachableBy.disciplined {cond : SyncSys ι → SyncSys ι → Prop} {inventory : List Dict} {s : SyncSys ι}
    (h : ReachableBy cond inventory s) : Disciplined s := by
  induction h with
  | refl => exact disciplined_init inventory
  | tail _ hstep ih => exact (ih.step hstep.1).1

/-- **Run rule**: what holds at the start and survives every legal event that meets the condition holds in
every state. -/
theorem ReachableBy.invariant {cond : SyncSys ι → SyncSys ι → Prop} {inventory : List Dict}
    {I : SyncWorld ι → Prop} (hinit : I (.fresh inventory))
    (hstep : ∀ s s' i e, Disciplined s → cond s s' → s'.shared = s.shared.record i e →
      SyncHistory (ownEvents i s.shared.log ++ [e]) → I s.shared → I (s.shared.record i e))
    {s : SyncSys ι} (h : ReachableBy cond inventory s) : I s.shared := by
  induction h with
  | refl => exact hinit
  | @tail s s' hreach hs ih =>
    have hd := ReachableBy.disciplined hreach
    rcases (hd.step hs.1).2 with heq | ⟨i, e, heq, hh⟩
    · rw [heq]
      exact ih
    · rw [heq]
      refine hstep s s' i e hd hs.2 heq ?_ ih
      rwa [heq, SyncWorld.log_record, ownEvents_concat_self] at hh

/-- An event of a sync that comes after its fetch. -/
theorem Disciplined.after_fetch {s : SyncSys ι} (hd : Disciplined s) {i : ι} {e : SyncEvent}
    (he : (i, e) ∈ s.shared.log) (hrank : 3 ≤ e.rank) :
    ∃ hosts, (i, SyncEvent.fetched hosts) ∈ s.shared.log ∧ (∀ hosts', e = .installed hosts' → hosts' = hosts) ∧
      ∀ body accepted, e = .submitted body accepted → body.hosts = hosts.map hostToPayload := by
  obtain ⟨hosts, hf, -, hinst, himage⟩ := (hd.history i).after_fetch (mem_ownEvents_iff.mpr he) hrank
  exact ⟨hosts, mem_ownEvents_iff.mp hf, hinst, himage⟩

/-- A sync fetches at most one list. -/
theorem Disciplined.fetched_unique {s : SyncSys ι} (hd : Disciplined s) {i : ι} {hosts hosts' : List DiscoveredHost}
    (h : (i, SyncEvent.fetched hosts) ∈ s.shared.log) (h' : (i, SyncEvent.fetched hosts') ∈ s.shared.log) :
    hosts = hosts' :=
  (hd.history i).fetched_unique (mem_ownEvents_iff.mpr h) (mem_ownEvents_iff.mpr h')

/-- No sync is in progress. -/
def Finished (s : SyncSys ι) : Prop := ∀ i p, s.threads i = some p → ¬ p.Running

theorem Disciplined.ended {s : SyncSys ι} (hd : Disciplined s) {i : ι} {x : Except PyExc NetBoxSyncResult}
    (hi : s.threads i = some (Prog.atEnd (some x))) : Ended i x s.shared := by
  have h := hd.threads i _ hi
  cases x with
  | ok r => exact h
  | error e => exact h

/-- Once nothing is in progress, what was fetched is installed. -/
theorem Disciplined.installed_of_finished {s : SyncSys ι} (hd : Disciplined s) (hfin : Finished s) {i : ι}
    (hf : HasFetched i s.shared) : HasInstalled i s.shared := by
  obtain ⟨hosts, hmem⟩ := hf
  have hown := mem_ownEvents_iff.mpr hmem
  cases hi : s.threads i with
  | none =>
    rw [hd.absent i hi] at hown
    cases hown
  | some p =>
    have hended : ∃ x, Ended i x s.shared := by
      cases p with
      | ret r => exact ⟨.ok r, hd.ended hi⟩
      | raise e => exact ⟨.error e, hd.ended hi⟩
      | hang => exact absurd trivial (hfin i _ hi)
      | call o k => exact absurd trivial (hfin i _ hi)
    obtain ⟨x, hx⟩ := hended
    obtain ⟨hosts', hmem'⟩ := hx.1 ⟨hosts, hown⟩
    exact ⟨hosts', mem_ownEvents_iff.mp hmem'⟩

/-- Runs whose events all meet a condition on the world before them. -/
abbrev EventsMeet (C : SyncWorld ι → ι → SyncEvent → Prop) (s s' : SyncSys ι) : Prop :=
  ∀ i e, s'.shared = s.shared.record i e → C s.shared i e

/-- **A sync alone.** While only sync `i` makes calls, a run stays within a condition that `i` cannot break on
its own: what `J` says of the world lets each of its events pass, and survives it. -/
theorem ReachableBy.alone {C : SyncWorld ι → ι → SyncEvent → Prop} {J : SyncWorld ι → Prop}
    {inventory : List Dict} {i : ι} {s s' : SyncSys ι}
    (hstep : ∀ w e, SyncHistory (ownEvents i w.log ++ [e]) → J w → C w i e ∧ J (w.record i e))
    (h : ReachableBy (EventsMeet C) inventory s) (hJ : J s.shared)
    (hrun : Relation.ReflTransGen (Pool.Step syncExec i) s s') :
    ReachableBy (EventsMeet C) inventory s' ∧ J s'.shared := by
  induction hrun with
  | refl => exact ⟨h, hJ⟩
  | @tail a b _ hcall ih =>
    obtain ⟨hreach, hJa⟩ := ih
    rcases (hreach.disciplined.call hcall).1 with heq | ⟨e, heq, hh⟩
    · refine ⟨hreach.tail ⟨.call i hcall, ?_⟩, ?_⟩
      · intro j e' heq'
        rw [heq] at heq'
        have hlen := congrArg (fun w => w.log.length) heq'
        simp at hlen
      · rw [heq]
        exact hJa
    · have hhist : SyncHistory (ownEvents i a.shared.log ++ [e]) := by
        rwa [heq, SyncWorld.log_record, ownEvents_concat_self] at hh
      obtain ⟨hC, hJ'⟩ := hstep a.shared e hhist hJa
      refine ⟨hreach.tail ⟨.call i hcall, ?_⟩, ?_⟩
      · intro j e' heq'
        have hlog := congrArg SyncWorld.log (heq.symm.trans heq')
        obtain ⟨rfl, rfl⟩ := Prod.mk.inj (List.singleton_inj.mp (List.append_cancel_left hlog))
        exact hC
      · rw [heq]
        exact hJ'

/-- A sync that starts meets any condition on events. -/
theorem ReachableBy.start {C : SyncWorld ι → ι → SyncEvent → Prop} {inventory : List Dict} {s s' : SyncSys ι}
    (h : ReachableBy (EventsMeet C) inventory s) (hstep : Step s s') (hsame : s'.shared = s.shared) :
    ReachableBy (EventsMeet C) inventory s' := by
  refine h.tail ⟨hstep, ?_⟩
  intro j e heq
  rw [hsame] at heq
  have hlen := congrArg (fun w => w.log.length) heq
  simp at hlen

/-! ## Scripted runs -/

/-- The devices that NetBox lists, the last possibly an exception, and the dashboard's answers; it accepts
exactly by a 2xx. -/
structure SyncScript where
  devices : List (Except PyExc Device)
  reply : Nat → HttpResponse

/-- One outcome of every call of sync `i`. -/
def handleSync (script : SyncScript) (i : ι) : (o : SyncOp) → SyncWorld ι → Except PyExc o.Ret × SyncWorld ι
  | .utcNowIso, w => (.ok "2026-05-02T14:30:00Z", w)
  | .fetchBegins, w => (.ok (), w.record i .began)
  | .parseQs _, w => (.ok [], w)
  | .devicesFilter _, w => (.ok (), w)
  | .nextDevice, w =>
    match script.devices[((ownEvents i w.log).filterMap SyncEvent.device?).length]? with
    | none => (.ok none, w)
    | some (.error e) => (.error e, w)
    | some (.ok d) => (.ok (some d), w.record i (.yielded d))
  | .fetchReturns hosts, w => (.ok (), w.record i (.fetched hosts))
  | .replaceHosts hosts, w => (.ok (), w.record i (.installed hosts))
  | .submit body, w =>
    let resp := script.reply ((ownEvents i w.log).countP fun e => e.rank = 4)
    (.ok resp, w.record i (.submitted body (decide (200 ≤ resp.status ∧ resp.status < 300))))
  | .recordNetboxSync completed_at, w => (.ok (), w.record i (.recorded completed_at))
  | .isSet, w => (.ok false, w)
  | .waitFor _, w => (.ok false, w)
  | .sleep _, w => (.ok (), w)

theorem handleSync_exec (script : SyncScript) (i : ι) (o : SyncOp) (w : SyncWorld ι) :
    syncExec i o w (handleSync script i o w).1 (handleSync script i o w).2 := by
  cases o with
  | utcNowIso => exact ⟨⟨_, rfl⟩, rfl⟩
  | nextDevice =>
    simp only [handleSync, syncExec]
    generalize script.devices[((ownEvents i w.log).filterMap SyncEvent.device?).length]? = next
    match next with
    | none =>
      have hend : ∀ d : Device, (Except.ok none : Except PyExc (Option Device)) ≠ .ok (some d) :=
        fun _ h => Option.some_ne_none _ (Except.ok.inj h).symm
      exact Or.inl ⟨hend, rfl⟩
    | some (.error e) =>
      have hraise : ∀ d : Device, (Except.error e : Except PyExc (Option Device)) ≠ .ok (some d) := by
        intro d h
        cases h
      exact Or.inl ⟨hraise, rfl⟩
    | some (.ok d) => exact Or.inr ⟨d, rfl, rfl⟩
  | submit body => exact ⟨_, rfl, Or.inr ⟨_, rfl, fun h => decide_eq_true h⟩⟩
  | isSet => exact ⟨⟨false, rfl⟩, rfl⟩
  | waitFor d => exact ⟨⟨false, rfl⟩, rfl⟩
  | parseQs _ | devicesFilter _ => exact rfl
  | fetchBegins | fetchReturns _ | replaceHosts _ | recordNetboxSync _ | sleep _ => exact ⟨rfl, rfl⟩

/-- Sync `i` makes its next calls, as many as given, with the script's outcomes. -/
def scripted (s : SyncSys ι) (script : SyncScript) (i : ι) (calls : Nat) : SyncSys ι :=
  match s.threads i with
  | none => s
  | some p =>
    let c := Prog.advance (handleSync script i) calls (p, s.shared)
    ⟨Function.update s.threads i (some c.1), c.2⟩

/-- A sync of the given client starts, with fuel for two attempts. -/
def started (s : SyncSys ι) (i : ι) : SyncSys ι :=
  s.spawn i (runNetboxSync someClient false ⟨"https://netbox", ""⟩ none 4)

theorem scripted_steps (s : SyncSys ι) (script : SyncScript) (i : ι) (calls : Nat) :
    Relation.ReflTransGen (Pool.Step syncExec i) s (s.scripted script i calls) := by
  unfold scripted
  cases hi : s.threads i with
  | none => exact .refl
  | some p => exact Pool.steps_of_thread hi (Prog.advance_steps (handleSync_exec script i) calls _)

theorem Reachable.started {inventory : List Dict} {s : SyncSys ι} (h : Reachable inventory s) {i : ι}
    (hi : s.threads i = none) : Reachable inventory (s.started i) :=
  h.tail ⟨.start i _ _ _ _ _ hi, trivial⟩

theorem Reachable.scripted {inventory : List Dict} {s : SyncSys ι} (h : Reachable inventory s)
    (script : SyncScript) (i : ι) (calls : Nat) : Reachable inventory (s.scripted script i calls) :=
  Relation.ReflTransGen.trans h (Relation.ReflTransGen.mono (fun _ _ hcall => ⟨.call i hcall, trivial⟩) _ _
    (scripted_steps s script i calls))

/-- Sync `i` starts and makes this many calls before any other sync makes one. -/
def runAlone (s : SyncSys ι) (script : SyncScript) (i : ι) (calls : Nat) : SyncSys ι :=
  (s.started i).scripted script i calls

theorem Reachable.runAlone {inventory : List Dict} {s : SyncSys ι} (h : Reachable inventory s) {i : ι}
    (hi : s.threads i = none) (script : SyncScript) (calls : Nat) :
    Reachable inventory (s.runAlone script i calls) :=
  (h.started hi).scripted script i calls

theorem runAlone_threads_ne {s : SyncSys ι} {script : SyncScript} {i j : ι} {calls : Nat} (hj : j ≠ i) :
    (s.runAlone script i calls).threads j = s.threads j := by
  simp only [runAlone, SyncSys.scripted, SyncSys.started, Pool.spawn, Function.update_self,
    Function.update_of_ne hj]

/-- A sync that started and ended with no other one in progress leaves none in progress. -/
theorem Finished.runAlone {s : SyncSys ι} (hfin : Finished s) {script : SyncScript} {i : ι} {calls : Nat}
    {x : Except PyExc NetBoxSyncResult} (hi : (s.runAlone script i calls).threads i = some (Prog.atEnd (some x))) :
    Finished (s.runAlone script i calls) := by
  intro j p hj
  by_cases hji : j = i
  · subst hji
    rw [hi] at hj
    obtain rfl := Option.some.inj hj
    cases x with
    | ok r => exact not_false
    | error e => exact not_false
  · rw [runAlone_threads_ne hji] at hj
    exact hfin j p hj

omit [DecidableEq ι] in
theorem finished_init (inventory : List Dict) : Finished (init inventory : SyncSys ι) := by
  intro i p hi
  cases hi

/-- A device with an id and a name, and nothing else. -/
def namedDevice (id : Int) (name : String) : Device := { id := .ok (.int id), name := .ok (.str name) }

/-- A listing, and a dashboard that answers this many submissions with 503 and the rest with 200. -/
def listing (devices : List (Except PyExc Device)) (failures : Nat) : SyncScript where
  devices
  reply n := if n < failures then ⟨503, .notJson⟩ else ⟨200, .json (.obj [("summary", .obj [])])⟩

/-! ## The holders follow the log -/

theorem ReachableBy.followsLog {cond : SyncSys ι → SyncSys ι → Prop} {inventory : List Dict} {s : SyncSys ι}
    (h : ReachableBy cond inventory s) : FollowsLog inventory s.shared :=
  h.invariant ⟨rfl, rfl⟩ fun _ _ i e _ _ _ _ hf => hf.record i e

end SyncSys

end CertWatch
