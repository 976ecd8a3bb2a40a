/-
# `CertWatch.SyncHistory` — what syncs do to the agent and the dashboard, event by event.

Every call of a sync that matters is recorded in one log under the name of its sync; the agent's two holders
and the dashboard's inventory follow from it.  `syncExec` says what a call may do, and `SyncHistory` lists
what the events of one sync can be: a fetch, its list installed whole, submissions of that list's image, and
the record of a sync that was accepted.
-/
import CertWatch.NetBoxSync
import CertWatch.Lib.EventLog

namespace CertWatch

open CertWatch.Lib

/-! ## Worlds and events -/

/-- What a sync does that others can notice, and the two ends of its fetch. -/
inductive SyncEvent where
  | began
  | yielded (d : Device)
  | fetched (hosts : List DiscoveredHost)
  | installed (hosts : List DiscoveredHost)
  /-- A submission, and whether the dashboard replaced its inventory by it. -/
  | submitted (body : DiscoveredHostsBody) (accepted : Bool)
  | recorded (completed_at : String)

/-- `NetBoxHostsState`, `StatsState`, the dashboard's inventory of this agent, and the log. -/
structure SyncWorld (ι : Type) where
  hosts : List DiscoveredHost
  stats : StatsState
  inventory : List Dict
  log : List (ι × SyncEvent)

namespace SyncWorld

variable {ι : Type}

/-- The agent's holders as a process starts, over whatever the dashboard has. -/
def fresh (inventory : List Dict) : SyncWorld ι := ⟨[], {}, inventory, []⟩

/-- What an event does to the holders and to the dashboard. -/
def effect (w : SyncWorld ι) : SyncEvent → SyncWorld ι
  | .installed hosts => { w with hosts }
  | .submitted body true => { w with inventory := body.hosts }
  | .recorded completed_at => { w with stats := w.stats.recordNetboxSync completed_at }
  | _ => w

/-- An event of sync `i`. -/
def record (w : SyncWorld ι) (i : ι) (e : SyncEvent) : SyncWorld ι :=
  { w.effect e with log := w.log ++ [(i, e)] }

@[simp] theorem log_record (w : SyncWorld ι) (i : ι) (e : SyncEvent) :
    (w.record i e).log = w.log ++ [(i, e)] := rfl

end SyncWorld

/-- The outcomes of a call of sync `i`: NetBox may fail at any point and with any exception; the dashboard
may answer anything, but a 2xx means that it accepted; a request or its response may be lost. -/
def syncExec {ι : Type} (i : ι) : (o : SyncOp) → SyncWorld ι → Except PyExc o.Ret → SyncWorld ι → Prop
  | .utcNowIso, w, r, w' => (∃ t, r = .ok t) ∧ w' = w
  | .fetchBegins, w, r, w' => r = .ok () ∧ w' = w.record i .began
  | .parseQs _, w, _, w' => w' = w
  | .devicesFilter _, w, _, w' => w' = w
  | .nextDevice, w, r, w' =>
      (∀ d, r ≠ .ok (some d)) ∧ w' = w ∨ ∃ d, r = .ok (some d) ∧ w' = w.record i (.yielded d)
  | .fetchReturns hosts, w, r, w' => r = .ok () ∧ w' = w.record i (.fetched hosts)
  | .replaceHosts hosts, w, r, w' => r = .ok () ∧ w' = w.record i (.installed hosts)
  | .submit body, w, r, w' =>
      ∃ accepted, w' = w.record i (.submitted body accepted) ∧
        (r = .error .requests ∨
          ∃ resp : HttpResponse, r = .ok resp ∧ (200 ≤ resp.status ∧ resp.status < 300 → accepted = true))
  | .recordNetboxSync completed_at, w, r, w' => r = .ok () ∧ w' = w.record i (.recorded completed_at)
  | .isSet, w, r, w' => (∃ b, r = .ok b) ∧ w' = w
  | .waitFor _, w, r, w' => (∃ b, r = .ok b) ∧ w' = w
  | .sleep _, w, r, w' => r = .ok () ∧ w' = w

/-- `fetch_hosts` returned normally to sync `i`. -/
def HasFetched {ι : Type} (i : ι) (w : SyncWorld ι) : Prop := ∃ hosts, (i, SyncEvent.fetched hosts) ∈ w.log

/-- Sync `i` has updated `NetBoxHostsState`. -/
def HasInstalled {ι : Type} (i : ι) (w : SyncWorld ι) : Prop := ∃ hosts, (i, SyncEvent.installed hosts) ∈ w.log

/-! ## The holders follow the log -/

section

variable {ι : Type}

/-- An installation, with the sync that made it. -/
def installOf : ι × SyncEvent → Option (ι × List DiscoveredHost)
  | (i, .installed hosts) => some (i, hosts)
  | _ => none

/-- An accepted submission, with the sync that made it. -/
def acceptOf : ι × SyncEvent → Option (ι × List Dict)
  | (i, .submitted body true) => some (i, body.hosts)
  | _ => none

theorem installOf_eq_some {p : ι × SyncEvent} {i : ι} {hosts : List DiscoveredHost}
    (h : installOf p = some (i, hosts)) : p = (i, .installed hosts) := by
  obtain ⟨j, e⟩ := p
  cases e with
  | installed hosts' =>
    obtain ⟨rfl, rfl⟩ := Prod.mk.inj (Option.some.inj h)
    rfl
  | _ => cases h

theorem acceptOf_eq_some {p : ι × SyncEvent} {i : ι} {payload : List Dict}
    (h : acceptOf p = some (i, payload)) : ∃ body, p = (i, .submitted body true) ∧ body.hosts = payload := by
  obtain ⟨j, e⟩ := p
  cases e with
  | submitted body accepted =>
    cases accepted with
    | true =>
      obtain ⟨rfl, rfl⟩ := Prod.mk.inj (Option.some.inj h)
      exact ⟨body, rfl, rfl⟩
    | false => cases h
  | _ => cases h

/-- The snapshot is the last installed list, and the inventory the last accepted one. -/
structure FollowsLog (inventory : List Dict) (w : SyncWorld ι) : Prop where
  hosts : w.hosts = ((lastOf installOf w.log).map Prod.snd).getD []
  inventory : w.inventory = ((lastOf acceptOf w.log).map Prod.snd).getD inventory

theorem hosts_record (w : SyncWorld ι) (i : ι) (e : SyncEvent) :
    (w.record i e).hosts = ((installOf (i, e)).map Prod.snd).getD w.hosts := by
  cases e with
  | submitted body accepted => cases accepted <;> rfl
  | _ => rfl

theorem inventory_record (w : SyncWorld ι) (i : ι) (e : SyncEvent) :
    (w.record i e).inventory = ((acceptOf (i, e)).map Prod.snd).getD w.inventory := by
  cases e with
  | submitted body accepted => cases accepted <;> rfl
  | _ => rfl

theorem FollowsLog.record {inventory : List Dict} {w : SyncWorld ι} (h : FollowsLog inventory w) (i : ι)
    (e : SyncEvent) : FollowsLog inventory (w.record i e) where
  hosts := by
    rw [hosts_record, h.hosts, SyncWorld.log_record, lastOf_concat]
    cases installOf (i, e) <;> rfl
  inventory := by
    rw [inventory_record, h.inventory, SyncWorld.log_record, lastOf_concat]
    cases acceptOf (i, e) <;> rfl

end

/-! ## What one sync's history can be -/

/-- The history of a sync that is fetching. -/
def fetchHistory (ds : List Device) : List SyncEvent := .began :: ds.map .yielded

/-- The history of a sync that has fetched these devices as these hosts and installed them. -/
def installHistory (ds : List Device) (hosts : List DiscoveredHost) : List SyncEvent :=
  fetchHistory ds ++ [.fetched hosts, .installed hosts]

/-- A submission of the image of these hosts. -/
def SubmitsImage (hosts : List DiscoveredHost) (e : SyncEvent) : Prop :=
  ∃ body accepted, e = .submitted body accepted ∧ body.hosts = hosts.map hostToPayload

/-- The dashboard accepted one of these submissions. -/
def AcceptedIn (h : List SyncEvent) : Prop := ∃ body, SyncEvent.submitted body true ∈ h

/-- The histories of a sync: it fetches, then installs the whole list it fetched, then submits its image any
number of times, then records the sync once a submission was accepted. -/
inductive SyncHistory : List SyncEvent → Prop where
  | idle : SyncHistory []
  | fetching (ds : List Device) : SyncHistory (fetchHistory ds)
  | fetched {ds : List Device} {hosts : List DiscoveredHost} : convertDevices ds = .ok hosts →
      SyncHistory (fetchHistory ds ++ [.fetched hosts])
  | installed {ds : List Device} {hosts : List DiscoveredHost} {tail : List SyncEvent} :
      convertDevices ds = .ok hosts → (∀ e ∈ tail, SubmitsImage hosts e) →
      SyncHistory (installHistory ds hosts ++ tail)
  | recorded {ds : List Device} {hosts : List DiscoveredHost} {tail : List SyncEvent} {completed_at : String} :
      convertDevices ds = .ok hosts → (∀ e ∈ tail, SubmitsImage hosts e) → AcceptedIn tail →
      SyncHistory (installHistory ds hosts ++ tail ++ [.recorded completed_at])

namespace SyncEvent

/-- The order of the kinds of event in a history. -/
def rank : SyncEvent → Nat
  | .began => 0
  | .yielded _ => 1
  | .fetched _ => 2
  | .installed _ => 3
  | .submitted _ _ => 4
  | .recorded _ => 5

/-- In one history the second event may come after the first one: only devices and submissions repeat. -/
def Follows (a b : SyncEvent) : Prop := a.rank < b.rank ∨ (a.rank = b.rank ∧ (a.rank = 1 ∨ a.rank = 4))

def device? : SyncEvent → Option Device
  | .yielded d => some d
  | _ => none

end SyncEvent

namespace SyncHistory

variable {h : List SyncEvent} {ds : List Device} {hosts : List DiscoveredHost} {tail : List SyncEvent}

theorem rank_of_submitsImage {e : SyncEvent} (he : SubmitsImage hosts e) : e.rank = 4 := by
  obtain ⟨body, accepted, rfl, -⟩ := he
  rfl

theorem rank_of_mem_fetchHistory {e : SyncEvent} (he : e ∈ fetchHistory ds) : e.rank ≤ 1 := by
  rcases List.mem_cons.mp he with rfl | he
  · exact Nat.zero_le 1
  · obtain ⟨d, -, rfl⟩ := List.mem_map.mp he
    exact Nat.le_refl 1

theorem ordered_fetchHistory (ds : List Device) : (fetchHistory ds).Pairwise SyncEvent.Follows := by
  refine List.pairwise_cons.mpr ⟨fun e he => ?_, ?_⟩
  · obtain ⟨d, -, rfl⟩ := List.mem_map.mp he
    exact Or.inl Nat.zero_lt_one
  · rw [List.pairwise_map]
    exact List.Pairwise.imp (fun _ => Or.inr ⟨rfl, Or.inl rfl⟩) (List.pairwise_of_forall fun _ _ => trivial)

theorem ordered_concat {e : SyncEvent} (hh : h.Pairwise SyncEvent.Follows) (he : ∀ a ∈ h, a.Follows e) :
    (h ++ [e]).Pairwise SyncEvent.Follows := by
  refine List.pairwise_append.mpr ⟨hh, List.pairwise_singleton _ _, fun a ha b hb => ?_⟩
  rw [List.mem_singleton.mp hb]
  exact he a ha

/-- The events up to the installation come in the order of their kinds. -/
theorem ordered_installHistory (ds : List Device) (hosts : List DiscoveredHost) :
    (installHistory ds hosts).Pairwise SyncEvent.Follows ∧ ∀ e ∈ installHistory ds hosts, e.rank ≤ 3 := by
  have hfetched : (fetchHistory ds ++ [SyncEvent.fetched hosts]).Pairwise SyncEvent.Follows :=
    ordered_concat (ordered_fetchHistory ds) fun a ha =>
      Or.inl (Nat.lt_succ_of_le (rank_of_mem_fetchHistory ha))
  have hrank : ∀ e ∈ fetchHistory ds ++ [SyncEvent.fetched hosts], e.rank ≤ 2 := by
    intro e he
    rcases List.mem_append.mp he with he | he
    · exact Nat.le_succ_of_le (rank_of_mem_fetchHistory he)
    · rw [List.mem_singleton.mp he]
      exact Nat.le_refl 2
  have hsplit : installHistory ds hosts =
      fetchHistory ds ++ [SyncEvent.fetched hosts] ++ [SyncEvent.installed hosts] := by
    simp [installHistory]
  rw [hsplit]
  refine ⟨ordered_concat hfetched fun a ha => Or.inl (Nat.lt_succ_of_le (hrank a ha)), fun e he => ?_⟩
  rcases List.mem_append.mp he with he | he
  · exact Nat.le_succ_of_le (hrank e he)
  · rw [List.mem_singleton.mp he]
    exact Nat.le_refl 3

theorem ordered_installed (htail : ∀ e ∈ tail, SubmitsImage hosts e) :
    (installHistory ds hosts ++ tail).Pairwise SyncEvent.Follows ∧
      ∀ e ∈ installHistory ds hosts ++ tail, e.rank ≤ 4 := by
  obtain ⟨hord, hrank⟩ := ordered_installHistory ds hosts
  refine ⟨List.pairwise_append.mpr ⟨hord, ?_, fun a ha b hb => ?_⟩, fun e he => ?_⟩
  · refine List.Pairwise.imp_of_mem (fun {a b} ha hb _ => ?_) (List.pairwise_of_forall fun _ _ => trivial)
    have hra := rank_of_submitsImage (htail a ha)
    have hrb := rank_of_submitsImage (htail b hb)
    exact Or.inr ⟨hra.trans hrb.symm, Or.inr hra⟩
  · refine Or.inl ?_
    rw [rank_of_submitsImage (htail b hb)]
    exact Nat.lt_succ_of_le (hrank a ha)
  · rcases List.mem_append.mp he with he | he
    · exact Nat.le_succ_of_le (hrank e he)
    · exact Nat.le_of_eq (rank_of_submitsImage (htail e he))

/-- **The order of a history**: fetch, return, installation, submissions, record. -/
theorem ordered (hh : SyncHistory h) : h.Pairwise SyncEvent.Follows := by
  cases hh with
  | idle => exact List.Pairwise.nil
  | fetching ds => exact ordered_fetchHistory ds
  | fetched =>
    exact ordered_concat (ordered_fetchHistory _) fun a ha =>
      Or.inl (Nat.lt_succ_of_le (rank_of_mem_fetchHistory ha))
  | installed _ htail => exact (ordered_installed htail).1
  | recorded _ htail _ =>
    exact ordered_concat (ordered_installed htail).1 fun a ha =>
      Or.inl (Nat.lt_succ_of_le ((ordered_installed htail).2 a ha))

/-- An event that comes now may follow each one that came before. -/
theorem follows_of_concat {e a : SyncEvent} (hh : SyncHistory (h ++ [e])) (ha : a ∈ h) : a.Follows e :=
  (List.pairwise_append.mp hh.ordered).2.2 a ha e List.mem_cons_self

/-- A fetch begins a history. -/
theorem began_first {a : SyncEvent} (hh : SyncHistory (h ++ [.began])) : a ∉ h := by
  intro ha
  have hf : a.rank < 0 ∨ (a.rank = 0 ∧ (a.rank = 1 ∨ a.rank = 4)) := hh.follows_of_concat ha
  omega

/-- A sync installs once. -/
theorem installed_once {hosts' : List DiscoveredHost} (hh : SyncHistory (h ++ [.installed hosts])) :
    SyncEvent.installed hosts' ∉ h := by
  intro ha
  have hf : 3 < 3 ∨ (3 = 3 ∧ (3 = 1 ∨ 3 = 4)) := hh.follows_of_concat ha
  omega

theorem notMem_tail {e : SyncEvent} (he : e.rank < 4) (htail : ∀ e ∈ tail, SubmitsImage hosts e) : e ∉ tail :=
  fun hmem => Nat.ne_of_lt he (rank_of_submitsImage (htail e hmem))

theorem devices_fetchHistory (ds : List Device) : (fetchHistory ds).filterMap SyncEvent.device? = ds := by
  show (SyncEvent.began :: ds.map SyncEvent.yielded).filterMap SyncEvent.device? = ds
  rw [List.filterMap_cons_none rfl, List.filterMap_map]
  exact List.filterMap_some

/-- Whatever else a history holds, its devices are those of the fetch. -/
theorem devices_append {rest : List SyncEvent} (hrest : ∀ e ∈ rest, 2 ≤ e.rank) :
    (fetchHistory ds ++ rest).filterMap SyncEvent.device? = ds := by
  have hnone : rest.filterMap SyncEvent.device? = [] := by
    refine List.filterMap_eq_nil_iff.mpr fun e he => ?_
    have := hrest e he
    cases e with
    | yielded d => exact absurd this (Nat.not_succ_le_self 1)
    | _ => rfl
  rw [List.filterMap_append, devices_fetchHistory, hnone, List.append_nil]

/-- What a sync fetched is the conversion of all the devices that were yielded to it. -/
theorem convert_of_fetched (hh : SyncHistory h) (hf : SyncEvent.fetched hosts ∈ h) :
    convertDevices (h.filterMap SyncEvent.device?) = .ok hosts := by
  have hno : ∀ ds : List Device, SyncEvent.fetched hosts ∉ fetchHistory ds := fun ds hmem =>
    Nat.not_succ_le_self 1 (rank_of_mem_fetchHistory hmem)
  have htwo : SyncEvent.rank (.fetched hosts) < 4 := by
    show (2 : Nat) < 4
    decide
  cases hh with
  | idle => cases hf
  | fetching ds => exact absurd hf (hno ds)
  | @fetched ds hosts' hconv =>
    -- the devices of a history are those of its fetch: whatever came after has a rank beyond theirs
    obtain rfl : hosts = hosts' := by simpa [hno ds] using hf
    rw [devices_append, hconv]
    intro e he
    rw [List.mem_singleton.mp he]
    exact Nat.le_refl 2
  | @installed ds hosts' tail hconv htail =>
    obtain rfl : hosts = hosts' := by simpa [installHistory, hno ds, notMem_tail htwo htail] using hf
    rw [installHistory, List.append_assoc, devices_append, hconv]
    intro e he
    rcases List.mem_append.mp he with he | he
    · rcases List.mem_pair.mp he with rfl | rfl
      · exact Nat.le_refl 2
      · exact Nat.le_succ 2
    · rw [rank_of_submitsImage (htail e he)]
      decide
  | @recorded ds hosts' tail t hconv htail _ =>
    obtain rfl : hosts = hosts' := by simpa [installHistory, hno ds, notMem_tail htwo htail] using hf
    rw [installHistory, List.append_assoc, List.append_assoc, devices_append, hconv]
    intro e he
    rcases List.mem_append.mp he with he | he
    · rcases List.mem_pair.mp he with rfl | rfl
      · exact Nat.le_refl 2
      · exact Nat.le_succ 2
    · rcases List.mem_append.mp he with he | he
      · rw [rank_of_submitsImage (htail e he)]
        decide
      · rw [List.mem_singleton.mp he]
        show (2 : Nat) ≤ 5
        decide

/-- A sync fetches one list. -/
theorem fetched_unique (hh : SyncHistory h) {hosts' : List DiscoveredHost} (hf : SyncEvent.fetched hosts ∈ h)
    (hf' : SyncEvent.fetched hosts' ∈ h) : hosts = hosts' :=
  Except.ok.inj ((hh.convert_of_fetched hf).symm.trans (hh.convert_of_fetched hf'))

/-- **After the fetch.** What a sync installs, submits or records comes after a fetch that returned, and a
submission carries the image of the list that was fetched and installed. -/
theorem after_fetch (hh : SyncHistory h) {e : SyncEvent} (he : e ∈ h) (hrank : 3 ≤ e.rank) :
    ∃ hosts, SyncEvent.fetched hosts ∈ h ∧ SyncEvent.installed hosts ∈ h ∧
      (∀ hosts', e = .installed hosts' → hosts' = hosts) ∧
      ∀ body accepted, e = .submitted body accepted → body.hosts = hosts.map hostToPayload := by
  -- the events of the fetch itself are of a lower rank
  have hno : ∀ ds : List Device, e ∉ fetchHistory ds := fun ds hmem =>
    absurd (rank_of_mem_fetchHistory hmem) (by omega)
  have hcase : ∀ {hosts : List DiscoveredHost} {e : SyncEvent},
      e = .installed hosts ∨ SubmitsImage hosts e ∨ (∃ t, e = .recorded t) →
      (∀ hosts', e = .installed hosts' → hosts' = hosts) ∧
        ∀ body accepted, e = .submitted body accepted → body.hosts = hosts.map hostToPayload := by
    rintro hosts e (rfl | ⟨body, accepted, rfl, himage⟩ | ⟨t, rfl⟩)
    · exact ⟨fun hosts' h => (SyncEvent.installed.inj h).symm, nofun⟩
    · refine ⟨nofun, fun body' accepted' h => ?_⟩
      obtain ⟨rfl, -⟩ := SyncEvent.submitted.inj h
      exact himage
    · exact ⟨nofun, nofun⟩
  cases hh with
  | idle => cases he
  | fetching ds => exact absurd he (hno ds)
  | @fetched ds hosts hconv =>
    rcases List.mem_append.mp he with he | he
    · exact absurd he (hno ds)
    · rw [List.mem_singleton.mp he] at hrank
      exact absurd hrank (Nat.not_succ_le_self 2)
  | @installed ds hosts tail hconv htail =>
    refine ⟨hosts, by simp [installHistory], by simp [installHistory], hcase ?_⟩
    rcases List.mem_append.mp he with he | he
    · rcases List.mem_append.mp he with he | he
      · exact absurd he (hno ds)
      · rcases List.mem_pair.mp he with rfl | rfl
        · exact absurd hrank (Nat.not_succ_le_self 2)
        · exact Or.inl rfl
    · exact Or.inr (Or.inl (htail e he))
  | @recorded ds hosts tail t hconv htail _ =>
    refine ⟨hosts, by simp [installHistory], by simp [installHistory], hcase ?_⟩
    rcases List.mem_append.mp he with he | he
    · rcases List.mem_append.mp he with he | he
      · rcases List.mem_append.mp he with he | he
        · exact absurd he (hno ds)
        · rcases List.mem_pair.mp he with rfl | rfl
          · exact absurd hrank (Nat.not_succ_le_self 2)
          · exact Or.inl rfl
      · exact Or.inr (Or.inl (htail e he))
    · exact Or.inr (Or.inr ⟨t, List.mem_singleton.mp he⟩)

end SyncHistory

end CertWatch
