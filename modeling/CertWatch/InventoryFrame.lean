/-
# `CertWatch.InventoryFrame` — a failed NetBox query touches nothing.

Whatever goes wrong in a fetch (the filter, the request, any page of the lazy listing, the conversion of any
device), the sync that made it stops there: nothing is submitted, the holders stay as they are, and no part of
a listing is ever installed.  What does get submitted is the image of a whole listing.
-/
import CertWatch.SyncSystem

namespace CertWatch

open CertWatch.Lib

variable {ι : Type} [DecidableEq ι]

/-- The devices that NetBox listed to sync `i`, in order. -/
def devicesOf (i : ι) (w : SyncWorld ι) : List Device := (ownEvents i w.log).filterMap SyncEvent.device?

/-- The agent's holders and the dashboard's inventory are the same in both worlds. -/
structure SameHolders (w w' : SyncWorld ι) : Prop where
  hosts : w'.hosts = w.hosts
  stats : w'.stats = w.stats
  inventory : w'.inventory = w.inventory

/-- What NetBox failures cannot break. -/
structure InventoryFrame (s : SyncSys ι) : Prop where
  /-- Only a sync whose fetch returned submits anything. -/
  submits : ∀ i body accepted, (i, SyncEvent.submitted body accepted) ∈ s.shared.log → HasFetched i s.shared
  /-- A call of a sync whose fetch has not returned leaves both holders and the inventory as they were. -/
  untouched : ∀ i s', Pool.Step syncExec i s s' → ¬ HasFetched i s'.shared → SameHolders s.shared s'.shared
  /-- What `snapshot` yields is the initial empty list or a whole list that some fetch returned. -/
  visible : (s.shared.hosts = [] ∧ ∀ i hosts, (i, SyncEvent.installed hosts) ∉ s.shared.log) ∨
    ∃ i, (i, SyncEvent.fetched s.shared.hosts) ∈ s.shared.log
  /-- A submission, a retried one too, carries the image of the list that its own fetch returned. -/
  image : ∀ i body accepted hosts, (i, SyncEvent.submitted body accepted) ∈ s.shared.log →
    (i, SyncEvent.fetched hosts) ∈ s.shared.log → body.hosts = hosts.map hostToPayload
  /-- A fetch returns the conversion of everything it was listed: one host per device with an id and a name. -/
  complete : ∀ i hosts, (i, SyncEvent.fetched hosts) ∈ s.shared.log →
    convertDevices (devicesOf i s.shared) = .ok hosts ∧
      hosts.map (fun h => (h.netbox_device_id, h.hostname)) = (devicesOf i s.shared).filterMap Device.identity?

namespace SyncSys

omit [DecidableEq ι] in
/-- Only the events after a fetch have an effect. -/
theorem sameHolders_of_rank {w : SyncWorld ι} {i : ι} {e : SyncEvent} (h : e.rank ≤ 2) :
    SameHolders w (w.record i e) := by
  cases e with
  | began => exact ⟨rfl, rfl, rfl⟩
  | yielded d => exact ⟨rfl, rfl, rfl⟩
  | fetched hosts => exact ⟨rfl, rfl, rfl⟩
  | installed hosts =>
    have : 3 ≤ 2 := h
    omega
  | submitted body accepted =>
    have : 4 ≤ 2 := h
    omega
  | recorded completed_at =>
    have : 5 ≤ 2 := h
    omega

/-- A call of a sync either follows its fetch or leaves the holders alone. -/
theorem Disciplined.untouched {s s' : SyncSys ι} {i : ι} (hd : Disciplined s) (h : Pool.Step syncExec i s s')
    (hnot : ¬ HasFetched i s'.shared) : SameHolders s.shared s'.shared := by
  have hd' : Disciplined s' := (hd.step (.call i h)).1
  rcases (hd.call h).1 with heq | ⟨e, heq, -⟩
  · rw [heq]
    exact ⟨rfl, rfl, rfl⟩
  · have hmem : (i, e) ∈ s'.shared.log := by
      rw [heq, SyncWorld.log_record]
      exact List.mem_append_right _ List.mem_cons_self
    rw [heq]
    apply sameHolders_of_rank
    by_contra hrank
    obtain ⟨hosts, hf, -⟩ := hd'.after_fetch hmem (by omega)
    exact hnot ⟨hosts, hf⟩

/-- The snapshot is a whole fetched list, once there is one. -/
theorem Disciplined.visible {inventory : List Dict} {s : SyncSys ι} (hd : Disciplined s)
    (hf : FollowsLog inventory s.shared) :
    (s.shared.hosts = [] ∧ ∀ i hosts, (i, SyncEvent.installed hosts) ∉ s.shared.log) ∨
      ∃ i, (i, SyncEvent.fetched s.shared.hosts) ∈ s.shared.log := by
  cases hlast : lastOf installOf s.shared.log with
  | none =>
    refine Or.inl ⟨?_, ?_⟩
    · rw [hf.hosts, hlast]
      rfl
    · intro i hosts hmem
      have hsome := lastOf_isSome (f := installOf) hmem rfl
      rw [hlast] at hsome
      cases hsome
  | some last =>
    obtain ⟨i, hosts⟩ := last
    obtain ⟨a, hmem, ha, -⟩ := lastOf_spec hlast
    rw [installOf_eq_some ha] at hmem
    obtain ⟨hosts', hfetched, hinst, -⟩ := hd.after_fetch hmem (Nat.le_refl 3)
    have hshared : s.shared.hosts = hosts := by
      rw [hf.hosts, hlast]
      rfl
    rw [hshared, hinst hosts rfl]
    exact Or.inr ⟨i, hfetched⟩

/-- **A NetBox failure never touches the inventory**, in any run of any number of syncs. -/
theorem Reachable.inventoryFrame {inventory : List Dict} {s : SyncSys ι} (h : Reachable inventory s) :
    InventoryFrame s := by
  have hd : Disciplined s := ReachableBy.disciplined h
  constructor
  · intro i body accepted hmem
    obtain ⟨hosts, hf, -⟩ := hd.after_fetch hmem (Nat.le_succ 3)
    exact ⟨hosts, hf⟩
  · intro i s' hstep hnot
    exact hd.untouched hstep hnot
  · exact hd.visible (ReachableBy.followsLog h)
  · intro i body accepted hosts hmem hfetched
    obtain ⟨hosts', hf, -, himage⟩ := hd.after_fetch hmem (Nat.le_succ 3)
    rw [himage body accepted rfl, hd.fetched_unique hfetched hf]
  · intro i hosts hmem
    have hconv := (hd.history i).convert_of_fetched (mem_ownEvents_iff.mpr hmem)
    exact ⟨hconv, convertDevices_identities hconv⟩

/-- A sync whose listing breaks off after its first device, then one whose listing is whole. -/
def brokenThenWhole : SyncSys Nat :=
  ((init []).runAlone (listing [.ok (namedDevice 1 "a"), .error .requests] 0) 0 20).runAlone
    (listing [.ok (namedDevice 2 "b")] 0) 1 20

/-- The second one is all that the agent and the dashboard see. -/
theorem Reachable.inventoryFrame_brokenThenWhole :
    InventoryFrame brokenThenWhole ∧ brokenThenWhole.shared.hosts.map DiscoveredHost.hostname = ["b"] ∧
      brokenThenWhole.shared.log.map (fun p => (p.1, p.2.rank)) =
        [(0, 0), (0, 1), (1, 0), (1, 1), (1, 2), (1, 3), (1, 4), (1, 5)] := by
  refine ⟨@Reachable.inventoryFrame _ _ [] _ ?_, rfl, rfl⟩
  apply Reachable.runAlone _ rfl
  exact Reachable.runAlone .refl rfl _ 20

end SyncSys

end CertWatch
