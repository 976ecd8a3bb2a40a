/-
# `CertWatch.FreshestView` — when the snapshot is the freshest list that NetBox returned.

A sync fetches and then replaces the agent's view, two steps that other syncs can come between.  A sync that
was overtaken (another one fetched after it and installed before it) puts an older list over a newer one.  In
runs where no sync is overtaken in this way the snapshot is never stale.
-/
import CertWatch.InventoryFrame

namespace CertWatch

open CertWatch.Lib

variable {ι : Type}

/-- The fetch of `j` started after the fetch of `i` had returned. -/
def FetchedAfter (j i : ι) (w : SyncWorld ι) : Prop :=
  ∃ hosts, Precedes w.log (i, SyncEvent.fetched hosts) (j, SyncEvent.began)

/-- `snapshot` yields the list that sync `i` installed. -/
def Shows (i : ι) (w : SyncWorld ι) : Prop := ∃ hosts, lastOf installOf w.log = some (i, hosts)

/-- The freshest view wins: what syncs promise of `NetBoxHostsState`. -/
structure FreshestView (s : SyncSys ι) : Prop where
  /-- `snapshot` yields the last list that was installed. -/
  snapshot : s.shared.hosts = ((lastOf installOf s.shared.log).map Prod.snd).getD []
  /-- Of two lists that were both installed, the older one is not what `snapshot` yields. -/
  never_stale : ∀ older newer, HasInstalled older s.shared → HasInstalled newer s.shared →
    FetchedAfter newer older s.shared → ¬ Shows older s.shared
  /-- With no sync in progress, `snapshot` yields a list that no successful fetch started after. -/
  settled : SyncSys.Finished s → (∃ i, HasFetched i s.shared) →
    ∃ i, Shows i s.shared ∧ (i, SyncEvent.fetched s.shared.hosts) ∈ s.shared.log ∧
      ∀ j, HasFetched j s.shared → ¬ FetchedAfter j i s.shared

/-- No sync is overtaken: a list is installed only when every fetch that had returned before its own fetch
started is installed already. -/
def InstallsInOrder (w : SyncWorld ι) (i : ι) : SyncEvent → Prop
  | .installed _ => ∀ j, FetchedAfter i j w → HasInstalled j w
  | _ => True

/-! ## What one event changes -/

theorem hasInstalled_record {w : SyncWorld ι} {i j : ι} {e : SyncEvent} :
    HasInstalled j (w.record i e) ↔ HasInstalled j w ∨ ∃ hosts, j = i ∧ e = .installed hosts := by
  constructor
  · rintro ⟨hosts, hmem⟩
    rcases List.mem_append.mp hmem with hmem | hmem
    · exact Or.inl ⟨hosts, hmem⟩
    · obtain ⟨rfl, rfl⟩ := Prod.mk.inj (List.mem_singleton.mp hmem)
      exact Or.inr ⟨hosts, rfl, rfl⟩
  · rintro (⟨hosts, hmem⟩ | ⟨hosts, rfl, rfl⟩)
    · exact ⟨hosts, List.mem_append_left _ hmem⟩
    · exact ⟨hosts, List.mem_append_right _ List.mem_cons_self⟩

theorem fetchedAfter_record {w : SyncWorld ι} {i j k : ι} {e : SyncEvent} (h : FetchedAfter j k (w.record i e)) :
    FetchedAfter j k w ∨ (j = i ∧ e = .began) := by
  obtain ⟨hosts, hp⟩ := h
  rcases precedes_concat_iff.mp hp with hp | ⟨-, heq⟩
  · exact Or.inl ⟨hosts, hp⟩
  · obtain ⟨rfl, rfl⟩ := Prod.mk.inj heq
    exact Or.inr ⟨rfl, rfl⟩

variable [DecidableEq ι]

/-- Nothing comes before the start of a fetch in its own sync. -/
theorem began_unused {w : SyncWorld ι} {i : ι} {e : SyncEvent}
    (hh : SyncHistory (ownEvents i w.log ++ [.began])) : (i, e) ∉ w.log :=
  fun hmem => hh.began_first (mem_ownEvents_iff.mpr hmem)

theorem not_fetchedAfter_self {w : SyncWorld ι} {i : ι}
    (hh : (ownEvents i w.log).Pairwise SyncEvent.Follows) : ¬ FetchedAfter i i w := by
  rintro ⟨hosts, hp⟩
  have hpair := hh.sublist hp.own
  have hfollows : 2 < 0 ∨ (2 = 0 ∧ (2 = 1 ∨ 2 = 4)) := List.rel_of_pairwise_cons hpair List.mem_cons_self
  omega

/-! ## The invariant -/

/-- What is installed left nothing older behind, and the last installation is the freshest. -/
structure InOrder (w : SyncWorld ι) : Prop where
  behind : ∀ i j, HasInstalled i w → FetchedAfter i j w → HasInstalled j w
  freshest : ∀ i j, Shows i w → HasInstalled j w → ¬ FetchedAfter j i w

/-- An installation in order. -/
theorem InOrder.install {w : SyncWorld ι} {i : ι} {hosts : List DiscoveredHost} (hw : InOrder w)
    (hh : SyncHistory (ownEvents i w.log ++ [.installed hosts]))
    (hin : ∀ j, FetchedAfter i j w → HasInstalled j w) : InOrder (w.record i (.installed hosts)) := by
  have hafter : ∀ {j k}, FetchedAfter j k (w.record i (.installed hosts)) → FetchedAfter j k w := by
    intro j k h
    rcases fetchedAfter_record h with h | ⟨-, h⟩
    · exact h
    · cases h
  constructor
  · intro j k hj hjk
    apply hasInstalled_record.mpr
    rcases hasInstalled_record.mp hj with hj | ⟨-, rfl, -⟩
    · exact Or.inl (hw.behind j k hj (hafter hjk))
    · exact Or.inl (hin k (hafter hjk))
  · intro k j hk hj hjk
    have hki : k = i := by
      obtain ⟨hosts', hlast⟩ := hk
      have hnew : installOf (i, SyncEvent.installed hosts) = some (i, hosts) := rfl
      rw [SyncWorld.log_record, lastOf_concat_some hnew] at hlast
      exact (Prod.mk.inj (Option.some.inj hlast)).1.symm
    subst hki
    rcases hasInstalled_record.mp hj with hj | ⟨-, rfl, -⟩
    · -- whoever fetched later and is installed already had waited for this very installation
      obtain ⟨hosts', hmem⟩ := hw.behind j k hj (hafter hjk)
      exact hh.installed_once (mem_ownEvents_iff.mpr hmem)
    · exact not_fetchedAfter_self (List.pairwise_append.mp hh.ordered).1 (hafter hjk)

/-- Any other event. -/
theorem InOrder.other {w : SyncWorld ι} {i : ι} {e : SyncEvent} (hw : InOrder w)
    (hh : SyncHistory (ownEvents i w.log ++ [e])) (he : ∀ hosts, e ≠ .installed hosts) :
    InOrder (w.record i e) := by
  have hinst : ∀ {j}, HasInstalled j (w.record i e) → HasInstalled j w := by
    intro j h
    rcases hasInstalled_record.mp h with h | ⟨hosts, -, h⟩
    · exact h
    · exact absurd h (he hosts)
  have hafter : ∀ {j k}, HasInstalled j w → FetchedAfter j k (w.record i e) → FetchedAfter j k w := by
    rintro j k ⟨hosts, hmem⟩ h
    rcases fetchedAfter_record h with h | ⟨rfl, rfl⟩
    · exact h
    · exact absurd hmem (began_unused hh)
  have hnone : installOf (i, e) = none := by
    cases e with
    | installed hosts => exact absurd rfl (he hosts)
    | _ => rfl
  constructor
  · intro j k hj hjk
    have hj := hinst hj
    exact hasInstalled_record.mpr (Or.inl (hw.behind j k hj (hafter hj hjk)))
  · intro k j hk hj hjk
    have hj := hinst hj
    have hk : Shows k w := by
      obtain ⟨hosts, hlast⟩ := hk
      rw [SyncWorld.log_record, lastOf_concat_none hnone] at hlast
      exact ⟨hosts, hlast⟩
    exact hw.freshest k j hk hj (hafter hj hjk)

namespace SyncSys

/-- The run lemma. -/
theorem ReachableBy.inOrder {inventory : List Dict} {s : SyncSys ι}
    (h : ReachableBy (EventsMeet InstallsInOrder) inventory s) : InOrder s.shared := by
  apply h.invariant
  · constructor
    · rintro i j ⟨hosts, hmem⟩
      cases hmem
    · rintro i j ⟨hosts, hlast⟩
      cases hlast
  · intro a b i e hd hcond heq hh hI
    cases e with
    | installed hosts => exact hI.install hh (hcond i _ heq)
    | _ => exact hI.other hh nofun

/-- **The freshest view wins** in every run in which lists are installed in the order of their fetches. -/
theorem ReachableBy.freshestView {inventory : List Dict} {s : SyncSys ι}
    (h : ReachableBy (EventsMeet InstallsInOrder) inventory s) : FreshestView s := by
  have hd : Disciplined s := h.disciplined
  have hf := h.followsLog
  have ho := h.inOrder
  constructor
  · exact hf.hosts
  · intro older newer _ hnewer hafter hshows
    exact ho.freshest older newer hshows hnewer hafter
  · rintro hfin ⟨j, hj⟩
    obtain ⟨hosts, hmem⟩ := hd.installed_of_finished hfin hj
    obtain ⟨⟨i, last⟩, hlast⟩ := Option.isSome_iff_exists.mp (lastOf_isSome (f := installOf) hmem rfl)
    obtain ⟨a, ha, hai, -⟩ := lastOf_spec hlast
    rw [installOf_eq_some hai] at ha
    obtain ⟨hosts', hfetched, hinst, -⟩ := hd.after_fetch ha (Nat.le_refl 3)
    have hhosts : s.shared.hosts = hosts' := by
      rw [hf.hosts, hlast]
      exact hinst last rfl
    refine ⟨i, ⟨last, hlast⟩, ?_, ?_⟩
    · rw [hhosts]
      exact hfetched
    · intro k hk
      exact ho.freshest i k ⟨last, hlast⟩ (hd.installed_of_finished hfin hk)

/-- A sync that runs with no other one in progress is not overtaken. -/
theorem ReachableBy.runAlone_inOrder {inventory : List Dict} {s : SyncSys ι} {i : ι}
    (h : ReachableBy (EventsMeet InstallsInOrder) inventory s) (hfin : Finished s) (hi : s.threads i = none)
    (script : SyncScript) (calls : Nat) :
    ReachableBy (EventsMeet InstallsInOrder) inventory (s.runAlone script i calls) := by
  have hd : Disciplined s := h.disciplined
  have hstart : ReachableBy (EventsMeet InstallsInOrder) inventory (s.started i) :=
    h.start (.start i _ _ _ _ _ hi) rfl
  refine (hstart.alone (J := fun w => ∀ j, j ≠ i → HasFetched j w → HasInstalled j w) ?_ ?_
    (scripted_steps _ script i calls)).1
  · intro w e hh hw
    constructor
    · cases e with
      | installed hosts =>
        intro j hafter
        apply hw j
        · rintro rfl
          exact not_fetchedAfter_self (List.pairwise_append.mp hh.ordered).1 hafter
        · obtain ⟨hosts', hp⟩ := hafter
          exact ⟨hosts', hp.mem_left⟩
      | _ => exact trivial
    · rintro j hj ⟨hosts, hmem⟩
      apply hasInstalled_record.mpr
      rcases List.mem_append.mp hmem with hmem | hmem
      · exact Or.inl (hw j hj ⟨hosts, hmem⟩)
      · exact absurd (Prod.mk.inj (List.mem_singleton.mp hmem)).1 hj
  · intro j _ hf
    exact hd.installed_of_finished hfin hf

/-- Two syncs, one after the other. -/
def oneAfterTheOther : SyncSys Nat :=
  ((init []).runAlone (listing [.ok (namedDevice 1 "a")] 0) 0 20).runAlone
    (listing [.ok (namedDevice 2 "b")] 0) 1 20

/-- The later one is what `snapshot` yields. -/
theorem ReachableBy.freshestView_oneAfterTheOther :
    FreshestView oneAfterTheOther ∧ FetchedAfter 1 0 oneAfterTheOther.shared ∧
      oneAfterTheOther.shared.hosts.map DiscoveredHost.hostname = ["b"] := by
  have hfirst := ReachableBy.runAlone_inOrder (ι := Nat) (i := 0) .refl (finished_init []) rfl
    (listing [.ok (namedDevice 1 "a")] 0) 20
  have hended : Finished ((init [] : SyncSys Nat).runAlone (listing [.ok (namedDevice 1 "a")] 0) 0 20) :=
    (finished_init []).runAlone (x := .ok _) rfl
  refine ⟨ReachableBy.freshestView (hfirst.runAlone_inOrder hended rfl _ 20), ?_, rfl⟩
  -- the fetch of 0 returned at event 2, that of 1 began at event 6
  exact ⟨_, precedes_of_getElem? (m := 2) (n := 6) rfl rfl (by omega)⟩

/-- Sync 0 has fetched when sync 1 runs as a whole; then sync 0 goes on. -/
def overtaken : SyncSys Nat :=
  ((((init []).started 0).scripted (listing [.ok (namedDevice 1 "a")] 0) 0 6).runAlone
    (listing [.ok (namedDevice 2 "b")] 0) 1 20).scripted (listing [.ok (namedDevice 1 "a")] 0) 0 20

/-- The view does go stale: nothing orders the installations of two syncs by their fetches. -/
theorem overtaken_is_stale : ¬ ∀ s : SyncSys Nat, Reachable [] s → FreshestView s := by
  intro h
  have hreach : Reachable [] overtaken := by
    apply Reachable.scripted
    apply Reachable.runAlone _ rfl
    apply Reachable.scripted
    exact Reachable.started .refl rfl
  have hview := h overtaken hreach
  -- 0 fetched at event 2, 1 began at 3 and installed at 6, 0 installed at 9
  have hafter : FetchedAfter 1 0 overtaken.shared :=
    ⟨_, precedes_of_getElem? (m := 2) (n := 3) rfl rfl (by omega)⟩
  have hnew : HasInstalled 1 overtaken.shared := ⟨_, List.mem_of_getElem? (i := 6) rfl⟩
  have hold : HasInstalled 0 overtaken.shared := ⟨_, List.mem_of_getElem? (i := 9) rfl⟩
  exact hview.never_stale 0 1 hold hnew hafter ⟨_, rfl⟩

end SyncSys

end CertWatch
