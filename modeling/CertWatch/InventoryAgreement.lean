/-
# `CertWatch.InventoryAgreement` — when the dashboard's inventory is the agent's view.

The dashboard replaces its inventory by every submission that it accepts.  A sync that retries holds on to the
list it fetched, so its submission can be accepted after that of a sync which updated the agent's view later,
and the inventory falls back.  In runs where submissions are accepted in the order of the updates, the two
stores agree whenever the last sync to update the view ended in success.
-/
import CertWatch.FreshestView

namespace CertWatch

open CertWatch.Lib

variable {ι : Type}

/-- The dashboard accepted a submission of sync `i`. -/
def HasAccepted (i : ι) (w : SyncWorld ι) : Prop := ∃ body, (i, SyncEvent.submitted body true) ∈ w.log

/-- Sync `j` updated the agent's view after sync `i` did. -/
def InstalledAfter (j i : ι) (w : SyncWorld ι) : Prop :=
  ∃ hosts hosts', Precedes w.log (i, SyncEvent.installed hosts) (j, SyncEvent.installed hosts')

/-- What syncs promise of the dashboard's inventory. -/
structure InventoryAgreement (s : SyncSys ι) : Prop where
  /-- With no sync in progress, and the last one to update the view successful, the stores agree. -/
  agree : SyncSys.Finished s → ∀ i r, Shows i s.shared → s.threads i = some (.ret r) → r.status = .success →
    s.shared.inventory = s.shared.hosts.map hostToPayload
  /-- The inventory is never that of a sync older than one that was accepted. -/
  newest : ∀ i payload, lastOf acceptOf s.shared.log = some (i, payload) →
    s.shared.inventory = payload ∧ ∀ j, HasAccepted j s.shared → ¬ InstalledAfter j i s.shared

/-- A submission is accepted only while no sync that updated the view later has been accepted. -/
def AcceptsInOrder (w : SyncWorld ι) (i : ι) : SyncEvent → Prop
  | .submitted _ true => ∀ j, HasAccepted j w → ¬ InstalledAfter j i w
  | _ => True

/-! ## What one event changes -/

theorem hasAccepted_record {w : SyncWorld ι} {i j : ι} {e : SyncEvent} (h : HasAccepted j (w.record i e)) :
    HasAccepted j w ∨ (j = i ∧ ∃ body, e = .submitted body true) := by
  obtain ⟨body, hmem⟩ := h
  rcases List.mem_append.mp hmem with hmem | hmem
  · exact Or.inl ⟨body, hmem⟩
  · obtain ⟨rfl, rfl⟩ := Prod.mk.inj (List.mem_singleton.mp hmem)
    exact Or.inr ⟨rfl, body, rfl⟩

theorem installedAfter_record {w : SyncWorld ι} {i j k : ι} {e : SyncEvent}
    (h : InstalledAfter j k (w.record i e)) :
    InstalledAfter j k w ∨ (j = i ∧ ∃ hosts, e = .installed hosts) := by
  obtain ⟨hosts, hosts', hp⟩ := h
  rcases precedes_concat_iff.mp hp with hp | ⟨-, heq⟩
  · exact Or.inl ⟨hosts, hosts', hp⟩
  · obtain ⟨rfl, rfl⟩ := Prod.mk.inj heq
    exact Or.inr ⟨rfl, hosts', rfl⟩

variable [DecidableEq ι]

theorem not_installedAfter_self {w : SyncWorld ι} {i : ι}
    (hh : (ownEvents i w.log).Pairwise SyncEvent.Follows) : ¬ InstalledAfter i i w := by
  rintro ⟨hosts, hosts', hp⟩
  have hpair := hh.sublist hp.own
  have hfollows : 3 < 3 ∨ (3 = 3 ∧ (3 = 1 ∨ 3 = 4)) := List.rel_of_pairwise_cons hpair List.mem_cons_self
  omega

/-! ## The invariant -/

/-- The sync accepted last is not older than any that was accepted. -/
def NewestAccepted (w : SyncWorld ι) : Prop :=
  ∀ i payload, lastOf acceptOf w.log = some (i, payload) → ∀ j, HasAccepted j w → ¬ InstalledAfter j i w

/-- An acceptance in order. -/
theorem NewestAccepted.accept {w : SyncWorld ι} {i : ι} {body : DiscoveredHostsBody}
    (hh : SyncHistory (ownEvents i w.log ++ [.submitted body true]))
    (hin : ∀ j, HasAccepted j w → ¬ InstalledAfter j i w) :
    NewestAccepted (w.record i (.submitted body true)) := by
  intro k payload hlast j hj hafter
  have hnew : acceptOf (i, SyncEvent.submitted body true) = some (i, body.hosts) := rfl
  rw [SyncWorld.log_record, lastOf_concat_some hnew] at hlast
  obtain ⟨rfl, -⟩ := Prod.mk.inj (Option.some.inj hlast)
  have hbefore : InstalledAfter j i w := by
    rcases installedAfter_record hafter with h | ⟨-, hosts, h⟩
    · exact h
    · cases h
  rcases hasAccepted_record hj with hj | ⟨rfl, -⟩
  · exact hin j hj hbefore
  · exact not_installedAfter_self (List.pairwise_append.mp hh.ordered).1 hbefore

/-- Any other event. -/
theorem NewestAccepted.other {w : SyncWorld ι} {i : ι} {e : SyncEvent} (hw : NewestAccepted w)
    (hh : SyncHistory (ownEvents i w.log ++ [e])) (he : ∀ body, e ≠ .submitted body true) :
    NewestAccepted (w.record i e) := by
  intro k payload hlast j hj hafter
  have hnone : acceptOf (i, e) = none := by
    cases e with
    | submitted body accepted =>
      cases accepted with
      | true => exact absurd rfl (he body)
      | false => rfl
    | _ => rfl
  rw [SyncWorld.log_record, lastOf_concat_none hnone] at hlast
  have hacc : HasAccepted j w := by
    rcases hasAccepted_record hj with h | ⟨-, body, h⟩
    · exact h
    · exact absurd h (he body)
  apply hw k payload hlast j hacc
  rcases installedAfter_record hafter with h | ⟨rfl, hosts, rfl⟩
  · exact h
  · -- a sync that was accepted has installed its list already
    obtain ⟨body, hmem⟩ := hacc
    have hfollows : 4 < 3 ∨ (4 = 3 ∧ (4 = 1 ∨ 4 = 4)) := hh.follows_of_concat (mem_ownEvents_iff.mpr hmem)
    omega

namespace SyncSys

/-- The run lemma. -/
theorem ReachableBy.newestAccepted {inventory : List Dict} {s : SyncSys ι}
    (h : ReachableBy (EventsMeet AcceptsInOrder) inventory s) : NewestAccepted s.shared := by
  apply h.invariant
  · intro i payload hlast
    cases hlast
  · intro a b i e hd hcond heq hh hI
    rcases Classical.em (∃ body, e = .submitted body true) with ⟨body, rfl⟩ | hnot
    · exact NewestAccepted.accept hh (hcond i _ heq)
    · exact hI.other hh (fun body he => hnot ⟨body, he⟩)

/-- The sync that updated the view last is the one accepted last, once it was accepted. -/
theorem Disciplined.last_accepted {s : SyncSys ι} (hd : Disciplined s) (hnew : NewestAccepted s.shared)
    {i : ι} {hosts : List DiscoveredHost} (hlast : lastOf installOf s.shared.log = some (i, hosts))
    (hacc : HasAccepted i s.shared) : ∃ payload, lastOf acceptOf s.shared.log = some (i, payload) := by
  obtain ⟨body, hmem⟩ := hacc
  obtain ⟨⟨k, payload⟩, hk⟩ := Option.isSome_iff_exists.mp (lastOf_isSome (f := acceptOf) hmem rfl)
  obtain ⟨a, ha, hak, -⟩ := lastOf_spec hk
  obtain ⟨body', rfl, -⟩ := acceptOf_eq_some hak
  obtain ⟨hosts', -, hinst, -⟩ := (hd.history k).after_fetch (mem_ownEvents_iff.mpr ha) (Nat.le_succ 3)
  obtain ⟨b, -, hb, hprec⟩ := lastOf_spec hlast
  rw [installOf_eq_some hb] at hprec
  -- the installation of `k` is the last one, or one before it; then `i` was accepted and newer
  rcases hprec _ (mem_ownEvents_iff.mp hinst) rfl with heq | hp
  · obtain ⟨rfl, -⟩ := Prod.mk.inj heq
    exact ⟨payload, hk⟩
  · exact absurd ⟨hosts', hosts, hp⟩ (hnew k payload hk i ⟨body, hmem⟩)

/-- **The stores agree** in every run in which submissions are accepted in the order of the updates. -/
theorem ReachableBy.inventoryAgreement {inventory : List Dict} {s : SyncSys ι}
    (h : ReachableBy (EventsMeet AcceptsInOrder) inventory s) : InventoryAgreement s := by
  have hd : Disciplined s := h.disciplined
  have hf := h.followsLog
  have hnew := h.newestAccepted
  constructor
  · rintro - i r ⟨hosts, hlast⟩ hi hsuccess
    obtain ⟨body, hmem⟩ := (hd.ended (x := .ok r) hi).2 r rfl hsuccess
    obtain ⟨payload, hacc⟩ := hd.last_accepted hnew hlast ⟨body, mem_ownEvents_iff.mp hmem⟩
    obtain ⟨a, ha, hai, -⟩ := lastOf_spec hacc
    obtain ⟨body', rfl, hpayload⟩ := acceptOf_eq_some hai
    obtain ⟨b, hb, hbi, -⟩ := lastOf_spec hlast
    rw [installOf_eq_some hbi] at hb
    -- what it submitted and what it installed are images of the one list that it fetched
    obtain ⟨hosts₁, hf₁, -, himage⟩ := hd.after_fetch ha (Nat.le_succ 3)
    obtain ⟨hosts₂, hf₂, hinst, -⟩ := hd.after_fetch hb (Nat.le_refl 3)
    calc s.shared.inventory = payload := by
          rw [hf.inventory, hacc]
          rfl
      _ = hosts₁.map hostToPayload := by rw [← hpayload, himage body' true rfl]
      _ = hosts.map hostToPayload := by rw [hinst hosts rfl, hd.fetched_unique hf₁ hf₂]
      _ = s.shared.hosts.map hostToPayload := by
          rw [hf.hosts, hlast]
          rfl
  · intro i payload hlast
    refine ⟨?_, hnew i payload hlast⟩
    rw [hf.inventory, hlast]
    rfl

/-- A sync that runs alone is accepted in order. -/
theorem ReachableBy.runAlone_acceptsInOrder {inventory : List Dict} {s : SyncSys ι} {i : ι}
    (h : ReachableBy (EventsMeet AcceptsInOrder) inventory s) (hi : s.threads i = none)
    (script : SyncScript) (calls : Nat) :
    ReachableBy (EventsMeet AcceptsInOrder) inventory (s.runAlone script i calls) := by
  have hnone := h.disciplined.absent i hi
  have hstart : ReachableBy (EventsMeet AcceptsInOrder) inventory (s.started i) :=
    h.start (.start i _ _ _ _ _ hi) rfl
  refine (hstart.alone (J := fun w => ∀ j, j ≠ i → ¬ InstalledAfter j i w) ?_ ?_
    (scripted_steps _ script i calls)).1
  · intro w e hh hw
    constructor
    · rcases Classical.em (∃ body, e = .submitted body true) with ⟨body, rfl⟩ | hnot
      · intro j _ hafter
        by_cases hji : j = i
        · subst hji
          exact not_installedAfter_self (List.pairwise_append.mp hh.ordered).1 hafter
        · exact hw j hji hafter
      · unfold AcceptsInOrder
        split
        · exact absurd ⟨_, rfl⟩ hnot
        · exact trivial
    · intro j hj hafter
      rcases installedAfter_record hafter with hafter | ⟨hji, -⟩
      · exact hw j hj hafter
      · exact hj hji
  · rintro j - ⟨hosts, hosts', hp⟩
    have hown : SyncEvent.installed hosts ∈ ownEvents i s.shared.log := mem_ownEvents_iff.mpr hp.mem_left
    rw [hnone] at hown
    cases hown

/-- Two syncs in turn: the dashboard has what the later one installed. -/
theorem ReachableBy.inventoryAgreement_oneAfterTheOther :
    InventoryAgreement oneAfterTheOther ∧
      oneAfterTheOther.shared.inventory = oneAfterTheOther.shared.hosts.map hostToPayload := by
  have hfirst := @ReachableBy.runAlone_acceptsInOrder Nat _ [] _ 0 .refl rfl
    (listing [.ok (namedDevice 1 "a")] 0) 20
  have hagree := ReachableBy.inventoryAgreement
    (hfirst.runAlone_acceptsInOrder (i := 1) rfl (listing [.ok (namedDevice 2 "b")] 0) 20)
  exact ⟨hagree, rfl⟩

/-- The submission of sync 0 gets a 503; sync 1 runs as a whole while it waits; then sync 0 retries. -/
def retriedLate : SyncSys Nat :=
  ((((init []).started 0).scripted (listing [.ok (namedDevice 1 "a")] 1) 0 8).runAlone
    (listing [.ok (namedDevice 2 "b")] 0) 1 20).scripted (listing [.ok (namedDevice 1 "a")] 1) 0 20

/-- The stores do part: a retry carries the list that its sync fetched, however old. -/
theorem retriedLate_disagrees : ¬ ∀ s : SyncSys Nat, Reachable [] s → InventoryAgreement s := by
  intro h
  have hreach : Reachable [] retriedLate := by
    apply Reachable.scripted
    apply Reachable.runAlone _ rfl
    apply Reachable.scripted
    exact Reachable.started .refl rfl
  have hfin : Finished retriedLate := by
    intro i p hi
    match i with
    | 0 => exact (Option.some.inj hi) ▸ not_false
    | 1 => exact (Option.some.inj hi) ▸ not_false
    | _ + 2 => exact absurd hi nofun
  have hagree := (h retriedLate hreach).agree hfin 1 _ ⟨_, rfl⟩ rfl rfl
  have hne : retriedLate.shared.inventory ≠ retriedLate.shared.hosts.map hostToPayload := by
    decide
  exact hne hagree

end SyncSys

end CertWatch
