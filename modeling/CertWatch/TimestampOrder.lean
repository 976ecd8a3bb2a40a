/-
# `CertWatch.TimestampOrder` — the string comparisons of timestamps decide by time.

Expiry is decided twice and the orphan status once, each time by `<` on two strings.  Where both strings are
texts of clock readings, the branch taken is the one that the readings call for.
-/
import CertWatch.ActionWorkers
import CertWatch.CheckOutcomes
import CertWatch.ReplayOrder
import CertWatch.ReplayOrphans

namespace CertWatch

open CertWatch.Lib

/-- The reading shows an earlier second than the other one. -/
def Instant.Before (a b : Instant) : Prop := wholeSeconds a.us < wholeSeconds b.us

instance (a b : Instant) : Decidable (a.Before b) := by unfold Instant.Before; infer_instance

/-- Two readings have one text exactly in the same second. -/
theorem Instant.iso_eq_iff (a b : Instant) : a.iso = b.iso ↔ wholeSeconds a.us = wholeSeconds b.us := by
  constructor
  · intro h
    have hab : ¬ wholeSeconds a.us < wholeSeconds b.us := by
      rw [← Instant.iso_lt_iff, h]
      exact String.lt_irrefl _
    have hba : ¬ wholeSeconds b.us < wholeSeconds a.us := by
      rw [← Instant.iso_lt_iff, h]
      exact String.lt_irrefl _
    omega
  · intro h
    unfold Instant.iso utcNowIso
    rw [h]

theorem Instant.iso_truthy (a : Instant) : (Json.str a.iso).truthy = true := by
  simpa [Json.truthy, Instant.iso] using utcNowIso_ne_empty a.us

/-- The expiry test of both threads, on texts of readings. -/
theorem isExpired_iso (expires_at now : Instant) :
    isExpired (.str expires_at.iso) now.iso = .ok (decide (expires_at.Before now)) := by
  simp only [isExpired, expires_at.iso_truthy, if_true, Json.ltStr, Instant.iso_lt_iff, Instant.Before]

/-- The orphan test, on texts of readings. -/
theorem isOrphan_iso {persisted : Dict} {persisted_at registered_at : Instant}
    (h : Dict.getD persisted "_persisted_at" (.str "") = .str persisted_at.iso) :
    isOrphan persisted registered_at.iso = .ok (decide (persisted_at.Before registered_at)) := by
  simp only [isOrphan, h, persisted_at.iso_truthy, if_true, Json.ltStr, Instant.iso_lt_iff, Instant.Before]

/-- `_enqueue_actions` puts an action into the queue exactly when it has not expired. -/
theorem enqueueEach_iso {action : Json} {expires_at : Instant}
    (h : action.get "expires_at" = .ok (.str expires_at.iso)) (now : Instant) (actions : List Json) :
    enqueueEach now.iso (action :: actions) =
      if expires_at.Before now then enqueueEach now.iso actions
      else (agentCall (.put action)).bind fun _ => enqueueEach now.iso actions := by
  rw [enqueueEach, h]
  show ((Prog.ofExcept (isExpired (.str expires_at.iso) now.iso)).bind _ : Agent Unit) = _
  rw [isExpired_iso]
  by_cases hexpired : expires_at.Before now
  · rw [if_pos hexpired, decide_eq_true hexpired]
    rfl
  · rw [if_neg hexpired, decide_eq_false hexpired]
    rfl

/-- `_dispatch` reads the clock, and goes on to its shutdown check exactly when the action has not expired. -/
theorem dispatch_iso {action : Json} {expires_at : Instant}
    (h : action.getOr "expires_at" (.str "") = .ok (.str expires_at.iso)) (rt : Runtime) (client : DashboardClient)
    (netbox_client : Option NetBoxClient) (fuel : Nat) :
    ∃ pickUp, dispatch rt client netbox_client fuel action = (agentCall .utcNowIso).bind pickUp ∧
      ∀ now : Instant, (expires_at.Before now → pickUp now.iso = return ()) ∧
        (¬ expires_at.Before now → ∃ checked, pickUp now.iso = (agentCall (.isSet .shutdown)).bind checked) := by
  obtain ⟨d, rfl⟩ : ∃ d, action = .obj d := by
    cases action with
    | obj d => exact ⟨d, rfl⟩
    | _ => cases h
  have hd : Dict.getD d "expires_at" (.str "") = .str expires_at.iso := Except.ok.inj h
  refine ⟨_, rfl, fun now => ⟨fun hexpired => ?_, fun hexpired => ?_⟩⟩
  · rw [hd, isExpired_iso, decide_eq_true hexpired]
    rfl
  · rw [hd, isExpired_iso, decide_eq_false hexpired]
    exact ⟨_, rfl⟩

/-- `replay_pending_reports` leaves a file as an orphan exactly when it was persisted before the registration. -/
theorem replayOne_iso {persisted : Dict} {persisted_at : Instant}
    (h : Dict.getD persisted "_persisted_at" (.str "") = .str persisted_at.iso) (client : DashboardClient)
    (shutdown_event : Bool) (fuel : Nat) (registered_at : Instant) (path : String) :
    ∃ loaded, replayOne client shutdown_event fuel registered_at.iso path =
        ((loadPendingReport .scan path).attempt).bind loaded ∧
      (persisted_at.Before registered_at → loaded (.ok persisted) = return .orphan) ∧
      (¬ persisted_at.Before registered_at → ∃ sent, loaded (.ok persisted) = (queueCall .now).bind sent) := by
  refine ⟨_, rfl, fun horphan => ?_, fun horphan => ?_⟩
  · simp only [isOrphan_iso h, decide_eq_true horphan]
    rfl
  · simp only [isOrphan_iso h, decide_eq_false horphan]
    exact ⟨_, rfl⟩

/-- **Timestamps order as instants**, and so the comparisons of the agent decide by time. -/
theorem timestamps_order (a b : Instant) :
    (a.iso < b.iso ↔ wholeSeconds a.us < wholeSeconds b.us) ∧
    (a.iso = b.iso ↔ wholeSeconds a.us = wholeSeconds b.us) ∧
    (∀ action actions, action.get "expires_at" = .ok (.str a.iso) →
      enqueueEach b.iso (action :: actions) =
        if a.Before b then enqueueEach b.iso actions
        else (agentCall (.put action)).bind fun _ => enqueueEach b.iso actions) ∧
    (∀ rt client netbox_client fuel action, action.getOr "expires_at" (.str "") = .ok (.str a.iso) →
      ∃ pickUp, dispatch rt client netbox_client fuel action = (agentCall .utcNowIso).bind pickUp ∧
        (a.Before b → pickUp b.iso = return ()) ∧
        (¬ a.Before b → ∃ checked, pickUp b.iso = (agentCall (.isSet .shutdown)).bind checked)) ∧
    ∀ client shutdown_event fuel path persisted,
      Dict.getD persisted "_persisted_at" (.str "") = .str a.iso →
      ∃ loaded, replayOne client shutdown_event fuel b.iso path =
          ((loadPendingReport .scan path).attempt).bind loaded ∧
        (a.Before b → loaded (.ok persisted) = return .orphan) ∧
        (¬ a.Before b → ∃ sent, loaded (.ok persisted) = (queueCall .now).bind sent) := by
  refine ⟨Instant.iso_lt_iff a b, Instant.iso_eq_iff a b, ?_, ?_, ?_⟩
  · intro action actions h
    exact enqueueEach_iso h b actions
  · intro rt client netbox_client fuel action h
    obtain ⟨pickUp, hdispatch, hpickUp⟩ := dispatch_iso h rt client netbox_client fuel
    exact ⟨pickUp, hdispatch, hpickUp b⟩
  · intro client shutdown_event fuel path persisted h
    exact replayOne_iso h client shutdown_event fuel b path

/-- An action and a report of noon, a minute later: the action has expired and the report is an orphan. -/
theorem timestamps_order_minutePastNoon :
    enqueueEach minutePastNoon.iso [.obj [("expires_at", .str noonReading.iso)]] = .ret () ∧
    (∃ pickUp, dispatch literalRuntime someClient none 0 (.obj [("expires_at", .str noonReading.iso)]) =
      (agentCall .utcNowIso).bind pickUp ∧ pickUp minutePastNoon.iso = .ret ()) ∧
    ∃ loaded, replayOne someClient true 0 minutePastNoon.iso "r1.json" =
        ((loadPendingReport .scan "r1.json").attempt).bind loaded ∧
      loaded (.ok [("_persisted_at", .str noonReading.iso)]) = .ret .orphan := by
  have hbefore : noonReading.Before minutePastNoon := by decide
  obtain ⟨-, -, henqueue, hdispatch, hreplay⟩ := timestamps_order noonReading minutePastNoon
  refine ⟨?_, ?_, ?_⟩
  · rw [henqueue _ _ rfl, if_pos hbefore]
    rfl
  · obtain ⟨pickUp, heq, hexpired, -⟩ :=
      hdispatch literalRuntime someClient none 0 (.obj [("expires_at", .str noonReading.iso)]) rfl
    exact ⟨pickUp, heq, hexpired hbefore⟩
  · obtain ⟨loaded, heq, horphan, -⟩ :=
      hreplay someClient true 0 "r1.json" [("_persisted_at", .str noonReading.iso)] rfl
    exact ⟨loaded, heq, horphan hbefore⟩

end CertWatch
