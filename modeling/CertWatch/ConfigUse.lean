/-
# `CertWatch.ConfigUse` — what the expressions that read a config need of it.

Nothing validates a config, so each expression that reads one raises in its own way.  Here is, for the expressions
that several functions share, exactly when they do not.
-/
import CertWatch.HeartbeatThread

namespace CertWatch

open CertWatch.Lib

/-! ## Requests -/

/-- What `request` makes of the answer to its exchange. -/
def requestOutcome (method path : String) : Except PyExc HttpResponse → Except PyExc Json
  | .ok resp => handleResponse method path resp
  | .error .requests => .error (.dashboard
      { kind := .network, message := .str ("request error calling " ++ method ++ " " ++ path) })
  | .error e => .error e

theorem run_request {S : Sig} {σ : Type} {h : (o : S.Op) → σ → Except PyExc (S.Ret o) × σ} {method path : String}
    {send : Prog S PyExc HttpResponse} {s s' : σ} {r : Except PyExc HttpResponse}
    (hsend : send.run h s = (some r, s')) :
    (request method path send).run h s = (some (requestOutcome method path r), s') := by
  unfold request
  rw [Prog.bind_eq, Prog.run_bind, Prog.run_tryCatch, hsend]
  cases r with
  | ok resp => simp [requestOutcome]
  | error e => cases e <;> rfl

/-- Short of an answer of 401, a request raises no authentication error. -/
theorem requestOutcome_not_auth {method path : String} {r : Except PyExc HttpResponse} (h : isAuthFailure r = false)
    (hstatus : ∀ resp, r = .ok resp → resp.status ≠ 401) : isAuthFailure (requestOutcome method path r) = false := by
  cases r with
  | error e =>
    cases e with
    | requests => rfl
    | _ => exact h
  | ok resp =>
    show isAuthFailure (handleResponse method path resp) = false
    by_cases haccepted : 200 ≤ resp.status ∧ resp.status < 300
    · rw [handleResponse, if_pos haccepted]
      cases resp.body <;> rfl
    · obtain ⟨e, he, hkind⟩ := @handleResponse_error method path _ haccepted
      have hne := hstatus resp rfl
      rw [he]
      show (e.kind == .auth) = false
      rw [hkind]
      unfold errorKindOfStatus
      split_ifs <;> rfl

/-! ## Waiting -/

/-- `max(0.0, seconds)`; a NaN is not larger than `0.0`. -/
def PyFloat.atLeastZero : PyFloat → PyFloat
  | .finite q => .finite (max 0 q)
  | .posInf => .posInf
  | .negInf => .finite 0
  | .nan => .finite 0

/-- The wait lasts no longer than `threading.TIMEOUT_MAX`. -/
def PyFloat.Waitable (timeout_max : Rat) (seconds : PyFloat) : Prop :=
  ∃ q, seconds.atLeastZero = .finite q ∧ q ≤ timeout_max

/-- `RealClock.wait_for` for an event that stays unset: `Event.wait` refuses a timeout above `TIMEOUT_MAX`. -/
def waitForUnset (timeout_max : Rat) (seconds : PyFloat) : Except PyExc Bool :=
  match seconds.atLeastZero with
  | .finite q => if q ≤ timeout_max then .ok false else .error .overflowError
  | _ => .error .overflowError

theorem waitForUnset_waitable {timeout_max : Rat} {seconds : PyFloat} (h : seconds.Waitable timeout_max) :
    waitForUnset timeout_max seconds = .ok false := by
  obtain ⟨q, hq, hle⟩ := h
  simp only [waitForUnset, hq]
  rw [if_pos hle]

theorem waitForUnset_not_waitable {timeout_max : Rat} {seconds : PyFloat} (h : ¬ seconds.Waitable timeout_max) :
    waitForUnset timeout_max seconds = .error .overflowError := by
  unfold waitForUnset
  split
  · rename_i q hq
    exact if_neg fun hle => h ⟨q, hq, hle⟩
  · rfl

/-! ## Reading -/

theorem except_bind_eq_ok {α β : Type} {x : Except PyExc α} {f : α → Except PyExc β} {b : β} :
    (x >>= f) = .ok b ↔ ∃ a, x = .ok a ∧ f a = .ok b := by
  constructor
  · exact except_bind_ok
  · rintro ⟨a, rfl, h⟩
    exact h

theorem Dict.getItem_eq_ok {d : Dict} {k : String} {v : Json} : d.getItem k = .ok v ↔ d.get? k = some v := by
  unfold Dict.getItem
  cases d.get? k <;> simp

theorem Json.item_eq_ok {x v : Json} {k : String} : x.item k = .ok v ↔ ∃ d, x = .obj d ∧ Dict.get? d k = some v := by
  cases x with
  | obj d =>
    rw [Json.item, Dict.getItem_eq_ok]
    exact ⟨fun h => ⟨d, rfl, h⟩, fun ⟨d', hd, h⟩ => Json.obj.inj hd ▸ h⟩
  | _ => exact ⟨nofun, fun ⟨d, hd, _⟩ => by cases hd⟩

/-- An interval that a loop can wait for: `float(config["intervals"][key])` is there and not too large. -/
def WaitableInterval (rt : Runtime) (timeout_max : Rat) (key : String) (config : Dict) : Prop :=
  ∃ intervals v seconds, config.get? "intervals" = some (.obj intervals) ∧ Dict.get? intervals key = some v ∧
    rt.toFloat v = .ok seconds ∧ seconds.Waitable timeout_max

theorem intervalSeconds_eq_ok {rt : Runtime} {key : String} {config : Dict} {seconds : PyFloat} :
    intervalSeconds rt key config = .ok seconds ↔ ∃ intervals v, config.get? "intervals" = some (.obj intervals) ∧
      Dict.get? intervals key = some v ∧ rt.toFloat v = .ok seconds := by
  unfold intervalSeconds
  simp only [except_bind_eq_ok, Dict.getItem_eq_ok, Json.item_eq_ok]
  constructor
  · rintro ⟨_, hget, v, ⟨intervals, rfl, hv⟩, hfloat⟩
    exact ⟨intervals, v, hget, hv, hfloat⟩
  · rintro ⟨intervals, v, hget, hv, hfloat⟩
    exact ⟨_, hget, v, ⟨intervals, rfl, hv⟩, hfloat⟩

/-- A document of which `len(x or [])` can be taken. -/
def Json.Countable (x : Json) : Prop := x.truthy = true → (∃ s, x = .str s) ∨ (∃ xs, x = .arr xs) ∨ ∃ d, x = .obj d

theorem len_or_empty (x : Json) : (∃ n, (x.or (.arr [])).len = .ok n) ↔ x.Countable := by
  unfold Json.Countable Json.or
  split_ifs with h
  · cases x <;> simp [Json.len, h]
  · simp [Json.len, h]

end CertWatch
