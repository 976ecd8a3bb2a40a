/-
# `CertWatch.AuthSurfacing` — a 401 comes to the surface of every program, and nothing else does as such.

Whatever a thread is doing when the dashboard answers 401 (a heartbeat, a config refresh, the submission of a
report or of discovered hosts), every `except` clause between that call and the thread's own handler lets the
`DashboardAuthError` through at once.  The monitor below has one state for each step of such a handler; a program
surfaces when the monitor is alarmed exactly where the program has raised the authentication error.
-/
import CertWatch.AgentSystem
import CertWatch.ForeignErrors

namespace CertWatch

open CertWatch.Lib

variable {α β : Type}

/-! ## The monitor -/

/-- Where a thread stands: nothing to handle, answered 401, one flag set, or in its catch-all. -/
inductive AuthPhase where
  | calm
  | alarmed
  | flagged
  | crashed
  deriving DecidableEq, Repr

/-- A call in the agent's own name was answered 401. -/
def isAuthAnswer : (o : AgentOp) → Except PyExc o.Ret → Bool
  | .getConfig _, .ok resp => resp.status == 401
  | .heartbeat _, .ok resp => resp.status == 401
  | .queue (.submit _ _), .ok resp => resp.status == 401
  | .sync (.submit _), .ok resp => resp.status == 401
  | _, _ => false

/-- Where an answer takes a thread with nothing to handle. -/
def calmNext (o : AgentOp) (r : Except PyExc o.Ret) : AuthPhase :=
  if isAuthAnswer o r then .alarmed
  else match o with
    | .unhandledException _ => .crashed
    | _ => .calm

/-- A thread that is answered 401 sets the authentication flag next and the shutdown event after it; neither is
set otherwise, but for the shutdown event in a catch-all. -/
def authMonitor : Monitor agentSig PyExc AuthPhase where
  possible := Possible
  allows
    | .calm, .set .authError => False
    | .calm, .set .shutdown => False
    | .calm, _ => True
    | .alarmed, o => o = .set .authError
    | .flagged, o => o = .set .shutdown
    | .crashed, o => o = .set .shutdown
  next
    | .calm, o, r => calmNext o r
    | .alarmed, _, _ => .flagged
    | .flagged, _, _ => .calm
    | .crashed, _, _ => .calm
  mayHang q := q = .calm

/-! ## Surfacing -/

/-- Neither the authentication error nor the heartbeat thread's private class. -/
def Ordinary (x : Except PyExc α) : Prop := x ≠ .error shutdownRequested ∧ isAuthFailure x = false

/-- The monitor is alarmed exactly where the authentication error is in flight. -/
def Surfaced (q : AuthPhase) (x : Except PyExc α) : Prop :=
  (q = .alarmed ∧ isAuthFailure x = true) ∨ (q = .calm ∧ Ordinary x)

theorem exists_of_isAuthFailure {x : Except PyExc α} (h : isAuthFailure x = true) :
    ∃ e : DashboardError, x = .error (.dashboard e) ∧ e.kind = .auth := by
  cases x with
  | ok a => cases h
  | error e =>
    cases e with
    | dashboard e => exact ⟨e, rfl, beq_iff_eq.mp h⟩
    | _ => cases h

theorem isAuthFailure_error (e : PyExc) :
    isAuthFailure (.error e : Except PyExc α) = isAuthFailure (.error e : Except PyExc β) := by
  cases e <;> rfl

theorem Ordinary.error_cast {e : PyExc} (h : Ordinary (.error e : Except PyExc α)) :
    Ordinary (.error e : Except PyExc β) := by
  refine ⟨fun he => h.1 ?_, (isAuthFailure_error e).trans h.2⟩
  rw [Except.error.inj he]

theorem ordinary_ok (a : α) : Ordinary (.ok a : Except PyExc α) := ⟨nofun, rfl⟩

theorem Foreign.ordinary {x : Except PyExc α} (h : Foreign x) : Ordinary x := by
  cases x with
  | ok a => exact ordinary_ok a
  | error e =>
    have he := h e rfl
    refine ⟨fun hs => ?_, ?_⟩
    · rw [Except.error.inj hs] at he
      exact absurd he (by decide)
    · cases e with
      | dashboard e => cases he
      | _ => rfl

theorem Surfaced.ok {q : AuthPhase} {a : α} (h : Surfaced q (.ok a)) : q = .calm := by
  rcases h with ⟨-, h⟩ | ⟨h, -⟩
  · cases h
  · exact h

theorem Surfaced.error_cast {q : AuthPhase} {e : PyExc} (h : Surfaced q (.error e : Except PyExc α)) :
    Surfaced q (.error e : Except PyExc β) := by
  rcases h with ⟨hq, h⟩ | ⟨hq, h⟩
  · exact Or.inl ⟨hq, (isAuthFailure_error e).trans h⟩
  · exact Or.inr ⟨hq, h.error_cast⟩

section Rules

variable {S : Sig} {M : Monitor S PyExc AuthPhase}

/-- Started with nothing to handle, the program is alarmed exactly when it raises the authentication error. -/
def Surfaces (M : Monitor S PyExc AuthPhase) (p : Prog S PyExc α) : Prop := p.Obeys M Surfaced .calm

theorem surfaces_ret (a : α) : Surfaces M (.ret a : Prog S PyExc α) := Or.inr ⟨rfl, ordinary_ok a⟩

theorem surfaces_raise {e : PyExc} (h : Ordinary (.error e : Except PyExc α)) :
    Surfaces M (.raise e : Prog S PyExc α) := Or.inr ⟨rfl, h⟩

theorem Surfaces.bind {p : Prog S PyExc α} {f : α → Prog S PyExc β} (hp : Surfaces M p)
    (hf : ∀ a, Surfaces M (f a)) : Surfaces M (p.bind f) := by
  refine Prog.Obeys.bind hp (fun q a hq => ?_) fun q e hq => hq.error_cast
  rw [hq.ok]
  exact hf a

/-- A part whose exceptions are looked at: what follows may rely on them being ordinary unless it was
answered 401. -/
theorem Surfaces.attempt_bind {p : Prog S PyExc α} {f : Except PyExc α → Prog S PyExc β}
    {F : AuthPhase → Except PyExc β → Prop} (hp : Surfaces M p)
    (hcalm : ∀ x, Ordinary x → (f x).Obeys M F .calm)
    (halarmed : ∀ x, isAuthFailure x = true → (f x).Obeys M F .alarmed) : (p.attempt.bind f).Obeys M F .calm := by
  refine Prog.Obeys.attempt_bind hp fun q x hx => ?_
  rcases hx with ⟨rfl, hx⟩ | ⟨rfl, hx⟩
  · exact halarmed x hx
  · exact hcalm x hx

/-- Started with nothing to handle, the program ends with nothing to handle: none of its calls can be answered
401. -/
def Quiet (M : Monitor S PyExc AuthPhase) (p : Prog S PyExc α) : Prop :=
  p.Obeys M (fun q x => q = .calm ∧ Ordinary x) .calm

theorem Quiet.surfaces {p : Prog S PyExc α} (h : Quiet M p) : Surfaces M p := h.mono fun _ _ hx => Or.inr hx

theorem quiet_ret (a : α) : Quiet M (.ret a : Prog S PyExc α) := ⟨rfl, ordinary_ok a⟩

theorem quiet_raise {e : PyExc} (h : Ordinary (.error e : Except PyExc α)) :
    Quiet M (.raise e : Prog S PyExc α) := ⟨rfl, h⟩

theorem quiet_ofExcept {x : Except PyExc α} (h : Ordinary x) : Quiet M (Prog.ofExcept x) :=
  Prog.obeys_ofExcept.mpr ⟨rfl, h⟩

theorem Quiet.bind {p : Prog S PyExc α} {f : α → Prog S PyExc β} (hp : Quiet M p) (hf : ∀ a, Quiet M (f a)) :
    Quiet M (p.bind f) := by
  refine Prog.Obeys.bind hp (fun q a hq => ?_) fun q e hq => ⟨hq.1, hq.2.error_cast⟩
  rw [hq.1]
  exact hf a

theorem Quiet.tryCatch {p : Prog S PyExc α} {f : PyExc → Prog S PyExc α} (hp : Quiet M p)
    (hf : ∀ e, Ordinary (.error e : Except PyExc α) → Quiet M (f e)) : Quiet M (p.tryCatch f) := by
  refine Prog.obeys_tryCatch.mpr (hp.mono fun q x hx => ?_)
  cases x with
  | ok a => exact hx
  | error e =>
    obtain ⟨rfl, hord⟩ := hx
    exact hf e hord

/-- A quiet part whose exceptions are looked at. -/
theorem Quiet.attempt_bind {p : Prog S PyExc α} {f : Except PyExc α → Prog S PyExc β}
    {F : AuthPhase → Except PyExc β → Prop} (hp : Quiet M p)
    (hf : ∀ x, Ordinary x → (f x).Obeys M F .calm) : (p.attempt.bind f).Obeys M F .calm := by
  refine Prog.Obeys.attempt_bind hp fun q x hx => ?_
  rw [hx.1]
  exact hf x hx.2

/-- A call that no program has to handle as an authentication error. -/
def Plain (M : Monitor S PyExc AuthPhase) (o : S.Op) : Prop :=
  M.allows .calm o ∧ ∀ r, M.possible o r → M.next .calm o r = .calm ∧ Foreign r

theorem Plain.quiet {o : S.Op} (h : Plain M o) : Quiet M (Prog.perform o) := by
  refine Prog.obeys_perform.mpr ⟨h.1, fun r hr => ?_⟩
  obtain ⟨hnext, hforeign⟩ := h.2 r hr
  exact ⟨hnext, hforeign.ordinary⟩

/-! ## Requests -/

theorem handleResponse_surfaced {method path : String} {resp : HttpResponse} :
    Surfaced (if resp.status = 401 then .alarmed else .calm) (handleResponse method path resp) := by
  by_cases h2xx : 200 ≤ resp.status ∧ resp.status < 300
  · rw [if_neg (by omega), handleResponse, if_pos h2xx]
    cases resp.body with
    | json v => exact Or.inr ⟨rfl, ordinary_ok v⟩
    | notJson => exact Or.inr ⟨rfl, by rintro ⟨⟩, rfl⟩
  · obtain ⟨e, he, hkind⟩ := @handleResponse_error method path resp h2xx
    rw [he]
    by_cases h401 : resp.status = 401
    · rw [if_pos h401]
      rw [(errorKindOfStatus_eq_auth_iff _).mpr h401] at hkind
      refine Or.inl ⟨rfl, ?_⟩
      show (e.kind == .auth) = true
      rw [hkind]
      rfl
    · rw [if_neg h401]
      refine Or.inr ⟨rfl, by rintro ⟨⟩, ?_⟩
      show (e.kind == .auth) = false
      rw [hkind]
      exact beq_eq_false_iff_ne.mpr fun h => h401 ((errorKindOfStatus_eq_auth_iff _).mp h)

/-- What the monitor makes of a request to the dashboard. -/
def RequestAnswered (q : AuthPhase) : Except PyExc HttpResponse → Prop
  | .ok resp => q = if resp.status = 401 then .alarmed else .calm
  | .error e => q = .calm ∧ e.foreign = true

/-- **`_request`** raises the authentication error exactly for a 401. -/
theorem surfaces_request {method path : String} {send : Prog S PyExc HttpResponse}
    (h : send.Obeys M RequestAnswered .calm) : Surfaces M (request method path send) := by
  refine Prog.obeys_bind.mpr (Prog.obeys_tryCatch.mpr (h.mono fun q x hx => ?_))
  cases x with
  | ok resp =>
    obtain rfl := hx
    rw [Prog.catchObeys_ok, Prog.thenObeys_ok]
    exact Prog.obeys_ofExcept.mpr handleResponse_surfaced
  | error e =>
    obtain ⟨rfl, he⟩ := hx
    have hord : Ordinary (.error e : Except PyExc Json) := (foreign_error he).ordinary
    rw [Prog.catchObeys_error]
    cases e with
    | requests => exact Or.inr ⟨rfl, nofun, rfl⟩
    | _ => exact Or.inr ⟨rfl, hord⟩

end Rules

end CertWatch
