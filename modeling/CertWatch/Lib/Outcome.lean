/-
# `CertWatch.Lib.Outcome` — a program among surroundings that answer every call in one way.

When each call has one answer, a program has one outcome and one list of calls that it makes.  Code that
guards its calls by `except` clauses ends well exactly when every call it makes is answered within what the
clause around it tolerates; `Exact` is that statement, and the rules below compose it along the program.
-/
import CertWatch.Lib.Prog

namespace CertWatch.Lib.Prog

variable {S : Sig} {ε α β : Type} (h : (o : S.Op) → Except ε (S.Ret o))

/-! ## Outcomes and calls -/

/-- How the program ends; `none` says that it hangs. -/
def outcome : Prog S ε α → Option (Except ε α)
  | .ret a => some (.ok a)
  | .raise e => some (.error e)
  | .hang => none
  | .call o k => (k (h o)).outcome

/-- The calls that the program makes, in order. -/
def made : Prog S ε α → List S.Op
  | .call o k => o :: (k (h o)).made
  | _ => []

@[simp] theorem outcome_ret (a : α) : (ret a : Prog S ε α).outcome h = some (.ok a) := rfl

@[simp] theorem outcome_raise (e : ε) : (raise e : Prog S ε α).outcome h = some (.error e) := rfl

@[simp] theorem outcome_ofExcept (x : Except ε α) : (ofExcept x : Prog S ε α).outcome h = some x := by
  cases x <;> rfl

@[simp] theorem outcome_perform (o : S.Op) : (perform o : Prog S ε (S.Ret o)).outcome h = some (h o) :=
  outcome_ofExcept h (h o)

/-- What follows an outcome. -/
def followedBy (f : α → Prog S ε β) : Option (Except ε α) → Prog S ε β
  | some (.ok a) => f a
  | some (.error e) => .raise e
  | none => .hang

theorem outcome_bind (p : Prog S ε α) (f : α → Prog S ε β) :
    (p.bind f).outcome h = (followedBy f (p.outcome h)).outcome h := by
  induction p with
  | ret a => rfl
  | raise e => rfl
  | hang => rfl
  | call o k ih => exact ih (h o)

theorem made_bind (p : Prog S ε α) (f : α → Prog S ε β) :
    (p.bind f).made h = p.made h ++ (followedBy f (p.outcome h)).made h := by
  induction p with
  | ret a => rfl
  | raise e => rfl
  | hang => rfl
  | call o k ih =>
    show o :: ((k (h o)).bind f).made h = o :: ((k (h o)).made h ++ _)
    rw [ih (h o)]
    rfl

theorem outcome_attempt (p : Prog S ε α) : p.attempt.outcome h = (p.outcome h).map .ok := by
  induction p with
  | ret a => rfl
  | raise e => rfl
  | hang => rfl
  | call o k ih => exact ih (h o)

theorem made_attempt (p : Prog S ε α) : p.attempt.made h = p.made h := by
  induction p with
  | ret a => rfl
  | raise e => rfl
  | hang => rfl
  | call o k ih => exact congrArg (o :: ·) (ih (h o))

/-! ## What a program that returned has done -/

variable {h}

theorem outcome_bind_ok {p : Prog S ε α} {f : α → Prog S ε β} {b : β} :
    (p.bind f).outcome h = some (.ok b) ↔
      ∃ a, p.outcome h = some (.ok a) ∧ (f a).outcome h = some (.ok b) := by
  rw [outcome_bind]
  rcases p.outcome h with _ | _ | a
  · simp [followedBy, outcome]
  · simp [followedBy]
  · simp [followedBy]

theorem outcome_bind_error {p : Prog S ε α} {f : α → Prog S ε β} {e : ε} :
    (p.bind f).outcome h = some (.error e) ↔ p.outcome h = some (.error e) ∨
      ∃ a, p.outcome h = some (.ok a) ∧ (f a).outcome h = some (.error e) := by
  rw [outcome_bind]
  rcases p.outcome h with _ | _ | a
  · simp [followedBy, outcome]
  · simp [followedBy]
  · simp [followedBy]

/-- After a guarded part, the code looks at what the part ended with. -/
theorem outcome_attempt_bind_ok {p : Prog S ε α} {f : Except ε α → Prog S ε β} {b : β} :
    (p.attempt.bind f).outcome h = some (.ok b) ↔
      ∃ x, p.outcome h = some x ∧ (f x).outcome h = some (.ok b) := by
  rw [outcome_bind_ok]
  simp [outcome_attempt]

theorem mem_made_bind_left {p : Prog S ε α} {f : α → Prog S ε β} {o : S.Op} (ho : o ∈ p.made h) :
    o ∈ (p.bind f).made h := by
  rw [made_bind]
  exact List.mem_append_left _ ho

theorem mem_made_bind_right {p : Prog S ε α} {f : α → Prog S ε β} {o : S.Op} {a : α}
    (ha : p.outcome h = some (.ok a)) (ho : o ∈ (f a).made h) : o ∈ (p.bind f).made h := by
  rw [made_bind, ha]
  exact List.mem_append_right _ ho

variable (h)

/-! ## Which answers a program tolerates -/

/-- Every call that the program makes meets `T`. -/
def Within (T : S.Op → Prop) (p : Prog S ε α) : Prop := ∀ o ∈ p.made h, T o

/-- The program ends, and in this way. -/
def Ends (G : Except ε α → Prop) (p : Prog S ε α) : Prop := ∃ x, p.outcome h = some x ∧ G x

/-- The program ends in this way exactly when every call that it makes meets `T`. -/
def Exact (T : S.Op → Prop) (G : Except ε α → Prop) (p : Prog S ε α) : Prop := p.Within h T ↔ p.Ends h G

variable {h} {T : S.Op → Prop}

theorem within_bind {p : Prog S ε α} {f : α → Prog S ε β} :
    (p.bind f).Within h T ↔ p.Within h T ∧ (followedBy f (p.outcome h)).Within h T := by
  unfold Within
  rw [made_bind]
  exact List.forall_mem_append

theorem ends_bind {p : Prog S ε α} {f : α → Prog S ε β} {G : Except ε β → Prop} :
    (p.bind f).Ends h G ↔ (followedBy f (p.outcome h)).Ends h G := by
  unfold Ends
  rw [outcome_bind]

theorem ends_raise {e : ε} {G : Except ε α → Prop} : (raise e : Prog S ε α).Ends h G ↔ G (.error e) := by
  constructor
  · rintro ⟨x, hx, hG⟩
    obtain rfl := Option.some.inj hx
    exact hG
  · intro hG
    exact ⟨_, rfl, hG⟩

theorem ends_ret {a : α} {G : Except ε α → Prop} : (ret a : Prog S ε α).Ends h G ↔ G (.ok a) := by
  constructor
  · rintro ⟨x, hx, hG⟩
    obtain rfl := Option.some.inj hx
    exact hG
  · intro hG
    exact ⟨_, rfl, hG⟩

/-- What cannot end well after any value does not end well at all. -/
theorem not_ends_bind {p : Prog S ε α} {f : α → Prog S ε β} {G : Except ε β → Prop} (hG : ∀ e, ¬ G (.error e))
    (hf : ∀ a, ¬ (f a).Ends h G) : ¬ (p.bind f).Ends h G := by
  rw [ends_bind]
  intro hends
  cases hx : p.outcome h with
  | none =>
    rw [hx] at hends
    obtain ⟨x, hnone, -⟩ := hends
    cases hnone
  | some x =>
    rw [hx] at hends
    cases x with
    | error e => exact hG e (ends_raise.mp hends)
    | ok a => exact hf a hends

theorem exact_ret {a : α} {G : Except ε α → Prop} (hG : G (.ok a)) : Exact h T G (ret a) :=
  ⟨fun _ => ends_ret.mpr hG, fun _ _ => nofun⟩

theorem exact_raise {e : ε} {G : Except ε α → Prop} (hG : G (.error e)) : Exact h T G (raise e) :=
  ⟨fun _ => ends_raise.mpr hG, fun _ _ => nofun⟩

theorem ends_ofExcept {x : Except ε α} {G : Except ε α → Prop} :
    (ofExcept x : Prog S ε α).Ends h G ↔ G x := by
  cases x with
  | ok a => exact ends_ret
  | error e => exact ends_raise

theorem exact_ofExcept {x : Except ε α} {G : Except ε α → Prop} (hG : G x) : Exact h T G (ofExcept x) := by
  cases x with
  | ok a => exact exact_ret hG
  | error e => exact exact_raise hG

/-- One call: the program tolerates what `T` says of it. -/
theorem exact_perform {o : S.Op} {G : Except ε (S.Ret o) → Prop} (hT : T o ↔ G (h o)) :
    Exact h T G (perform o) := by
  have hmade : (perform o : Prog S ε (S.Ret o)).made h = [o] := by
    show o :: (ofExcept (h o) : Prog S ε (S.Ret o)).made h = [o]
    cases h o <;> rfl
  constructor
  · intro hw
    refine ⟨h o, outcome_perform h o, hT.mp (hw o ?_)⟩
    rw [hmade]
    exact List.mem_cons_self
  · rintro ⟨x, hx, hG⟩ o' ho'
    rw [outcome_perform] at hx
    obtain rfl := Option.some.inj hx
    rw [hmade] at ho'
    rw [List.mem_singleton.mp ho']
    exact hT.mpr hG

/-- One call and what follows its answer. -/
theorem exact_call {o : S.Op} {k : Except ε (S.Ret o) → Prog S ε α} {G : Except ε α → Prop}
    (hgood : T o → Exact h T G (k (h o))) (hbad : ¬ T o → ¬ (k (h o)).Ends h G) : Exact h T G (.call o k) := by
  constructor
  · intro hw
    exact (hgood (hw o List.mem_cons_self)).mp fun o' ho' => hw o' (List.mem_cons_of_mem o ho')
  · intro hends
    have hT : T o := by
      rcases Classical.em (T o) with hT | hnot
      · exact hT
      · exact absurd hends (hbad hnot)
    intro o' ho'
    rcases List.mem_cons.mp ho' with rfl | ho'
    · exact hT
    · exact (hgood hT).mpr hends o' ho'

/-- Sequencing: the first part is exact for `G`, the rest is wherever `G` holds, and where `G` fails the whole
does not end well. -/
theorem exact_bind {p : Prog S ε α} {f : α → Prog S ε β} {G : Except ε α → Prop} {G' : Except ε β → Prop}
    (hp : Exact h T G p) (hf : ∀ a, p.outcome h = some (.ok a) → G (.ok a) → Exact h T G' (f a))
    (hbad : ∀ a, p.outcome h = some (.ok a) → ¬ G (.ok a) → ¬ (f a).Ends h G')
    (herr : ∀ e, p.outcome h = some (.error e) → (G (.error e) ↔ G' (.error e))) :
    Exact h T G' (p.bind f) := by
  unfold Exact
  rw [within_bind, ends_bind]
  constructor
  · rintro ⟨hw, hrest⟩
    obtain ⟨x, hx, hG⟩ := hp.mp hw
    rw [hx] at hrest ⊢
    rcases x with e | a
    · exact ends_raise.mpr ((herr e hx).mp hG)
    · exact (hf a hx hG).mp hrest
  · intro hends
    cases hx : p.outcome h with
    | none =>
      rw [hx] at hends
      obtain ⟨x, hnone, -⟩ := hends
      cases hnone
    | some x =>
      rw [hx] at hends
      rcases x with e | a
      · exact ⟨hp.mpr ⟨_, hx, (herr e hx).mpr (ends_raise.mp hends)⟩, fun _ => nofun⟩
      · rcases Classical.em (G (.ok a)) with hG | hnot
        · exact ⟨hp.mpr ⟨_, hx, hG⟩, (hf a hx hG).mpr hends⟩
        · exact absurd hends (hbad a hx hnot)

/-- `try ... except` around a part: its exceptions are values to what follows. -/
theorem exact_attempt {p : Prog S ε α} {G : Except ε α → Prop} (hp : Exact h T G p) :
    Exact h T (fun x => ∃ y, x = .ok y ∧ G y) p.attempt := by
  unfold Exact Within Ends
  rw [made_attempt, outcome_attempt]
  constructor
  · intro hw
    obtain ⟨x, hx, hG⟩ := hp.mp hw
    exact ⟨.ok x, by rw [hx]; rfl, x, rfl, hG⟩
  · rintro ⟨y, hy, x, rfl, hG⟩
    obtain ⟨x', hx', heq⟩ := Option.map_eq_some_iff.mp hy
    obtain rfl := Except.ok.inj heq
    exact hp.mpr ⟨x', hx', hG⟩

/-- A part whose exceptions are looked at: exact for `G`, and so is what follows wherever `G` holds. -/
theorem exact_attempt_bind {p : Prog S ε α} {f : Except ε α → Prog S ε β} {G : Except ε α → Prop}
    {G' : Except ε β → Prop} (hp : Exact h T G p)
    (hf : ∀ x, p.outcome h = some x → G x → Exact h T G' (f x))
    (hbad : ∀ x, p.outcome h = some x → ¬ G x → ¬ (f x).Ends h G') : Exact h T G' (p.attempt.bind f) := by
  have hout : ∀ x, p.attempt.outcome h = some (.ok x) → p.outcome h = some x := by
    intro x hx
    rw [outcome_attempt] at hx
    obtain ⟨y, hy, heq⟩ := Option.map_eq_some_iff.mp hx
    rw [hy, Except.ok.inj heq]
  apply exact_bind (exact_attempt hp)
  · rintro x hx ⟨y, hy, hG⟩
    obtain rfl := Except.ok.inj hy
    exact hf x (hout x hx) hG
  · intro x hx hnot
    apply hbad x (hout x hx)
    intro hG
    exact hnot ⟨x, rfl, hG⟩
  · intro e he
    rw [outcome_attempt] at he
    obtain ⟨x, -, hx⟩ := Option.map_eq_some_iff.mp he
    cases hx

end CertWatch.Lib.Prog
