/-
# `CertWatch.Lib.Scan` — scanners: reading a value off the front of a list.

A scanner takes a value from the front of a list and leaves the rest.  It misses where the list starts with none of
its texts, so that another scanner may be tried there; and it may raise an exception, which ends everything.  Three
laws are enough to speak of a text format.  A scanner `Reads` a text when it takes exactly that text off whatever may
follow it.  It is `Steady` when nothing that is appended later changes what it has taken.  It `Shortens` when it leaves
less than it was given.

Two more are about exceptions.  A scanner is `Firm` when nothing that is appended later takes an exception back.  It
is `Stricter` than another when it does the same wherever it does not raise.

A format that nests is a step from scanners to scanners, one for each part of the format, and the format itself is
that step repeated often enough.  A step is `Founded` when it only asks its parts about smaller inputs; then the
format is a fixed point of the step, and what the step keeps holds of the format.
-/
import Mathlib.Data.List.Basic
import Mathlib.Data.List.TakeWhile

namespace CertWatch.Lib

/-- Takes a value off the front of a list, or misses (`none`), or raises. -/
abbrev Scanner (ε σ α : Type) := StateT (List σ) (Except (Option ε)) α

namespace Scanner

variable {ε σ α β : Type}

/-! ## The laws -/

/-- The scanner takes the text off every list that goes on with something that may follow. -/
def Reads (p : Scanner ε σ α) (follows : List σ → Prop) (text : List σ) (a : α) : Prop :=
  ∀ rest, follows rest → p (text ++ rest) = .ok (a, rest)

/-- What was taken before something that ends it is taken whatever is appended. -/
def Steady (p : Scanner ε σ α) (ends : List σ → Prop) : Prop :=
  ∀ s a r, p s = .ok (a, r) → ends r → ∀ t, p (s ++ t) = .ok (a, r ++ t)

/-- The rest is no longer than the list. -/
def Shrinks (p : Scanner ε σ α) : Prop := ∀ s a r, p s = .ok (a, r) → r.length ≤ s.length

/-- The rest is shorter than the list. -/
def Shortens (p : Scanner ε σ α) : Prop := ∀ s a r, p s = .ok (a, r) → r.length < s.length

theorem Shortens.shrinks {p : Scanner ε σ α} (h : p.Shortens) : p.Shrinks := fun s a r hp => Nat.le_of_lt (h s a r hp)

theorem Steady.mono {p : Scanner ε σ α} {ends ends' : List σ → Prop} (h : p.Steady ends)
    (himp : ∀ r, ends' r → ends r) : p.Steady ends' := fun s a r hp hr t => h s a r hp (himp r hr) t

/-! ## Sequences -/

theorem bind_apply (p : Scanner ε σ α) (f : α → Scanner ε σ β) (s : List σ) :
    (p >>= f) s = (p s).bind fun x => f x.1 x.2 := rfl

theorem bind_of_ok {p : Scanner ε σ α} {f : α → Scanner ε σ β} {s r : List σ} {a : α} (h : p s = .ok (a, r)) :
    (p >>= f) s = f a r := by
  rw [bind_apply, h]
  rfl

theorem bind_of_error {p : Scanner ε σ α} {f : α → Scanner ε σ β} {s : List σ} {x : Option ε} (h : p s = .error x) :
    (p >>= f) s = .error x := by
  rw [bind_apply, h]
  rfl

theorem map_eq_bind (g : α → β) (p : Scanner ε σ α) : g <$> p = p >>= fun a => pure (g a) := rfl

theorem bind_eq_ok {p : Scanner ε σ α} {f : α → Scanner ε σ β} {s r : List σ} {b : β} :
    (p >>= f) s = .ok (b, r) ↔ ∃ a r', p s = .ok (a, r') ∧ f a r' = .ok (b, r) := by
  constructor
  · intro h
    cases hp : p s with
    | error x => cases (bind_of_error hp).symm.trans h
    | ok x => exact ⟨x.1, x.2, rfl, (bind_of_ok (a := x.1) hp).symm.trans h⟩
  · rintro ⟨a, r', hp, hf⟩
    exact (bind_of_ok hp).trans hf

theorem map_eq_ok {p : Scanner ε σ α} {g : α → β} {s r : List σ} {b : β} (h : (g <$> p) s = .ok (b, r)) :
    ∃ a, p s = .ok (a, r) ∧ b = g a := by
  rw [map_eq_bind] at h
  obtain ⟨a, r', hp, h⟩ := bind_eq_ok.mp h
  obtain ⟨rfl, rfl⟩ := Prod.mk.inj (Except.ok.inj h)
  exact ⟨a, hp, rfl⟩

theorem bind_congr {p p' : Scanner ε σ α} {f f' : α → Scanner ε σ β} {s : List σ} (hp : p s = p' s)
    (hf : ∀ a r, p s = .ok (a, r) → f a r = f' a r) : (p >>= f) s = (p' >>= f') s := by
  rw [bind_apply, bind_apply, ← hp]
  cases h : p s with
  | error x => rfl
  | ok x => exact hf x.1 x.2 h

theorem map_eq_map {p p' : Scanner ε σ α} {s : List σ} (hp : p s = p' s) (g : α → β) : (g <$> p) s = (g <$> p') s := by
  rw [map_eq_bind, map_eq_bind]
  exact bind_congr hp fun _ _ _ => rfl

theorem reads_pure (follows : List σ → Prop) (a : α) : (pure a : Scanner ε σ α).Reads follows [] a := fun _ _ => rfl

theorem Reads.bind {p : Scanner ε σ α} {f : α → Scanner ε σ β} {follows follows' : List σ → Prop} {text text' : List σ}
    {a : α} {b : β} (hp : p.Reads follows text a) (hf : (f a).Reads follows' text' b)
    (hfollows : ∀ rest, follows' rest → follows (text' ++ rest)) :
    (p >>= f).Reads follows' (text ++ text') b := by
  intro rest hrest
  rw [List.append_assoc, bind_of_ok (hp _ (hfollows rest hrest))]
  exact hf rest hrest

theorem Reads.mono {p : Scanner ε σ α} {follows follows' : List σ → Prop} {text : List σ} {a : α}
    (h : p.Reads follows text a) (himp : ∀ rest, follows' rest → follows rest) : p.Reads follows' text a :=
  fun rest hrest => h rest (himp rest hrest)

theorem Reads.map {p : Scanner ε σ α} {follows : List σ → Prop} {text : List σ} {a : α}
    (hp : p.Reads follows text a) (g : α → β) : (g <$> p).Reads follows text (g a) := by
  intro rest hrest
  rw [map_eq_bind, bind_of_ok (hp rest hrest)]
  rfl

theorem steady_pure (ends : List σ → Prop) (a : α) : (pure a : Scanner ε σ α).Steady ends := by
  intro s a' r h _ t
  obtain ⟨rfl, rfl⟩ := Prod.mk.inj (Except.ok.inj h)
  rfl

theorem Steady.bind {p : Scanner ε σ α} {f : α → Scanner ε σ β} {ends ends' : List σ → Prop} (hp : p.Steady ends)
    (hf : ∀ a, (f a).Steady ends')
    (hends : ∀ a s b r, f a s = .ok (b, r) → ends' r → ends s) : (p >>= f).Steady ends' := by
  intro s b r h hr t
  obtain ⟨a, r', hpa, hfb⟩ := bind_eq_ok.mp h
  rw [bind_of_ok (hp s a r' hpa (hends a r' b r hfb hr) t)]
  exact hf a r' b r hfb hr t

theorem Steady.map {p : Scanner ε σ α} {ends : List σ → Prop} (hp : p.Steady ends) (g : α → β) :
    (g <$> p).Steady ends := by
  rw [map_eq_bind]
  refine hp.bind (fun a => steady_pure ends _) ?_
  intro a s b r h hr
  obtain ⟨-, rfl⟩ := Prod.mk.inj (Except.ok.inj h)
  exact hr

theorem shrinks_pure (a : α) : (pure a : Scanner ε σ α).Shrinks := by
  intro s a' r h
  obtain ⟨-, rfl⟩ := Prod.mk.inj (Except.ok.inj h)
  exact Nat.le_refl _

theorem Shrinks.bind {p : Scanner ε σ α} {f : α → Scanner ε σ β} (hp : p.Shrinks) (hf : ∀ a, (f a).Shrinks) :
    (p >>= f).Shrinks := by
  intro s b r h
  obtain ⟨a, r', hpa, hfb⟩ := bind_eq_ok.mp h
  exact Nat.le_trans (hf a r' b r hfb) (hp s a r' hpa)

theorem Shortens.bind {p : Scanner ε σ α} {f : α → Scanner ε σ β} (hp : p.Shortens) (hf : ∀ a, (f a).Shrinks) :
    (p >>= f).Shortens := by
  intro s b r h
  obtain ⟨a, r', hpa, hfb⟩ := bind_eq_ok.mp h
  exact Nat.lt_of_le_of_lt (hf a r' b r hfb) (hp s a r' hpa)

theorem Shortens.bind_right {p : Scanner ε σ α} {f : α → Scanner ε σ β} (hp : p.Shrinks) (hf : ∀ a, (f a).Shortens) :
    (p >>= f).Shortens := by
  intro s b r h
  obtain ⟨a, r', hpa, hfb⟩ := bind_eq_ok.mp h
  exact Nat.lt_of_lt_of_le (hf a r' b r hfb) (hp s a r' hpa)

theorem Shortens.map {p : Scanner ε σ α} (hp : p.Shortens) (g : α → β) : (g <$> p).Shortens := by
  rw [map_eq_bind]
  exact hp.bind fun a => shrinks_pure _

/-! ## Missing, choosing, putting back -/

/-- The list starts with none of the texts. -/
def miss : Scanner ε σ α := fun _ => .error none

theorem steady_miss (ends : List σ → Prop) : (miss : Scanner ε σ α).Steady ends := by
  rintro s a r ⟨⟩

theorem shortens_miss : (miss : Scanner ε σ α).Shortens := by
  rintro s a r ⟨⟩

theorem steady_ite {c : Prop} [Decidable c] {p q : Scanner ε σ α} {ends : List σ → Prop} (hp : p.Steady ends)
    (hq : q.Steady ends) : (if c then p else q).Steady ends := by
  split_ifs
  exacts [hp, hq]

theorem shrinks_ite {c : Prop} [Decidable c] {p q : Scanner ε σ α} (hp : p.Shrinks) (hq : q.Shrinks) :
    (if c then p else q).Shrinks := by
  split_ifs
  exacts [hp, hq]

/-- The scanner, with an item put back in front of what is left. -/
def unread (c : σ) (p : Scanner ε σ α) : Scanner ε σ α := fun s => p (c :: s)

theorem Steady.unread {p : Scanner ε σ α} {ends : List σ → Prop} (hp : p.Steady ends) (c : σ) :
    (unread c p).Steady ends := fun s a r h hr t => hp (c :: s) a r h hr t

theorem Shortens.unread {p : Scanner ε σ α} (hp : p.Shortens) (c : σ) : (unread c p).Shrinks := fun s a r h =>
  Nat.le_of_lt_succ (hp (c :: s) a r h)

/-! ## One item, a given text, an optional text -/

/-- The list starts with an item of the class. -/
def Starts (P : σ → Bool) (s : List σ) : Prop := ∃ c ∈ s.head?, P c = true

theorem Starts.append {P : σ → Bool} {s : List σ} (h : Starts P s) (t : List σ) : Starts P (s ++ t) := by
  obtain ⟨c, hc, hP⟩ := h
  refine ⟨c, ?_, hP⟩
  rw [List.head?_append, Option.mem_def.mp hc]
  rfl

theorem starts_cons {P : σ → Bool} {c : σ} {s : List σ} : Starts P (c :: s) ↔ P c = true := by
  simp [Starts]

theorem Starts.ne_nil {P : σ → Bool} {s : List σ} (h : Starts P s) : s ≠ [] := by
  rintro rfl
  obtain ⟨c, hc, -⟩ := h
  cases hc

theorem Starts.mono {P Q : σ → Bool} {s : List σ} (h : Starts P s) (himp : ∀ c, P c = true → Q c = true) :
    Starts Q s := by
  obtain ⟨c, hc, hP⟩ := h
  exact ⟨c, hc, himp c hP⟩

/-- One item of a class. -/
def item (P : σ → Bool) : Scanner ε σ σ
  | [] => .error none
  | c :: r => if P c then .ok (c, r) else .error none

/-- A given text. -/
def exactly [DecidableEq σ] (w : List σ) : Scanner ε σ Unit := fun s => match s.dropPrefix? w with
  | some r => .ok ((), r)
  | none => .error none

/-- The second scanner where the first one misses. -/
def orElse (p q : Scanner ε σ α) : Scanner ε σ α := fun s => match p s with
  | .error none => q s
  | outcome => outcome

/-- What the scanner takes, or nothing where it misses. -/
def attempt (p : Scanner ε σ (List σ)) : Scanner ε σ (List σ) := orElse p (pure [])

variable {P : σ → Bool}

theorem item_eq_ok {s r : List σ} {c : σ} :
    (item P : Scanner ε σ σ) s = .ok (c, r) ↔ s = c :: r ∧ P c = true := by
  cases s with
  | nil => simp [item]
  | cons c' r' =>
    cases h : P c' with
    | true =>
      simp only [item, h, if_true, Except.ok.injEq, Prod.mk.injEq, List.cons.injEq]
      constructor
      · rintro ⟨rfl, rfl⟩
        exact ⟨⟨rfl, rfl⟩, h⟩
      · exact And.left
    | false =>
      simp only [item, h, List.cons.injEq]
      constructor
      · rintro ⟨⟩
      · rintro ⟨⟨rfl, rfl⟩, hc⟩
        exact absurd (h.symm.trans hc) Bool.false_ne_true

theorem item_eq_miss {s : List σ} :
    (item P : Scanner ε σ σ) s = .error none ↔ ∀ c ∈ s.head?, P c = false := by
  cases s with
  | nil => simp [item]
  | cons c r => simp [item]

theorem reads_item {c : σ} (hc : P c = true) : (item P : Scanner ε σ σ).Reads (fun _ => True) [c] c := fun _ _ =>
  item_eq_ok.mpr ⟨rfl, hc⟩

/-- One item, and what is read behind it. -/
theorem reads_item_bind {f : σ → Scanner ε σ α} {follows : List σ → Prop} {text : List σ} {c : σ} {a : α}
    (hc : P c = true) (hf : (f c).Reads follows text a) : (item P >>= f).Reads follows (c :: text) a :=
  (reads_item hc).bind hf fun _ _ => trivial

theorem steady_item : (item P : Scanner ε σ σ).Steady fun _ => True := by
  intro s c r h _ t
  obtain ⟨rfl, hc⟩ := item_eq_ok.mp h
  exact item_eq_ok.mpr ⟨rfl, hc⟩

theorem shortens_item : (item P : Scanner ε σ σ).Shortens := by
  intro s c r h
  obtain ⟨rfl, -⟩ := item_eq_ok.mp h
  exact Nat.lt_succ_self _

/-- A scanner that starts with an item of a class misses where another item stands. -/
theorem bind_item_eq_miss {Q : σ → Bool} {f : σ → Scanner ε σ α} {s : List σ} (h : Starts Q s)
    (hPQ : ∀ c, Q c = true → P c = false) (t : List σ) : (item P >>= f) (s ++ t) = .error none := by
  obtain ⟨c, hc, hQ⟩ := h.append t
  have hmiss : (item P : Scanner ε σ σ) (s ++ t) = .error none := by
    rw [item_eq_miss, Option.mem_def.mp hc]
    rintro c' ⟨⟩
    exact hPQ c hQ
  exact bind_of_error hmiss

theorem exactly_eq_ok [DecidableEq σ] {w s r : List σ} {u : Unit} :
    (exactly w : Scanner ε σ Unit) s = .ok (u, r) ↔ s = w ++ r := by
  have hdrop : s.dropPrefix? w = some r ↔ s = w ++ r := by
    rw [List.dropPrefix?_eq_some_iff]
    constructor
    · rintro ⟨w', rfl, hw⟩
      rw [eq_of_beq hw]
    · rintro rfl
      exact ⟨w, rfl, beq_self_eq_true w⟩
  rw [← hdrop, exactly]
  cases s.dropPrefix? w with
  | none => simp
  | some r' => simp

theorem reads_exactly [DecidableEq σ] (w : List σ) :
    (exactly w : Scanner ε σ Unit).Reads (fun _ => True) w () := fun _ _ => exactly_eq_ok.mpr rfl

theorem steady_exactly [DecidableEq σ] (w : List σ) : (exactly w : Scanner ε σ Unit).Steady fun _ => True := by
  intro s u r h _ t
  rw [exactly_eq_ok.mp h, List.append_assoc]
  exact exactly_eq_ok.mpr rfl

theorem shortens_exactly [DecidableEq σ] {w : List σ} (hw : w ≠ []) : (exactly w : Scanner ε σ Unit).Shortens := by
  intro s u r h
  have hpos := List.length_pos_iff.mpr hw
  rw [exactly_eq_ok.mp h, List.length_append]
  omega

theorem orElse_eq_ok {p q : Scanner ε σ α} {s r : List σ} {a : α} :
    orElse p q s = .ok (a, r) ↔ p s = .ok (a, r) ∨ p s = .error none ∧ q s = .ok (a, r) := by
  unfold orElse
  cases h : p s with
  | error x => cases x <;> simp
  | ok x => simp

theorem orElse_of_miss {p q : Scanner ε σ α} {s : List σ} (h : p s = .error none) : orElse p q s = q s := by
  rw [orElse, h]

theorem attempt_eq_ok {p : Scanner ε σ (List σ)} {s r a : List σ} :
    attempt p s = .ok (a, r) ↔ p s = .ok (a, r) ∨ p s = .error none ∧ a = [] ∧ r = s := by
  rw [attempt, orElse_eq_ok]
  refine or_congr_right (and_congr_right fun _ => ⟨fun h => ?_, ?_⟩)
  · obtain ⟨rfl, rfl⟩ := Prod.mk.inj (Except.ok.inj h)
    exact ⟨rfl, rfl⟩
  · rintro ⟨rfl, rfl⟩
    rfl

theorem Reads.attempt {p : Scanner ε σ (List σ)} {follows : List σ → Prop} {text a : List σ}
    (hp : p.Reads follows text a) : (attempt p).Reads follows text a := fun rest hrest =>
  attempt_eq_ok.mpr (.inl (hp rest hrest))

/-- Nothing is taken where the scanner cannot start. -/
theorem reads_attempt_nil {p : Scanner ε σ (List σ)} {follows : List σ → Prop}
    (h : ∀ rest, follows rest → p rest = .error none) : (attempt p).Reads follows [] [] := fun rest hrest =>
  attempt_eq_ok.mpr (.inr ⟨h rest hrest, rfl, rfl⟩)

theorem Steady.attempt {p : Scanner ε σ (List σ)} {ends : List σ → Prop} (hp : p.Steady ends)
    (h : ∀ s, p s = .error none → ends s → ∀ t, p (s ++ t) = .error none) : (attempt p).Steady ends := by
  intro s a r hs hr t
  rcases attempt_eq_ok.mp hs with htaken | ⟨hmiss, rfl, rfl⟩
  · exact attempt_eq_ok.mpr (.inl (hp s a r htaken hr t))
  · exact attempt_eq_ok.mpr (.inr ⟨h _ hmiss hr t, rfl, rfl⟩)

/-- One item or none. -/
theorem steady_attempt_item :
    (attempt ((fun c => [c]) <$> (item P : Scanner ε σ σ))).Steady (· ≠ []) := by
  refine ((steady_item.map _).mono fun _ _ => trivial).attempt ?_
  intro s hmiss hne t
  cases s with
  | nil => exact absurd rfl hne
  | cons c s =>
    cases hc : P c with
    | true =>
      simp only [map_eq_bind, bind_apply, item, hc] at hmiss
      cases hmiss
    | false =>
      simp only [map_eq_bind, bind_apply, item, hc, List.cons_append]
      rfl

theorem Shrinks.attempt {p : Scanner ε σ (List σ)} (hp : p.Shrinks) : (attempt p).Shrinks := by
  intro s a r hs
  rcases attempt_eq_ok.mp hs with htaken | ⟨-, -, rfl⟩
  · exact hp s a r htaken
  · exact Nat.le_refl _

/-! ## Runs of one class -/

/-- The longest front of a class ends at an item outside it. -/
theorem takeWhile_append_of_stop {P : σ → Bool} {w rest : List σ} (hw : ∀ c ∈ w, P c = true)
    (hrest : ∀ c ∈ rest.head?, P c = false) :
    (w ++ rest).takeWhile P = w ∧ (w ++ rest).dropWhile P = rest := by
  have hempty : rest.takeWhile P = [] ∧ rest.dropWhile P = rest := by
    cases rest with
    | nil => exact ⟨rfl, rfl⟩
    | cons c rest =>
      have hc : P c = false := hrest c rfl
      exact ⟨List.takeWhile_cons_of_neg (by simp [hc]), List.dropWhile_cons_of_neg (by simp [hc])⟩
  rw [List.takeWhile_append_of_pos hw, List.dropWhile_append_of_pos hw, hempty.1, hempty.2, List.append_nil]
  exact ⟨rfl, rfl⟩

/-- A run that has ended stays as it is. -/
theorem takeWhile_append_of_ended {P : σ → Bool} {s t : List σ} (h : s.dropWhile P ≠ []) :
    (s ++ t).takeWhile P = s.takeWhile P ∧ (s ++ t).dropWhile P = s.dropWhile P ++ t := by
  induction s with
  | nil => exact absurd rfl h
  | cons c s ih =>
    cases hc : P c with
    | true =>
      rw [List.dropWhile_cons_of_pos hc] at h
      obtain ⟨htake, hdrop⟩ := ih h
      rw [List.cons_append, List.takeWhile_cons_of_pos hc, List.takeWhile_cons_of_pos hc,
        List.dropWhile_cons_of_pos hc, List.dropWhile_cons_of_pos hc, htake, hdrop]
      exact ⟨rfl, rfl⟩
    | false =>
      have hneg : ¬ P c = true := by rw [hc]; exact Bool.false_ne_true
      rw [List.cons_append, List.takeWhile_cons_of_neg hneg, List.takeWhile_cons_of_neg hneg,
        List.dropWhile_cons_of_neg hneg, List.dropWhile_cons_of_neg hneg]
      exact ⟨rfl, rfl⟩

/-- The longest front of a class. -/
def run (P : σ → Bool) : Scanner ε σ (List σ) := fun s => .ok (s.takeWhile P, s.dropWhile P)

theorem reads_run {w : List σ} (hw : ∀ c ∈ w, P c = true) :
    (run P : Scanner ε σ (List σ)).Reads (fun rest => ∀ c ∈ rest.head?, P c = false) w w := by
  intro rest hrest
  obtain ⟨htake, hdrop⟩ := takeWhile_append_of_stop hw hrest
  exact congrArg Except.ok (Prod.ext htake hdrop)

theorem steady_run : (run P : Scanner ε σ (List σ)).Steady (· ≠ []) := by
  intro s a r h hr t
  obtain ⟨rfl, rfl⟩ := Prod.mk.inj (Except.ok.inj h)
  obtain ⟨htake, hdrop⟩ := takeWhile_append_of_ended (t := t) hr
  exact congrArg Except.ok (Prod.ext htake hdrop)

theorem shrinks_run : (run P : Scanner ε σ (List σ)).Shrinks := by
  intro s a r h
  obtain ⟨rfl, rfl⟩ := Prod.mk.inj (Except.ok.inj h)
  exact (List.dropWhile_suffix P).length_le

/-! ## The next item that is not skipped -/

/-- The first item outside a class that is skipped. -/
def next (skips : σ → Bool) : Scanner ε σ σ := fun s => match s.dropWhile skips with
  | [] => .error none
  | c :: r => .ok (c, r)

variable {skips : σ → Bool}

theorem next_eq_ok {s r : List σ} {c : σ} :
    (next skips : Scanner ε σ σ) s = .ok (c, r) ↔ s.dropWhile skips = c :: r := by
  unfold next
  cases s.dropWhile skips with
  | nil => simp
  | cons c' r' => simp

/-- Skipped items in front do not matter. -/
theorem next_append {w : List σ} (hw : ∀ c ∈ w, skips c = true) (s : List σ) :
    (next skips : Scanner ε σ σ) (w ++ s) = next skips s := by
  unfold next
  rw [List.dropWhile_append_of_pos hw]

theorem reads_next {w : List σ} {c : σ} (hw : ∀ c ∈ w, skips c = true) (hc : skips c = false) :
    (next skips : Scanner ε σ σ).Reads (fun _ => True) (w ++ [c]) c := by
  intro rest _
  rw [List.append_assoc, next_append hw]
  exact next_eq_ok.mpr (List.dropWhile_cons_of_neg (by simp [hc]))

/-- An item behind what is skipped, and what is read behind it. -/
theorem reads_next_bind {f : σ → Scanner ε σ α} {follows : List σ → Prop} {w text : List σ} {c : σ} {a : α}
    (hw : ∀ c ∈ w, skips c = true) (hc : skips c = false) (hf : (f c).Reads follows text a) :
    (next skips >>= f).Reads follows (w ++ c :: text) a := by
  rw [← List.singleton_append, ← List.append_assoc]
  exact (reads_next hw hc).bind hf fun _ _ => trivial

/-- The first item, and what is read behind it. -/
theorem reads_head_bind {f : σ → Scanner ε σ α} {follows : List σ → Prop} {text : List σ} {c : σ} {a : α}
    (hc : skips c = false) (hf : (f c).Reads follows text a) : (next skips >>= f).Reads follows (c :: text) a :=
  reads_next_bind (w := []) (by simp) hc hf

theorem steady_next : (next skips : Scanner ε σ σ).Steady fun _ => True := by
  intro s c r h _ t
  rw [next_eq_ok] at h ⊢
  have hended := (takeWhile_append_of_ended (P := skips) (t := t) (by rw [h]; exact List.cons_ne_nil c r)).2
  rw [hended, h, List.cons_append]

theorem shortens_next : (next skips : Scanner ε σ σ).Shortens := by
  intro s c r h
  have hle := (List.dropWhile_suffix (l := s) skips).length_le
  rw [next_eq_ok.mp h, List.length_cons] at hle
  exact hle

/-! ## Exceptions -/

/-- The value, or its exception. -/
def ofExcept (x : Except ε α) : Scanner ε σ α := fun s => match x with
  | .ok a => .ok (a, s)
  | .error e => .error (some e)

theorem ofExcept_eq_ok {x : Except ε α} {s r : List σ} {a : α} :
    ofExcept x s = .ok (a, r) ↔ x = .ok a ∧ s = r := by
  cases x <;> simp [ofExcept]

theorem ofExcept_eq_raise {x : Except ε α} {s : List σ} {e : ε} :
    ofExcept x s = .error (some e) ↔ x = .error e := by
  cases x <;> simp [ofExcept]

theorem steady_ofExcept (ends : List σ → Prop) (x : Except ε α) : (ofExcept x : Scanner ε σ α).Steady ends := by
  intro s a r h _ t
  obtain ⟨hx, rfl⟩ := ofExcept_eq_ok.mp h
  exact ofExcept_eq_ok.mpr ⟨hx, rfl⟩

theorem shrinks_ofExcept (x : Except ε α) : (ofExcept x : Scanner ε σ α).Shrinks := by
  intro s a r h
  rw [(ofExcept_eq_ok.mp h).2]

theorem bind_eq_raise {p : Scanner ε σ α} {f : α → Scanner ε σ β} {s : List σ} {e : ε} :
    (p >>= f) s = .error (some e) ↔
      p s = .error (some e) ∨ ∃ a r, p s = .ok (a, r) ∧ f a r = .error (some e) := by
  cases h : p s with
  | error x => simp [bind_of_error h]
  | ok x =>
    rw [bind_of_ok (a := x.1) h, or_iff_right nofun]
    refine ⟨fun hf => ⟨x.1, x.2, rfl, hf⟩, ?_⟩
    rintro ⟨a, r, hx, hf⟩
    obtain ⟨rfl, rfl⟩ := Prod.mk.inj (Except.ok.inj hx)
    exact hf

theorem orElse_eq_raise {p q : Scanner ε σ α} {s : List σ} {e : ε} :
    orElse p q s = .error (some e) ↔ p s = .error (some e) ∨ p s = .error none ∧ q s = .error (some e) := by
  unfold orElse
  cases h : p s with
  | error x => cases x <;> simp
  | ok x => simp

/-- The scanner raises nothing. -/
def Raiseless (p : Scanner ε σ α) : Prop := ∀ s e, p s ≠ .error (some e)

theorem raiseless_pure (a : α) : (pure a : Scanner ε σ α).Raiseless := by
  rintro s e ⟨⟩

theorem raiseless_miss : (miss : Scanner ε σ α).Raiseless := by
  rintro s e ⟨⟩

theorem raiseless_item : (item P : Scanner ε σ σ).Raiseless := by
  intro s e h
  cases s with
  | nil => cases h
  | cons c s =>
    change (if P c = true then .ok (c, s) else .error none : Except (Option ε) (σ × List σ)) = _ at h
    split_ifs at h
    cases h

theorem raiseless_run : (run P : Scanner ε σ (List σ)).Raiseless := by
  rintro s e ⟨⟩

theorem raiseless_exactly [DecidableEq σ] (w : List σ) : (exactly w : Scanner ε σ Unit).Raiseless := by
  intro s e h
  unfold exactly at h
  cases hdrop : s.dropPrefix? w with
  | none => rw [hdrop] at h; cases h
  | some r => rw [hdrop] at h; cases h

theorem raiseless_next : (next skips : Scanner ε σ σ).Raiseless := by
  intro s e h
  unfold next at h
  cases hdrop : s.dropWhile skips with
  | nil => rw [hdrop] at h; cases h
  | cons c r => rw [hdrop] at h; cases h

/-- What a sequence raises, if its end raises nothing, its start raises. -/
theorem raise_of_bind {p : Scanner ε σ α} {f : α → Scanner ε σ β} {s : List σ} {e : ε} (hf : ∀ a, (f a).Raiseless)
    (h : (p >>= f) s = .error (some e)) : p s = .error (some e) := by
  rcases bind_eq_raise.mp h with h | ⟨a, r, -, h⟩
  · exact h
  · exact absurd h (hf a r e)

theorem Raiseless.bind {p : Scanner ε σ α} {f : α → Scanner ε σ β} (hp : p.Raiseless) (hf : ∀ a, (f a).Raiseless) :
    (p >>= f).Raiseless := fun s e h => hp s e (raise_of_bind hf h)

theorem Raiseless.map {p : Scanner ε σ α} (hp : p.Raiseless) (g : α → β) : (g <$> p).Raiseless :=
  hp.bind fun a => raiseless_pure (g a)

theorem raiseless_ite {c : Prop} [Decidable c] {p q : Scanner ε σ α} (hp : p.Raiseless) (hq : q.Raiseless) :
    (if c then p else q).Raiseless := by
  split_ifs
  exacts [hp, hq]

theorem Raiseless.unread {p : Scanner ε σ α} (hp : p.Raiseless) (c : σ) : (unread c p).Raiseless := fun s =>
  hp (c :: s)

theorem Raiseless.eq_miss {p : Scanner ε σ α} (hp : p.Raiseless) {s : List σ} (h : ∀ a r, p s ≠ .ok (a, r)) :
    p s = .error none := by
  cases hps : p s with
  | ok x => exact absurd hps (h x.1 x.2)
  | error x =>
    cases x with
    | none => rfl
    | some e => exact absurd hps (hp s e)

/-- An attempt takes something or nothing. -/
theorem Raiseless.attempt_ok {p : Scanner ε σ (List σ)} (hp : p.Raiseless) (s : List σ) :
    ∃ a r, Scanner.attempt p s = .ok (a, r) := by
  cases h : p s with
  | ok x => exact ⟨x.1, x.2, attempt_eq_ok.mpr (.inl h)⟩
  | error x =>
    cases x with
    | none => exact ⟨[], s, attempt_eq_ok.mpr (.inr ⟨h, rfl, rfl⟩)⟩
    | some e => exact absurd h (hp s e)

/-- What is raised is raised whatever is appended. -/
def Firm (p : Scanner ε σ α) : Prop := ∀ s e, p s = .error (some e) → ∀ t, p (s ++ t) = .error (some e)

theorem Raiseless.firm {p : Scanner ε σ α} (hp : p.Raiseless) : p.Firm := fun s e h => absurd h (hp s e)

theorem Firm.bind {p : Scanner ε σ α} {f : α → Scanner ε σ β} {ends : List σ → Prop} (hp : p.Firm)
    (hsteady : p.Steady ends) (hf : ∀ a, (f a).Firm) (hends : ∀ a s e, f a s = .error (some e) → ends s) :
    (p >>= f).Firm := by
  intro s e h t
  rcases bind_eq_raise.mp h with h | ⟨a, r, hpa, hfa⟩
  · exact bind_of_error (hp s e h t)
  · rw [bind_of_ok (hsteady s a r hpa (hends a r e hfa) t)]
    exact hf a r e hfa t

theorem Firm.bind_raiseless {p : Scanner ε σ α} {f : α → Scanner ε σ β} (hp : p.Firm) (hf : ∀ a, (f a).Raiseless) :
    (p >>= f).Firm := fun s e h t => bind_of_error (hp s e (raise_of_bind hf h) t)

theorem Firm.map {p : Scanner ε σ α} (hp : p.Firm) (g : α → β) : (g <$> p).Firm :=
  hp.bind_raiseless fun a => raiseless_pure (g a)

theorem firm_ite {c : Prop} [Decidable c] {p q : Scanner ε σ α} (hp : p.Firm) (hq : q.Firm) :
    (if c then p else q).Firm := by
  split_ifs
  exacts [hp, hq]

theorem Firm.unread {p : Scanner ε σ α} (hp : p.Firm) (c : σ) : (unread c p).Firm := fun s => hp (c :: s)

/-- The scanner does the same as the other one wherever it does not raise. -/
def Stricter (p q : Scanner ε σ α) : Prop := ∀ s, (∃ e, p s = .error (some e)) ∨ p s = q s

theorem Stricter.refl (p : Scanner ε σ α) : p.Stricter p := fun _ => .inr rfl

theorem stricter_ofExcept {x y : Except ε α} (h : (∃ e, x = .error e) ∨ x = y) :
    (ofExcept x : Scanner ε σ α).Stricter (ofExcept y) := by
  intro s
  rcases h with ⟨e, rfl⟩ | rfl
  exacts [.inl ⟨e, rfl⟩, .inr rfl]

theorem Stricter.bind {p q : Scanner ε σ α} {f g : α → Scanner ε σ β} (hp : p.Stricter q)
    (hf : ∀ a, (f a).Stricter (g a)) : (p >>= f).Stricter (q >>= g) := by
  intro s
  rcases hp s with ⟨e, h⟩ | h
  · exact .inl ⟨e, bind_of_error h⟩
  · cases hps : p s with
    | error x => exact .inr ((bind_of_error hps).trans (bind_of_error (h.symm.trans hps)).symm)
    | ok x =>
      rw [bind_of_ok (a := x.1) hps, bind_of_ok (a := x.1) (h.symm.trans hps)]
      exact hf x.1 x.2

theorem Stricter.map {p q : Scanner ε σ α} (hp : p.Stricter q) (g : α → β) : (g <$> p).Stricter (g <$> q) := by
  rw [map_eq_bind, map_eq_bind]
  exact hp.bind fun a => .refl _

theorem stricter_ite {c : Prop} [Decidable c] {p p' q q' : Scanner ε σ α} (hp : p.Stricter p') (hq : q.Stricter q') :
    (if c then p else q).Stricter (if c then p' else q') := by
  split_ifs
  exacts [hp, hq]

theorem Stricter.unread {p q : Scanner ε σ α} (hp : p.Stricter q) (c : σ) : (unread c p).Stricter (unread c q) :=
  fun s => hp (c :: s)

/-- Only where the first choice misses does the second one matter. -/
theorem Stricter.orElse {p q q' : Scanner ε σ α} (hq : q.Stricter q') : (orElse p q).Stricter (orElse p q') := by
  intro s
  unfold Scanner.orElse
  cases p s with
  | ok x => exact .inr rfl
  | error x =>
    cases x with
    | none => exact hq s
    | some e => exact .inr rfl

/-! ## Repeated steps -/

variable {ι : Type} {R : ι → Type}

/-- A scanner for each part of a format. -/
abbrev Parts (ε σ : Type) (R : ι → Type) := (i : ι) → Scanner ε σ (R i)

/-- The step, repeated on scanners that miss. -/
def repeated (step : Parts ε σ R → Parts ε σ R) : Nat → Parts ε σ R
  | 0 => fun _ => miss
  | n + 1 => step (repeated step n)

/-- The format of a step: as many repetitions as the size of the input asks for. -/
def fix (step : Parts ε σ R → Parts ε σ R) (size : ι → List σ → Nat) : Parts ε σ R :=
  fun i s => repeated step (size i s + 1) i s

/-- The step takes something off its input before it is asked again about the same part. -/
structure Founded (step : Parts ε σ R → Parts ε σ R) (size : ι → List σ → Nat) : Prop where
  shortens : ∀ parts : Parts ε σ R, (∀ i, (parts i).Shortens) → ∀ i, (step parts i).Shortens
  smaller : ∀ {parts parts' : Parts ε σ R} {i : ι} {s : List σ}, (∀ j, (parts j).Shortens) →
    (∀ j s', size j s' < size i s → parts j s' = parts' j s') → step parts i s = step parts' i s

variable {step : Parts ε σ R → Parts ε σ R} {size : ι → List σ → Nat}

/-- What a step keeps, and missing has, every repetition has. -/
theorem repeated_induction {motive : Parts ε σ R → Prop} (misses : motive fun _ => miss)
    (keeps : ∀ parts, motive parts → motive (step parts)) (n : Nat) : motive (repeated step n) := by
  induction n with
  | zero => exact misses
  | succ n ih => exact keeps _ ih

theorem Founded.shortens_repeated (h : Founded step size) (n : Nat) (i : ι) : (repeated step n i).Shortens :=
  repeated_induction (motive := fun parts => ∀ i, (parts i).Shortens) (fun _ => shortens_miss) h.shortens n i

/-- Any number of repetitions above the size of the input does the same. -/
theorem Founded.repeated_eq (h : Founded step size) {n m : Nat} {i : ι} {s : List σ} (hn : size i s < n)
    (hm : size i s < m) : repeated step n i s = repeated step m i s := by
  induction n generalizing m i s with
  | zero => exact absurd hn (Nat.not_lt_zero _)
  | succ n ih =>
    cases m with
    | zero => exact absurd hm (Nat.not_lt_zero _)
    | succ m =>
      refine h.smaller (h.shortens_repeated n) fun j s' hlt => ih ?_ ?_
      · omega
      · omega

theorem Founded.fix_eq_repeated (h : Founded step size) {n : Nat} {i : ι} {s : List σ} (hn : size i s < n) :
    fix step size i s = repeated step n i s := h.repeated_eq (Nat.lt_succ_self _) hn

/-- For two inputs there is one number of repetitions that does. -/
theorem Founded.fix_eq_repeated_both (h : Founded step size) (i : ι) (s s' : List σ) :
    ∃ n, fix step size i s = repeated step n i s ∧ fix step size i s' = repeated step n i s' :=
  ⟨max (size i s) (size i s') + 1, h.fix_eq_repeated (Nat.lt_succ_of_le (Nat.le_max_left _ _)),
    h.fix_eq_repeated (Nat.lt_succ_of_le (Nat.le_max_right _ _))⟩

/-- **The format is a fixed point of its step.** -/
theorem Founded.fix_eq (h : Founded step size) (i : ι) : fix step size i = step (fix step size) i := by
  funext s
  refine h.smaller (h.shortens_repeated _) fun j s' hlt => ?_
  exact (h.fix_eq_repeated hlt).symm

/-- What a step keeps of its parts' results holds of the format's results. -/
theorem fix_result {good : (i : ι) → R i → Prop}
    (keeps : ∀ parts : Parts ε σ R, (∀ i s a r, parts i s = .ok (a, r) → good i a) →
      ∀ i s a r, step parts i s = .ok (a, r) → good i a)
    {i : ι} {s : List σ} {a : R i} {r : List σ} (hs : fix step size i s = .ok (a, r)) : good i a :=
  repeated_induction (motive := fun parts => ∀ i s a r, parts i s = .ok (a, r) → good i a)
    (fun _ _ _ _ hmiss => by cases hmiss) keeps (size i s + 1) i s a r hs

/-- A format is as steady as its step. -/
theorem Founded.steady_fix (h : Founded step size) {ends : ι → List σ → Prop}
    (keeps : ∀ parts : Parts ε σ R, (∀ i, (parts i).Steady (ends i)) → ∀ i, (step parts i).Steady (ends i)) (i : ι) :
    (fix step size i).Steady (ends i) := by
  intro s a r hs hr t
  obtain ⟨n, heq, heq'⟩ := h.fix_eq_repeated_both i s (s ++ t)
  have hsteady : (repeated step n i).Steady (ends i) :=
    repeated_induction (motive := fun parts => ∀ i, (parts i).Steady (ends i)) (fun i => steady_miss (ends i))
      keeps n i
  rw [heq] at hs
  rw [heq']
  exact hsteady s a r hs hr t

/-- What a format raises is raised whatever is appended, if its step keeps both that and steadiness. -/
theorem Founded.firm_fix (h : Founded step size) {ends : ι → List σ → Prop}
    (steady : ∀ parts : Parts ε σ R, (∀ i, (parts i).Steady (ends i)) → ∀ i, (step parts i).Steady (ends i))
    (keeps : ∀ parts : Parts ε σ R, (∀ i, (parts i).Steady (ends i)) → (∀ i, (parts i).Firm) →
      ∀ i, (step parts i).Firm) (i : ι) : (fix step size i).Firm := by
  intro s e hs t
  obtain ⟨n, heq, heq'⟩ := h.fix_eq_repeated_both i s (s ++ t)
  have hfirm : (repeated step n i).Firm :=
    (repeated_induction (motive := fun parts => (∀ i, (parts i).Steady (ends i)) ∧ ∀ i, (parts i).Firm)
      ⟨fun i => steady_miss (ends i), fun i => raiseless_miss.firm⟩
      (fun parts hparts => ⟨steady parts hparts.1, keeps parts hparts.1 hparts.2⟩) n).2 i
  rw [heq] at hs
  rw [heq']
  exact hfirm s e hs t

/-- A format is stricter where its step is. -/
theorem stricter_fix {step' : Parts ε σ R → Parts ε σ R}
    (keeps : ∀ parts parts' : Parts ε σ R, (∀ i, (parts i).Stricter (parts' i)) →
      ∀ i, (step parts i).Stricter (step' parts' i)) (i : ι) : (fix step size i).Stricter (fix step' size i) := by
  have hrepeated : ∀ n i, (repeated step n i).Stricter (repeated step' n i) := by
    intro n
    induction n with
    | zero => exact fun i => .refl _
    | succ n ih => exact keeps _ _ ih
  exact fun s => hrepeated (size i s + 1) i s

end Scanner

end CertWatch.Lib
