/-
# `CertWatch.Lib.Calendar` — the proleptic Gregorian calendar and fixed-width decimal fields.

A count of days becomes a year, a month and a day, and a count of seconds becomes six decimal fields.
Two facts carry every use of it: the fields of a later instant are lexicographically larger, across
every rollover and every month length, and fixed-width zero-padded numerals compare as character lists
exactly as the numbers do.  Together they say that a timestamp text sorts by time.
-/
import Mathlib.Data.List.Basic
import Mathlib.Tactic.Ring

namespace CertWatch.Lib.Calendar

/-! ## Years -/

/-- Leap years of the Gregorian calendar. -/
def isLeap (y : Nat) : Bool := decide (y % 4 = 0 ∧ (y % 100 ≠ 0 ∨ y % 400 = 0))

/-- Days before the first of January of year `y`, counted from the first of January of year 1. -/
def daysBeforeYear (y : Nat) : Nat := (y - 1) * 365 + (y - 1) / 4 - (y - 1) / 100 + (y - 1) / 400

def daysInYear (y : Nat) : Nat := if isLeap y then 366 else 365

/-- The year of a day count and the day within that year, both from the 400-, 100-, 4- and 1-year
cycles; the last day of a 4-year or a 400-year cycle is day 365 of its leap year. -/
def yearDay (n : Nat) : Nat × Nat :=
  let r₄₀₀ := n % 146097
  let r₁₀₀ := r₄₀₀ % 36524
  let r₄ := r₁₀₀ % 1461
  let y := n / 146097 * 400 + r₄₀₀ / 36524 * 100 + r₁₀₀ / 1461 * 4 + r₄ / 365 + 1
  if r₄ / 365 = 4 ∨ r₄₀₀ / 36524 = 4 then (y - 1, 365) else (y, r₄ % 365)

theorem daysBeforeYear_succ {y : Nat} (hy : 1 ≤ y) :
    daysBeforeYear (y + 1) = daysBeforeYear y + daysInYear y := by
  obtain ⟨z, rfl⟩ : ∃ z, y = z + 1 := ⟨y - 1, by omega⟩
  have hsum : daysBeforeYear (z + 1 + 1) = daysBeforeYear (z + 1) + 365 +
      ((z + 1) / 4 - z / 4) - ((z + 1) / 100 - z / 100) + ((z + 1) / 400 - z / 400) := by
    simp only [daysBeforeYear, Nat.add_sub_cancel]
    omega
  by_cases h4 : (z + 1) % 4 = 0
  · by_cases h100 : (z + 1) % 100 = 0
    · by_cases h400 : (z + 1) % 400 = 0
      · have : daysInYear (z + 1) = 366 := by simp [daysInYear, isLeap, h4, h400]
        omega
      · have : daysInYear (z + 1) = 365 := by simp [daysInYear, isLeap, h4, h100, h400]
        omega
    · have : daysInYear (z + 1) = 366 := by simp [daysInYear, isLeap, h4, h100]
      omega
  · have : daysInYear (z + 1) = 365 := by simp [daysInYear, isLeap, h4]
    omega

theorem daysBeforeYear_add_le {y z : Nat} (hy : 1 ≤ y) (h : y < z) :
    daysBeforeYear y + daysInYear y ≤ daysBeforeYear z := by
  induction z with
  | zero => omega
  | succ z ih =>
    rcases Nat.lt_succ_iff_lt_or_eq.mp h with hz | rfl
    · have := daysBeforeYear_succ (y := z) (by omega)
      have := ih hz
      omega
    · exact (daysBeforeYear_succ hy).ge

theorem yearDay_pos (n : Nat) : 1 ≤ (yearDay n).1 := by
  simp only [yearDay]
  split_ifs with h
  · rcases h with h | h <;> simp only <;> omega
  · simp only
    omega

/-- The cycles of a day count: `a` 400-year, `b` 100-year, `c` 4-year cycles, `d` years and `e` days;
only the last day of a 4-year cycle has `d = 4`, and only the last of a 400-year cycle has `b = 4`. -/
structure Cycles (n a b c d e : Nat) : Prop where
  sum : n = a * 146097 + b * 36524 + c * 1461 + d * 365 + e
  e_lt : e < 365
  d_le : d < 4 ∨ (d = 4 ∧ e = 0)
  c_le : c < 24 ∨ (c = 24 ∧ d < 4)
  b_le : b < 4 ∨ (b = 4 ∧ c = 0 ∧ d = 0 ∧ e = 0)
  yearDay_eq : yearDay n =
    if d = 4 ∨ b = 4 then (a * 400 + b * 100 + c * 4 + d, 365)
    else (a * 400 + b * 100 + c * 4 + d + 1, e)

theorem exists_cycles (n : Nat) : ∃ a b c d e, Cycles n a b c d e := by
  refine ⟨n / 146097, n % 146097 / 36524, n % 146097 % 36524 / 1461,
    n % 146097 % 36524 % 1461 / 365, n % 146097 % 36524 % 1461 % 365, ?_, ?_, ?_, ?_, ?_, rfl⟩
  all_goals omega

/-- The year and the day within it add up to the day count. -/
theorem yearDay_sum (n : Nat) : daysBeforeYear (yearDay n).1 + (yearDay n).2 = n := by
  obtain ⟨a, b, c, d, e, h⟩ := exists_cycles n
  obtain ⟨hsum, he, hd, hc, hb, hy⟩ := h
  rw [hy]
  split_ifs with hs
  · simp only [daysBeforeYear]
    omega
  · simp only [daysBeforeYear]
    omega

theorem yearDay_lt (n : Nat) : (yearDay n).2 < daysInYear (yearDay n).1 := by
  obtain ⟨a, b, c, d, e, h⟩ := exists_cycles n
  obtain ⟨hsum, he, hd, hc, hb, hy⟩ := h
  rw [hy]
  split_ifs with hs
  · have hleap : (a * 400 + b * 100 + c * 4 + d) % 4 = 0 ∧
        ((a * 400 + b * 100 + c * 4 + d) % 100 ≠ 0 ∨ (a * 400 + b * 100 + c * 4 + d) % 400 = 0) := by
      omega
    simp [daysInYear, isLeap, hleap]
  · have : 365 ≤ daysInYear (a * 400 + b * 100 + c * 4 + d + 1) := by
      unfold daysInYear
      split_ifs <;> omega
    simp only
    omega

/-- Day counts compare by year, then by the day within the year. -/
theorem lt_iff_yearDay (n m : Nat) :
    n < m ↔ (yearDay n).1 < (yearDay m).1 ∨
      ((yearDay n).1 = (yearDay m).1 ∧ (yearDay n).2 < (yearDay m).2) := by
  have hn := yearDay_sum n
  have hm := yearDay_sum m
  rcases Nat.lt_trichotomy (yearDay n).1 (yearDay m).1 with h | h | h
  · have := daysBeforeYear_add_le (yearDay_pos n) h
    have := yearDay_lt n
    constructor
    · exact fun _ => Or.inl h
    · intro _
      omega
  · rw [h] at hn
    constructor
    · intro _
      exact Or.inr ⟨h, by omega⟩
    · rintro (h' | ⟨-, h'⟩) <;> omega
  · have := daysBeforeYear_add_le (yearDay_pos m) h
    have := yearDay_lt m
    constructor
    · intro _
      omega
    · rintro (h' | ⟨h', -⟩) <;> omega

/-! ## Months -/

/-- The month lengths of a year. -/
def monthLengths (leap : Bool) : List Nat :=
  [31, if leap then 29 else 28, 31, 30, 31, 30, 31, 31, 30, 31, 30, 31]

/-- Find the month of a day within the remaining months, the next of them being month `m`; days count
from 1. -/
def findMonth : List Nat → Nat → Nat → Nat × Nat
  | [], m, d => (m, d + 1)
  | len :: lens, m, d => if d < len then (m, d + 1) else findMonth lens (m + 1) (d - len)

theorem findMonth_ge (lens : List Nat) (m d : Nat) : m ≤ (findMonth lens m d).1 := by
  induction lens generalizing m d with
  | nil => exact Nat.le_refl m
  | cons len lens ih =>
    rw [findMonth]
    split_ifs with h
    · exact Nat.le_refl m
    · exact (Nat.le_succ m).trans (ih (m + 1) (d - len))

/-- Later days have later months, or the same month and a later day. -/
theorem findMonth_lt (lens : List Nat) (m : Nat) {d e : Nat} (h : d < e) :
    (findMonth lens m d).1 < (findMonth lens m e).1 ∨
      ((findMonth lens m d).1 = (findMonth lens m e).1 ∧
        (findMonth lens m d).2 < (findMonth lens m e).2) := by
  induction lens generalizing m d e with
  | nil => exact Or.inr ⟨rfl, Nat.succ_lt_succ h⟩
  | cons len lens ih =>
    by_cases hd : d < len
    · by_cases he : e < len
      · simp only [findMonth, if_pos hd, if_pos he]
        exact Or.inr ⟨trivial, Nat.succ_lt_succ h⟩
      · left
        simp only [findMonth, if_pos hd, if_neg he]
        exact findMonth_ge lens (m + 1) (e - len)
    · have he : ¬ e < len := by omega
      simp only [findMonth, if_neg hd, if_neg he]
      exact ih (m + 1) (by omega)

theorem findMonth_bound (lens : List Nat) (m d : Nat) (hd : d < lens.sum)
    (hlens : ∀ len ∈ lens, len ≤ 31) :
    (findMonth lens m d).1 < m + lens.length ∧ (findMonth lens m d).2 ≤ 31 := by
  induction lens generalizing m d with
  | nil => simp at hd
  | cons len lens ih =>
    rw [List.sum_cons] at hd
    have hlen := hlens len List.mem_cons_self
    by_cases h : d < len
    · simp only [findMonth, if_pos h, List.length_cons]
      omega
    · simp only [findMonth, if_neg h, List.length_cons]
      obtain ⟨h₁, h₂⟩ := ih (m + 1) (d - len) (by omega)
        fun l hl => hlens l (List.mem_cons_of_mem len hl)
      omega

theorem monthLengths_sum (y : Nat) : (monthLengths (isLeap y)).sum = daysInYear y := by
  unfold daysInYear
  cases isLeap y <;> rfl

/-! ## Dates -/

/-- Year, month and day of a day count. -/
structure Date where
  year : Nat
  month : Nat
  day : Nat
  deriving DecidableEq, Repr

/-- The date of a day count. -/
def dateOfDay (n : Nat) : Date :=
  let (y, d) := yearDay n
  let (mo, da) := findMonth (monthLengths (isLeap y)) 1 d
  ⟨y, mo, da⟩

/-- Dates in calendar order. -/
def Date.Before (a b : Date) : Prop :=
  a.year < b.year ∨ (a.year = b.year ∧ (a.month < b.month ∨ (a.month = b.month ∧ a.day < b.day)))

theorem dateOfDay_before {n m : Nat} (h : n < m) : (dateOfDay n).Before (dateOfDay m) := by
  rcases (lt_iff_yearDay n m).mp h with hy | ⟨hy, hd⟩
  · exact Or.inl hy
  · right
    refine ⟨hy, ?_⟩
    simp only [dateOfDay]
    rw [hy]
    exact findMonth_lt _ 1 hd

theorem Date.Before.irrefl (a : Date) : ¬ a.Before a := by
  simp [Date.Before]

theorem Date.Before.asymm {a b : Date} (h : a.Before b) : ¬ b.Before a := by
  simp only [Date.Before] at h ⊢
  omega

/-- **Calendar order is day order**, across every rollover and every month length. -/
theorem dateOfDay_before_iff (n m : Nat) : (dateOfDay n).Before (dateOfDay m) ↔ n < m := by
  refine ⟨fun h => ?_, dateOfDay_before⟩
  rcases Nat.lt_trichotomy n m with hlt | rfl | hgt
  · exact hlt
  · exact absurd h (Date.Before.irrefl _)
  · exact absurd (dateOfDay_before hgt) h.asymm

theorem dateOfDay_injective {n m : Nat} (h : dateOfDay n = dateOfDay m) : n = m := by
  rcases Nat.lt_trichotomy n m with hlt | rfl | hgt
  · exact absurd (h ▸ dateOfDay_before hlt) (Date.Before.irrefl _)
  · rfl
  · exact absurd (h ▸ dateOfDay_before hgt) (Date.Before.irrefl _)

theorem dateOfDay_bounds (n : Nat) : (dateOfDay n).month ≤ 12 ∧ (dateOfDay n).day ≤ 31 := by
  have h := findMonth_bound (monthLengths (isLeap (yearDay n).1)) 1 (yearDay n).2
    (by rw [monthLengths_sum]; exact yearDay_lt n)
    (by cases isLeap (yearDay n).1 <;> decide)
  have hlen : (monthLengths (isLeap (yearDay n).1)).length = 12 := rfl
  simp only [hlen] at h
  simp only [dateOfDay]
  omega

/-! ## Fixed-width decimal fields -/

/-- The lowest `w` decimal digits of `n`, most significant first. -/
def pad : Nat → Nat → List Char
  | 0, _ => []
  | w + 1, n => pad w (n / 10) ++ [Nat.digitChar (n % 10)]

theorem pad_length (w n : Nat) : (pad w n).length = w := by
  induction w generalizing n with
  | zero => rfl
  | succ w ih => simp [pad, ih]

/-- A numeral of `w + 1` digits needs no padding to that width. -/
theorem toDigits_eq_pad {w n : Nat} (hlo : 10 ^ w ≤ n) (hhi : n < 10 ^ (w + 1)) :
    Nat.toDigits 10 n = pad (w + 1) n := by
  induction w generalizing n with
  | zero =>
    have hn : n < 10 := by simpa using hhi
    rw [Nat.toDigits_of_lt_base hn, pad, pad, Nat.mod_eq_of_lt hn, List.nil_append]
  | succ w ih =>
    have hpos : 0 < 10 ^ w := Nat.pow_pos (by decide)
    rw [Nat.pow_succ] at hlo hhi
    rw [Nat.toDigits_of_base_le (by decide) (by omega), ih (by omega) (by omega)]
    rfl

theorem digitChar_lt_iff {a b : Nat} (ha : a < 10) (hb : b < 10) :
    Nat.digitChar a < Nat.digitChar b ↔ a < b := by
  have key : ∀ a < 10, ∀ b < 10, (Nat.digitChar a < Nat.digitChar b ↔ a < b) := by decide
  exact key a ha b hb

theorem digitChar_inj {a b : Nat} (ha : a < 10) (hb : b < 10) :
    Nat.digitChar a = Nat.digitChar b ↔ a = b := by
  have key : ∀ a < 10, ∀ b < 10, (Nat.digitChar a = Nat.digitChar b ↔ a = b) := by decide
  exact key a ha b hb

/-- Lists of equal length compare by their front first. -/
theorem append_lt_append_iff {a b : List Char} (h : a.length = b.length) (x y : List Char) :
    a ++ x < b ++ y ↔ a < b ∨ (a = b ∧ x < y) := by
  induction a generalizing b with
  | nil =>
    have hb : b = [] := List.length_eq_zero_iff.mp h.symm
    subst hb
    simp
  | cons c a ih =>
    cases b with
    | nil => simp at h
    | cons d b =>
      simp only [List.length_cons, Nat.add_right_cancel_iff] at h
      simp only [List.cons_append, List.cons_lt_cons_iff, ih h, List.cons.injEq]
      constructor
      · rintro (hlt | ⟨rfl, hlt | ⟨rfl, hxy⟩⟩)
        · exact Or.inl (Or.inl hlt)
        · exact Or.inl (Or.inr ⟨rfl, hlt⟩)
        · exact Or.inr ⟨⟨rfl, rfl⟩, hxy⟩
      · rintro ((hlt | ⟨rfl, hlt⟩) | ⟨⟨rfl, rfl⟩, hxy⟩)
        · exact Or.inl hlt
        · exact Or.inr ⟨rfl, Or.inl hlt⟩
        · exact Or.inr ⟨rfl, Or.inr ⟨rfl, hxy⟩⟩

theorem pad_inj {w n m : Nat} (hn : n < 10 ^ w) (hm : m < 10 ^ w) : pad w n = pad w m ↔ n = m := by
  induction w generalizing n m with
  | zero => simp at hn hm; simp [hn, hm]
  | succ w ih =>
    have hn' : n / 10 < 10 ^ w := by rw [pow_succ] at hn; omega
    have hm' : m / 10 < 10 ^ w := by rw [pow_succ] at hm; omega
    have hlen : (pad w (n / 10)).length = (pad w (m / 10)).length := by rw [pad_length, pad_length]
    have hsplit : pad w (n / 10) ++ [Nat.digitChar (n % 10)] =
        pad w (m / 10) ++ [Nat.digitChar (m % 10)] ↔
        pad w (n / 10) = pad w (m / 10) ∧ Nat.digitChar (n % 10) = Nat.digitChar (m % 10) := by
      constructor
      · intro h
        have := List.append_inj h hlen
        simpa using this
      · rintro ⟨h₁, h₂⟩
        rw [h₁, h₂]
    rw [pad, pad, hsplit, ih hn' hm', digitChar_inj (by omega) (by omega)]
    omega

/-- Zero-padded numerals of one width compare as the numbers do. -/
theorem pad_lt_iff {w n m : Nat} (hn : n < 10 ^ w) (hm : m < 10 ^ w) :
    pad w n < pad w m ↔ n < m := by
  induction w generalizing n m with
  | zero => simp at hn hm; simp [hn, hm, pad]
  | succ w ih =>
    have hn' : n / 10 < 10 ^ w := by rw [pow_succ] at hn; omega
    have hm' : m / 10 < 10 ^ w := by rw [pow_succ] at hm; omega
    simp only [pad]
    rw [append_lt_append_iff (by rw [pad_length, pad_length]), ih hn' hm', pad_inj hn' hm',
      List.cons_lt_cons_iff, digitChar_lt_iff (by omega) (by omega)]
    constructor
    · rintro (h | ⟨h, h' | ⟨-, h'⟩⟩)
      · omega
      · omega
      · exact absurd h' (List.lt_irrefl [])
    · intro h
      by_cases hq : n / 10 = m / 10
      · exact Or.inr ⟨hq, Or.inl (by omega)⟩
      · exact Or.inl (by omega)

/-- A padded field decides the comparison unless the fields agree. -/
theorem pad_append_lt_iff {w n m : Nat} (hn : n < 10 ^ w) (hm : m < 10 ^ w) (x y : List Char) :
    pad w n ++ x < pad w m ++ y ↔ n < m ∨ (n = m ∧ x < y) := by
  rw [append_lt_append_iff (by rw [pad_length, pad_length]), pad_lt_iff hn hm, pad_inj hn hm]

end CertWatch.Lib.Calendar
