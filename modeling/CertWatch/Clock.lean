/-
# `CertWatch.Clock` — `utc_now_iso`, and why its texts sort by time.

The agent compares timestamps as strings, so what matters about `strftime("%Y-%m-%dT%H:%M:%SZ")` is its
order: two texts compare exactly as the two readings do after both are cut to whole seconds.
-/
import CertWatch.Lib.Calendar

namespace CertWatch

open CertWatch.Lib.Calendar

/-! ## The format -/

def secondsPerDay : Nat := 86400

/-- The first day that `%Y` prints with four digits. -/
def firstFourDigitDay : Nat := daysBeforeYear 1000

/-- The first day past the years that a `datetime` reaches. -/
def dayLimit : Nat := daysBeforeYear 10000

/-- The whole seconds of a clock reading in microseconds: `strftime` has no field below `%S`. -/
def wholeSeconds (us : Nat) : Nat := us / 1000000

/-- `%H:%M:%SZ` of a second of the day. -/
def timeChars (s : Nat) : List Char :=
  pad 2 (s / 3600) ++ ':' :: (pad 2 (s / 60 % 60) ++ ':' :: (pad 2 (s % 60) ++ ['Z']))

/-- `%Y-%m-%dT` of a date, followed by the rest of the text.  The C library that `strftime` calls pads the
month and the day, and leaves a year below 1000 as short as it is. -/
def dateChars (d : Date) (rest : List Char) : List Char :=
  Nat.toDigits 10 d.year ++ '-' :: (pad 2 d.month ++ '-' :: (pad 2 d.day ++ 'T' :: rest))

/-- `%Y-%m-%dT%H:%M:%SZ` of a count of seconds since the first instant of year 1. -/
def isoChars (s : Nat) : List Char :=
  dateChars (dateOfDay (s / secondsPerDay)) (timeChars (s % secondsPerDay))

/-- `utc_now_iso`, at a clock reading in microseconds. -/
def utcNowIso (us : Nat) : String := String.ofList (isoChars (wholeSeconds us))

example : utcNowIso 63842990401999999 = "2024-02-08T12:00:01Z" := by decide

/-! ## The order of the texts -/

theorem timeChars_lt_iff {s t : Nat} (hs : s < secondsPerDay) (ht : t < secondsPerDay) :
    timeChars s < timeChars t ↔ s < t := by
  unfold secondsPerDay at hs ht
  simp only [timeChars]
  rw [pad_append_lt_iff (by omega) (by omega), List.cons_lt_cons_iff,
    pad_append_lt_iff (by omega) (by omega), List.cons_lt_cons_iff,
    pad_append_lt_iff (by omega) (by omega)]
  have hirr : ¬ (['Z'] : List Char) < ['Z'] := List.lt_irrefl _
  have hc : ¬ (':' : Char) < ':' := by decide
  simp only [hirr, hc, and_false, or_false, false_or, true_and]
  omega

/-- The dates whose year `%Y` prints with four digits. -/
def FourDigits (d : Date) : Prop := 1000 ≤ d.year ∧ d.year < 10000

theorem FourDigits.toDigits_year {d : Date} (h : FourDigits d) : Nat.toDigits 10 d.year = pad 4 d.year :=
  toDigits_eq_pad h.1 h.2

theorem dateChars_lt_iff {a b : Date} (ha : FourDigits a) (hb : FourDigits b)
    (hboundA : a.month ≤ 12 ∧ a.day ≤ 31) (hboundB : b.month ≤ 12 ∧ b.day ≤ 31) (x y : List Char) :
    dateChars a x < dateChars b y ↔ a.Before b ∨ (a = b ∧ x < y) := by
  rw [dateChars, dateChars, ha.toDigits_year, hb.toDigits_year]
  obtain ⟨ya, ma, da⟩ := a
  obtain ⟨yb, mb, db⟩ := b
  simp only [FourDigits] at ha hb
  simp only at hboundA hboundB
  simp only [Date.Before, Date.mk.injEq]
  rw [pad_append_lt_iff (by omega) (by omega), List.cons_lt_cons_iff,
    pad_append_lt_iff (by omega) (by omega), List.cons_lt_cons_iff,
    pad_append_lt_iff (by omega) (by omega), List.cons_lt_cons_iff]
  have hc : ¬ ('-' : Char) < '-' := by decide
  have hT : ¬ ('T' : Char) < 'T' := by decide
  simp only [hc, hT, false_or, true_and]
  tauto

/-- A day of year `y` or later is not before the first day of `y`. -/
theorem daysBeforeYear_le_of_le {y : Nat} (hy : 1 ≤ y) {n : Nat} (h : y ≤ (dateOfDay n).year) :
    daysBeforeYear y ≤ n := by
  have hsum := yearDay_sum n
  have h' : y ≤ (yearDay n).1 := h
  rcases Nat.eq_or_lt_of_le h' with heq | hlt
  · rw [← heq] at hsum
    omega
  · have := daysBeforeYear_add_le hy hlt
    omega

/-- A day of an earlier year is before the first day of `y`. -/
theorem lt_daysBeforeYear_of_lt {y n : Nat} (h : (dateOfDay n).year < y) : n < daysBeforeYear y := by
  have hsum := yearDay_sum n
  have hday := yearDay_lt n
  have h' : (yearDay n).1 < y := h
  have := daysBeforeYear_add_le (yearDay_pos n) h'
  omega

theorem fourDigits_dateOfDay {n : Nat} (hlo : firstFourDigitDay ≤ n) (hhi : n < dayLimit) :
    FourDigits (dateOfDay n) := by
  constructor
  · by_contra hlt
    exact absurd (lt_daysBeforeYear_of_lt (Nat.lt_of_not_le hlt)) (Nat.not_lt.mpr hlo)
  · by_contra hge
    exact absurd (daysBeforeYear_le_of_le (by decide) (Nat.le_of_not_lt hge)) (Nat.not_le.mpr hhi)

/-- A second of a year that `%Y` prints with four digits. -/
def FourDigitSecond (s : Nat) : Prop :=
  firstFourDigitDay * secondsPerDay ≤ s ∧ s < dayLimit * secondsPerDay

theorem FourDigitSecond.fourDigits {s : Nat} (h : FourDigitSecond s) :
    FourDigits (dateOfDay (s / secondsPerDay)) := by
  have hpos : 0 < secondsPerDay := by decide
  refine fourDigits_dateOfDay ((Nat.le_div_iff_mul_le hpos).mpr h.1) (Nat.div_lt_of_lt_mul ?_)
  rw [Nat.mul_comm]
  exact h.2

/-- **Timestamp texts sort by time**: they compare as the whole seconds do. -/
theorem isoChars_lt_iff {s t : Nat} (hs : FourDigitSecond s) (ht : FourDigitSecond t) :
    isoChars s < isoChars t ↔ s < t := by
  have hpos : 0 < secondsPerDay := by decide
  rw [isoChars, isoChars,
    dateChars_lt_iff hs.fourDigits ht.fourDigits (dateOfDay_bounds _) (dateOfDay_bounds _),
    dateOfDay_before_iff, timeChars_lt_iff (Nat.mod_lt _ hpos) (Nat.mod_lt _ hpos)]
  -- the days decide, and on one day its seconds
  have hs' := Nat.div_add_mod s secondsPerDay
  have ht' := Nat.div_add_mod t secondsPerDay
  constructor
  · rintro (h | ⟨h, hlt⟩)
    · exact Nat.lt_of_div_lt_div h
    · have h' := dateOfDay_injective h
      rw [h'] at hs'
      omega
  · intro h
    rcases Nat.eq_or_lt_of_le (Nat.div_le_div_right (c := secondsPerDay) h.le) with heq | hlt
    · refine Or.inr ⟨by rw [heq], ?_⟩
      rw [heq] at hs'
      omega
    · exact Or.inl hlt

/-! ## Clock readings -/

/-- A reading of a wall clock, in microseconds since the first instant of year 1, in one of the years
that `%Y` prints with four digits. -/
structure Instant where
  us : Nat
  year_ge : daysBeforeYear 1000 * secondsPerDay ≤ wholeSeconds us
  year_lt : wholeSeconds us < dayLimit * secondsPerDay

/-- The text of a reading. -/
def Instant.iso (t : Instant) : String := utcNowIso t.us

/-- Two readings' texts compare as their whole seconds. -/
theorem Instant.iso_lt_iff (a b : Instant) : a.iso < b.iso ↔ wholeSeconds a.us < wholeSeconds b.us := by
  show (utcNowIso a.us).toList < (utcNowIso b.us).toList ↔ _
  rw [utcNowIso, utcNowIso, String.toList_ofList, String.toList_ofList]
  exact isoChars_lt_iff ⟨a.year_ge, a.year_lt⟩ ⟨b.year_ge, b.year_lt⟩

theorem utcNowIso_ne_empty (us : Nat) : utcNowIso us ≠ "" := by
  intro h
  have hlen := congrArg (fun s => s.toList.length) h
  simp [utcNowIso, isoChars, dateChars] at hlen

end CertWatch
