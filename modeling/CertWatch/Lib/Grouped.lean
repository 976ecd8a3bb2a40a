/-
# `CertWatch.Lib.Grouped` — values grouped by key, as a dictionary of lists holds them.

Pairs go in one by one: a value joins the list of its key, and a new key gets a list at the end.  What stands under
a key is then the values of all its pairs, in their order.
-/
import Mathlib.Data.List.Induction

namespace CertWatch.Lib

variable {κ ν : Type} [DecidableEq κ]

/-- Append a value to the list of its key. -/
def addValue : List (κ × List ν) → κ → ν → List (κ × List ν)
  | [], k, v => [(k, [v])]
  | (k', vs) :: groups, k, v => if k' = k then (k', vs ++ [v]) :: groups else (k', vs) :: addValue groups k v

/-- The values by key. -/
def grouped (pairs : List (κ × ν)) : List (κ × List ν) := pairs.foldl (fun groups p => addValue groups p.1 p.2) []

/-- What stands under a key. -/
def valuesUnder : List (κ × List ν) → κ → List ν
  | [], _ => []
  | (k', vs) :: groups, k => if k' = k then vs else valuesUnder groups k

theorem valuesUnder_addValue (groups : List (κ × List ν)) (k k' : κ) (v : ν) :
    valuesUnder (addValue groups k v) k' = valuesUnder groups k' ++ if k = k' then [v] else [] := by
  induction groups with
  | nil => by_cases h : k = k' <;> simp [addValue, valuesUnder, h]
  | cons group groups ih =>
    obtain ⟨k₁, vs⟩ := group
    by_cases hk : k₁ = k
    · subst hk
      by_cases h : k₁ = k' <;> simp [addValue, valuesUnder, h]
    · by_cases h : k₁ = k'
      · subst h
        simp [addValue, valuesUnder, hk, Ne.symm hk]
      · simp [addValue, valuesUnder, hk, h, ih]

/-- **Under each key stand the values of its pairs**, in order. -/
theorem valuesUnder_grouped (pairs : List (κ × ν)) (k : κ) :
    valuesUnder (grouped pairs) k = (pairs.filter fun p => p.1 = k).map Prod.snd := by
  induction pairs using List.reverseRecOn with
  | nil => rfl
  | append_singleton pairs p ih =>
    rw [grouped, List.foldl_append, List.foldl_cons, List.foldl_nil, valuesUnder_addValue, ← grouped, ih,
      List.filter_append, List.map_append]
    by_cases h : p.1 = k <;> simp [h]

theorem addValue_ne_nil (groups : List (κ × List ν)) (k : κ) (v : ν) : addValue groups k v ≠ [] := by
  cases groups with
  | nil => simp [addValue]
  | cons group groups =>
    unfold addValue
    split_ifs
    · simp
    · simp

theorem grouped_eq_nil_iff {pairs : List (κ × ν)} : grouped pairs = [] ↔ pairs = [] := by
  constructor
  · intro h
    induction pairs using List.reverseRecOn with
    | nil => rfl
    | append_singleton pairs p _ =>
      rw [grouped, List.foldl_append] at h
      exact absurd h (addValue_ne_nil _ _ _)
  · rintro rfl
    rfl

end CertWatch.Lib
