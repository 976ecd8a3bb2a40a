/-
# `CertWatch.Lib.Labels` — names made of labels, and patterns with a wildcard label.

A name is a list that a separator cuts into labels.  A pattern matches a name label by label, or is a wildcard
label in front of all the labels of the name but its first.  A matcher that works on the uncut lists decides the
same; a map that keeps which labels are empty, as letter case does, keeps a name from vanishing.
-/
import Mathlib.Data.List.DropRight

namespace CertWatch.Lib

variable {α : Type}

/-! ## Patterns -/

section

/-- The pattern is the name, or a wildcard label in place of the first of at least two labels. -/
def MatchesLabels (wildcard : List α) (pattern name : List (List α)) : Prop :=
  pattern = name ∨ 2 ≤ name.length ∧ pattern = wildcard :: name.tail

variable {wildcard : List α} {pattern name : List (List α)}

instance [DecidableEq α] : Decidable (MatchesLabels wildcard pattern name) :=
  inferInstanceAs (Decidable (_ ∨ _))

/-- A wildcard stands for exactly one label. -/
theorem MatchesLabels.length_eq (h : MatchesLabels wildcard pattern name) : pattern.length = name.length := by
  obtain rfl | ⟨hlength, rfl⟩ := h
  · rfl
  · rw [List.length_cons, List.length_tail]
    omega

theorem MatchesLabels.tail_eq (h : MatchesLabels wildcard pattern name) : pattern.tail = name.tail := by
  obtain rfl | ⟨-, rfl⟩ := h
  · rfl
  · rfl

/-- A first label that is not the whole wildcard matches only itself. -/
theorem MatchesLabels.head_eq (h : MatchesLabels wildcard pattern name) :
    pattern.head? = name.head? ∨ pattern.head? = some wildcard := by
  obtain rfl | ⟨-, rfl⟩ := h
  · exact .inl rfl
  · exact .inr rfl

end

section

variable [DecidableEq α] (sep : α)

/-! ## Cutting a name -/

/-- The labels of a name. -/
def labels (name : List α) : List (List α) := name.splitOn sep

theorem labels_ne_nil (name : List α) : labels sep name ≠ [] := List.splitOn_ne_nil sep name

theorem labels_injective : Function.Injective (labels sep) := by
  intro name name' h
  calc name = [sep].intercalate (labels sep name) := (List.intercalate_splitOn sep).symm
    _ = [sep].intercalate (labels sep name') := by rw [h]
    _ = name' := List.intercalate_splitOn sep

theorem labels_of_not_mem {name : List α} (h : sep ∉ name) : labels sep name = [name] :=
  List.splitOn_eq_singleton h

/-- The first label ends at the first separator. -/
theorem labels_append {label : List α} (h : sep ∉ label) (rest : List α) :
    labels sep (label ++ sep :: rest) = label :: labels sep rest :=
  List.splitOn_append_cons_self_of_not_mem h rest

/-- What comes after the first separator. -/
def afterFirst (name : List α) : List α := (name.dropWhile (· != sep)).tail

/-- A name with a separator is its first label, the separator and what comes after it. -/
theorem takeWhile_append_afterFirst {name : List α} (h : sep ∈ name) :
    name.takeWhile (· != sep) ++ sep :: afterFirst sep name = name := by
  have hdrop : name.dropWhile (· != sep) = sep :: afterFirst sep name := by
    cases hname : name.dropWhile (· != sep) with
    | nil => exact absurd (List.dropWhile_eq_nil_iff.mp hname sep h) (by simp)
    | cons a rest =>
      have ha := List.head_dropWhile_not (· != sep) (l := name) (by simp [hname])
      obtain rfl : a = sep := by simpa [hname] using ha
      simp [afterFirst, hname]
  rw [← hdrop, List.takeWhile_append_dropWhile]

theorem sep_not_mem_takeWhile (name : List α) : sep ∉ name.takeWhile (· != sep) := by
  intro h
  simpa using List.mem_takeWhile_imp h

/-- The labels after the first one are those of what comes after the first separator. -/
theorem tail_labels {name : List α} (h : sep ∈ name) : (labels sep name).tail = labels sep (afterFirst sep name) := by
  conv_lhs => rw [← takeWhile_append_afterFirst sep h]
  rw [labels_append sep (sep_not_mem_takeWhile sep name), List.tail_cons]

/-- A name has at least two labels exactly when it has a separator. -/
theorem two_le_length_labels_iff {name : List α} : 2 ≤ (labels sep name).length ↔ sep ∈ name := by
  constructor
  · intro h
    by_contra hnot
    rw [labels_of_not_mem sep hnot] at h
    simp at h
  · intro h
    rw [← takeWhile_append_afterFirst sep h, labels_append sep (sep_not_mem_takeWhile sep name), List.length_cons]
    have := List.length_pos_of_ne_nil (labels_ne_nil sep (afterFirst sep name))
    omega

/-- **The rule on uncut names**: equality, or the wildcard, a separator and what comes after the first one. -/
theorem matchesLabels_iff {wildcard pattern name : List α} (hwildcard : sep ∉ wildcard) :
    MatchesLabels wildcard (labels sep pattern) (labels sep name) ↔
      pattern = name ∨ sep ∈ name ∧ pattern = wildcard ++ sep :: afterFirst sep name := by
  unfold MatchesLabels
  rw [(labels_injective sep).eq_iff, two_le_length_labels_iff]
  refine or_congr_right (and_congr_right fun h => ?_)
  rw [tail_labels sep h, ← labels_append sep hwildcard, (labels_injective sep).eq_iff]

/-! ## Empty labels -/

/-- Some label is not empty exactly when something else than separators is there. -/
theorem exists_label_ne_nil_iff {name : List α} :
    (∃ label ∈ labels sep name, label ≠ []) ↔ ∃ a ∈ name, a ≠ sep := by
  induction name with
  | nil => simp [labels]
  | cons a name ih =>
    obtain ⟨label, rest, hlabels⟩ := List.exists_cons_of_ne_nil (labels_ne_nil sep name)
    have hcons : labels sep (a :: name) = if a == sep then [] :: labels sep name else (a :: label) :: rest := by
      have := List.splitOn_cons_eq_if_modifyHead (a := sep) a name
      rwa [← labels, ← labels, hlabels, List.modifyHead_cons, ← hlabels] at this
    by_cases ha : a = sep
    · subst ha
      rw [hcons, if_pos (by simp)]
      simpa using ih
    · simp [hcons, ha]

/-- The map keeps the number of labels and which of them are empty. -/
def KeepsLabels (f : List α → List α) : Prop :=
  ∀ name, (labels sep (f name)).map List.isEmpty = (labels sep name).map List.isEmpty

/-- A map of the elements that moves the separator alone to itself keeps the cuts. -/
theorem labels_map {f : α → α} (hf : ∀ a, f a = sep ↔ a = sep) (name : List α) :
    labels sep (name.map f) = (labels sep name).map (List.map f) := by
  induction name with
  | nil => rfl
  | cons a name ih =>
    unfold labels at ih ⊢
    rw [List.map_cons, List.splitOn_cons_eq_if_modifyHead, List.splitOn_cons_eq_if_modifyHead, ih]
    simp only [beq_iff_eq, hf a]
    split_ifs
    · rfl
    · cases name.splitOn sep with
      | nil => rfl
      | cons label rest => rfl

theorem keepsLabels_map {f : α → α} (hf : ∀ a, f a = sep ↔ a = sep) : KeepsLabels sep (List.map f) := by
  intro name
  rw [labels_map sep hf, List.map_map]
  exact List.map_congr_left fun label _ => List.isEmpty_map

section

variable {sep} {f : List α → List α}

theorem KeepsLabels.exists_ne_nil (h : KeepsLabels sep f) {name : List α}
    (hname : ∃ label ∈ labels sep name, label ≠ []) : ∃ label ∈ labels sep (f name), label ≠ [] := by
  obtain ⟨label, hmem, hne⟩ := hname
  have hfalse : false ∈ (labels sep (f name)).map List.isEmpty := by
    rw [h name]
    exact List.mem_map.mpr ⟨label, hmem, List.isEmpty_eq_false_iff.mpr hne⟩
  obtain ⟨label', hmem', hempty⟩ := List.mem_map.mp hfalse
  exact ⟨label', hmem', List.isEmpty_eq_false_iff.mp hempty⟩

theorem KeepsLabels.map_nil (h : KeepsLabels sep f) : f [] = [] := by
  have hnil : (labels sep (f [])).map List.isEmpty = [true] := h []
  obtain ⟨label, hlabels, hempty⟩ := List.map_eq_singleton_iff.mp hnil
  obtain rfl := List.isEmpty_iff.mp hempty
  exact labels_injective sep hlabels

end

/-! ## Separators at the end -/

/-- A name that has a label with something in it is not all separators. -/
theorem rdropWhile_ne_nil_iff {name : List α} :
    name.rdropWhile (· == sep) ≠ [] ↔ ∃ label ∈ labels sep name, label ≠ [] := by
  rw [exists_label_ne_nil_iff, ne_eq, List.rdropWhile_eq_nil_iff]
  simp

end

end CertWatch.Lib
