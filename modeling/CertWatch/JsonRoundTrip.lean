/-
# `CertWatch.JsonRoundTrip` — what `json.dump` writes, `json.load` reads.

A document is a value whose dicts have each key once, whose floats are floats and whose integers have at most 4300
digits.  In either style its text is read back as the document itself, with the keys in order where the style sorts
them; and whatever is read is a document.
-/
import CertWatch.JsonTokens
import Mathlib.Algebra.Group.Nat.Defs
import Mathlib.Data.List.Forall2

namespace CertWatch

open CertWatch.Lib CertWatch.Lib.Scanner

/-! ## Documents -/

namespace Json

mutual
/-- The property holds of the value and of everything in it. -/
def Each (p : Json → Prop) : Json → Prop
  | .arr xs => p (.arr xs) ∧ EachItem p xs
  | .obj kvs => p (.obj kvs) ∧ EachMember p kvs
  | v => p v

/-- The property holds in every item. -/
def EachItem (p : Json → Prop) : List Json → Prop
  | [] => True
  | x :: xs => x.Each p ∧ EachItem p xs

/-- The property holds in the value of every member. -/
def EachMember (p : Json → Prop) : List (String × Json) → Prop
  | [] => True
  | (_, v) :: kvs => v.Each p ∧ EachMember p kvs
end

variable {p : Json → Prop}

theorem eachItem_iff {xs : List Json} : EachItem p xs ↔ ∀ x ∈ xs, x.Each p := by
  induction xs with
  | nil => simp [EachItem]
  | cons x xs ih => simp [EachItem, ih]

theorem eachMember_iff {kvs : List (String × Json)} : EachMember p kvs ↔ ∀ kv ∈ kvs, kv.2.Each p := by
  induction kvs with
  | nil => simp [EachMember]
  | cons kv kvs ih => simp [EachMember, ih]

theorem each_arr {xs : List Json} : (Json.arr xs).Each p ↔ p (.arr xs) ∧ ∀ x ∈ xs, x.Each p := by
  rw [Each, eachItem_iff]

theorem each_obj {kvs : List (String × Json)} : (Json.obj kvs).Each p ↔ p (.obj kvs) ∧ ∀ kv ∈ kvs, kv.2.Each p := by
  rw [Each, eachMember_iff]

/-- Induction over a value, with the items of a list and the members of a dict as hypotheses. -/
theorem induction {motive : Json → Prop} (leaf : ∀ v, v.isArr = false → v.isObj = false → motive v)
    (arr : ∀ xs, (∀ x ∈ xs, motive x) → motive (.arr xs))
    (obj : ∀ kvs, (∀ kv ∈ kvs, motive kv.2) → motive (.obj kvs)) (v : Json) : motive v := by
  refine Json.rec (motive_1 := motive) (motive_2 := fun xs => ∀ x ∈ xs, motive x)
    (motive_3 := fun kvs => ∀ kv ∈ kvs, motive kv.2) (motive_4 := fun kv => motive kv.2)
    (leaf _ rfl rfl) (fun _ => leaf _ rfl rfl) (fun _ => leaf _ rfl rfl) (fun _ => leaf _ rfl rfl)
    (fun _ => leaf _ rfl rfl) arr obj ?_ ?_ ?_ ?_ ?_ v
  · intro x hx
    cases hx
  · intro x xs hx hxs y hy
    rcases List.mem_cons.mp hy with rfl | hy
    exacts [hx, hxs y hy]
  · intro kv hkv
    cases hkv
  · intro kv kvs hkv hkvs kv' hkv'
    rcases List.mem_cons.mp hkv' with rfl | hkv'
    exacts [hkv, hkvs kv' hkv']
  · exact fun k v hv => hv

end Json

/-- Each key once, every float a float, and no integer too long to be written. -/
def IsNode (F : FloatFormat) : Json → Prop
  | .obj kvs => (kvs.map Prod.fst).Nodup
  | .int n => digitCount n ≤ maxStrDigits
  | .float (.finite q) => F.isFloat q
  | _ => True

/-- A value that `json` writes; its strings have no lone surrogates, as no string of the model has. -/
structure Document (F : FloatFormat) where
  value : Json
  sound : value.Each (IsNode F)

/-! ## Keys in order -/

theorem orderedItems_eq (xs : List Json) : Json.orderedItems xs = xs.map Json.ordered := by
  induction xs with
  | nil => rfl
  | cons x xs ih => rw [Json.orderedItems, ih, List.map_cons]

theorem orderedMembers_eq (kvs : List (String × Json)) :
    Json.orderedMembers kvs = kvs.map fun kv => (kv.1, kv.2.ordered) := by
  induction kvs with
  | nil => rfl
  | cons kv kvs ih => rw [Json.orderedMembers, ih, List.map_cons]

theorem sortedItems_perm (kvs : Dict) : (sortedItems kvs).Perm kvs := List.mergeSort_perm _ _

/-- The keys of a dict are in order. -/
theorem sortedItems_pairwise (kvs : Dict) : (sortedItems kvs).Pairwise fun p q => p.1 ≤ q.1 := by
  have htrans : ∀ a b c : String × Json, decide (a.1 ≤ b.1) = true → decide (b.1 ≤ c.1) = true →
      decide (a.1 ≤ c.1) = true := fun a b c hab hbc =>
    decide_eq_true (String.le_trans (of_decide_eq_true hab) (of_decide_eq_true hbc))
  have htotal : ∀ a b : String × Json, (decide (a.1 ≤ b.1) || decide (b.1 ≤ a.1)) = true := fun a b => by
    simpa using String.le_total a.1 b.1
  exact (List.pairwise_mergeSort htrans htotal kvs).imp fun hle => of_decide_eq_true hle

theorem keys_orderedMembers (kvs : List (String × Json)) :
    (Json.orderedMembers kvs).map Prod.fst = kvs.map Prod.fst := by
  rw [orderedMembers_eq, List.map_map]
  rfl

/-- Keys in order stay as they are. -/
theorem ordered_ordered (v : Json) : v.ordered.ordered = v.ordered := by
  induction v using Json.induction with
  | leaf v harr hobj =>
    cases v with
    | arr xs => cases harr
    | obj kvs => cases hobj
    | _ => rfl
  | arr xs ih =>
    simp only [Json.ordered, orderedItems_eq, List.map_map]
    exact congrArg Json.arr (List.map_congr_left ih)
  | obj kvs ih =>
    have hfixed : Json.orderedMembers (sortedItems (Json.orderedMembers kvs)) =
        sortedItems (Json.orderedMembers kvs) := by
      rw [orderedMembers_eq (sortedItems _)]
      refine (List.map_congr_left fun kv hkv => ?_).trans (List.map_id _)
      rw [(sortedItems_perm _).mem_iff, orderedMembers_eq] at hkv
      obtain ⟨kv', hkv', rfl⟩ := List.mem_map.mp hkv
      exact Prod.ext rfl (ih kv' hkv')
    have hsorted : sortedItems (sortedItems (Json.orderedMembers kvs)) = sortedItems (Json.orderedMembers kvs) :=
      List.mergeSort_of_pairwise ((sortedItems_pairwise _).imp fun hle => decide_eq_true hle)
    simp only [Json.ordered]
    rw [hfixed, hsorted]

/-- Putting keys in order leaves a document one. -/
theorem each_ordered {F : FloatFormat} (v : Json) : v.Each (IsNode F) → v.ordered.Each (IsNode F) := by
  induction v using Json.induction with
  | leaf v harr hobj =>
    intro h
    cases v with
    | arr xs => cases harr
    | obj kvs => cases hobj
    | _ => exact h
  | arr xs ih =>
    intro h
    obtain ⟨-, hitems⟩ := Json.each_arr.mp h
    rw [Json.ordered, Json.each_arr, orderedItems_eq]
    refine ⟨trivial, fun y hy => ?_⟩
    obtain ⟨x, hx, rfl⟩ := List.mem_map.mp hy
    exact ih x hx (hitems x hx)
  | obj kvs ih =>
    intro h
    obtain ⟨hkeys, hmembers⟩ := Json.each_obj.mp h
    rw [Json.ordered, Json.each_obj]
    constructor
    · have hperm := (sortedItems_perm (Json.orderedMembers kvs)).map Prod.fst
      rw [keys_orderedMembers] at hperm
      exact hperm.nodup_iff.mpr hkeys
    · intro kv' hkv'
      rw [(sortedItems_perm _).mem_iff, orderedMembers_eq] at hkv'
      obtain ⟨kv, hkv, rfl⟩ := List.mem_map.mp hkv'
      exact ih kv hkv (hmembers kv hkv)

/-- Where each key stands once, a lookup finds what is in the dict. -/
theorem Dict.get?_eq_some_iff {d : Dict} (h : (d.map Prod.fst).Nodup) {k : String} {v : Json} :
    d.get? k = some v ↔ (k, v) ∈ d := by
  induction d with
  | nil => simp
  | cons kv d ih =>
    obtain ⟨k', v'⟩ := kv
    rw [List.map_cons, List.nodup_cons] at h
    rw [Dict.get?_cons, List.mem_cons, Prod.mk.injEq]
    split_ifs with hk
    · have hnot : (k, v) ∉ d := by
        intro hmem
        have hkey : k ∈ d.map Prod.fst := List.mem_map_of_mem hmem
        exact h.1 (hk ▸ hkey)
      rw [Option.some.injEq]
      exact ⟨fun hv => .inl ⟨hk, hv.symm⟩, fun h => h.elim (fun h => h.2.symm) fun hmem => absurd hmem hnot⟩
    · simp [hk, ih h.2]

/-- The order of the keys is all that changes. -/
theorem Dict.get?_of_perm {d d' : Dict} (h : d.Perm d') (hd : (d.map Prod.fst).Nodup) (k : String) :
    d.get? k = d'.get? k := by
  have hd' : (d'.map Prod.fst).Nodup := (h.map Prod.fst).nodup_iff.mp hd
  refine Option.ext fun v => ?_
  rw [Dict.get?_eq_some_iff hd, Dict.get?_eq_some_iff hd', h.mem_iff]

theorem get?_orderedMembers (kvs : Dict) (k : String) :
    Dict.get? (Json.orderedMembers kvs) k = (kvs.get? k).map Json.ordered := by
  induction kvs with
  | nil => rfl
  | cons kv kvs ih =>
    obtain ⟨k', v⟩ := kv
    rw [Json.orderedMembers, Dict.get?_cons, Dict.get?_cons, ih]
    split_ifs <;> rfl

/-- `d[k]` or `xs[i]`. -/
inductive JsonStepTo where
  | key (k : String)
  | index (i : Nat)

/-- What stands at the end of a path into a document. -/
def Json.at? : Json → List JsonStepTo → Option Json
  | v, [] => some v
  | .obj kvs, .key k :: path => (Dict.get? kvs k).bind (·.at? path)
  | .arr xs, .index i :: path => xs[i]?.bind (·.at? path)
  | _, _ :: _ => none

/-- Every path leads to the same value, with its keys in order. -/
theorem at?_ordered {F : FloatFormat} (path : List JsonStepTo) {v : Json} (h : v.Each (IsNode F)) :
    v.ordered.at? path = (v.at? path).map Json.ordered := by
  induction path generalizing v with
  | nil => rw [Json.at?, Json.at?, Option.map_some]
  | cons step path ih =>
    cases v with
    | obj kvs =>
      obtain ⟨hkeys, hmembers⟩ := Json.each_obj.mp h
      cases step with
      | key k =>
        have hperm := sortedItems_perm (Json.orderedMembers kvs)
        have hnodup : ((Json.orderedMembers kvs).map Prod.fst).Nodup := keys_orderedMembers kvs ▸ hkeys
        rw [Json.ordered, Json.at?, Json.at?, ← Dict.get?_of_perm hperm.symm hnodup, get?_orderedMembers]
        cases hk : Dict.get? kvs k with
        | none => rfl
        | some v => exact ih (hmembers (k, v) ((Dict.get?_eq_some_iff hkeys).mp hk))
      | index i => rfl
    | arr xs =>
      obtain ⟨-, hitems⟩ := Json.each_arr.mp h
      cases step with
      | key k => rfl
      | index i =>
        rw [Json.ordered, Json.at?, Json.at?, orderedItems_eq, List.getElem?_map]
        cases hi : xs[i]? with
        | none => rfl
        | some v => exact ih (hitems v (List.mem_of_getElem? hi))
    | _ => cases step <;> rfl

/-- The document in the order of a style. -/
def Document.inStyle {F : FloatFormat} (style : JsonStyle) (d : Document F) : Document F where
  value := d.value.inStyle style
  sound := by
    rw [Json.inStyle]
    split_ifs
    exacts [each_ordered d.value d.sound, d.sound]

/-! ## Dicts -/

theorem Dict.set_of_not_mem {d : Dict} {k : String} (h : k ∉ d.map Prod.fst) (v : Json) :
    d.set k v = d ++ [(k, v)] := by
  induction d with
  | nil => rfl
  | cons kv d ih =>
    rw [List.map_cons, List.mem_cons, not_or] at h
    rw [Dict.set, if_neg (Ne.symm h.1), ih h.2]
    rfl

/-- Pairs of different keys are the dict they build. -/
theorem Dict.ofPairs_of_nodup {kvs : List (String × Json)} (h : (kvs.map Prod.fst).Nodup) : Dict.ofPairs kvs = kvs := by
  have hfold : ∀ d : Dict, ((d ++ kvs).map Prod.fst).Nodup →
      kvs.foldl (fun d kv => d.set kv.1 kv.2) d = d ++ kvs := by
    clear h
    induction kvs with
    | nil => simp
    | cons kv kvs ih =>
      intro d hnodup
      have hnot : kv.1 ∉ d.map Prod.fst := by
        rw [List.map_append, List.nodup_append] at hnodup
        intro hmem
        exact hnodup.2.2 kv.1 hmem kv.1 (by simp) rfl
      rw [List.foldl_cons, Dict.set_of_not_mem hnot, ih]
      · simp
      · simpa using hnodup
  exact (hfold [] h).trans (List.nil_append kvs)

theorem Dict.keys_set_nodup {d : Dict} (h : (d.map Prod.fst).Nodup) (k : String) (v : Json) :
    ((d.set k v).map Prod.fst).Nodup ∧ ∀ j ∈ (d.set k v).map Prod.fst, j = k ∨ j ∈ d.map Prod.fst := by
  induction d with
  | nil => simp [Dict.set]
  | cons kv d ih =>
    rw [List.map_cons, List.nodup_cons] at h
    obtain ⟨hnodup, hkeys⟩ := ih h.2
    rw [Dict.set]
    split_ifs with hk
    · subst hk
      exact ⟨List.nodup_cons.mpr h, fun j hj => List.mem_cons.mp hj |>.imp id (List.mem_cons_of_mem _)⟩
    · refine ⟨List.nodup_cons.mpr ⟨fun hmem => ?_, hnodup⟩, fun j hj => ?_⟩
      · exact (hkeys kv.1 hmem).elim hk h.1
      · rcases List.mem_cons.mp hj with rfl | hj
        · exact .inr List.mem_cons_self
        · exact (hkeys j hj).imp id (List.mem_cons_of_mem _)

theorem Dict.mem_set {d : Dict} {k : String} {v : Json} {kv : String × Json} (h : kv ∈ d.set k v) :
    kv.2 = v ∨ kv ∈ d := by
  induction d with
  | nil =>
    rw [List.mem_singleton.mp h]
    exact .inl rfl
  | cons kv' d ih =>
    rw [Dict.set] at h
    split_ifs at h
    · rcases List.mem_cons.mp h with rfl | h
      · exact .inl rfl
      · exact .inr (List.mem_cons_of_mem _ h)
    · rcases List.mem_cons.mp h with rfl | h
      · exact .inr List.mem_cons_self
      · exact (ih h).imp id (List.mem_cons_of_mem _)

/-- What is assigned pair by pair has each key once, and no other values. -/
theorem Dict.ofPairs_sound (kvs : List (String × Json)) :
    ((Dict.ofPairs kvs).map Prod.fst).Nodup ∧ ∀ kv ∈ Dict.ofPairs kvs, ∃ k, (k, kv.2) ∈ kvs := by
  refine List.foldlRecOn kvs _ (motive := fun d : Dict => (d.map Prod.fst).Nodup ∧ ∀ kv ∈ d, ∃ k, (k, kv.2) ∈ kvs)
    ⟨List.nodup_nil, by simp⟩ fun d hd kv hkv => ⟨(Dict.keys_set_nodup hd.1 kv.1 kv.2).1, fun kv' hkv' => ?_⟩
  rcases Dict.mem_set hkv' with heq | hmem
  · exact ⟨kv.1, heq ▸ hkv⟩
  · exact hd.2 kv' hmem

/-! ## Values -/

/-- How a value may start: not with white space, and with no closing bracket. -/
def opens (c : Char) : Bool := !isJsonSpace c && c != ']' && c != '}'

theorem not_isJsonSpace_of_opens {c : Char} (h : opens c = true) : isJsonSpace c = false := by
  simp only [opens, Bool.and_eq_true, Bool.not_eq_true'] at h
  exact h.1.1

theorem opens_of_isDigit {c : Char} (h : c.isDigit = true) : opens c = true := by
  have hne : ∀ c', c'.isDigit = false → c ≠ c' := by
    rintro c' hc' rfl
    exact Bool.false_ne_true (hc'.symm.trans h)
  simp [opens, isJsonSpace, hne _ (rfl : ' '.isDigit = false), hne _ (rfl : '\t'.isDigit = false),
    hne _ (rfl : '\n'.isDigit = false), hne _ (rfl : '\r'.isDigit = false), hne _ (rfl : ']'.isDigit = false),
    hne _ (rfl : '}'.isDigit = false)]

theorem NumberText.starts_text (t : NumberText) : Starts opens t.text := by
  obtain ⟨c, text, htext, hc⟩ := t.head_text
  rw [htext]
  refine starts_cons.mpr ?_
  rcases hc with ⟨rfl, -⟩ | hdigit
  exacts [rfl, opens_of_isDigit hdigit]

section

variable {F : FloatFormat} {convert : Conversion}

/-- White space before a value does not matter. -/
theorem reads_value_space {ws text : List Char} {v : Option Json} (hws : ∀ c ∈ ws, isJsonSpace c = true)
    (h : (scan convert .value).Reads MayFollow text v) : (scan convert .value).Reads MayFollow (ws ++ text) v := by
  intro rest hrest
  have hv := h rest hrest
  rw [scan_value] at hv ⊢
  rw [List.append_assoc, scanValue, bind_apply, next_append hws]
  exact hv

/-- A value is what its first character says. -/
theorem reads_value_of_head {c : Char} {text : List Char} {v : Option Json} (hc : isJsonSpace c = false)
    (h : (if c = '"' then (fun units => (textOf units).map .str) <$> scan convert .chars
      else if c = '[' then (fun xs => xs.map .arr) <$> unlessClosed ']' (scan convert .items)
      else if c = '{' then
        (fun kvs => kvs.map fun kvs => .obj (Dict.ofPairs kvs)) <$> unlessClosed '}' (scan convert .members)
      else some <$> unread c (scanAtom convert) : JsonScanner (Option Json)).Reads MayFollow text v) :
    (scan convert .value).Reads MayFollow (c :: text) v := by
  rw [scan_value]
  exact reads_head_bind hc h

theorem reads_value_str (s : String) : (scan convert .value).Reads MayFollow (stringText s) (some (.str s)) := by
  refine reads_value_of_head rfl ?_
  rw [if_pos rfl]
  have h := (@reads_chars convert s.toList).map fun units => (textOf units).map Json.str
  rw [textOf_codeUnits, String.ofList_toList] at h
  exact h.mono fun _ _ => trivial

/-- A word or a number. -/
theorem reads_value_atom {c : Char} {text : List Char} {v : Json} (hc : opens c = true)
    (hne : c ≠ '"' ∧ c ≠ '[' ∧ c ≠ '{') (h : (scanAtom convert).Reads MayFollow (c :: text) v) :
    (scan convert .value).Reads MayFollow (c :: text) (some v) := by
  refine reads_value_of_head (not_isJsonSpace_of_opens hc) ?_
  rw [if_neg hne.1, if_neg hne.2.1, if_neg hne.2.2]
  have hunread : (unread c (scanAtom convert)).Reads MayFollow text v := fun rest hrest => h rest hrest
  exact hunread.map some

theorem reads_atom_word (c : Char) (word : String) {v : Json}
    (h : ∀ s, scanAtom convert (c :: s) = scanWord word v s) :
    (scanAtom convert).Reads MayFollow (c :: word.toList) v := by
  intro rest _
  rw [List.cons_append, h]
  exact ((reads_exactly word.toList).map _) rest trivial

/-- A number is no word. -/
theorem reads_atom_number {t : NumberText} {v : Json} (h : (scanNumber convert).Reads MayFollow t.text v) :
    (scanAtom convert).Reads MayFollow t.text v := by
  intro rest hrest
  have hnumber := h rest hrest
  obtain ⟨c, text, htext, hc⟩ := t.head_text
  rw [htext, List.cons_append] at hnumber ⊢
  rcases hc with ⟨rfl, hdigit⟩ | hdigit
  · change scanMinus convert (text ++ rest) = _
    rw [scanMinus, orElse_of_miss (not_infinity (hdigit.append rest))]
    exact hnumber
  · have hne : ∀ c', c'.isDigit = false → c ≠ c' := by
      rintro c' hc' rfl
      exact Bool.false_ne_true (hc'.symm.trans hdigit)
    have hatom : scanAtom convert (c :: (text ++ rest)) = unread c (scanNumber convert) (text ++ rest) := by
      rw [scanAtom, bind_of_ok (item_eq_ok.mpr ⟨rfl, rfl⟩), if_neg (hne _ rfl), if_neg (hne _ rfl),
        if_neg (hne _ rfl), if_neg (hne _ rfl), if_neg (hne _ rfl), if_neg (hne _ rfl)]
    rw [hatom]
    exact hnumber

theorem reads_value_number {t : NumberText} {v : Json} (h : (scanNumber convert).Reads MayFollow t.text v) :
    (scan convert .value).Reads MayFollow t.text (some v) := by
  obtain ⟨c, text, htext, hc⟩ := t.head_text
  have hatom := reads_atom_number h
  rw [htext] at hatom ⊢
  rcases hc with ⟨rfl, -⟩ | hdigit
  · exact reads_value_atom rfl (by decide) hatom
  · have hne : ∀ c', c'.isDigit = false → c ≠ c' := by
      rintro c' hc' rfl
      exact Bool.false_ne_true (hc'.symm.trans hdigit)
    exact reads_value_atom (opens_of_isDigit hdigit) ⟨hne _ rfl, hne _ rfl, hne _ rfl⟩ hatom

theorem reads_value_float (hconvert : Converts F convert) {x : PyFloat} (hx : ∀ q, x = .finite q → F.isFloat q) :
    (scan convert .value).Reads MayFollow (floatText F x) (some (.float x)) := by
  cases x with
  | finite q => exact reads_value_number (hconvert.reads_float (hx q rfl))
  | posInf => exact reads_value_atom rfl (by decide) (reads_atom_word 'I' "nfinity" fun _ => rfl)
  | negInf =>
    refine reads_value_atom rfl (by decide) fun rest _ => ?_
    change scanMinus convert ("Infinity".toList ++ rest) = _
    exact orElse_eq_ok.mpr (.inl (((reads_exactly "Infinity".toList).map _) rest trivial))
  | nan => exact reads_value_atom rfl (by decide) (reads_atom_word 'N' "aN" fun _ => rfl)

end

/-! ## Lists and dicts -/

namespace JsonStyle

theorem newlineIndent_space (style : JsonStyle) (level : Nat) :
    ∀ c ∈ style.newlineIndent level, isJsonSpace c = true := by
  rw [newlineIndent]
  cases style.indent with
  | none =>
    intro c hc
    cases hc
  | some n =>
    intro c hc
    rcases List.mem_cons.mp hc with rfl | hc
    · rfl
    · rw [List.eq_of_mem_replicate hc]
      rfl

/-- Between two items stand a comma and white space. -/
theorem separator_eq (style : JsonStyle) (level : Nat) :
    ∃ gap, style.itemSeparator ++ style.newlineIndent level = ',' :: gap ∧ ∀ c ∈ gap, isJsonSpace c = true := by
  have hspace := style.newlineIndent_space level
  rw [itemSeparator]
  split_ifs
  · exact ⟨style.newlineIndent level, rfl, hspace⟩
  · refine ⟨' ' :: style.newlineIndent level, rfl, fun c hc => ?_⟩
    rcases List.mem_cons.mp hc with rfl | hc
    exacts [rfl, hspace c hc]

end JsonStyle

section

variable {α : Type} {closing : Char} {more : JsonScanner (Option (List α))} {one : List Char → α → Prop}

/-- What `more` does with one item and what follows it. -/
def ReadsMore (closing : Char) (more : JsonScanner (Option (List α))) (one : List Char → α → Prop) : Prop :=
  ∀ ws t tail a as, (∀ c ∈ ws, isJsonSpace c = true) → one t a → Starts closes tail →
    (afterItem closing more).Reads (fun _ => True) tail (some as) →
    more.Reads (fun _ => True) (ws ++ (t ++ tail)) (some (a :: as))

/-- The rest of the items, up to the closing bracket. -/
theorem reads_afterItem (hclosing : closes closing = true ∧ closing ≠ ',' ∧ isJsonSpace closing = false)
    (hmore : ReadsMore closing more one) (style : JsonStyle) (level : Nat) {ts : List (List Char)} {as : List α}
    (h : List.Forall₂ one ts as) :
    (afterItem closing more).Reads (fun _ => True) (style.moreItems level closing ts) (some as) ∧
      Starts closes (style.moreItems level closing ts) := by
  induction h with
  | nil =>
    have hspace := style.newlineIndent_space level
    have hnil : style.moreItems level closing [] = style.newlineIndent level ++ [closing] := rfl
    constructor
    · rw [hnil]
      refine reads_next_bind hspace hclosing.2.2 ?_
      rw [if_pos rfl]
      exact reads_pure _ _
    · rw [hnil]
      cases hnl : style.newlineIndent level with
      | nil => exact starts_cons.mpr hclosing.1
      | cons c nl =>
        rw [hnl] at hspace
        exact starts_cons.mpr (by simp [closes, hspace c List.mem_cons_self])
  | @cons t a ts as hone _ ih =>
    obtain ⟨gap, hgap, hspace⟩ := style.separator_eq (level + 1)
    have hcons : style.moreItems level closing (t :: ts) = ',' :: (gap ++ (t ++ style.moreItems level closing ts)) := by
      simp only [JsonStyle.moreItems, List.flatMap_cons, hgap, List.append_assoc, List.cons_append]
    rw [hcons]
    refine ⟨?_, starts_cons.mpr rfl⟩
    refine reads_head_bind rfl ?_
    rw [if_neg (Ne.symm hclosing.2.1), if_pos rfl]
    exact hmore gap t _ a as hspace hone ih.2 ih.1

/-- All items between brackets. -/
theorem reads_bracketed (hclosing : closes closing = true ∧ closing ≠ ',' ∧ isJsonSpace closing = false)
    (hopens : ∀ t a, one t a → Starts (fun c => opens c && c != closing) t) (hmore : ReadsMore closing more one)
    (style : JsonStyle) (level : Nat) (opening : Char) {ts : List (List Char)} {as : List α}
    (h : List.Forall₂ one ts as) :
    ∃ body, style.bracketed level opening closing ts = opening :: body ∧
      (unlessClosed closing more).Reads (fun _ => True) body (some as) := by
  cases h with
  | nil =>
    refine ⟨[closing], rfl, ?_⟩
    refine reads_head_bind hclosing.2.2 ?_
    rw [if_pos rfl]
    exact reads_pure _ _
  | @cons t a ts as hone htail =>
    refine ⟨_, rfl, ?_⟩
    obtain ⟨hafter, hstarts⟩ := reads_afterItem hclosing hmore style level htail
    have hreads := hmore [] t _ a as (fun c hc => absurd hc List.not_mem_nil) hone hstarts hafter
    have hspace := style.newlineIndent_space (level + 1)
    obtain ⟨c, hc, hopen⟩ := hopens t a hone
    rw [Bool.and_eq_true, bne_iff_ne] at hopen
    cases t with
    | nil => cases hc
    | cons c' t =>
      obtain rfl : c' = c := Option.some.inj hc
      rw [List.cons_append]
      refine reads_next_bind hspace (not_isJsonSpace_of_opens hopen.1) ?_
      rw [if_neg hopen.2]
      exact fun rest hrest => hreads rest hrest

end

section

variable {F : FloatFormat} {convert : Conversion}

/-- The text is one that the decoder reads as the value. -/
def IsTextOf (convert : Conversion) (text : List Char) (v : Json) : Prop :=
  (scan convert .value).Reads MayFollow text (some v) ∧ Starts opens text

theorem readsMore_items : ReadsMore ']' (scan convert .items) (IsTextOf convert) := by
  intro ws t tail v vs hws ht htail hafter
  rw [scan_items, ← List.append_assoc]
  refine (reads_value_space hws ht.1).bind ?_ fun rest _ => ?_
  · have h := hafter.map fun vs : Option (List Json) => (do return v :: (← vs) : Option (List Json))
    exact h
  · obtain ⟨c, hc, hcloses⟩ := htail.append rest
    rw [MayFollow, Option.mem_def.mp hc]
    rintro c' ⟨⟩
    exact hcloses

/-- The text of a key and a value. -/
def IsMemberText (convert : Conversion) (text : List Char) (kv : String × Json) : Prop :=
  ∃ t, text = stringText kv.1 ++ ':' :: ' ' :: t ∧ IsTextOf convert t kv.2

theorem readsMore_members : ReadsMore '}' (scan convert .members) (IsMemberText convert) := by
  rintro ws _ tail ⟨k, v⟩ kvs hws ⟨t, rfl, ht⟩ htail hafter
  have htext : ws ++ (stringText k ++ ':' :: ' ' :: t ++ tail) =
      ws ++ '"' :: ((k.toList.flatMap escapeChar ++ ['"']) ++ ':' :: (([' '] ++ t) ++ tail)) := by
    simp [stringText]
  rw [scan_members, htext]
  refine reads_next_bind hws rfl ?_
  rw [if_pos rfl]
  refine (reads_chars k.toList).bind ?_ fun _ _ => trivial
  refine reads_head_bind rfl ?_
  rw [if_pos rfl]
  refine (reads_value_space (by simp [isJsonSpace]) ht.1).bind ?_ fun rest _ => ?_
  · rw [textOf_codeUnits, String.ofList_toList]
    exact hafter.map fun kvs : Option Dict => (do return (k, v) :: (← kvs) : Option Dict)
  · obtain ⟨c, hc, hcloses⟩ := htail.append rest
    rw [MayFollow, Option.mem_def.mp hc]
    rintro c' ⟨⟩
    exact hcloses

theorem itemTexts_eq (style : JsonStyle) (level : Nat) (xs : List Json) :
    itemTexts F style level xs = xs.map (valueText F style level) := by
  induction xs with
  | nil => rfl
  | cons x xs ih => rw [itemTexts, ih, List.map_cons]

theorem memberTexts_eq (style : JsonStyle) (level : Nat) (kvs : List (String × Json)) :
    memberTexts F style level kvs =
      kvs.map fun kv => stringText kv.1 ++ ':' :: ' ' :: valueText F style level kv.2 := by
  induction kvs with
  | nil => rfl
  | cons kv kvs ih => rw [memberTexts, ih, List.map_cons]

theorem forall₂_map_text {α : Type} {one : List Char → α → Prop} {text : α → List Char} {as : List α}
    (h : ∀ a ∈ as, one (text a) a) : List.Forall₂ one (as.map text) as := by
  rw [List.forall₂_map_left_iff, List.forall₂_same]
  exact h

/-- A list is read where its items are. -/
theorem isTextOf_arr {style : JsonStyle} {level : Nat} {xs : List Json}
    (h : ∀ x ∈ xs, IsTextOf convert (valueText F style (level + 1) x) x) :
    IsTextOf convert (valueText F style level (.arr xs)) (.arr xs) := by
  have hopens : ∀ t v, IsTextOf convert t v → Starts (fun c => opens c && c != ']') t := by
    intro t v ht
    refine ht.2.mono fun c hc => ?_
    simp only [opens, Bool.and_eq_true] at hc ⊢
    exact ⟨hc, hc.1.2⟩
  obtain ⟨body, hbody, hreads⟩ := reads_bracketed ⟨rfl, by decide, rfl⟩ hopens readsMore_items style level '['
    (forall₂_map_text h)
  rw [valueText, itemTexts_eq, hbody]
  refine ⟨reads_value_of_head rfl ?_, starts_cons.mpr rfl⟩
  rw [if_neg (by decide), if_pos rfl]
  exact (hreads.map _).mono fun _ _ => trivial

/-- A dict is read where the values of its members are. -/
theorem isTextOf_obj {style : JsonStyle} {level : Nat} {kvs : Dict} (hkeys : (kvs.map Prod.fst).Nodup)
    (h : ∀ kv ∈ kvs, IsTextOf convert (valueText F style (level + 1) kv.2) kv.2) :
    IsTextOf convert (valueText F style level (.obj kvs)) (.obj kvs) := by
  have hopens : ∀ t kv, IsMemberText convert t kv → Starts (fun c => opens c && c != '}') t := by
    rintro _ kv ⟨t, rfl, -⟩
    exact starts_cons.mpr rfl
  have hmembers : ∀ kv ∈ kvs,
      IsMemberText convert (stringText kv.1 ++ ':' :: ' ' :: valueText F style (level + 1) kv.2) kv :=
    fun kv hkv => ⟨_, rfl, h kv hkv⟩
  obtain ⟨body, hbody, hreads⟩ := reads_bracketed ⟨rfl, by decide, rfl⟩ hopens readsMore_members style level '{'
    (forall₂_map_text hmembers)
  rw [valueText, memberTexts_eq, hbody]
  refine ⟨reads_value_of_head rfl ?_, starts_cons.mpr rfl⟩
  rw [if_neg (by decide), if_neg (by decide), if_pos rfl]
  have hmap := hreads.map fun kvs : Option Dict => kvs.map fun kvs => Json.obj (Dict.ofPairs kvs)
  rw [Option.map_some, Dict.ofPairs_of_nodup hkeys] at hmap
  exact hmap.mono fun _ _ => trivial

/-- **Every value is read as it was written.** -/
theorem isTextOf_valueText (hconvert : Converts F convert) (style : JsonStyle) (v : Json) :
    v.Each (IsNode F) → ∀ level, IsTextOf convert (valueText F style level v) v := by
  induction v using Json.induction with
  | leaf v harr hobj =>
    intro h level
    cases v with
    | null =>
      exact ⟨reads_value_atom rfl (by decide) (reads_atom_word 'n' "ull" fun _ => rfl), starts_cons.mpr rfl⟩
    | bool b =>
      cases b with
      | false =>
        exact ⟨reads_value_atom rfl (by decide) (reads_atom_word 'f' "alse" fun _ => rfl),
          starts_cons.mpr rfl⟩
      | true =>
        exact ⟨reads_value_atom rfl (by decide) (reads_atom_word 't' "rue" fun _ => rfl),
          starts_cons.mpr rfl⟩
    | int n =>
      rw [valueText, ← intNumber_text]
      exact ⟨reads_value_number (intNumber_text n ▸ hconvert.reads_int h), (intNumber n).starts_text⟩
    | float x =>
      refine ⟨reads_value_float hconvert ?_, ?_⟩
      · rintro q rfl
        exact h
      · cases x with
        | finite q => exact (F.repr q).toNumberText.starts_text
        | _ => exact starts_cons.mpr rfl
    | str s => exact ⟨reads_value_str s, starts_cons.mpr rfl⟩
    | arr xs => cases harr
    | obj kvs => cases hobj
  | arr xs ih =>
    intro h level
    exact isTextOf_arr fun x hx => ih x hx ((Json.each_arr.mp h).2 x hx) (level + 1)
  | obj kvs ih =>
    intro h level
    obtain ⟨hkeys, hmembers⟩ := Json.each_obj.mp h
    exact isTextOf_obj hkeys fun kv hkv => ih kv hkv (hmembers kv hkv) (level + 1)

/-- A text of a value, alone or with white space behind it, loads as the value. -/
theorem loads_of_isTextOf {t ws : List Char} {v : Json} (h : IsTextOf (pythonNumber F) t v)
    (hws : ∀ c ∈ ws, isJsonSpace c = true) : loads F (t ++ ws) = .ok (some v) := by
  have hfollow : MayFollow ws := by
    intro c hc
    simp [closes, hws c (List.mem_of_mem_head? hc)]
  have hall : ws.all isJsonSpace = true := List.all_eq_true.mpr hws
  rw [loads, h.1 ws hfollow]
  exact if_pos hall

/-! ## Documents, written and read -/

/-- The text of a document in a style. -/
abbrev Document.text (style : JsonStyle) (d : Document F) : List Char := valueText F style 0 (d.value.inStyle style)

theorem withinDigitsList_iff {xs : List Json} :
    Json.withinDigitsList xs = true ↔ ∀ x ∈ xs, x.withinDigits = true := by
  induction xs with
  | nil => simp [Json.withinDigitsList]
  | cons x xs ih => rw [Json.withinDigitsList, Bool.and_eq_true, ih, List.forall_mem_cons]

theorem withinDigitsFields_iff {kvs : List (String × Json)} :
    Json.withinDigitsFields kvs = true ↔ ∀ kv ∈ kvs, kv.2.withinDigits = true := by
  induction kvs with
  | nil => simp [Json.withinDigitsFields]
  | cons kv kvs ih => rw [Json.withinDigitsFields, Bool.and_eq_true, ih, List.forall_mem_cons]

/-- No integer of a document is too long. -/
theorem withinDigits_of_each {v : Json} : v.Each (IsNode F) → v.withinDigits = true := by
  induction v using Json.induction with
  | leaf v harr hobj =>
    intro h
    cases v with
    | int n => exact decide_eq_true h
    | arr xs => cases harr
    | obj kvs => cases hobj
    | _ => rfl
  | arr xs ih => exact fun h => withinDigitsList_iff.mpr fun x hx => ih x hx ((Json.each_arr.mp h).2 x hx)
  | obj kvs ih => exact fun h => withinDigitsFields_iff.mpr fun kv hkv => ih kv hkv ((Json.each_obj.mp h).2 kv hkv)

/-- A document is written. -/
theorem dumps_document (style : JsonStyle) (d : Document F) : dumps F style d.value = .ok (d.text style) :=
  if_pos (withinDigits_of_each d.sound)

/-- Its text reads back in the order of the style. -/
theorem loads_text (style : JsonStyle) (d : Document F) :
    loads F (d.text style) = .ok (some (d.value.inStyle style)) := by
  have htext : IsTextOf (pythonNumber F) (d.text style) (d.value.inStyle style) :=
    isTextOf_valueText (converts_pythonNumber F) style (d.inStyle style).value (d.inStyle style).sound 0
  have h := loads_of_isTextOf htext (fun c hc => absurd hc List.not_mem_nil)
  rw [List.append_nil] at h
  exact h

theorem scanWhole_digits {s whole r : List Char} (h : scanWhole s = .ok (whole, r)) :
    whole ≠ [] ∧ whole.all Char.isDigit = true := by
  obtain ⟨d, r', hd, h⟩ := bind_eq_ok.mp h
  obtain ⟨-, hdigit⟩ := item_eq_ok.mp hd
  split_ifs at h
  · obtain ⟨rfl, -⟩ := Prod.mk.inj (Except.ok.inj h)
    exact ⟨List.cons_ne_nil _ _, by simp [hdigit]⟩
  · obtain ⟨ds, r'', hds, h⟩ := bind_eq_ok.mp h
    obtain ⟨rfl, -⟩ := Prod.mk.inj (Except.ok.inj h)
    obtain ⟨rfl, -⟩ := Prod.mk.inj (Except.ok.inj hds)
    refine ⟨List.cons_ne_nil _ _, ?_⟩
    rw [List.all_cons, hdigit, Bool.true_and, List.all_takeWhile]

/-- A number has no more digits than its text. -/
theorem ofDigitChars_lt {cs : List Char} (h : cs.all Char.isDigit = true) (n : Nat) :
    Nat.ofDigitChars 10 cs n < (n + 1) * 10 ^ cs.length := by
  induction cs generalizing n with
  | nil =>
    rw [Nat.ofDigitChars_nil, List.length_nil, pow_zero, Nat.mul_one]
    exact Nat.lt_succ_self n
  | cons c cs ih =>
    rw [List.all_cons, Bool.and_eq_true] at h
    have hdigit : c.toNat - '0'.toNat < 10 := by
      have hnine : c.toNat ≤ '9'.toNat := (Char.isDigit_iff_toNat.mp h.1).2
      have hzero : '0'.toNat = 48 := rfl
      have hnine' : '9'.toNat = 57 := rfl
      omega
    rw [Nat.ofDigitChars_cons, List.length_cons, Nat.pow_succ, Nat.mul_comm _ 10, ← Nat.mul_assoc]
    refine Nat.lt_of_lt_of_le (ih h.2 _) (Nat.mul_le_mul_right _ ?_)
    omega

theorem digitCount_intOf {sign whole : List Char} (hne : whole ≠ []) (h : whole.all Char.isDigit = true) :
    digitCount (intOf sign whole) ≤ whole.length := by
  have hlt := ofDigitChars_lt h 0
  have habs : (intOf sign whole).natAbs = Nat.ofDigitChars 10 whole 0 := by
    unfold intOf
    split_ifs
    · exact Int.natAbs_natCast _
    · rw [Int.natAbs_neg, Int.natAbs_natCast]
  rw [digitCount, habs, Nat.length_toDigits_le_iff (by decide) (List.length_pos_iff.mpr hne)]
  simpa using hlt

theorem scanNumber_sound {s r : List Char} {v : Json} (h : scanNumber (pythonNumber F) s = .ok (v, r)) :
    v.Each (IsNode F) := by
  obtain ⟨sign, r₁, -, h⟩ := bind_eq_ok.mp h
  obtain ⟨whole, r₂, hwhole, h⟩ := bind_eq_ok.mp h
  obtain ⟨frac, r₃, -, h⟩ := bind_eq_ok.mp h
  obtain ⟨exp, r₄, -, h⟩ := bind_eq_ok.mp h
  obtain ⟨hconvert, -⟩ := ofExcept_eq_ok.mp h
  unfold pythonNumber at hconvert
  split_ifs at hconvert with hint hshort
  · obtain rfl := Except.ok.inj hconvert
    obtain ⟨hne, hdigits⟩ := scanWhole_digits hwhole
    exact Nat.le_trans (digitCount_intOf hne hdigits) hshort
  · obtain rfl := Except.ok.inj hconvert
    cases hread : F.read (sign ++ (whole ++ (frac ++ exp))) with
    | finite q => exact F.read_isFloat _ q hread
    | _ => exact trivial

theorem scanWord_eq {word : String} {v v' : Json} {s r : List Char} (h : scanWord word v s = .ok (v', r)) :
    v' = v := by
  obtain ⟨u, -, hv⟩ := map_eq_ok h
  exact hv

theorem scanAtom_sound {s r : List Char} {v : Json} (h : scanAtom (pythonNumber F) s = .ok (v, r)) :
    v.Each (IsNode F) := by
  obtain ⟨c, r', -, h⟩ := bind_eq_ok.mp h
  split_ifs at h
  · exact scanWord_eq h ▸ trivial
  · exact scanWord_eq h ▸ trivial
  · exact scanWord_eq h ▸ trivial
  · exact scanWord_eq h ▸ trivial
  · exact scanWord_eq h ▸ trivial
  · rcases orElse_eq_ok.mp h with hword | ⟨-, hnumber⟩
    · exact scanWord_eq hword ▸ trivial
    · exact scanNumber_sound hnumber
  · exact scanNumber_sound h

/-- The items are documents. -/
def SoundItems (F : FloatFormat) (vs : Option (List Json)) : Prop := ∀ vs' ∈ vs, ∀ v ∈ vs', v.Each (IsNode F)

/-- The values of the members are documents. -/
def SoundMembers (F : FloatFormat) (kvs : Option Dict) : Prop := ∀ kvs' ∈ kvs, ∀ kv ∈ kvs', kv.2.Each (IsNode F)

/-- What the decoder makes of a part is sound. -/
def SoundPart (F : FloatFormat) : (i : JsonPart) → i.Result → Prop
  | .value => fun v : Option Json => ∀ v' ∈ v, v'.Each (IsNode F)
  | .items => SoundItems F
  | .members => SoundMembers F
  | .chars => fun _ => True

theorem unlessClosed_sound {α : Type} {closing : Char} {p : JsonScanner (Option (List α))}
    {good : Option (List α) → Prop} (hnil : good (some [])) (hp : ∀ s a r, p s = .ok (a, r) → good a)
    {s r : List Char} {as : Option (List α)} (h : unlessClosed closing p s = .ok (as, r)) : good as := by
  obtain ⟨c, r', -, h⟩ := bind_eq_ok.mp h
  split_ifs at h
  · exact (Prod.mk.inj (Except.ok.inj h)).1 ▸ hnil
  · exact hp _ _ _ h

theorem afterItem_sound {α : Type} {closing : Char} {p : JsonScanner (Option (List α))}
    {good : Option (List α) → Prop} (hnil : good (some [])) (hp : ∀ s a r, p s = .ok (a, r) → good a)
    {s r : List Char} {as : Option (List α)} (h : afterItem closing p s = .ok (as, r)) : good as := by
  obtain ⟨c, r', -, h⟩ := bind_eq_ok.mp h
  split_ifs at h
  · exact (Prod.mk.inj (Except.ok.inj h)).1 ▸ hnil
  · exact hp _ _ _ h
  · cases h

section

variable {parts : JsonParts}

theorem scanValue_sound (hitems : ∀ s a r, parts .items s = .ok (a, r) → SoundItems F a)
    (hmembers : ∀ s a r, parts .members s = .ok (a, r) → SoundMembers F a) {s r : List Char} {v : Option Json}
    (h : scanValue (pythonNumber F) parts s = .ok (v, r)) : ∀ v' ∈ v, v'.Each (IsNode F) := by
  have hnil : SoundItems F (some []) := by simp [SoundItems]
  have hnil' : SoundMembers F (some []) := by simp [SoundMembers]
  obtain ⟨c, r', -, h⟩ := bind_eq_ok.mp h
  split_ifs at h
  · obtain ⟨units, -, rfl⟩ := map_eq_ok h
    intro v' hv'
    obtain ⟨text, -, rfl⟩ := Option.map_eq_some_iff.mp hv'
    exact trivial
  · obtain ⟨xs, hxs, rfl⟩ := map_eq_ok h
    have hsound := unlessClosed_sound hnil hitems hxs
    intro v' hv'
    obtain ⟨xs', hxs', rfl⟩ := Option.map_eq_some_iff.mp hv'
    exact Json.each_arr.mpr ⟨trivial, hsound xs' hxs'⟩
  · obtain ⟨kvs, hkvs, rfl⟩ := map_eq_ok h
    have hsound := unlessClosed_sound hnil' hmembers hkvs
    intro v' hv'
    obtain ⟨kvs', hkvs', rfl⟩ := Option.map_eq_some_iff.mp hv'
    obtain ⟨hkeys, hvalues⟩ := Dict.ofPairs_sound kvs'
    refine Json.each_obj.mpr ⟨hkeys, fun kv hkv => ?_⟩
    obtain ⟨k, hk⟩ := hvalues kv hkv
    exact hsound kvs' hkvs' (k, kv.2) hk
  · obtain ⟨v, hv, rfl⟩ := map_eq_ok h
    rintro v' ⟨⟩
    exact scanAtom_sound hv

theorem scanItems_sound
    (hvalue : ∀ s (a : Option Json) r, parts .value s = .ok (a, r) → ∀ v ∈ a, v.Each (IsNode F))
    (hitems : ∀ s a r, parts .items s = .ok (a, r) → SoundItems F a) {s r : List Char} {vs : Option (List Json)}
    (h : scanItems parts s = .ok (vs, r)) : SoundItems F vs := by
  have hnil : SoundItems F (some []) := by simp [SoundItems]
  obtain ⟨v, r₁, hv, h⟩ := bind_eq_ok.mp h
  obtain ⟨vs, r₂, hvs, h⟩ := bind_eq_ok.mp h
  obtain ⟨rfl, -⟩ := Prod.mk.inj (Except.ok.inj h)
  have hsound := afterItem_sound hnil hitems hvs
  intro vs' hvs' x hx
  obtain ⟨v', rfl, hrest⟩ := Option.bind_eq_some_iff.mp hvs'
  obtain ⟨vs'', rfl, hcons⟩ := Option.bind_eq_some_iff.mp hrest
  obtain rfl := Option.some.inj hcons
  rcases List.mem_cons.mp hx with rfl | hx
  exacts [hvalue _ _ _ hv _ rfl, hsound vs'' rfl x hx]

theorem scanMembers_sound
    (hvalue : ∀ s (a : Option Json) r, parts .value s = .ok (a, r) → ∀ v ∈ a, v.Each (IsNode F))
    (hmembers : ∀ s a r, parts .members s = .ok (a, r) → SoundMembers F a) {s r : List Char} {kvs : Option Dict}
    (h : scanMembers parts s = .ok (kvs, r)) : SoundMembers F kvs := by
  have hnil : SoundMembers F (some []) := by simp [SoundMembers]
  obtain ⟨quote, r₁, -, h⟩ := bind_eq_ok.mp h
  split_ifs at h
  · obtain ⟨units, r₂, -, h⟩ := bind_eq_ok.mp h
    obtain ⟨colon, r₃, -, h⟩ := bind_eq_ok.mp h
    split_ifs at h
    · obtain ⟨v, r₄, hv, h⟩ := bind_eq_ok.mp h
      obtain ⟨kvs, r₅, hkvs, h⟩ := bind_eq_ok.mp h
      obtain ⟨rfl, -⟩ := Prod.mk.inj (Except.ok.inj h)
      have hsound := afterItem_sound hnil hmembers hkvs
      intro kvs' hkvs' kv hkv
      obtain ⟨k, -, hpair⟩ := Option.bind_eq_some_iff.mp hkvs'
      obtain ⟨v', rfl, hrest⟩ := Option.bind_eq_some_iff.mp hpair
      obtain ⟨kvs'', rfl, hcons⟩ := Option.bind_eq_some_iff.mp hrest
      obtain rfl := Option.some.inj hcons
      rcases List.mem_cons.mp hkv with rfl | hkv
      exacts [hvalue _ _ _ hv _ rfl, hsound kvs'' rfl kv hkv]
    · cases h
  · cases h

end

/-- A level is sound where its parts are. -/
theorem jsonStep_sound (parts : JsonParts) (ih : ∀ i s a r, parts i s = .ok (a, r) → SoundPart F i a) :
    ∀ i s a r, jsonStep (pythonNumber F) parts i s = .ok (a, r) → SoundPart F i a := by
  intro i s a r h
  cases i with
  | value => exact scanValue_sound (ih .items) (ih .members) h
  | items => exact scanItems_sound (ih .value) (ih .items) h
  | members => exact scanMembers_sound (ih .value) (ih .members) h
  | chars => trivial

/-- **Whatever loads is a document.** -/
theorem document_of_loads {t : List Char} {v : Json} (h : loads F t = .ok (some v)) : v.Each (IsNode F) := by
  unfold loads at h
  split at h
  · cases h
  · cases h
  · rename_i v' rest hscan
    split_ifs at h
    obtain rfl := Except.ok.inj h
    have hsound : SoundPart F .value (some v) := fix_result jsonStep_sound hscan
    exact hsound v rfl

/-- **What is written is what is read**: a document has a text, which reads back with the same value at the end of
every path, in the order of its style; and whatever loads can be written in any style and read again. -/
theorem written_read_back (style : JsonStyle) :
    (∀ d : Document F, ∃ text w, dumps F style d.value = .ok text ∧ loads F text = .ok (some w) ∧
      ∀ path, w.at? path = (d.value.at? path).map (·.inStyle style)) ∧
    ∀ t v, loads F t = .ok (some v) → ∃ text, dumps F style v = .ok text ∧
      loads F text = .ok (some (v.inStyle style)) := by
  constructor
  · intro d
    refine ⟨_, _, dumps_document style d, loads_text style d, fun path => ?_⟩
    unfold Json.inStyle
    cases style.sort_keys with
    | true => exact at?_ordered path d.sound
    | false => exact Option.map_id'.symm
  · intro t v h
    let d : Document F := ⟨v, document_of_loads h⟩
    exact ⟨_, dumps_document style d, loads_text style d⟩

end

/-- A document with its keys out of order. -/
def unorderedDocument : Document halfFormat where
  value := .obj [("b", .float (.finite (1 / 2))), ("a", .arr [.null, .int (-12)])]
  sound := Json.each_obj.mpr ⟨(by decide : ["b", "a"].Nodup), by
    have hshort : digitCount (-12) ≤ maxStrDigits := by decide
    simp [Json.Each, Json.EachItem, IsNode, halfFormat, hshort]⟩

theorem written_read_back_unordered :
    (∃ text w, dumps halfFormat fileStyle unorderedDocument.value = .ok text ∧ loads halfFormat text = .ok (some w) ∧
      ∀ path, w.at? path = (unorderedDocument.value.at? path).map (·.inStyle fileStyle)) ∧
    ∃ text, dumps halfFormat fileStyle unorderedDocument.value = .ok text ∧
      loads halfFormat text = .ok (some (unorderedDocument.value.inStyle fileStyle)) :=
  ⟨(written_read_back fileStyle).1 unorderedDocument,
    (written_read_back fileStyle).2 (unorderedDocument.text lineStyle) _ (loads_text lineStyle unorderedDocument)⟩

end CertWatch
