/-
# `CertWatch.Python` — the values the agent handles, with Python's own reading of them.

Everything the agent reads from disk or from the network is a JSON document, and most of its checks are
Python idioms on such values: truthiness, `dict.get`, `d[k] = v`, `int(x)`, `len(x)`, `x < y`.  This
module has the values and the total part of those idioms; the ones that raise are in
`CertWatch.Exceptions`.

A float is kept exactly (a rational, an infinity or NaN): nothing in the agent computes with floats
beyond comparing, truncating and passing them on.  Strings are sequences of Unicode scalar values.
-/
import Mathlib.Data.List.Basic

namespace CertWatch

/-- A Python float: a finite value, one of the infinities, or NaN. -/
inductive PyFloat where
  | finite (q : Rat)
  | posInf
  | negInf
  | nan
  deriving DecidableEq, Repr

/-- What `json.load` builds. -/
inductive Json where
  | null
  | bool (b : Bool)
  | int (n : Int)
  | float (x : PyFloat)
  | str (s : String)
  | arr (xs : List Json)
  | obj (kvs : List (String × Json))
  deriving Repr

/-- A `dict` with string keys, in insertion order. -/
abbrev Dict := List (String × Json)

/-- How many decimal digits the text of an integer has. -/
def digitCount (n : Int) : Nat := (Nat.toDigits 10 n.natAbs).length

/-- `sys.int_info.default_max_str_digits`: no integer with more digits becomes a text, and no text with more digits an
integer. -/
def maxStrDigits : Nat := 4300

namespace Json

/-! ## Equality is decidable -/

mutual
/-- Structural equality of documents. -/
def decEq : (a b : Json) → Decidable (a = b)
  | .null, b => match b with
    | .null => isTrue rfl
    | .bool _ | .int _ | .float _ | .str _ | .arr _ | .obj _ => isFalse nofun
  | .bool a, b => match b with
    | .bool b => decidable_of_iff (a = b) (by simp)
    | .null | .int _ | .float _ | .str _ | .arr _ | .obj _ => isFalse nofun
  | .int a, b => match b with
    | .int b => decidable_of_iff (a = b) (by simp)
    | .null | .bool _ | .float _ | .str _ | .arr _ | .obj _ => isFalse nofun
  | .float a, b => match b with
    | .float b => decidable_of_iff (a = b) (by simp)
    | .null | .bool _ | .int _ | .str _ | .arr _ | .obj _ => isFalse nofun
  | .str a, b => match b with
    | .str b => decidable_of_iff (a = b) (by simp)
    | .null | .bool _ | .int _ | .float _ | .arr _ | .obj _ => isFalse nofun
  | .arr a, b => match b with
    | .arr b => match decEqList a b with
      | isTrue h => isTrue (by rw [h])
      | isFalse h => isFalse (by simpa using h)
    | .null | .bool _ | .int _ | .float _ | .str _ | .obj _ => isFalse nofun
  | .obj a, b => match b with
    | .obj b => match decEqFields a b with
      | isTrue h => isTrue (by rw [h])
      | isFalse h => isFalse (by simpa using h)
    | .null | .bool _ | .int _ | .float _ | .str _ | .arr _ => isFalse nofun

/-- Structural equality of arrays. -/
def decEqList : (as bs : List Json) → Decidable (as = bs)
  | [], [] => isTrue rfl
  | [], _ :: _ => isFalse nofun
  | _ :: _, [] => isFalse nofun
  | a :: as, b :: bs => match decEq a b, decEqList as bs with
    | isTrue h, isTrue hs => isTrue (by rw [h, hs])
    | isFalse h, _ => isFalse (by simp [h])
    | _, isFalse hs => isFalse (by simp [hs])

/-- Structural equality of objects, fields in order. -/
def decEqFields : (as bs : List (String × Json)) → Decidable (as = bs)
  | [], [] => isTrue rfl
  | [], _ :: _ => isFalse nofun
  | _ :: _, [] => isFalse nofun
  | (k, a) :: as, (l, b) :: bs => match decEq a b, decEqFields as bs with
    | isTrue h, isTrue hs => decidable_of_iff (k = l) (by simp [h, hs])
    | isFalse h, _ => isFalse (by simp [h])
    | _, isFalse hs => isFalse (by simp [hs])
end

instance : DecidableEq Json := decEq

/-! ## Truthiness -/

/-- `bool(x)`. -/
def truthy : Json → Bool
  | .null => false
  | .bool b => b
  | .int n => n != 0
  | .float x => x != .finite 0
  | .str s => s != ""
  | .arr xs => !xs.isEmpty
  | .obj kvs => !kvs.isEmpty

/-- `x or y`. -/
def or (x y : Json) : Json := if x.truthy then x else y

/-- `isinstance(x, dict)`. -/
def isObj : Json → Bool
  | .obj _ => true
  | _ => false

/-- `isinstance(x, str)`. -/
def isStr : Json → Bool
  | .str _ => true
  | _ => false

/-- `isinstance(x, list)`. -/
def isArr : Json → Bool
  | .arr _ => true
  | _ => false

/-- A JSON integer. -/
def isInt : Json → Bool
  | .int _ => true
  | _ => false

mutual
/-- Every integer in the value can become a text. -/
def withinDigits : Json → Bool
  | .int n => digitCount n ≤ maxStrDigits
  | .arr xs => withinDigitsList xs
  | .obj kvs => withinDigitsFields kvs
  | _ => true

/-- Every integer in the items can become a text. -/
def withinDigitsList : List Json → Bool
  | [] => true
  | x :: xs => x.withinDigits && withinDigitsList xs

/-- Every integer in the fields can become a text. -/
def withinDigitsFields : List (String × Json) → Bool
  | [] => true
  | (_, v) :: kvs => v.withinDigits && withinDigitsFields kvs
end

/-- An optional string as it stands in a request body: `None` is `null`. -/
def ofOptStr : Option String → Json
  | none => .null
  | some s => .str s

end Json

/-! ## Dictionaries -/

namespace Dict

/-- `d.get(k)`, absent keys reported as such. -/
def get? (d : Dict) (k : String) : Option Json := List.lookup k d

/-- `d.get(k, default)`. -/
def getD (d : Dict) (k : String) (dflt : Json) : Json := (d.get? k).getD dflt

/-- `d[k] = v`. -/
def set : Dict → String → Json → Dict
  | [], k, v => [(k, v)]
  | (k', v') :: d, k, v => if k' = k then (k, v) :: d else (k', v') :: set d k v

/-- `{k: d[k] for k in keys if k in d}`. -/
def restrict (d : Dict) : List String → Dict
  | [] => []
  | k :: ks => match d.get? k with
    | some v => (k, v) :: restrict d ks
    | none => restrict d ks

@[simp] theorem get?_nil (k : String) : get? [] k = none := rfl

theorem get?_cons (k' : String) (v : Json) (d : Dict) (k : String) :
    get? ((k', v) :: d) k = if k = k' then some v else get? d k := by
  unfold get?
  by_cases h : k = k'
  · simp [h]
  · simp [List.lookup_cons, h, beq_eq_false_iff_ne.mpr h]

@[simp] theorem get?_set_self (d : Dict) (k : String) (v : Json) : (d.set k v).get? k = some v := by
  induction d with
  | nil => simp [set, get?_cons]
  | cons p d ih =>
    obtain ⟨k', v'⟩ := p
    by_cases h : k' = k
    · simp [set, h, get?_cons]
    · rw [set, if_neg h, get?_cons, if_neg (Ne.symm h), ih]

theorem get?_set_ne (d : Dict) {k j : String} (v : Json) (h : j ≠ k) :
    (d.set k v).get? j = d.get? j := by
  induction d with
  | nil => simp [set, get?_cons, h]
  | cons p d ih =>
    obtain ⟨k', v'⟩ := p
    by_cases hk : k' = k
    · subst hk
      simp [set, get?_cons, h]
    · rw [set, if_neg hk, get?_cons, get?_cons, ih]

/-- The last value written to a key is the one that stays. -/
theorem set_set (d : Dict) (k : String) (v v' : Json) : (d.set k v).set k v' = d.set k v' := by
  induction d with
  | nil => simp [set]
  | cons p d ih =>
    obtain ⟨k', u⟩ := p
    by_cases hk : k' = k <;> simp [set, hk, ih]

theorem get?_restrict_of_not_mem {d : Dict} {ks : List String} {k : String} (h : k ∉ ks) :
    (d.restrict ks).get? k = none := by
  induction ks with
  | nil => rfl
  | cons k' ks ih =>
    rw [List.mem_cons, not_or] at h
    rw [restrict]
    cases hk' : d.get? k' with
    | none => exact ih h.2
    | some v => rw [get?_cons, if_neg h.1, ih h.2]

theorem get?_restrict_of_mem {d : Dict} {ks : List String} {k : String} (h : k ∈ ks) :
    (d.restrict ks).get? k = d.get? k := by
  induction ks with
  | nil => exact absurd h List.not_mem_nil
  | cons k' ks ih =>
    rw [restrict]
    by_cases hk : k = k'
    · subst hk
      cases hv : d.get? k with
      | none =>
        by_cases hm : k ∈ ks
        · rw [ih hm, hv]
        · exact get?_restrict_of_not_mem hm
      | some v => rw [get?_cons, if_pos rfl]
    · have hm : k ∈ ks := (List.mem_cons.mp h).resolve_left hk
      cases d.get? k' with
      | none => exact ih hm
      | some v => rw [get?_cons, if_neg hk, ih hm]

end Dict

/-! ## Text -/

/-- The zeros of the decimal digits of Unicode 14, which Python 3.11 has; each is followed by the other nine. -/
def decimalZeros : List Nat :=
  [0x30, 0x660, 0x6F0, 0x7C0, 0x966, 0x9E6, 0xA66, 0xAE6, 0xB66, 0xBE6, 0xC66, 0xCE6, 0xD66, 0xDE6, 0xE50,
    0xED0, 0xF20, 0x1040, 0x1090, 0x17E0, 0x1810, 0x1946, 0x19D0, 0x1A80, 0x1A90, 0x1B50, 0x1BB0, 0x1C40,
    0x1C50, 0xA620, 0xA8D0, 0xA900, 0xA9D0, 0xA9F0, 0xAA50, 0xABF0, 0xFF10, 0x104A0, 0x10D30, 0x11066,
    0x110F0, 0x11136, 0x111D0, 0x112F0, 0x11450, 0x114D0, 0x11650, 0x116C0, 0x11730, 0x118E0, 0x11950,
    0x11C50, 0x11D50, 0x11DA0, 0x16A60, 0x16AC0, 0x16B50, 0x1D7CE, 0x1D7D8, 0x1D7E2, 0x1D7EC,
    0x1D7F6, 0x1E140, 0x1E2F0, 0x1E950, 0x1FBF0]

/-- The value of a decimal digit. -/
def decimalValue (c : Char) : Option Nat :=
  (decimalZeros.find? fun z => z ≤ c.toNat && c.toNat < z + 10).map fun z => c.toNat - z

/-- White space of the C locale. -/
def isAsciiSpace (c : Char) : Bool :=
  c == ' ' || (9 ≤ c.toNat && c.toNat ≤ 13)

/-- White space, as `str.strip` drops it; it includes the separators of ASCII. -/
def isSpace (c : Char) : Bool :=
  isAsciiSpace c || (0x1C ≤ c.toNat && c.toNat ≤ 0x1F) || (0x2000 ≤ c.toNat && c.toNat ≤ 0x200A) ||
    [0x85, 0xA0, 0x1680, 0x2028, 0x2029, 0x202F, 0x205F, 0x3000].contains c.toNat

/-- White space, as `int` and `float` drop it: outside ASCII that of Unicode, and within it that of the C locale. -/
def isNumberSpace (c : Char) : Bool := isAsciiSpace c || (128 ≤ c.toNat && isSpace c)

/-- Drop a class of characters at both ends. -/
def stripBy (drop : Char → Bool) (cs : List Char) : List Char :=
  ((cs.dropWhile drop).reverse.dropWhile drop).reverse

/-- `s.strip()`. -/
def strip (s : String) : String := String.ofList (stripBy isSpace s.toList)

/-- Decimal digits in groups joined by single underscores, of which there are not too many. -/
def natOfText (cs : List Char) : Option Nat :=
  let groups := cs.splitOn '_'
  if groups.any List.isEmpty || maxStrDigits < groups.flatten.length then
    none
  else
    (groups.flatten.mapM decimalValue).map fun ds => ds.foldl (fun n d => 10 * n + d) 0

/-- `int(s)` on a string: optional sign, digits, white space around them ignored. -/
def intOfText (s : String) : Option Int :=
  match stripBy isNumberSpace s.toList with
  | '-' :: cs => (natOfText cs).map fun n => -(n : Int)
  | '+' :: cs => (natOfText cs).map Int.ofNat
  | cs => (natOfText cs).map Int.ofNat

example : intOfText " -1_0\n" = some (-10) := by decide

/-- `pathlib.PurePath.suffix` of a file name: from the last dot on, unless that dot is the first or the
last character. -/
def suffix (name : String) : List Char :=
  let tail := name.toList.reverse.takeWhile (· != '.')
  let stem := (name.toList.reverse.dropWhile (· != '.')).drop 1
  if tail.isEmpty || stem.isEmpty then [] else '.' :: tail.reverse

/-- Appending an extension to a non-empty stem makes it the suffix. -/
theorem suffix_append {stem : String} {ext : List Char} (hs : stem ≠ "") (he : ext ≠ [])
    (hd : '.' ∉ ext) : suffix (stem ++ String.ofList ('.' :: ext)) = '.' :: ext := by
  have hrev : (stem ++ String.ofList ('.' :: ext)).toList.reverse =
      ext.reverse ++ '.' :: stem.toList.reverse := by
    simp [String.toList_append]
  have hall : ∀ c ∈ ext.reverse, (c != '.') = true := by
    intro c hc
    have : c ≠ '.' := fun h => hd (h ▸ List.mem_reverse.mp hc)
    simpa using this
  have htake : (ext.reverse ++ '.' :: stem.toList.reverse).takeWhile (· != '.') = ext.reverse := by
    rw [List.takeWhile_append_of_pos hall]
    simp
  have hdrop : (ext.reverse ++ '.' :: stem.toList.reverse).dropWhile (· != '.') =
      '.' :: stem.toList.reverse := by
    rw [List.dropWhile_append_of_pos hall]
    simp
  simp only [suffix, hrev, htake, hdrop, List.drop_one, List.tail_cons, List.reverse_reverse]
  simp [he, hs]

/-- A file name ends with its suffix. -/
theorem exists_stem_of_suffix {name : String} {ext : List Char} (h : suffix name = '.' :: ext) :
    ∃ stem, name = stem ++ String.ofList ('.' :: ext) := by
  have hsplit := List.takeWhile_append_dropWhile (p := (· != '.')) (l := name.toList.reverse)
  generalize htail : name.toList.reverse.takeWhile (· != '.') = tail at hsplit
  cases hdrop : name.toList.reverse.dropWhile (· != '.') with
  | nil => simp [suffix, htail, hdrop] at h
  | cons c stem =>
    have hc : c = '.' := by
      have := List.head_dropWhile_not (· != '.') (l := name.toList.reverse)
        (by rw [hdrop]; exact List.cons_ne_nil _ _)
      simpa [hdrop] using this
    simp only [suffix, htail, hdrop, List.drop_one, List.tail_cons] at h
    split_ifs at h
    obtain rfl : tail.reverse = ext := List.tail_eq_of_cons_eq h
    refine ⟨String.ofList stem.reverse, ?_⟩
    have hname : name.toList = stem.reverse ++ '.' :: tail.reverse := by
      have := congrArg List.reverse hsplit
      rw [List.reverse_reverse, hdrop, hc] at this
      rw [← this]
      simp
    rw [← String.toList_inj, String.toList_append, String.toList_ofList, String.toList_ofList, hname]

end CertWatch
