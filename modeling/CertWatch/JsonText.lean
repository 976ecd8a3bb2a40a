/-
# `CertWatch.JsonText` — `json.dump` and `json.load`, as texts.

The agent writes its credentials and its queued reports with `json.dump(…, indent=2, sort_keys=True)`, its log lines
and its request bodies with `json.dumps`, and reads all of them back with `json.load`.  This module has the encoder
and the decoder of the standard library as functions on texts.

How a float is written and read is a parameter, with the form of `float.__repr__` and the promise that it reads back
as the float it came from.  An integer of more than 4300 digits is neither written nor read.  A string of the model
has no lone surrogates: where a text escapes one, `loads` has no document for what the decoder accepts.
-/
import CertWatch.Exceptions
import CertWatch.Lib.Scan

namespace CertWatch

open CertWatch.Lib CertWatch.Lib.Scanner

/-! ## Floats -/

/-- A fraction, or none. -/
def IsFrac (frac : List Char) : Prop :=
  frac = [] ∨ ∃ d ds, frac = '.' :: d :: ds ∧ (d :: ds).all Char.isDigit = true

/-- An exponent, or none. -/
def IsExp (exp : List Char) : Prop :=
  exp = [] ∨ ∃ sign d ds, exp = 'e' :: (sign :: d :: ds) ∧ (sign = '+' ∨ sign = '-') ∧
    (d :: ds).all Char.isDigit = true

theorem isFrac_nil : IsFrac [] := .inl rfl

theorem isExp_nil : IsExp [] := .inl rfl

/-- The text of a number: sign, whole part, fraction and exponent, as `float.__repr__` and `int.__repr__` write them. -/
structure NumberText where
  sign : List Char
  whole : List Char
  frac : List Char
  exp : List Char
  sign_eq : sign = [] ∨ sign = ['-']
  whole_eq : whole = ['0'] ∨ ∃ d ds, whole = d :: ds ∧ d ≠ '0' ∧ (d :: ds).all Char.isDigit = true
  frac_eq : IsFrac frac
  exp_eq : IsExp exp

/-- The characters of a number's text. -/
def NumberText.text (t : NumberText) : List Char := t.sign ++ (t.whole ++ (t.frac ++ t.exp))

/-- The text of a finite float has a fraction or an exponent, and few digits before them. -/
structure FloatText extends NumberText where
  not_int : ¬ (frac = [] ∧ exp = [])
  whole_short : whole.length ≤ maxStrDigits

/-- The finite floats among the rationals, `float.__repr__` on them and `float(…)` on the texts of numbers. -/
structure FloatFormat where
  isFloat : Rat → Prop
  repr : Rat → FloatText
  read : List Char → PyFloat
  read_repr : ∀ q, isFloat q → read (repr q).text = .finite q
  read_isFloat : ∀ text q, read text = .finite q → isFloat q

/-- One half, as a float. -/
def halfText : FloatText where
  sign := []
  whole := ['0']
  frac := ['.', '5']
  exp := []
  sign_eq := .inl rfl
  whole_eq := .inl rfl
  frac_eq := .inr ⟨'5', [], rfl, rfl⟩
  exp_eq := isExp_nil
  not_int := by simp
  whole_short := by decide

/-- The floats of the examples: one half. -/
def halfFormat : FloatFormat where
  isFloat q := q = 1 / 2
  repr _ := halfText
  read text := if text = "0.5".toList then .finite (1 / 2) else .nan
  read_repr q hq := by rw [hq]; rfl
  read_isFloat text q h := by
    split_ifs at h
    exact (PyFloat.finite.inj h).symm

/-! ## The encoder -/

/-- `'{0:04x}'.format(n)`, for a number of 16 bits. -/
def hex4 (n : Nat) : List Char :=
  [Nat.digitChar (n / 4096 % 16), Nat.digitChar (n / 256 % 16), Nat.digitChar (n / 16 % 16), Nat.digitChar (n % 16)]

/-- `ESCAPE_DCT`: the escapes of one letter. -/
def escapeLetters : List (Char × Char) :=
  [('\\', '\\'), ('"', '"'), ('\x08', 'b'), ('\x0c', 'f'), ('\n', 'n'), ('\r', 'r'), ('\t', 't')]

/-- The code units of a character: its code point, or a surrogate pair. -/
def codeUnits (c : Char) : List Nat :=
  if c.toNat < 0x10000 then [c.toNat]
  else [0xD800 + (c.toNat - 0x10000) / 1024, 0xDC00 + (c.toNat - 0x10000) % 1024]

/-- What `ESCAPE_ASCII` replaces a character by. -/
def escapeChar (c : Char) : List Char :=
  match escapeLetters.lookup c with
  | some letter => ['\\', letter]
  | none => if ' ' ≤ c ∧ c ≤ '~' then [c] else (codeUnits c).flatMap fun u => '\\' :: 'u' :: hex4 u

/-- `py_encode_basestring_ascii`. -/
def stringText (s : String) : List Char := '"' :: (s.toList.flatMap escapeChar ++ ['"'])

/-- `int.__repr__`, of an integer within the limit. -/
def intText (n : Int) : List Char := (if n < 0 then ['-'] else []) ++ Nat.toDigits 10 n.natAbs

/-- `floatstr`. -/
def floatText (F : FloatFormat) : PyFloat → List Char
  | .finite q => (F.repr q).text
  | .posInf => "Infinity".toList
  | .negInf => "-Infinity".toList
  | .nan => "NaN".toList

/-- `indent=` and `sort_keys=`. -/
structure JsonStyle where
  indent : Option Nat
  sort_keys : Bool

/-- `indent=2, sort_keys=True`, as the files are written. -/
def fileStyle : JsonStyle := ⟨some 2, true⟩

/-- The defaults, as log lines and request bodies are written. -/
def lineStyle : JsonStyle := ⟨none, false⟩

namespace JsonStyle

/-- `item_separator`. -/
def itemSeparator (style : JsonStyle) : List Char := if style.indent.isSome then [','] else [',', ' ']

/-- `newline_indent` at a level. -/
def newlineIndent (style : JsonStyle) (level : Nat) : List Char := match style.indent with
  | none => []
  | some n => '\n' :: List.replicate (n * level) ' '

/-- The items behind the first, and the closing bracket. -/
def moreItems (style : JsonStyle) (level : Nat) (closing : Char) (ts : List (List Char)) : List Char :=
  ts.flatMap (fun t => style.itemSeparator ++ style.newlineIndent (level + 1) ++ t) ++
    (style.newlineIndent level ++ [closing])

/-- The texts of the items of a list or a dict, between brackets. -/
def bracketed (style : JsonStyle) (level : Nat) (opening closing : Char) : List (List Char) → List Char
  | [] => [opening, closing]
  | t :: ts => opening :: (style.newlineIndent (level + 1) ++ (t ++ style.moreItems level closing ts))

end JsonStyle

mutual
/-- `_iterencode`, where every integer is within the limit. -/
def valueText (F : FloatFormat) (style : JsonStyle) : Nat → Json → List Char
  | _, .null => "null".toList
  | _, .bool b => if b then "true".toList else "false".toList
  | _, .int n => intText n
  | _, .float x => floatText F x
  | _, .str s => stringText s
  | level, .arr xs => style.bracketed level '[' ']' (itemTexts F style (level + 1) xs)
  | level, .obj kvs => style.bracketed level '{' '}' (memberTexts F style (level + 1) kvs)

/-- The items of `_iterencode_list`. -/
def itemTexts (F : FloatFormat) (style : JsonStyle) : Nat → List Json → List (List Char)
  | _, [] => []
  | level, x :: xs => valueText F style level x :: itemTexts F style level xs

/-- The items of `_iterencode_dict`. -/
def memberTexts (F : FloatFormat) (style : JsonStyle) : Nat → List (String × Json) → List (List Char)
  | _, [] => []
  | level, (k, v) :: kvs =>
    (stringText k ++ ':' :: ' ' :: valueText F style level v) :: memberTexts F style level kvs
end

/-- `sorted(dct.items())`; the keys of a dict differ. -/
def sortedItems (kvs : Dict) : Dict := kvs.mergeSort fun p q => decide (p.1 ≤ q.1)

mutual
/-- The document with the keys of every dict in order. -/
def Json.ordered : Json → Json
  | .arr xs => .arr (Json.orderedItems xs)
  | .obj kvs => .obj (sortedItems (Json.orderedMembers kvs))
  | v => v

/-- The items with their keys in order. -/
def Json.orderedItems : List Json → List Json
  | [] => []
  | x :: xs => x.ordered :: Json.orderedItems xs

/-- The values of the members with their keys in order. -/
def Json.orderedMembers : List (String × Json) → List (String × Json)
  | [] => []
  | (k, v) :: kvs => (k, v.ordered) :: Json.orderedMembers kvs
end

/-- The document as a style writes it. -/
def Json.inStyle (style : JsonStyle) (v : Json) : Json := if style.sort_keys then v.ordered else v

/-- `json.dumps(v, …)`, and what `json.dump(v, f, …)` writes, unless an integer has too many digits. -/
def dumps (F : FloatFormat) (style : JsonStyle) (v : Json) : Except PyExc (List Char) :=
  if v.withinDigits then .ok (valueText F style 0 (v.inStyle style)) else .error overlongInt

theorem withinDigits_of_dumps {F : FloatFormat} {style : JsonStyle} {v : Json} {t : List Char}
    (h : dumps F style v = .ok t) : v.withinDigits = true := by
  unfold dumps at h
  split_ifs at h with hwithin
  exact hwithin

/-! ## The decoder -/

/-- `[ \t\n\r]`. -/
def isJsonSpace (c : Char) : Bool := c == ' ' || c == '\t' || c == '\n' || c == '\r'

/-- The value of a hexadecimal digit. -/
def hexValue (c : Char) : Option Nat :=
  if '0' ≤ c ∧ c ≤ '9' then some (c.toNat - '0'.toNat)
  else if 'a' ≤ c ∧ c ≤ 'f' then some (c.toNat - 'a'.toNat + 10)
  else if 'A' ≤ c ∧ c ≤ 'F' then some (c.toNat - 'A'.toNat + 10)
  else none

/-- Scanners of JSON texts. -/
abbrev JsonScanner (α : Type) := Scanner PyExc Char α

/-- So many hexadecimal digits, after those that were read. -/
def scanHex : Nat → Nat → JsonScanner Nat
  | 0, n => pure n
  | k + 1, n => do
    let c ← item fun _ => true
    match hexValue c with
    | some d => scanHex k (16 * n + d)
    | none => miss

/-- What follows a backslash. -/
def scanEscape : JsonScanner Nat := do
  let c ← item fun _ => true
  if c = 'u' then scanHex 4 0
  else if c = '/' then pure '/'.toNat
  else
    match escapeLetters.find? fun e => e.2 == c with
    | some e => pure e.1.toNat
    | none => miss

/-- One code unit of a string; control characters are refused. -/
def scanUnit : JsonScanner Nat := do
  let c ← item fun _ => true
  if c = '\\' then scanEscape
  else if c.toNat ≤ 0x1F then miss
  else pure c.toNat

/-- `Py_UNICODE_JOIN_SURROGATES`, wherever a high surrogate stands before a low one. -/
def joinSurrogates : List Nat → List Nat
  | [] => []
  | [u] => [u]
  | high :: low :: us =>
    if 0xD800 ≤ high ∧ high ≤ 0xDBFF ∧ 0xDC00 ≤ low ∧ low ≤ 0xDFFF then
      (0x10000 + (high - 0xD800) * 1024 + (low - 0xDC00)) :: joinSurrogates us
    else
      high :: joinSurrogates (low :: us)

/-- The character at a code point; surrogates have none. -/
def charAt (n : Nat) : Option Char := if n.isValidChar then some (Char.ofNat n) else none

/-- The string of the code units. -/
def textOf (units : List Nat) : Option String := ((joinSurrogates units).mapM charAt).map String.ofList

/-- A sign. -/
def scanSign : JsonScanner (List Char) := attempt ((fun c => [c]) <$> item fun c => c == '-')

/-- The whole part of a number: a zero, or digits that do not start with one. -/
def scanWhole : JsonScanner (List Char) := do
  let d ← item Char.isDigit
  if d = '0' then pure [d]
  else
    let ds ← run Char.isDigit
    pure (d :: ds)

/-- At least one digit. -/
def scanDigits : JsonScanner (List Char) := do
  let d ← item Char.isDigit
  let ds ← run Char.isDigit
  pure (d :: ds)

/-- A point and digits, or nothing. -/
def scanFrac : JsonScanner (List Char) := attempt do
  let point ← item fun c => c == '.'
  let ds ← scanDigits
  pure (point :: ds)

/-- An exponent, or nothing. -/
def scanExp : JsonScanner (List Char) := attempt do
  let e ← item fun c => c == 'e' || c == 'E'
  let sign ← attempt ((fun c => [c]) <$> item fun c => c == '+' || c == '-')
  let ds ← scanDigits
  pure (e :: (sign ++ ds))

/-- `PyLong_FromString` of a sign and digits. -/
def intOf (sign whole : List Char) : Int :=
  if sign = [] then (Nat.ofDigitChars 10 whole 0 : Int) else -(Nat.ofDigitChars 10 whole 0 : Int)

/-- What the sign, the whole part, the fraction and the exponent of a number make. -/
abbrev Conversion := List Char → List Char → List Char → List Char → Except PyExc Json

/-- `PyLong_FromString` of a number without fraction and exponent, and `PyFloat_FromString` of any other. -/
def pythonNumber (F : FloatFormat) : Conversion := fun sign whole frac exp =>
  if frac = [] ∧ exp = [] then
    if whole.length ≤ maxStrDigits then .ok (.int (intOf sign whole)) else .error overlongInt
  else
    .ok (.float (F.read (sign ++ (whole ++ (frac ++ exp)))))

section

variable (convert : Conversion)

/-- `_match_number_unicode`. -/
def scanNumber : JsonScanner Json := do
  let sign ← scanSign
  let whole ← scanWhole
  let frac ← scanFrac
  let exp ← scanExp
  ofExcept (convert sign whole frac exp)

/-- A word for a value. -/
def scanWord (word : String) (v : Json) : JsonScanner Json := (fun _ => v) <$> exactly word.toList

/-- What follows a minus sign. -/
def scanMinus : JsonScanner Json :=
  orElse (scanWord "Infinity" (.float .negInf)) (unread '-' (scanNumber convert))

/-- The words and the numbers. -/
def scanAtom : JsonScanner Json := do
  let c ← item fun _ => true
  if c = 'n' then scanWord "ull" .null
  else if c = 't' then scanWord "rue" (.bool true)
  else if c = 'f' then scanWord "alse" (.bool false)
  else if c = 'N' then scanWord "aN" (.float .nan)
  else if c = 'I' then scanWord "nfinity" (.float .posInf)
  else if c = '-' then scanMinus convert
  else unread c (scanNumber convert)

/-- The parts of a document. -/
inductive JsonPart where
  | value
  /-- The items of a list, up to the closing bracket. -/
  | items
  /-- The members of a dict, up to the closing brace. -/
  | members
  /-- The code units of a string, up to the closing quote. -/
  | chars
  deriving DecidableEq

/-- What a part is read as; `none` where a string has no text. -/
def JsonPart.Result : JsonPart → Type
  | .value => Option Json
  | .items => Option (List Json)
  | .members => Option Dict
  | .chars => List Nat

/-- `d[k] = v` for each pair in turn. -/
def Dict.ofPairs (kvs : List (String × Json)) : Dict := kvs.foldl (fun d kv => d.set kv.1 kv.2) []

/-- Nothing before the closing bracket, or what is there. -/
def unlessClosed {α : Type} (closing : Char) (p : JsonScanner (Option (List α))) : JsonScanner (Option (List α)) := do
  let c ← next isJsonSpace
  if c = closing then pure (some []) else unread c p

/-- After an item: the closing bracket, or a comma and more. -/
def afterItem {α : Type} (closing : Char) (more : JsonScanner (Option (List α))) : JsonScanner (Option (List α)) := do
  let c ← next isJsonSpace
  if c = closing then pure (some [])
  else if c = ',' then more
  else miss

/-- The scanners of the parts. -/
abbrev JsonParts := Parts PyExc Char JsonPart.Result

/-- `_scan_once_unicode`, behind white space. -/
def scanValue (parts : JsonParts) : JsonScanner (Option Json) := do
  let c ← next isJsonSpace
  if c = '"' then (fun units => (textOf units).map .str) <$> parts .chars
  else if c = '[' then (fun xs => xs.map .arr) <$> unlessClosed ']' (parts .items)
  else if c = '{' then (fun kvs => kvs.map fun kvs => .obj (Dict.ofPairs kvs)) <$> unlessClosed '}' (parts .members)
  else some <$> unread c (scanAtom convert)

/-- The loop of `_parse_array_unicode`. -/
def scanItems (parts : JsonParts) : JsonScanner (Option (List Json)) := do
  let v ← parts .value
  let vs ← afterItem ']' (parts .items)
  pure do return (← v) :: (← vs)

/-- The loop of `_parse_object_unicode`. -/
def scanMembers (parts : JsonParts) : JsonScanner (Option Dict) := do
  let quote ← next isJsonSpace
  if quote = '"' then
    let units ← parts .chars
    let colon ← next isJsonSpace
    if colon = ':' then
      let v ← parts .value
      let kvs ← afterItem '}' (parts .members)
      pure do return (← textOf units, ← v) :: (← kvs)
    else miss
  else miss

/-- The loop of `scanstring_unicode`. -/
def scanChars (parts : JsonParts) : JsonScanner (List Nat) := do
  let c ← item fun _ => true
  if c = '"' then pure []
  else
    let u ← unread c scanUnit
    let us ← parts .chars
    pure (u :: us)

/-- One level of a document. -/
def jsonStep (parts : JsonParts) : JsonParts
  | .value => scanValue convert parts
  | .items => scanItems parts
  | .members => scanMembers parts
  | .chars => scanChars parts

/-- What bounds the levels of a document. -/
def jsonSize : JsonPart → List Char → Nat
  | .items, s => 2 * s.length + 1
  | _, s => 2 * s.length

/-- The documents, part by part. -/
def scan : JsonParts := fix (jsonStep convert) jsonSize

end

/-- `json.loads(t)`: a document with white space around it and nothing else. -/
def loads (F : FloatFormat) (t : List Char) : Except PyExc (Option Json) :=
  match scan (pythonNumber F) .value t with
  | .error none => .error .jsonDecode
  | .error (some e) => .error e
  | .ok (v, rest) => if rest.all isJsonSpace then .ok v else .error .jsonDecode

end CertWatch
