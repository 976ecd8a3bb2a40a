/-
# `CertWatch.JsonTokens` — strings and numbers are read as they were written.

The encoder's text of a string or a number is what the decoder's scanner takes, from the escapes of one character up.
-/
import CertWatch.JsonScan

namespace CertWatch

open CertWatch.Lib CertWatch.Lib.Scanner

/-! ## Strings -/

/-- The code points of characters. -/
theorem toNat_valid (c : Char) : c.toNat < 0xD800 ∨ 0xDFFF < c.toNat ∧ c.toNat < 0x110000 := c.valid

theorem hexValue_digitChar : ∀ d < 16, hexValue (Nat.digitChar d) = some d := by decide

theorem reads_scanHex_succ {k n d : Nat} (hd : d < 16) {text : List Char} {u : Nat}
    (h : (scanHex k (16 * n + d)).Reads (fun _ => True) text u) :
    (scanHex (k + 1) n).Reads (fun _ => True) (Nat.digitChar d :: text) u := by
  refine reads_item_bind rfl ?_
  rw [hexValue_digitChar d hd]
  exact h

theorem reads_scanHex {u : Nat} (hu : u < 0x10000) : (scanHex 4 0).Reads (fun _ => True) (hex4 u) u := by
  have hlt : ∀ n, n % 16 < 16 := fun n => Nat.mod_lt n (by decide)
  refine reads_scanHex_succ (hlt _) (reads_scanHex_succ (hlt _) (reads_scanHex_succ (hlt _)
    (reads_scanHex_succ (hlt _) ?_)))
  have hsum : 16 * (16 * (16 * (16 * 0 + u / 4096 % 16) + u / 256 % 16) + u / 16 % 16) + u % 16 = u := by omega
  rw [hsum]
  exact reads_pure _ u

/-- `\uXXXX`. -/
theorem reads_scanUnit_hex {u : Nat} (hu : u < 0x10000) :
    scanUnit.Reads (fun _ => True) ('\\' :: 'u' :: hex4 u) u := by
  refine reads_item_bind rfl ?_
  exact reads_item_bind rfl (reads_scanHex hu)

theorem mem_escapeLetters {c letter : Char} (h : escapeLetters.lookup c = some letter) :
    (c, letter) ∈ escapeLetters := by
  rw [List.lookup_eq_some_iff] at h
  obtain ⟨l₁, l₂, hl, -⟩ := h
  rw [hl]
  exact List.mem_append_right _ List.mem_cons_self

/-- An escape of one letter. -/
theorem reads_scanUnit_letter {c letter : Char} (h : (c, letter) ∈ escapeLetters) :
    scanUnit.Reads (fun _ => True) ['\\', letter] c.toNat ∧ codeUnits c = [c.toNat] := by
  simp only [escapeLetters, List.mem_cons, Prod.mk.injEq, List.not_mem_nil, or_false] at h
  rcases h with ⟨rfl, rfl⟩ | ⟨rfl, rfl⟩ | ⟨rfl, rfl⟩ | ⟨rfl, rfl⟩ | ⟨rfl, rfl⟩ | ⟨rfl, rfl⟩ | ⟨rfl, rfl⟩ <;>
    exact ⟨fun _ _ => rfl, rfl⟩

/-- A character that stands for itself. -/
theorem reads_scanUnit_plain {c : Char} (hletter : escapeLetters.lookup c = none) (hplain : ' ' ≤ c) :
    scanUnit.Reads (fun _ => True) [c] c.toNat := by
  have hbackslash : c ≠ '\\' := by
    rintro rfl
    cases hletter
  have hcontrol : ¬ c.toNat ≤ 0x1F := by
    have : ' '.toNat ≤ c.toNat := hplain
    have hspace : ' '.toNat = 0x20 := rfl
    omega
  refine reads_item_bind rfl ?_
  rw [if_neg hbackslash, if_neg hcontrol]
  exact reads_pure _ _

section

variable {convert : Conversion}

theorem reads_chars_nil : (scan convert .chars).Reads (fun _ => True) ['"'] [] := by
  intro rest _
  rw [scan_chars]
  rfl

/-- One code unit more. -/
theorem reads_chars_cons {c : Char} {w text : List Char} {u : Nat} {us : List Nat} (hc : c ≠ '"')
    (hw : scanUnit.Reads (fun _ => True) (c :: w) u) (htext : (scan convert .chars).Reads (fun _ => True) text us) :
    (scan convert .chars).Reads (fun _ => True) (c :: w ++ text) (u :: us) := by
  intro rest _
  rw [scan_chars]
  have hitem : (item (fun _ => true) : JsonScanner Char) (c :: w ++ text ++ rest) =
      .ok (c, w ++ text ++ rest) := rfl
  have hunit : unread c scanUnit (w ++ text ++ rest) = .ok (u, text ++ rest) := by
    rw [List.append_assoc]
    exact hw (text ++ rest) trivial
  rw [scanChars, bind_of_ok hitem, if_neg hc, bind_of_ok hunit, bind_of_ok (htext rest trivial)]
  rfl

theorem reads_chars_hex {units : List Nat} {text : List Char} {us : List Nat} (hunits : ∀ u ∈ units, u < 0x10000)
    (htext : (scan convert .chars).Reads (fun _ => True) text us) :
    (scan convert .chars).Reads (fun _ => True) ((units.flatMap fun u => '\\' :: 'u' :: hex4 u) ++ text)
      (units ++ us) := by
  induction units with
  | nil => exact htext
  | cons u units ih =>
    rw [List.flatMap_cons, List.append_assoc, List.cons_append]
    refine reads_chars_cons (by decide) (reads_scanUnit_hex (hunits u List.mem_cons_self)) ?_
    exact ih fun u' hu' => hunits u' (List.mem_cons_of_mem u hu')

theorem codeUnits_lt (c : Char) : ∀ u ∈ codeUnits c, u < 0x10000 := by
  have hvalid := toNat_valid c
  unfold codeUnits
  generalize c.toNat = n at hvalid ⊢
  split_ifs with hbmp
  · intro u hu
    rw [List.mem_singleton.mp hu]
    exact hbmp
  · have hhigh : 0xD800 + (n - 0x10000) / 1024 < 0x10000 := by omega
    have hlow : 0xDC00 + (n - 0x10000) % 1024 < 0x10000 := by omega
    intro u hu
    rcases List.mem_cons.mp hu with hu | hu
    · exact hu.symm ▸ hhigh
    · exact (List.mem_singleton.mp hu).symm ▸ hlow

/-- What stands for one character. -/
theorem reads_chars_escapeChar (c : Char) {text : List Char} {us : List Nat}
    (htext : (scan convert .chars).Reads (fun _ => True) text us) :
    (scan convert .chars).Reads (fun _ => True) (escapeChar c ++ text) (codeUnits c ++ us) := by
  unfold escapeChar
  cases hletter : escapeLetters.lookup c with
  | some letter =>
    obtain ⟨hreads, hunits⟩ := reads_scanUnit_letter (mem_escapeLetters hletter)
    rw [hunits]
    exact reads_chars_cons (by decide) hreads htext
  | none =>
    dsimp only
    split_ifs with hplain
    · have hquote : c ≠ '"' := by
        rintro rfl
        cases hletter
      have hunits : codeUnits c = [c.toNat] := by
        have htilde : c.toNat ≤ '~'.toNat := hplain.2
        have : '~'.toNat = 0x7E := rfl
        rw [codeUnits, if_pos (by omega)]
      rw [hunits]
      exact reads_chars_cons hquote (reads_scanUnit_plain hletter hplain.1) htext
    · exact reads_chars_hex (codeUnits_lt c) htext

theorem reads_chars (cs : List Char) :
    (scan convert .chars).Reads (fun _ => True) (cs.flatMap escapeChar ++ ['"']) (cs.flatMap codeUnits) := by
  induction cs with
  | nil => exact reads_chars_nil
  | cons c cs ih =>
    rw [List.flatMap_cons, List.flatMap_cons, List.append_assoc]
    exact reads_chars_escapeChar c ih

end

theorem joinSurrogates_cons {u : Nat} (h : ¬ (0xD800 ≤ u ∧ u ≤ 0xDBFF)) (us : List Nat) :
    joinSurrogates (u :: us) = u :: joinSurrogates us := by
  cases us with
  | nil => rfl
  | cons low us =>
    rw [joinSurrogates, if_neg]
    exact fun hpair => h ⟨hpair.1, hpair.2.1⟩

/-- The code units of a character are joined again. -/
theorem joinSurrogates_codeUnits (c : Char) (us : List Nat) :
    joinSurrogates (codeUnits c ++ us) = c.toNat :: joinSurrogates us := by
  have hvalid := toNat_valid c
  unfold codeUnits
  generalize c.toNat = n at hvalid ⊢
  split_ifs with hbmp
  · exact joinSurrogates_cons (by omega) us
  · have hhigh : (n - 0x10000) / 1024 ≤ 0x3FF := by omega
    have hlow : (n - 0x10000) % 1024 ≤ 0x3FF := by omega
    have hsum : 0x10000 + (n - 0x10000) / 1024 * 1024 + (n - 0x10000) % 1024 = n := by omega
    rw [List.cons_append, List.cons_append, List.nil_append, joinSurrogates, if_pos (by omega),
      Nat.add_sub_cancel_left, Nat.add_sub_cancel_left, hsum]

theorem charAt_toNat (c : Char) : charAt c.toNat = some c := by
  have hvalid : c.toNat.isValidChar := c.valid
  rw [charAt, if_pos hvalid, Char.ofNat_toNat]

theorem textOf_codeUnits (cs : List Char) : textOf (cs.flatMap codeUnits) = some (String.ofList cs) := by
  have hjoin : joinSurrogates (cs.flatMap codeUnits) = cs.map Char.toNat := by
    induction cs with
    | nil => rfl
    | cons c cs ih => rw [List.flatMap_cons, joinSurrogates_codeUnits, ih, List.map_cons]
  have hmap : (cs.map Char.toNat).mapM charAt = some cs := by
    clear hjoin
    induction cs with
    | nil => rfl
    | cons c cs ih => rw [List.map_cons, List.mapM_cons, charAt_toNat, ih]; rfl
  rw [textOf, hjoin, hmap]
  rfl

/-! ## Numbers -/

/-- What may stand behind a value: nothing, or what closes it. -/
def MayFollow (rest : List Char) : Prop := ∀ c ∈ rest.head?, closes c = true

/-- A scanner that starts with an item of a class takes nothing where another item stands, or none. -/
theorem bind_item_none {α : Type} {P : Char → Bool} {f : Char → JsonScanner α} {rest : List Char}
    (h : ∀ c ∈ rest.head?, P c = false) : (item P >>= f) rest = .error none :=
  bind_of_error (item_eq_miss.mpr h)

theorem reads_digits {d : Char} {ds : List Char} (h : (d :: ds).all Char.isDigit = true) :
    scanDigits.Reads (fun rest => ∀ c ∈ rest.head?, c.isDigit = false) (d :: ds) (d :: ds) := by
  rw [List.all_cons, Bool.and_eq_true] at h
  refine reads_item_bind h.1 ?_
  exact (reads_run (List.all_eq_true.mp h.2)).map (d :: ·)

section

variable (t : NumberText)

theorem reads_sign : scanSign.Reads (fun rest => ∀ c ∈ rest.head?, c ≠ '-') t.sign t.sign := by
  rcases t.sign_eq with h | h
  · rw [h]
    refine reads_attempt_nil fun rest hrest => ?_
    rw [map_eq_bind]
    exact bind_item_none fun c hc => beq_eq_false_iff_ne.mpr (hrest c hc)
  · rw [h]
    exact ((reads_item (P := fun c => c == '-') rfl).map _).attempt.mono fun _ _ => trivial

theorem reads_whole : scanWhole.Reads (fun rest => ∀ c ∈ rest.head?, c.isDigit = false) t.whole t.whole := by
  rcases t.whole_eq with h | ⟨d, ds, h, hne, hdigits⟩
  · rw [h]
    exact fun rest _ => rfl
  · rw [h]
    rw [List.all_cons, Bool.and_eq_true] at hdigits
    refine reads_item_bind hdigits.1 ?_
    rw [if_neg hne]
    exact (reads_run (List.all_eq_true.mp hdigits.2)).map (d :: ·)

theorem reads_frac : scanFrac.Reads (fun rest => ∀ c ∈ rest.head?, endsWhole c = true) t.frac t.frac := by
  have hends : ∀ rest : List Char, (∀ c ∈ rest.head?, endsWhole c = true) → ∀ c ∈ rest.head?, c.isDigit = false :=
    fun rest hrest c hc => by simpa using not_isDigit_of_endsWhole (hrest c hc)
  rcases t.frac_eq with h | ⟨d, ds, h, hdigits⟩
  · rw [h]
    refine reads_attempt_nil fun rest hrest => bind_item_none fun c hc => ?_
    have := hrest c hc
    simp only [endsWhole, Bool.and_eq_true, bne_iff_ne] at this
    exact beq_eq_false_iff_ne.mpr this.2
  · rw [h]
    refine Reads.attempt ?_
    refine reads_item_bind rfl ?_
    exact ((reads_digits hdigits).map ('.' :: ·)).mono hends

theorem reads_exp : scanExp.Reads MayFollow t.exp t.exp := by
  rcases t.exp_eq with h | ⟨sign, d, ds, h, hsign, hdigits⟩
  · rw [h]
    refine reads_attempt_nil fun rest hrest => bind_item_none fun c hc => ?_
    rcases closes_cases (hrest c hc) with rfl | rfl | rfl | rfl | rfl | rfl | rfl <;> rfl
  · rw [h]
    refine Reads.attempt ?_
    refine reads_item_bind rfl ?_
    have hplus : (sign == '+' || sign == '-') = true := by rcases hsign with rfl | rfl <;> rfl
    have hitem : (item (fun c => c == '+' || c == '-') : JsonScanner Char).Reads (fun _ => True) [sign] sign :=
      reads_item hplus
    have hsigned := (hitem.map fun c => [c]).attempt
    refine hsigned.bind ?_ fun _ _ => trivial
    exact ((reads_digits hdigits).map ('e' :: [sign] ++ ·)).mono fun rest hrest c hc =>
      not_isDigit_of_closes (hrest c hc)

theorem head_append {P : Char → Prop} {a b : List Char} (ha : ∀ c ∈ a.head?, P c) (hb : ∀ c ∈ b.head?, P c) :
    ∀ c ∈ (a ++ b).head?, P c := by
  cases a with
  | nil => exact hb
  | cons c a => exact ha

/-- A number starts with its sign or a digit. -/
theorem NumberText.head_text : ∃ c rest, t.text = c :: rest ∧
    (c = '-' ∧ Starts Char.isDigit rest ∨ c.isDigit = true) := by
  have hwhole : ∃ d ds, t.whole = d :: ds ∧ d.isDigit = true := by
    rcases t.whole_eq with h | ⟨d, ds, h, -, hdigits⟩
    · exact ⟨'0', [], h, rfl⟩
    · rw [List.all_cons, Bool.and_eq_true] at hdigits
      exact ⟨d, ds, h, hdigits.1⟩
  obtain ⟨d, ds, hd, hdigit⟩ := hwhole
  rcases t.sign_eq with h | h
  · exact ⟨d, ds ++ (t.frac ++ t.exp), by rw [NumberText.text, h, hd]; rfl, .inr hdigit⟩
  · refine ⟨'-', t.whole ++ (t.frac ++ t.exp), by rw [NumberText.text, h]; rfl, .inl ⟨rfl, ?_⟩⟩
    rw [hd]
    exact starts_cons.mpr hdigit

/-- **A number is read whole**, as what its parts make. -/
theorem reads_number {convert : Conversion} {v : Json} (hv : convert t.sign t.whole t.frac t.exp = .ok v) :
    (scanNumber convert).Reads MayFollow t.text v := by
  have hexp : ∀ rest, MayFollow rest → ∀ c ∈ (t.exp ++ rest).head?, endsWhole c = true := by
    refine fun rest hrest => head_append ?_ fun c hc => endsWhole_of_closes (hrest c hc)
    rcases t.exp_eq with h | ⟨sign, d, ds, h, -⟩ <;> rw [h]
    · rintro c ⟨⟩
    · rintro c ⟨⟩
      rfl
  have hfrac : ∀ rest, MayFollow rest → ∀ c ∈ ((t.frac ++ t.exp) ++ rest).head?, c.isDigit = false := by
    intro rest hrest
    rw [List.append_assoc]
    refine head_append ?_ fun c hc => by simpa using not_isDigit_of_endsWhole (hexp rest hrest c hc)
    rcases t.frac_eq with h | ⟨d, ds, h, -⟩ <;> rw [h]
    · rintro c ⟨⟩
    · rintro c ⟨⟩
      rfl
  have hwhole : ∀ rest, MayFollow rest → ∀ c ∈ ((t.whole ++ (t.frac ++ t.exp)) ++ rest).head?, c ≠ '-' := by
    intro rest _ c hc
    have hdigit : c.isDigit = true := by
      rcases t.whole_eq with h | ⟨d, ds, h, -, hdigits⟩ <;> rw [h] at hc <;> cases hc
      · rfl
      · rw [List.all_cons, Bool.and_eq_true] at hdigits
        exact hdigits.1
    rintro rfl
    cases hdigit
  refine (reads_sign t).bind ?_ hwhole
  refine (reads_whole t).bind ?_ hfrac
  refine (reads_frac t).bind ?_ hexp
  intro rest hrest
  rw [bind_of_ok (reads_exp t rest hrest)]
  exact ofExcept_eq_ok.mpr ⟨hv, rfl⟩

end

/-! ### Integers -/

theorem all_isDigit_toDigits (n : Nat) : (Nat.toDigits 10 n).all Char.isDigit = true :=
  List.all_eq_true.mpr fun _ hc => Nat.isDigit_of_mem_toDigits (by decide) (by decide) hc

/-- A number that is not zero does not start with one. -/
theorem head_toDigits {n : Nat} (hn : n ≠ 0) : ∃ d ds, Nat.toDigits 10 n = d :: ds ∧ d ≠ '0' := by
  induction n using Nat.strongRecOn with
  | _ n ih =>
    by_cases hlt : n < 10
    · have hchar : ∀ d < 10, d ≠ 0 → Nat.digitChar d ≠ '0' := by decide
      exact ⟨n.digitChar, [], Nat.toDigits_of_lt_base hlt, hchar n hlt hn⟩
    · obtain ⟨d, ds, h, hd⟩ := ih (n / 10) (by omega) (by omega)
      exact ⟨d, ds ++ [(n % 10).digitChar], by rw [Nat.toDigits_of_base_le (by decide) (by omega), h]; rfl, hd⟩

theorem sign_of_int (n : Int) : (if n < 0 then ['-'] else [] : List Char) = [] ∨
    (if n < 0 then ['-'] else [] : List Char) = ['-'] := by
  split_ifs
  exacts [.inr rfl, .inl rfl]

theorem whole_of_int (n : Int) : Nat.toDigits 10 n.natAbs = ['0'] ∨
    ∃ d ds, Nat.toDigits 10 n.natAbs = d :: ds ∧ d ≠ '0' ∧ (d :: ds).all Char.isDigit = true := by
  by_cases h : n.natAbs = 0
  · exact .inl (by rw [h]; rfl)
  · obtain ⟨d, ds, hds, hd⟩ := head_toDigits h
    exact .inr ⟨d, ds, hds, hd, hds ▸ all_isDigit_toDigits _⟩

/-- The text of an integer. -/
def intNumber (n : Int) : NumberText where
  sign := if n < 0 then ['-'] else []
  whole := Nat.toDigits 10 n.natAbs
  frac := []
  exp := []
  sign_eq := sign_of_int n
  whole_eq := whole_of_int n
  frac_eq := isFrac_nil
  exp_eq := isExp_nil

theorem intNumber_text (n : Int) : (intNumber n).text = intText n := by
  simp [NumberText.text, intNumber, intText]

theorem intOf_intNumber (n : Int) : intOf (intNumber n).sign (intNumber n).whole = n := by
  have habs : Nat.ofDigitChars 10 (Nat.toDigits 10 n.natAbs) 0 = n.natAbs := Nat.ofDigitChars_ten_toDigits
  simp only [intOf, intNumber, habs]
  by_cases hneg : n < 0
  · rw [if_pos hneg, if_neg (List.cons_ne_nil _ _)]
    omega
  · rw [if_neg hneg, if_pos rfl]
    omega

/-- The conversion makes the integers within the limit of their texts, and the floats. -/
structure Converts (F : FloatFormat) (convert : Conversion) : Prop where
  int : ∀ n, digitCount n ≤ maxStrDigits →
    convert (intNumber n).sign (intNumber n).whole (intNumber n).frac (intNumber n).exp = .ok (.int n)
  float : ∀ q, F.isFloat q →
    convert (F.repr q).sign (F.repr q).whole (F.repr q).frac (F.repr q).exp = .ok (.float (.finite q))

theorem converts_pythonNumber (F : FloatFormat) : Converts F (pythonNumber F) where
  int n hn := by
    rw [pythonNumber, if_pos ⟨rfl, rfl⟩, intOf_intNumber]
    exact if_pos hn
  float q hq := by
    rw [pythonNumber, if_neg (F.repr q).not_int]
    exact congrArg (fun x => Except.ok (Json.float x)) (F.read_repr q hq)

theorem converts_strictNumber (F : FloatFormat) : Converts F (strictNumber F) where
  int n hn := (if_pos hn).trans ((converts_pythonNumber F).int n hn)
  float q hq := (if_pos (F.repr q).whole_short).trans ((converts_pythonNumber F).float q hq)

variable {F : FloatFormat} {convert : Conversion}

theorem Converts.reads_int (h : Converts F convert) {n : Int} (hn : digitCount n ≤ maxStrDigits) :
    (scanNumber convert).Reads MayFollow (intText n) (.int n) :=
  intNumber_text n ▸ reads_number (intNumber n) (h.int n hn)

theorem Converts.reads_float (h : Converts F convert) {q : Rat} (hq : F.isFloat q) :
    (scanNumber convert).Reads MayFollow (F.repr q).text (.float (.finite q)) :=
  reads_number (F.repr q).toNumberText (h.float q hq)

end CertWatch
