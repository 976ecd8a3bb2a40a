/-
# `CertWatch.JsonScan` — the laws of the decoder.

Every scanner of the decoder shortens its input, so that a level only asks about smaller texts and the documents are
a fixed point of the step.  And it is steady: a list, a dict or a string is over at its closing bracket, brace or
quote, and a word or a number where the next character cannot go on with it.

What it raises is not as simple: an integer that is too long may have been the start of a float.  A strict decoder,
which refuses such a float as well, is firm, and the decoder raises no more than the strict one does.
-/
import CertWatch.JsonText

namespace CertWatch

open CertWatch.Lib CertWatch.Lib.Scanner

/-- What stands behind a value: white space, a comma or a closing bracket. -/
def closes (c : Char) : Bool := isJsonSpace c || c == ',' || c == ']' || c == '}'

theorem closes_cases {c : Char} (h : closes c = true) :
    c = ' ' ∨ c = '\t' ∨ c = '\n' ∨ c = '\r' ∨ c = ',' ∨ c = ']' ∨ c = '}' := by
  simpa [closes, isJsonSpace, or_assoc] using h

theorem not_isDigit_of_closes {c : Char} (h : closes c = true) : c.isDigit = false := by
  rcases closes_cases h with rfl | rfl | rfl | rfl | rfl | rfl | rfl <;> rfl

/-! ## Strings -/

theorem steady_scanHex (k n : Nat) : (scanHex k n).Steady fun _ => True := by
  induction k generalizing n with
  | zero => exact steady_pure _ n
  | succ k ih =>
    refine steady_item.bind (fun c => ?_) fun _ _ _ _ _ _ => trivial
    cases hexValue c with
    | none => exact steady_miss _
    | some d => exact ih _

theorem shrinks_scanHex (k n : Nat) : (scanHex k n).Shrinks := by
  induction k generalizing n with
  | zero => exact shrinks_pure n
  | succ k ih =>
    refine shortens_item.shrinks.bind fun c => ?_
    cases hexValue c with
    | none => exact shortens_miss.shrinks
    | some d => exact ih _

theorem steady_scanEscape : scanEscape.Steady fun _ => True := by
  refine steady_item.bind (fun c => ?_) fun _ _ _ _ _ _ => trivial
  refine steady_ite (steady_scanHex 4 0) (steady_ite (steady_pure _ _) ?_)
  cases escapeLetters.find? fun e => e.2 == c with
  | none => exact steady_miss _
  | some e => exact steady_pure _ _

theorem shrinks_scanEscape : scanEscape.Shrinks := by
  refine shortens_item.shrinks.bind fun c => ?_
  refine shrinks_ite (shrinks_scanHex 4 0) (shrinks_ite (shrinks_pure _) ?_)
  cases escapeLetters.find? fun e => e.2 == c with
  | none => exact shortens_miss.shrinks
  | some e => exact shrinks_pure _

theorem steady_scanUnit : scanUnit.Steady fun _ => True := by
  refine steady_item.bind (fun c => ?_) fun _ _ _ _ _ _ => trivial
  exact steady_ite steady_scanEscape (steady_ite (steady_miss _) (steady_pure _ _))

theorem shortens_scanUnit : scanUnit.Shortens := by
  refine shortens_item.bind fun c => ?_
  exact shrinks_ite shrinks_scanEscape (shrinks_ite shortens_miss.shrinks (shrinks_pure _))

/-! ## Numbers and words -/

theorem shortens_scanDigits : scanDigits.Shortens :=
  shortens_item.bind fun _ => shrinks_run.bind fun _ => shrinks_pure _

theorem shrinks_scanSign : scanSign.Shrinks := (shortens_item.map _).shrinks.attempt

theorem shortens_scanWhole : scanWhole.Shortens :=
  shortens_item.bind fun _ => shrinks_ite (shrinks_pure _) (shrinks_run.bind fun _ => shrinks_pure _)

theorem shrinks_scanFrac : scanFrac.Shrinks :=
  (shortens_item.shrinks.bind fun _ => shortens_scanDigits.shrinks.bind fun _ => shrinks_pure _).attempt

theorem shrinks_scanExp : scanExp.Shrinks :=
  (shortens_item.shrinks.bind fun _ => (shortens_item.map _).shrinks.attempt.bind fun _ =>
    shortens_scanDigits.shrinks.bind fun _ => shrinks_pure _).attempt

theorem shortens_scanNumber (convert : Conversion) : (scanNumber convert).Shortens := by
  refine Shortens.bind_right shrinks_scanSign fun sign => shortens_scanWhole.bind fun whole => ?_
  refine shrinks_scanFrac.bind fun frac => shrinks_scanExp.bind fun exp => ?_
  exact shrinks_ofExcept _

theorem shortens_scanWord {word : String} (v : Json) (h : word.toList ≠ []) : (scanWord word v).Shortens :=
  (shortens_exactly h).map _

theorem shrinks_scanMinus (convert : Conversion) : (scanMinus convert).Shrinks := by
  intro s v r h
  rcases orElse_eq_ok.mp h with hword | ⟨-, hnumber⟩
  · exact (shortens_scanWord _ (by simp)).shrinks s v r hword
  · exact (shortens_scanNumber convert).unread '-' s v r hnumber

theorem shortens_scanAtom (convert : Conversion) : (scanAtom convert).Shortens := by
  refine shortens_item.bind fun c => ?_
  have hword : ∀ {word : String} (v : Json), word.toList ≠ [] → (scanWord word v).Shrinks :=
    fun v h => (shortens_scanWord v h).shrinks
  refine shrinks_ite (hword _ (by simp)) (shrinks_ite (hword _ (by simp)) (shrinks_ite (hword _ (by simp)) ?_))
  refine shrinks_ite (hword _ (by simp)) (shrinks_ite (hword _ (by simp)) ?_)
  exact shrinks_ite (shrinks_scanMinus convert) ((shortens_scanNumber convert).unread c)

theorem steady_scanSign : scanSign.Steady (· ≠ []) := steady_attempt_item

theorem steady_scanWhole : scanWhole.Steady (Starts fun c => !c.isDigit) := by
  refine steady_item.bind (fun d => steady_ite (steady_pure _ _) ?_) fun _ _ _ _ _ _ => trivial
  refine steady_run.bind (fun ds => steady_pure _ _) fun ds s whole r h hr => ?_
  obtain ⟨-, rfl⟩ := Prod.mk.inj (Except.ok.inj h)
  exact hr.ne_nil

theorem steady_scanDigits : scanDigits.Steady (Starts fun c => !c.isDigit) := by
  refine steady_item.bind (fun d => ?_) fun _ _ _ _ _ _ => trivial
  refine steady_run.bind (fun ds => steady_pure _ _) fun ds s digits r h hr => ?_
  obtain ⟨-, rfl⟩ := Prod.mk.inj (Except.ok.inj h)
  exact hr.ne_nil

/-- What can stand behind the digits of a whole number and is no fraction. -/
def endsWhole (c : Char) : Bool := !c.isDigit && c != '.'

theorem endsWhole_of_closes {c : Char} (h : closes c = true) : endsWhole c = true := by
  rcases closes_cases h with rfl | rfl | rfl | rfl | rfl | rfl | rfl <;> rfl

theorem not_isDigit_of_endsWhole {c : Char} (h : endsWhole c = true) : (!c.isDigit) = true :=
  ((Bool.and_eq_true _ _).mp h).1

theorem steady_scanFrac : scanFrac.Steady (Starts endsWhole) := by
  refine Steady.attempt ?_ fun s _ hs t => bind_item_eq_miss hs (fun c hc => ?_) t
  · refine steady_item.bind (fun point => ?_) fun _ _ _ _ _ _ => trivial
    refine steady_scanDigits.bind (fun ds => steady_pure _ _) fun ds s frac r h hr => ?_
    obtain ⟨-, rfl⟩ := Prod.mk.inj (Except.ok.inj h)
    exact hr.mono fun c => not_isDigit_of_endsWhole
  · simp only [endsWhole, Bool.and_eq_true, bne_iff_ne] at hc
    exact beq_eq_false_iff_ne.mpr hc.2

theorem steady_scanExp : scanExp.Steady (Starts closes) := by
  refine Steady.attempt ?_ fun s _ hs t => bind_item_eq_miss hs (fun c hc => ?_) t
  · refine steady_item.bind (fun e => ?_) fun _ _ _ _ _ _ => trivial
    refine steady_attempt_item.bind (fun sign => ?_) fun sign s exp r h hr => ?_
    · refine steady_scanDigits.bind (fun ds => steady_pure _ _) fun ds s exp r h hr => ?_
      obtain ⟨-, rfl⟩ := Prod.mk.inj (Except.ok.inj h)
      exact hr.mono fun c hc => by rw [not_isDigit_of_closes hc]; rfl
    · obtain ⟨ds, r', hds, -⟩ := bind_eq_ok.mp h
      rintro rfl
      exact absurd (shortens_scanDigits _ _ _ hds) (Nat.not_lt_zero _)
  · rcases closes_cases hc with rfl | rfl | rfl | rfl | rfl | rfl | rfl <;> rfl

/-- Before an exponent, or in place of one, no digit and no point stands. -/
theorem starts_of_scanExp {s exp r : List Char} (h : scanExp s = .ok (exp, r)) (hr : Starts closes r) :
    Starts endsWhole s := by
  rcases attempt_eq_ok.mp h with htaken | ⟨-, -, rfl⟩
  · obtain ⟨e, r', he, -⟩ := bind_eq_ok.mp htaken
    obtain ⟨rfl, hc⟩ := item_eq_ok.mp he
    refine starts_cons.mpr ?_
    rw [Bool.or_eq_true, beq_iff_eq, beq_iff_eq] at hc
    rcases hc with rfl | rfl <;> rfl
  · exact hr.mono fun c => endsWhole_of_closes

/-- Before a fraction, or in place of one, no digit stands. -/
theorem starts_of_scanFrac {s frac r : List Char} (h : scanFrac s = .ok (frac, r)) (hr : Starts endsWhole r) :
    Starts (fun c => !c.isDigit) s := by
  rcases attempt_eq_ok.mp h with htaken | ⟨-, -, rfl⟩
  · obtain ⟨point, r', hpoint, -⟩ := bind_eq_ok.mp htaken
    obtain ⟨rfl, hc⟩ := item_eq_ok.mp hpoint
    obtain rfl := eq_of_beq hc
    exact starts_cons.mpr rfl
  · exact hr.mono fun c => not_isDigit_of_endsWhole

theorem starts_of_scanWhole {s whole r : List Char} (h : scanWhole s = .ok (whole, r)) : Starts Char.isDigit s := by
  obtain ⟨d, r', hd, -⟩ := bind_eq_ok.mp h
  obtain ⟨rfl, hc⟩ := item_eq_ok.mp hd
  exact starts_cons.mpr hc

theorem steady_scanNumber (convert : Conversion) : (scanNumber convert).Steady (Starts closes) := by
  refine steady_scanSign.bind (fun sign => ?_) fun sign s v r h _ => ?_
  · refine steady_scanWhole.bind (fun whole => ?_) fun whole s v r h hr => ?_
    · refine steady_scanFrac.bind (fun frac => ?_) fun frac s v r h hr => ?_
      · refine steady_scanExp.bind (fun exp => steady_ofExcept _ _) ?_
        intro exp s v r h hr
        exact (ofExcept_eq_ok.mp h).2 ▸ hr
      · obtain ⟨exp, r', hexp, h⟩ := bind_eq_ok.mp h
        have hr' : r' = r := (ofExcept_eq_ok.mp h).2
        exact starts_of_scanExp hexp (hr' ▸ hr)
    · obtain ⟨frac, r', hfrac, h⟩ := bind_eq_ok.mp h
      obtain ⟨exp, r'', hexp, h⟩ := bind_eq_ok.mp h
      have hr' : r'' = r := (ofExcept_eq_ok.mp h).2
      exact starts_of_scanFrac hfrac (starts_of_scanExp hexp (hr' ▸ hr))
  · obtain ⟨whole, r', hwhole, -⟩ := bind_eq_ok.mp h
    exact (starts_of_scanWhole hwhole).ne_nil

theorem steady_scanWord (word : String) (v : Json) : (scanWord word v).Steady fun _ => True :=
  (steady_exactly _).map _

/-- Behind a minus sign a number goes on with a digit. -/
theorem starts_of_minus {convert : Conversion} {s r : List Char} {v : Json}
    (h : unread '-' (scanNumber convert) s = .ok (v, r)) : Starts Char.isDigit s := by
  obtain ⟨sign, r', hsign, h⟩ := bind_eq_ok.mp h
  have hminus : scanSign ('-' :: s) = .ok (['-'], s) := rfl
  obtain ⟨-, rfl⟩ := Prod.mk.inj (Except.ok.inj (hminus.symm.trans hsign))
  obtain ⟨whole, r'', hwhole, -⟩ := bind_eq_ok.mp h
  exact starts_of_scanWhole hwhole

theorem raiseless_scanWord (word : String) (v : Json) : (scanWord word v).Raiseless := (raiseless_exactly _).map _

theorem not_infinity {s : List Char} (h : Starts Char.isDigit s) :
    scanWord "Infinity" (.float .negInf) s = .error none := by
  obtain ⟨c, hc, hdigit⟩ := h
  refine (raiseless_scanWord _ _).eq_miss fun v r hword => ?_
  rw [scanWord, map_eq_bind] at hword
  obtain ⟨u, r', hexact, -⟩ := bind_eq_ok.mp hword
  rw [exactly_eq_ok.mp hexact] at hc
  cases hc
  cases hdigit

theorem steady_scanMinus (convert : Conversion) : (scanMinus convert).Steady (Starts closes) := by
  intro s v r h hr t
  rcases orElse_eq_ok.mp h with hword | ⟨-, hnumber⟩
  · exact orElse_eq_ok.mpr (.inl (steady_scanWord _ _ s v r hword trivial t))
  · rw [scanMinus, orElse_of_miss (not_infinity ((starts_of_minus hnumber).append t))]
    exact ((steady_scanNumber convert).unread '-') s v r hnumber hr t

theorem steady_scanAtom (convert : Conversion) : (scanAtom convert).Steady (Starts closes) := by
  refine steady_item.bind (fun c => ?_) fun _ _ _ _ _ _ => trivial
  have hword : ∀ word v, (scanWord word v).Steady (Starts closes) :=
    fun word v => (steady_scanWord word v).mono fun _ _ => trivial
  refine steady_ite (hword _ _) (steady_ite (hword _ _) (steady_ite (hword _ _) ?_))
  refine steady_ite (hword _ _) (steady_ite (hword _ _) ?_)
  exact steady_ite (steady_scanMinus convert) ((steady_scanNumber convert).unread c)

/-! ## Brackets -/

section

variable {α : Type} {closing : Char} {p p' : JsonScanner (Option (List α))}

theorem steady_unlessClosed (hp : p.Steady fun _ => True) : (unlessClosed closing p).Steady fun _ => True :=
  steady_next.bind (fun c => steady_ite (steady_pure _ _) (hp.unread c)) fun _ _ _ _ _ _ => trivial

theorem shortens_unlessClosed (hp : p.Shortens) : (unlessClosed closing p).Shortens :=
  shortens_next.bind fun _ => shrinks_ite (shrinks_pure _) (hp.unread _)

theorem unlessClosed_congr {s : List Char} (h : ∀ s', s'.length ≤ s.length → p s' = p' s') :
    unlessClosed closing p s = unlessClosed closing p' s := by
  refine bind_congr rfl fun c r hnext => ?_
  split_ifs
  · rfl
  · exact h (c :: r) (shortens_next s c r hnext)

theorem steady_afterItem (hp : p.Steady fun _ => True) : (afterItem closing p).Steady fun _ => True :=
  steady_next.bind (fun _ => steady_ite (steady_pure _ _) (steady_ite hp (steady_miss _))) fun _ _ _ _ _ _ => trivial

theorem shortens_afterItem (hp : p.Shrinks) : (afterItem closing p).Shortens :=
  shortens_next.bind fun _ => shrinks_ite (shrinks_pure _) (shrinks_ite hp shortens_miss.shrinks)

theorem afterItem_congr {s : List Char} (h : ∀ s', s'.length < s.length → p s' = p' s') :
    afterItem closing p s = afterItem closing p' s := by
  refine bind_congr rfl fun c r hnext => ?_
  split_ifs
  · rfl
  · exact h r (shortens_next s c r hnext)
  · rfl

/-- Where the next character is one that closes, so is the first. -/
theorem starts_of_next {s r : List Char} {c : Char} (hnext : (next isJsonSpace : JsonScanner Char) s = .ok (c, r))
    (hc : closes c = true) : Starts closes s := by
  have hdrop := next_eq_ok.mp hnext
  cases s with
  | nil => cases hdrop
  | cons c' s =>
    refine starts_cons.mpr ?_
    cases hspace : isJsonSpace c' with
    | true => simp [closes, hspace]
    | false =>
      rw [List.dropWhile_cons_of_neg (by simp [hspace])] at hdrop
      obtain ⟨rfl, -⟩ := List.cons.inj hdrop
      exact hc

/-- What stands behind an item closes it. -/
theorem starts_of_afterItem {s r : List Char} {vs : Option (List α)} (hclosing : closes closing = true)
    (h : afterItem closing p s = .ok (vs, r)) : Starts closes s := by
  obtain ⟨c, r', hnext, h⟩ := bind_eq_ok.mp h
  refine starts_of_next hnext ?_
  split_ifs at h with h₁ h₂
  · exact h₁ ▸ hclosing
  · exact h₂ ▸ rfl
  · cases h

end

/-! ## The step -/

/-- Where each part is over. -/
def partEnds : JsonPart → List Char → Prop
  | .value => Starts closes
  | _ => fun _ => True

theorem steady_jsonStep (convert : Conversion) (parts : JsonParts) (h : ∀ i, (parts i).Steady (partEnds i))
    (i : JsonPart) : (jsonStep convert parts i).Steady (partEnds i) := by
  have hitems : (parts .items).Steady fun _ => True := h .items
  have hmembers : (parts .members).Steady fun _ => True := h .members
  have hchars : (parts .chars).Steady fun _ => True := h .chars
  have hvalue : (parts .value).Steady (Starts closes) := h .value
  cases i with
  | value =>
    refine steady_next.bind (fun c => ?_) fun _ _ _ _ _ _ => trivial
    refine steady_ite ((hchars.mono fun _ _ => trivial).map _) (steady_ite ?_ (steady_ite ?_ ?_))
    · exact ((steady_unlessClosed hitems).mono fun _ _ => trivial).map _
    · exact ((steady_unlessClosed hmembers).mono fun _ _ => trivial).map _
    · exact ((steady_scanAtom convert).unread c).map _
  | items =>
    refine hvalue.bind (fun v => ?_) fun v s vs r h _ => ?_
    · exact (steady_afterItem hitems).bind (fun _ => steady_pure _ _) fun _ _ _ _ _ _ => trivial
    · obtain ⟨vs, r', hafter, -⟩ := bind_eq_ok.mp h
      exact starts_of_afterItem rfl hafter
  | members =>
    refine steady_next.bind (fun quote => steady_ite ?_ (steady_miss _)) fun _ _ _ _ _ _ => trivial
    refine hchars.bind (fun units => ?_) fun _ _ _ _ _ _ => trivial
    refine steady_next.bind (fun colon => steady_ite ?_ (steady_miss _)) fun _ _ _ _ _ _ => trivial
    refine hvalue.bind (fun v => ?_) fun v s kvs r h _ => ?_
    · exact (steady_afterItem hmembers).bind (fun _ => steady_pure _ _) fun _ _ _ _ _ _ => trivial
    · obtain ⟨kvs, r', hafter, -⟩ := bind_eq_ok.mp h
      exact starts_of_afterItem rfl hafter
  | chars =>
    refine steady_item.bind (fun c => steady_ite (steady_pure _ _) ?_) fun _ _ _ _ _ _ => trivial
    refine (steady_scanUnit.unread c).bind (fun u => ?_) fun _ _ _ _ _ _ => trivial
    exact hchars.bind (fun us => steady_pure _ _) fun _ _ _ _ _ _ => trivial

theorem shortens_jsonStep (convert : Conversion) (parts : JsonParts) (h : ∀ i, (parts i).Shortens) (i : JsonPart) :
    (jsonStep convert parts i).Shortens := by
  cases i with
  | value =>
    refine shortens_next.bind fun c => shrinks_ite ((h .chars).map _).shrinks (shrinks_ite ?_ (shrinks_ite ?_ ?_))
    · exact ((shortens_unlessClosed (h .items)).map _).shrinks
    · exact ((shortens_unlessClosed (h .members)).map _).shrinks
    · exact ((shortens_scanAtom convert).unread c).bind fun _ => shrinks_pure _
  | items =>
    exact (h .value).bind fun v => (shortens_afterItem (h .items).shrinks).shrinks.bind fun _ => shrinks_pure _
  | members =>
    refine shortens_next.bind fun quote => shrinks_ite ?_ shortens_miss.shrinks
    refine (h .chars).shrinks.bind fun units => ?_
    refine shortens_next.shrinks.bind fun colon => shrinks_ite ?_ shortens_miss.shrinks
    refine (h .value).shrinks.bind fun v => ?_
    exact (shortens_afterItem (h .members).shrinks).shrinks.bind fun _ => shrinks_pure _
  | chars =>
    refine shortens_item.bind fun c => shrinks_ite (shrinks_pure _) ?_
    exact (shortens_scanUnit.unread c).bind fun u => (h .chars).shrinks.bind fun us => shrinks_pure _

/-- A level only asks its parts about smaller texts. -/
theorem founded_jsonStep (convert : Conversion) : Founded (jsonStep convert) jsonSize where
  shortens := shortens_jsonStep convert
  smaller := by
    intro parts parts' i s hshortens h
    have hvalue : ∀ s', 2 * s'.length < jsonSize i s → parts .value s' = parts' .value s' := h .value
    have hitems : ∀ s', 2 * s'.length + 1 < jsonSize i s → parts .items s' = parts' .items s' := h .items
    have hmembers : ∀ s', 2 * s'.length < jsonSize i s → parts .members s' = parts' .members s' := h .members
    have hchars : ∀ s', 2 * s'.length < jsonSize i s → parts .chars s' = parts' .chars s' := h .chars
    cases i with
    | value =>
      simp only [jsonSize] at hitems hmembers hchars
      refine bind_congr rfl fun c r hnext => ?_
      have hlt := shortens_next s c r hnext
      split_ifs
      · exact map_eq_map (hchars r (by omega)) _
      · exact map_eq_map (unlessClosed_congr fun s' hs' => hitems s' (by omega)) _
      · exact map_eq_map (unlessClosed_congr fun s' hs' => hmembers s' (by omega)) _
      · rfl
    | items =>
      simp only [jsonSize] at hvalue hitems
      refine bind_congr (hvalue s (by omega)) fun v r hv => ?_
      have hlt := hshortens .value s v r hv
      exact bind_congr (afterItem_congr fun s' hs' => hitems s' (by omega)) fun _ _ _ => rfl
    | members =>
      simp only [jsonSize] at hvalue hmembers hchars
      refine bind_congr rfl fun quote r hquote => ?_
      have hlt := shortens_next s quote r hquote
      split_ifs
      · refine bind_congr (hchars r (by omega)) fun units r' hunits => ?_
        have hlt' := hshortens .chars r units r' hunits
        refine bind_congr rfl fun colon r'' hcolon => ?_
        have hlt'' := shortens_next r' colon r'' hcolon
        split_ifs
        · refine bind_congr (hvalue r'' (by omega)) fun v r₃ hv => ?_
          have hlt₃ := hshortens .value r'' v r₃ hv
          exact bind_congr (afterItem_congr fun s' hs' => hmembers s' (by omega)) fun _ _ _ => rfl
        · rfl
      · rfl
    | chars =>
      simp only [jsonSize] at hchars
      refine bind_congr rfl fun c r hc => ?_
      have hlt := shortens_item s c r hc
      split_ifs
      · rfl
      · refine bind_congr rfl fun u r' hu => ?_
        have hle := shortens_scanUnit.unread c r u r' hu
        exact bind_congr (hchars r' (by omega)) fun _ _ _ => rfl

/-! ## The documents -/

/-- The documents are read level by level. -/
theorem scan_eq (convert : Conversion) (i : JsonPart) : scan convert i = jsonStep convert (scan convert) i :=
  (founded_jsonStep convert).fix_eq i

theorem scan_value (convert : Conversion) : scan convert .value = scanValue convert (scan convert) :=
  scan_eq convert .value

theorem scan_items (convert : Conversion) : scan convert .items = scanItems (scan convert) := scan_eq convert .items

theorem scan_members (convert : Conversion) : scan convert .members = scanMembers (scan convert) :=
  scan_eq convert .members

theorem scan_chars (convert : Conversion) : scan convert .chars = scanChars (scan convert) := scan_eq convert .chars

/-- **What the decoder has taken stays taken**, where it is over. -/
theorem steady_scan (convert : Conversion) (i : JsonPart) : (scan convert i).Steady (partEnds i) :=
  (founded_jsonStep convert).steady_fix (steady_jsonStep convert) i

/-! ## Exceptions

An integer that is too long for the decoder may have been a float, were it not cut short.  So that exceptions stay
what they are, the strict conversion refuses such a float as well. -/

/-- `pythonNumber`, but with the limit for every number. -/
def strictNumber (F : FloatFormat) : Conversion := fun sign whole frac exp =>
  if whole.length ≤ maxStrDigits then pythonNumber F sign whole frac exp else .error overlongInt

theorem strictNumber_eq_error {F : FloatFormat} {sign whole frac exp : List Char} {e : PyExc} :
    strictNumber F sign whole frac exp = .error e ↔ maxStrDigits < whole.length ∧ overlongInt = e := by
  unfold strictNumber
  split_ifs with hshort
  · refine iff_of_false (fun h => ?_) fun h => absurd hshort (Nat.not_le.mpr h.1)
    unfold pythonNumber at h
    split_ifs at h
  · simp [Nat.not_le.mp hshort]

theorem strictNumber_or_eq (F : FloatFormat) (sign whole frac exp : List Char) :
    (∃ e, strictNumber F sign whole frac exp = .error e) ∨
      strictNumber F sign whole frac exp = pythonNumber F sign whole frac exp := by
  unfold strictNumber
  split_ifs
  exacts [.inr rfl, .inl ⟨_, rfl⟩]

/-! ### What raises nothing -/

theorem raiseless_scanHex (k n : Nat) : (scanHex k n).Raiseless := by
  induction k generalizing n with
  | zero => exact raiseless_pure n
  | succ k ih =>
    refine raiseless_item.bind fun c => ?_
    cases hexValue c with
    | none => exact raiseless_miss
    | some d => exact ih _

theorem raiseless_scanUnit : scanUnit.Raiseless := by
  have hescape : scanEscape.Raiseless := by
    refine raiseless_item.bind fun c => raiseless_ite (raiseless_scanHex 4 0) (raiseless_ite (raiseless_pure _) ?_)
    cases escapeLetters.find? fun e => e.2 == c with
    | none => exact raiseless_miss
    | some e => exact raiseless_pure _
  exact raiseless_item.bind fun c => raiseless_ite hescape (raiseless_ite raiseless_miss (raiseless_pure _))

theorem raiseless_scanDigits : scanDigits.Raiseless :=
  raiseless_item.bind fun _ => raiseless_run.bind fun _ => raiseless_pure _

theorem raiseless_scanWhole : scanWhole.Raiseless :=
  raiseless_item.bind fun _ => raiseless_ite (raiseless_pure _) (raiseless_run.bind fun _ => raiseless_pure _)

/-- There is always a sign, or none. -/
theorem scanSign_ok (s : List Char) : ∃ sign r, scanSign s = .ok (sign, r) := (raiseless_item.map _).attempt_ok s

theorem scanFrac_ok (s : List Char) : ∃ frac r, scanFrac s = .ok (frac, r) :=
  (raiseless_item.bind fun _ => raiseless_scanDigits.bind fun _ => raiseless_pure _).attempt_ok s

theorem scanExp_ok (s : List Char) : ∃ exp r, scanExp s = .ok (exp, r) := by
  refine Raiseless.attempt_ok (raiseless_item.bind fun e => ?_) s
  refine Raiseless.bind ?_ fun sign => raiseless_scanDigits.bind fun _ => raiseless_pure _
  intro s e h
  obtain ⟨sign, r, hok⟩ := Raiseless.attempt_ok ((raiseless_item (P := fun c => c == '+' || c == '-')).map _) s
  cases h.symm.trans hok

/-! ### What is raised stays raised -/

/-- The whole part of a longer text is no shorter. -/
theorem scanWhole_append {s r whole : List Char} (h : scanWhole s = .ok (whole, r)) (t : List Char) :
    ∃ whole' r', scanWhole (s ++ t) = .ok (whole', r') ∧ whole.length ≤ whole'.length := by
  obtain ⟨d, r', hd, htaken⟩ := bind_eq_ok.mp h
  obtain ⟨rfl, hdigit⟩ := item_eq_ok.mp hd
  have hd' : (item Char.isDigit : JsonScanner Char) (d :: r' ++ t) = .ok (d, r' ++ t) :=
    item_eq_ok.mpr ⟨rfl, hdigit⟩
  rw [scanWhole, bind_of_ok hd']
  split_ifs at htaken ⊢
  · obtain ⟨rfl, rfl⟩ := Prod.mk.inj (Except.ok.inj htaken)
    exact ⟨_, _, rfl, Nat.le_refl _⟩
  · obtain ⟨ds, r'', hds, hpure⟩ := bind_eq_ok.mp htaken
    obtain ⟨rfl, -⟩ := Prod.mk.inj (Except.ok.inj hpure)
    obtain ⟨rfl, -⟩ := Prod.mk.inj (Except.ok.inj hds)
    refine ⟨_, _, rfl, Nat.succ_le_succ ?_⟩
    rw [List.takeWhile_append]
    -- where the digits go on to the end, what is appended may bring more
    split_ifs with hall
    · rw [List.length_append, hall]
      exact Nat.le_add_right _ _
    · exact Nat.le_refl _

variable {F : FloatFormat}

/-- A number raises where its whole part is too long. -/
theorem scanNumber_eq_raise {s : List Char} {e : PyExc} : scanNumber (strictNumber F) s = .error (some e) ↔
    ∃ sign r whole r', scanSign s = .ok (sign, r) ∧ scanWhole r = .ok (whole, r') ∧ maxStrDigits < whole.length ∧
      overlongInt = e := by
  obtain ⟨sign, r, hsign⟩ := scanSign_ok s
  rw [scanNumber, bind_of_ok hsign, bind_eq_raise, or_iff_right (raiseless_scanWhole r e)]
  -- behind the whole part nothing raises but the conversion
  have hrest : ∀ whole r', (∃ frac exp r'', (do
      let frac ← scanFrac
      let exp ← scanExp
      ofExcept (strictNumber F sign whole frac exp) : JsonScanner Json) r' =
        ofExcept (strictNumber F sign whole frac exp) r'') := by
    intro whole r'
    obtain ⟨frac, r₁, hfrac⟩ := scanFrac_ok r'
    obtain ⟨exp, r₂, hexp⟩ := scanExp_ok r₁
    exact ⟨frac, exp, r₂, by rw [bind_of_ok hfrac, bind_of_ok hexp]⟩
  constructor
  · rintro ⟨whole, r', hwhole, h⟩
    obtain ⟨frac, exp, r'', heq⟩ := hrest whole r'
    obtain ⟨hlong, he⟩ := strictNumber_eq_error.mp (ofExcept_eq_raise.mp (heq.symm.trans h))
    exact ⟨sign, r, whole, r', hsign, hwhole, hlong, he⟩
  · rintro ⟨sign', r₀, whole, r', hsign', hwhole, hlong, he⟩
    obtain ⟨rfl, rfl⟩ := Prod.mk.inj (Except.ok.inj (hsign'.symm.trans hsign))
    obtain ⟨frac, exp, r'', heq⟩ := hrest whole r'
    exact ⟨whole, r', hwhole, heq.trans (ofExcept_eq_raise.mpr (strictNumber_eq_error.mpr ⟨hlong, he⟩))⟩

theorem firm_scanNumber : (scanNumber (strictNumber F)).Firm := by
  intro s e h t
  obtain ⟨sign, r, whole, r', hsign, hwhole, hlong, he⟩ := scanNumber_eq_raise.mp h
  have hsign' := steady_scanSign s sign r hsign (starts_of_scanWhole hwhole).ne_nil t
  obtain ⟨whole', r'', hwhole', hle⟩ := scanWhole_append hwhole t
  exact scanNumber_eq_raise.mpr ⟨sign, r ++ t, whole', r'', hsign', hwhole', Nat.lt_of_lt_of_le hlong hle, he⟩

theorem firm_scanMinus : (scanMinus (strictNumber F)).Firm := by
  intro s e h t
  rcases orElse_eq_raise.mp h with hword | ⟨-, hnumber⟩
  · exact absurd hword (raiseless_scanWord _ _ s e)
  · obtain ⟨sign, r, whole, r', hsign, hwhole, -⟩ := scanNumber_eq_raise.mp hnumber
    have hminus : scanSign ('-' :: s) = .ok (['-'], s) := rfl
    obtain ⟨-, rfl⟩ := Prod.mk.inj (Except.ok.inj (hminus.symm.trans hsign))
    -- a digit stands behind the sign, so the word misses in the longer text too
    rw [scanMinus, orElse_of_miss (not_infinity ((starts_of_scanWhole hwhole).append t))]
    exact firm_scanNumber.unread '-' s e hnumber t

theorem firm_scanAtom : (scanAtom (strictNumber F)).Firm := by
  have hword : ∀ word v, (scanWord word v).Firm := fun word v => (raiseless_scanWord word v).firm
  refine raiseless_item.firm.bind steady_item (fun c => ?_) fun _ _ _ _ => trivial
  refine firm_ite (hword _ _) (firm_ite (hword _ _) (firm_ite (hword _ _) ?_))
  refine firm_ite (hword _ _) (firm_ite (hword _ _) ?_)
  exact firm_ite firm_scanMinus (firm_scanNumber.unread c)

section

variable {α : Type} {closing : Char} {p p' : JsonScanner (Option (List α))}

theorem firm_unlessClosed (hp : p.Firm) : (unlessClosed closing p).Firm :=
  raiseless_next.firm.bind steady_next (fun c => firm_ite (raiseless_pure _).firm (hp.unread c)) fun _ _ _ _ => trivial

theorem firm_afterItem (hp : p.Firm) : (afterItem closing p).Firm :=
  raiseless_next.firm.bind steady_next
    (fun _ => firm_ite (raiseless_pure _).firm (firm_ite hp raiseless_miss.firm)) fun _ _ _ _ => trivial

/-- An exception behind an item is one behind a comma. -/
theorem starts_of_afterItem_raise {s : List Char} {e : PyExc} (h : afterItem closing p s = .error (some e)) :
    Starts closes s := by
  rcases bind_eq_raise.mp h with h | ⟨c, r, hnext, h⟩
  · exact absurd h (raiseless_next s e)
  · split_ifs at h with h₁ h₂
    · cases h
    · exact starts_of_next hnext (h₂ ▸ rfl)
    · cases h

theorem stricter_unlessClosed (hp : p.Stricter p') : (unlessClosed closing p).Stricter (unlessClosed closing p') :=
  (Stricter.refl _).bind fun c => stricter_ite (.refl _) (hp.unread c)

theorem stricter_afterItem (hp : p.Stricter p') : (afterItem closing p).Stricter (afterItem closing p') :=
  (Stricter.refl _).bind fun _ => stricter_ite (.refl _) (stricter_ite hp (.refl _))

end

theorem firm_jsonStep (parts : JsonParts) (hsteady : ∀ i, (parts i).Steady (partEnds i)) (h : ∀ i, (parts i).Firm)
    (i : JsonPart) : (jsonStep (strictNumber F) parts i).Firm := by
  have hchars : (parts .chars).Steady fun _ => True := hsteady .chars
  have hvalue : (parts .value).Steady (Starts closes) := hsteady .value
  have hnext : (next isJsonSpace : JsonScanner Char).Firm := raiseless_next.firm
  cases i with
  | value =>
    refine hnext.bind steady_next (fun c => ?_) fun _ _ _ _ => trivial
    refine firm_ite ((h .chars).map _) (firm_ite ?_ (firm_ite ?_ ?_))
    · exact (firm_unlessClosed (h .items)).map _
    · exact (firm_unlessClosed (h .members)).map _
    · exact (firm_scanAtom.unread c).map _
  | items =>
    refine (h .value).bind hvalue (fun v => ?_) fun v s e hraise => ?_
    · exact (firm_afterItem (h .items)).bind_raiseless fun _ => raiseless_pure _
    · exact starts_of_afterItem_raise (raise_of_bind (fun _ => raiseless_pure _) hraise)
  | members =>
    refine hnext.bind steady_next (fun quote => firm_ite ?_ raiseless_miss.firm) fun _ _ _ _ => trivial
    refine (h .chars).bind hchars (fun units => ?_) fun _ _ _ _ => trivial
    refine hnext.bind steady_next (fun colon => firm_ite ?_ raiseless_miss.firm) fun _ _ _ _ => trivial
    refine (h .value).bind hvalue (fun v => ?_) fun v s e hraise => ?_
    · exact (firm_afterItem (h .members)).bind_raiseless fun _ => raiseless_pure _
    · exact starts_of_afterItem_raise (raise_of_bind (fun _ => raiseless_pure _) hraise)
  | chars =>
    refine raiseless_item.firm.bind steady_item (fun c => firm_ite (raiseless_pure _).firm ?_) fun _ _ _ _ => trivial
    refine (raiseless_scanUnit.unread c).firm.bind (steady_scanUnit.unread c) (fun u => ?_) fun _ _ _ _ => trivial
    exact (h .chars).map _

/-- **What the strict decoder raises, it raises whatever is appended.** -/
theorem firm_scan (i : JsonPart) : (scan (strictNumber F) i).Firm :=
  (founded_jsonStep _).firm_fix (steady_jsonStep _) firm_jsonStep i

/-! ### The strict decoder is the decoder -/

theorem stricter_scanNumber : (scanNumber (strictNumber F)).Stricter (scanNumber (pythonNumber F)) :=
  (Stricter.refl _).bind fun sign => (Stricter.refl _).bind fun whole => (Stricter.refl _).bind fun frac =>
    (Stricter.refl _).bind fun exp => stricter_ofExcept (strictNumber_or_eq F sign whole frac exp)

theorem stricter_scanAtom : (scanAtom (strictNumber F)).Stricter (scanAtom (pythonNumber F)) := by
  refine (Stricter.refl _).bind fun c => ?_
  refine stricter_ite (.refl _) (stricter_ite (.refl _) (stricter_ite (.refl _) ?_))
  refine stricter_ite (.refl _) (stricter_ite (.refl _) ?_)
  exact stricter_ite (stricter_scanNumber.unread '-').orElse (stricter_scanNumber.unread c)

theorem stricter_jsonStep (parts parts' : JsonParts) (h : ∀ i, (parts i).Stricter (parts' i)) (i : JsonPart) :
    (jsonStep (strictNumber F) parts i).Stricter (jsonStep (pythonNumber F) parts' i) := by
  cases i with
  | value =>
    refine (Stricter.refl _).bind fun c => stricter_ite ((h .chars).map _) (stricter_ite ?_ (stricter_ite ?_ ?_))
    · exact (stricter_unlessClosed (h .items)).map _
    · exact (stricter_unlessClosed (h .members)).map _
    · exact (stricter_scanAtom.unread c).map _
  | items => exact (h .value).bind fun v => (stricter_afterItem (h .items)).bind fun _ => .refl _
  | members =>
    refine (Stricter.refl _).bind fun quote => stricter_ite ?_ (.refl _)
    refine (h .chars).bind fun units => (Stricter.refl _).bind fun colon => stricter_ite ?_ (.refl _)
    exact (h .value).bind fun v => (stricter_afterItem (h .members)).bind fun _ => .refl _
  | chars =>
    refine (Stricter.refl _).bind fun c => stricter_ite (.refl _) ((Stricter.refl _).bind fun u => ?_)
    exact (h .chars).bind fun _ => .refl _

theorem stricter_scan (i : JsonPart) : (scan (strictNumber F) i).Stricter (scan (pythonNumber F) i) :=
  stricter_fix stricter_jsonStep i

/-- **A text that the strict decoder takes raises nothing when it is cut short.** -/
theorem scan_cut_raises_nothing {i : JsonPart} {t t' : List Char} {x : i.Result × List Char}
    (h : scan (strictNumber F) i (t ++ t') = .ok x) (e : PyExc) : scan (pythonNumber F) i t ≠ .error (some e) := by
  have hfirm : ∀ e', scan (strictNumber F) i t ≠ .error (some e') := fun e' he' => by
    cases h.symm.trans (firm_scan i t e' he' t')
  intro he
  rcases stricter_scan (F := F) i t with ⟨e', he'⟩ | heq
  · exact hfirm e' he'
  · exact hfirm e (heq.trans he)

end CertWatch
