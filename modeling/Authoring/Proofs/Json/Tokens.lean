import Mathlib
import Authoring.Json.Reader
import Authoring.Json.Printer
import Authoring.Proofs.Decimal.Digits
import Authoring.Proofs.Text.Solid

/-! Tokens of printed JSON are read back: whatever follows a string, and whatever cannot belong to
a numeral, stays unread. -/

namespace Authoring.Json

/-! Strings -/

theorem hexValue?_digitChar {digit : Nat} (small : digit < 16) :
    hexValue? digit.digitChar = some digit := by
  revert digit
  decide

theorem hexCode?_digits {code : Nat} (small : code < 0x20) :
    hexCode? ['0', '0', Nat.digitChar (code / 16), Nat.digitChar (code % 16)] = some code := by
  have zero : hexValue? '0' = some 0 := rfl
  have high := @hexValue?_digitChar (code / 16) (by omega)
  have low := @hexValue?_digitChar (code % 16) (by omega)
  simp [hexCode?, zero, high, low]
  omega

theorem scanString_mark {mark : Char} {code : Nat} (other : mark ≠ 'u')
    (known : escapeCode? mark = some code) (rest : List Char) :
    scanString ('\\' :: mark :: rest) = withCode code (scanString rest) := by
  rw [scanString.eq_def]
  simp [other, known]

theorem scanString_code {a b c d : Char} {code : Nat} (known : hexCode? [a, b, c, d] = some code)
    (rest : List Char) :
    scanString ('\\' :: 'u' :: a :: b :: c :: d :: rest) = withCode code (scanString rest) := by
  rw [scanString.eq_def]
  simp [known]

theorem scanString_escaped (c : Char) (rest : List Char) :
    scanString (escaped c ++ rest) = withCode c.toNat (scanString rest) := by
  unfold escaped
  split_ifs with quote backslash backspace tab feed page carriage control
  · subst quote
    exact scanString_mark (by decide) rfl rest
  · subst backslash
    exact scanString_mark (by decide) rfl rest
  · subst backspace
    exact scanString_mark (by decide) rfl rest
  · subst tab
    exact scanString_mark (by decide) rfl rest
  · subst feed
    exact scanString_mark (by decide) rfl rest
  · subst page
    exact scanString_mark (by decide) rfl rest
  · subst carriage
    exact scanString_mark (by decide) rfl rest
  · exact scanString_code (hexCode?_digits control) rest
  · rw [List.singleton_append, scanString.eq_def]
    simp [quote, backslash, control]

theorem scanString_letters (letters rest : List Char) :
    scanString (letters.flatMap escaped ++ '"' :: rest) =
      (letters.map Char.toNat, .closed rest) := by
  induction letters with
  | nil =>
      rw [List.flatMap_nil, List.nil_append, scanString.eq_def]
      rfl
  | cons c later ih =>
      rw [List.flatMap_cons, List.append_assoc, scanString_escaped, ih]
      rfl

theorem joinSurrogates_letters (atEnd : Break) (letters : List Char) :
    joinSurrogates atEnd (letters.map Char.toNat) = .ok letters := by
  induction letters with
  | nil => rfl
  | cons c later ih =>
      have valid : c.toNat < 0xD800 ∨ 0xDFFF < c.toNat := by
        rcases c.valid with below | ⟨above, _⟩
        · exact .inl below
        · exact .inr above
      have low : isLowSurrogate c.toNat = false := by
        simp only [isLowSurrogate, Bool.and_eq_false_iff, decide_eq_false_iff_not]
        omega
      have high : isHighSurrogate c.toNat = false := by
        simp only [isHighSurrogate, Bool.and_eq_false_iff, decide_eq_false_iff_not]
        omega
      rw [List.map_cons, joinSurrogates.eq_def]
      simp only [low, high, ih, Bool.false_eq_true, if_false, Char.ofNat_toNat]
      rfl

theorem tokenAt_string (value : String) (rest : List Char) :
    tokenAt '"' (value.toList.flatMap escaped ++ '"' :: rest) =
      (.leaf (.string value), rest) := by
  simp [tokenAt, punctuation?, stringToken, scanString_letters, joinSurrogates_letters]

/-! Words -/

theorem tokenAt_null (rest : List Char) :
    tokenAt 'n' ('u' :: 'l' :: 'l' :: rest) = (.leaf .null, rest) :=
  rfl

theorem tokenAt_true (rest : List Char) :
    tokenAt 't' ('r' :: 'u' :: 'e' :: rest) = (.leaf (.bool true), rest) :=
  rfl

theorem tokenAt_false (rest : List Char) :
    tokenAt 'f' ('a' :: 'l' :: 's' :: 'e' :: rest) = (.leaf (.bool false), rest) :=
  rfl

/-! Whole numbers -/

def EndsNumeral (rest : List Char) : Prop :=
  ∀ c later, rest = c :: later → Decimal.isDigit c = false ∧ c ≠ '.' ∧ c ≠ 'e' ∧ c ≠ 'E'

variable {rest : List Char} {count : Nat}

theorem takeWhile_digits (ends : EndsNumeral rest) :
    (Nat.toDigits 10 count ++ rest).takeWhile Decimal.isDigit = Nat.toDigits 10 count := by
  have digits : ∀ c ∈ Nat.toDigits 10 count, Decimal.isDigit c = true := fun c member =>
    Decimal.isDigit_of_mem_toDigits member
  cases rest with
  | nil => rwa [List.append_nil, List.takeWhile_eq_self_iff]
  | cons c later => exact Text.takeWhile_stop digits (ends c later rfl).1 later

theorem dropWhile_digits (ends : EndsNumeral rest) :
    (Nat.toDigits 10 count ++ rest).dropWhile Decimal.isDigit = rest := by
  have digits : ∀ c ∈ Nat.toDigits 10 count, Decimal.isDigit c = true := fun c member =>
    Decimal.isDigit_of_mem_toDigits member
  cases rest with
  | nil => rwa [List.append_nil, List.dropWhile_eq_nil_iff]
  | cons c later => exact Text.dropWhile_stop digits (ends c later rfl).1 later

theorem scanWhole_digits (ends : EndsNumeral rest) :
    scanWhole (Nat.toDigits 10 count ++ rest) = .ok (Nat.toDigits 10 count, rest) := by
  have scanned : scanDigits (Nat.toDigits 10 count ++ rest) =
      .ok (Nat.toDigits 10 count, rest) := by
    have taken := @takeWhile_digits rest count ends
    have dropped := @dropWhile_digits rest count ends
    obtain ⟨c, later, same, digit⟩ := Decimal.toDigits_head count
    rw [same, List.cons_append] at taken dropped ⊢
    simp only [scanDigits, digit, if_true, taken, dropped]
  have leading : ¬((Nat.toDigits 10 count).head? = some '0' ∧
      (Nat.toDigits 10 count).length ≠ 1) := by
    rintro ⟨zero, long⟩
    rcases Nat.eq_zero_or_pos count with rfl | positive
    · exact long rfl
    · exact Decimal.toDigits_head_ne_zero positive zero
  simp only [scanWhole, scanned, bind, Except.bind]
  rw [if_neg leading]

def wholeNumeral (value : Int) : Numeral :=
  ⟨decide (value < 0), Nat.toDigits 10 value.natAbs, none, none⟩

theorem scanNumeral_integerText (value : Int) (ends : EndsNumeral rest) :
    scanNumeral (Decimal.integerText value ++ rest) = .ok (wholeNumeral value, rest) := by
  have fraction : scanFraction rest = .ok (none, rest) := by
    unfold scanFraction
    split
    · rename_i later
      exact absurd rfl (ends '.' later rfl).2.1
    · rfl
  have exponent : scanExponent rest = .ok (none, rest) := by
    cases rest with
    | nil => rfl
    | cons c later =>
        obtain ⟨-, -, lower, upper⟩ := ends c later rfl
        simp [scanExponent, lower, upper]
  have whole := @scanWhole_digits rest value.natAbs ends
  unfold wholeNumeral Decimal.integerText scanNumeral
  by_cases negative : value < 0
  · simp only [negative, if_true, List.cons_append, whole, bind, Except.bind, fraction, exponent]
    rfl
  · have unsigned : ∀ later, Nat.toDigits 10 value.natAbs ++ rest ≠ '-' :: later := by
      intro later same
      obtain ⟨c, digits, shape, digit⟩ := Decimal.toDigits_head value.natAbs
      rw [shape, List.cons_append, List.cons.injEq] at same
      rw [same.1] at digit
      cases digit
    simp only [negative, if_false, whole, bind, Except.bind, fraction, exponent]
    rfl

theorem le_ofDigitChars (digits : List Char) (start : Nat) :
    start ≤ Nat.ofDigitChars 10 digits start := by
  rw [Nat.ofDigitChars_eq_ofDigitChars_zero]
  exact Nat.le_add_right_of_le (Nat.le_mul_of_pos_left start (Nat.pow_pos (by decide)))

theorem gather_digits {digits : List Char} {start : Nat}
    (small : Nat.ofDigitChars 10 digits start < 2 ^ 64) :
    gather start digits = (Nat.ofDigitChars 10 digits start, digits.length) := by
  induction digits generalizing start with
  | nil => rfl
  | cons c later ih =>
      have next : start * 10 + Decimal.digitValue c = 10 * start + (c.toNat - '0'.toNat) := by
        rw [Nat.mul_comm]
        rfl
      rw [Nat.ofDigitChars_cons] at small ⊢
      have fits := le_ofDigitChars later (10 * start + (c.toNat - '0'.toNat))
      rw [gather, next]
      simp only
      rw [if_neg (by omega), ih small]
      rfl

theorem number?_wholeNumeral (whole : WideInt) :
    (wholeNumeral whole.value).number? = some (.integer whole) := by
  obtain ⟨value, inRange⟩ := whole
  have back := @Nat.ofDigitChars_ten_toDigits value.natAbs
  have gathered := @gather_digits (Nat.toDigits 10 value.natAbs) 0 (by rw [back]; omega)
  rw [back] at gathered
  by_cases negative : value < 0
  · have size : -(value.natAbs : Int) = value := by omega
    have fits : ¬(value.natAbs = 0 ∨ 0x8000000000000000 < value.natAbs) := by omega
    simp only [wholeNumeral, Numeral.number?, gathered, negative, decide_true, fits, size,
      Nat.sub_self, ne_eq, not_true_eq_false, if_false, if_true, WideInt.ofInt?, inRange]
    rfl
  · have size : (value.natAbs : Int) = value := by omega
    simp only [wholeNumeral, Numeral.number?, gathered, negative, decide_false, size,
      Nat.sub_self, ne_eq, not_true_eq_false, if_false, WideInt.ofInt?, inRange]
    rfl

theorem tokenAt_numeral {c : Char} (starts : c = '-' ∨ Decimal.isDigit c = true)
    (text : List Char) : tokenAt c text = numberToken (c :: text) := by
  have differs : ∀ other : Char, other ≠ '-' → Decimal.isDigit other = false → c ≠ other := by
    rintro other notMinus notDigit rfl
    rcases starts with minus | digit
    · exact notMinus minus
    · rw [digit] at notDigit
      cases notDigit
  have plain : punctuation? c = none := by
    simp [punctuation?, differs '[' (by decide) rfl, differs ']' (by decide) rfl,
      differs '\x7b' (by decide) rfl, differs '\x7d' (by decide) rfl,
      differs ',' (by decide) rfl, differs ':' (by decide) rfl]
  simp [tokenAt, plain, differs '"' (by decide) rfl, differs 'n' (by decide) rfl,
    differs 't' (by decide) rfl, differs 'f' (by decide) rfl, starts]

theorem tokenAt_whole (whole : WideInt) (ends : EndsNumeral rest) {c : Char} {text : List Char}
    (written : Decimal.integerText whole.value = c :: text) :
    tokenAt c (text ++ rest) = (.leaf (.number (.integer whole)), rest) := by
  have scanned := scanNumeral_integerText whole.value ends
  rw [written, List.cons_append] at scanned
  have starts := Decimal.mem_integerText (written ▸ List.mem_cons_self)
  rw [tokenAt_numeral starts, numberToken, scanned]
  simp only [number?_wholeNumeral]

end Authoring.Json
