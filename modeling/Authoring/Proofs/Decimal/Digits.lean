import Mathlib
import Authoring.Decimal.Layout
import Authoring.Decimal.Reader

/-! The digits in which whole numbers are written, and what is read from them. -/

namespace Authoring.Decimal

variable {count : Nat} {c : Char}

theorem isDigit_of_mem_toDigits (member : c ∈ Nat.toDigits 10 count) : isDigit c = true :=
  Nat.isDigit_of_mem_toDigits (by decide) (by decide) member

theorem toList_toString (count : Nat) : (toString count).toList = Nat.toDigits 10 count := by
  rw [Nat.toString_eq_repr, Nat.repr, String.toList_ofList]

theorem isDigit_of_mem_toString (member : c ∈ (toString count).toList) : isDigit c = true := by
  rw [toList_toString] at member
  exact isDigit_of_mem_toDigits member

theorem toDigits_head (count : Nat) :
    ∃ c rest, Nat.toDigits 10 count = c :: rest ∧ isDigit c = true := by
  obtain ⟨c, rest, same⟩ := List.exists_cons_of_ne_nil (@Nat.toDigits_ne_nil count 10)
  exact ⟨c, rest, same, isDigit_of_mem_toDigits (same ▸ List.mem_cons_self)⟩

theorem valueOf_eq_ofDigitChars (digits : List Char) (start : Nat) :
    digits.foldl (fun value c => value * 10 + digitValue c) start =
      Nat.ofDigitChars 10 digits start := by
  induction digits generalizing start with
  | nil => rfl
  | cons c rest ih =>
      rw [List.foldl_cons, ih, Nat.ofDigitChars_cons, Nat.mul_comm]
      rfl

theorem valueOf_toDigits (count : Nat) : valueOf (Nat.toDigits 10 count) = count := by
  rw [valueOf, valueOf_eq_ofDigitChars, Nat.ofDigitChars_ten_toDigits]

theorem toDigits_head_ne_zero (positive : 0 < count) :
    (Nat.toDigits 10 count).head? ≠ some '0' := by
  induction count using Nat.strong_induction_on with
  | _ count ih =>
      rw [Nat.toDigits_eq_if (by decide)]
      split
      · simp only [List.head?_cons, ne_eq, Option.some.injEq, Nat.digitChar_eq_zero]
        omega
      · rw [List.head?_append_of_ne_nil _ Nat.toDigits_ne_nil]
        exact ih (count / 10) (by omega) (by omega)

theorem mem_integerText {value : Int} (member : c ∈ integerText value) :
    c = '-' ∨ c.isDigit = true := by
  unfold integerText at member
  split at member
  · rcases List.mem_cons.mp member with minus | digit
    · exact .inl minus
    · exact .inr (isDigit_of_mem_toDigits digit)
  · exact .inr (isDigit_of_mem_toDigits member)

theorem integerText_ne_nil (value : Int) : integerText value ≠ [] := by
  unfold integerText
  split
  · exact List.cons_ne_nil _ _
  · exact Nat.toDigits_ne_nil

theorem integerText_head (value : Int) :
    ∃ c rest, integerText value = c :: rest ∧ (c = '-' ∨ c.isDigit = true) := by
  obtain ⟨c, rest, same⟩ := List.exists_cons_of_ne_nil (integerText_ne_nil value)
  exact ⟨c, rest, same, mem_integerText (same ▸ List.mem_cons_self)⟩

end Authoring.Decimal
