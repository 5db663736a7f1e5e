import Mathlib
import Authoring.Program.Literal
import Authoring.Proofs.Decimal.Digits
import Authoring.Proofs.Text.Solid

/-! Where the scan of a literal cuts. It passes whole over anything that a displayed value consists
of, so a displayed list comes apart into just its items. -/

namespace Authoring

namespace Value

mutual
/-- What programs can write: no nulls, no fractions and no objects inside, and strings of one line
without quotes. -/
def Plain : Value → Prop
  | .bool _ => True
  | .int _ => True
  | .string text => '"' ∉ text.toList ∧ '\n' ∉ text.toList
  | .list items => PlainItems items
  | .null => False
  | .float _ => False
  | .map _ => False

def PlainItems : List Value → Prop
  | [] => True
  | item :: rest => item.Plain ∧ PlainItems rest
end

theorem displayString_of_unquoted {text : String} (unquoted : '"' ∉ text.toList) :
    displayString text = '"' :: (text.toList ++ ['"']) := by
  have same : text.toList.flatMap (fun c => if c = '"' then ['\\', '"'] else [c]) =
      text.toList := by
    generalize text.toList = letters at unquoted
    induction letters with
    | nil => rfl
    | cons c rest ih =>
        have different : c ≠ '"' := fun same => unquoted (same ▸ List.mem_cons_self)
        rw [List.flatMap_cons, if_neg different,
          ih fun member => unquoted (List.mem_cons_of_mem _ member)]
        rfl
  rw [displayString, same]

end Value

namespace Literal

/-- Between the two states of the scan, nothing in the text is cut. -/
def Passes (scan : Scan) (text : List Char) (after : Scan) : Prop :=
  ∀ rest, piecesFrom scan (text ++ rest) =
    (text ++ (piecesFrom after rest).1, (piecesFrom after rest).2)

variable {scan after final : Scan} {text more : List Char} {c : Char} {depth : Nat}

theorem passes_nil : Passes scan [] scan :=
  fun _ => rfl

theorem Passes.cons (kept : c ≠ ',' ∨ scan.isTop = false)
    (passes : Passes (scan.next c) text after) :
    Passes scan (c :: text) after := by
  intro rest
  have uncut : ¬(c = ',' ∧ scan.isTop = true) := by
    rintro ⟨comma, top⟩
    rcases kept with other | inside
    · exact other comma
    · rw [top] at inside
      cases inside
  rw [List.cons_append, piecesFrom, if_neg uncut, passes rest]
  rfl

theorem Passes.append (passes : Passes scan text after) (onward : Passes after more final) :
    Passes scan (text ++ more) final := by
  intro rest
  rw [List.append_assoc, passes (more ++ rest), onward rest, List.append_assoc]

def isNeutral (c : Char) : Bool :=
  c != '"' && c != ',' && !isOpener c && !isCloser c

theorem next_of_neutral (neutral : isNeutral c = true) : scan.next c = scan := by
  simp only [isNeutral, Bool.and_eq_true, bne_iff_ne, Bool.not_eq_true'] at neutral
  obtain ⟨⟨⟨quote, _⟩, opener⟩, closer⟩ := neutral
  simp [Scan.next, quote, opener, closer]

theorem passes_neutral (neutral : ∀ c ∈ text, isNeutral c = true) : Passes scan text scan := by
  induction text with
  | nil => exact passes_nil
  | cons c rest ih =>
      have here := neutral c List.mem_cons_self
      have comma : c ≠ ',' := by
        rintro rfl
        exact absurd here (by decide)
      refine Passes.cons (.inl comma) ?_
      rw [next_of_neutral here]
      exact ih fun other member => neutral other (List.mem_cons_of_mem _ member)

theorem passes_quoted (unquoted : '"' ∉ text) : Passes ⟨depth, true⟩ text ⟨depth, true⟩ := by
  induction text with
  | nil => exact passes_nil
  | cons c rest ih =>
      have different : c ≠ '"' := fun same => unquoted (same ▸ List.mem_cons_self)
      have same : Scan.next ⟨depth, true⟩ c = ⟨depth, true⟩ := by simp [Scan.next, different]
      refine Passes.cons (.inr (by simp [Scan.isTop])) ?_
      rw [same]
      exact ih fun member => unquoted (List.mem_cons_of_mem _ member)

theorem passes_string (unquoted : '"' ∉ text) :
    Passes ⟨depth, false⟩ ('"' :: (text ++ ['"'])) ⟨depth, false⟩ := by
  refine Passes.cons (.inl (by decide)) ((passes_quoted unquoted).append ?_)
  exact Passes.cons (.inl (by decide)) passes_nil

theorem isNeutral_of_isDigit (digit : c.isDigit = true) : isNeutral c = true := by
  have differs : ∀ other : Char, other.isDigit = false → c ≠ other := by
    rintro other notDigit rfl
    rw [digit] at notDigit
    cases notDigit
  simp [isNeutral, isOpener, isCloser, differs '"' (by decide), differs ',' (by decide),
    differs '[' (by decide), differs '\x7b' (by decide), differs '(' (by decide),
    differs ']' (by decide), differs '\x7d' (by decide), differs ')' (by decide)]

theorem passes_integerText (value : Int) : Passes scan (Decimal.integerText value) scan := by
  refine passes_neutral fun c member => ?_
  rcases Decimal.mem_integerText member with rfl | digit
  · decide
  · exact isNeutral_of_isDigit digit

mutual
theorem passes_display : (value : Value) → value.Plain → ∀ depth,
    Passes ⟨depth, false⟩ value.display ⟨depth, false⟩
  | .bool true, _, _ => by
      rw [Value.display]
      exact passes_neutral (by simp [isNeutral, isOpener, isCloser])
  | .bool false, _, _ => by
      rw [Value.display]
      exact passes_neutral (by simp [isNeutral, isOpener, isCloser])
  | .int value, _, _ => passes_integerText value.toInt
  | .string text, plain, depth => by
      rw [Value.display, Value.displayString_of_unquoted plain.1]
      exact passes_string plain.1
  | .list [], _, depth => Passes.cons (.inl (by decide)) (Passes.cons (.inl (by decide)) passes_nil)
  | .list (item :: rest), plain, depth =>
      Passes.cons (.inl (by decide))
        ((passes_display item plain.1 (depth + 1)).append
          (passes_displayItems rest plain.2 depth))

theorem passes_displayItems : (items : List Value) → Value.PlainItems items → ∀ depth,
    Passes ⟨depth + 1, false⟩ (Value.displayItems items) ⟨depth, false⟩
  | [], _, _ => Passes.cons (.inl (by decide)) passes_nil
  | item :: rest, plain, depth =>
      Passes.cons (.inr (by simp [Scan.isTop])) (Passes.cons (.inl (by decide))
        ((passes_display item plain.1 (depth + 1)).append
          (passes_displayItems rest plain.2 depth)))
end

def listed (texts : List (List Char)) : List Char :=
  texts.flatMap fun text => ',' :: ' ' :: text

theorem piecesFrom_listed {texts : List (List Char)}
    (pass : ∀ text ∈ texts, Passes .start text .start) :
    piecesFrom .start (listed texts) = ([], texts.map (' ' :: ·)) := by
  induction texts with
  | nil => rfl
  | cons text rest ih =>
      have tail := ih fun other member => pass other (List.mem_cons_of_mem _ member)
      have here : Passes .start (' ' :: text) .start :=
        Passes.cons (.inl (by decide)) (pass text List.mem_cons_self)
      have split : listed (text :: rest) = ',' :: ((' ' :: text) ++ listed rest) := rfl
      rw [split, piecesFrom, if_pos ⟨rfl, rfl⟩, here (listed rest), tail]
      simp

theorem entries_listed {text : List Char} {rest : List (List Char)}
    (pass : ∀ entry ∈ text :: rest, Passes .start entry .start)
    (solid : ∀ entry ∈ text :: rest, Text.Solid entry) :
    entries (text ++ listed rest) = text :: rest := by
  have nonempty := (solid text List.mem_cons_self).nonempty
  have whole : (text ++ listed rest).isEmpty = false := by simp [nonempty]
  have cut : pieces (text ++ listed rest) = text :: rest.map (' ' :: ·) := by
    rw [pieces, whole, pass text List.mem_cons_self, piecesFrom_listed fun entry member =>
      pass entry (List.mem_cons_of_mem _ member)]
    simp
  have trimmed : (text :: rest.map (' ' :: ·)).map Text.trim = text :: rest := by
    rw [List.map_cons, (solid text List.mem_cons_self).trim, List.map_map]
    congr 1
    refine (List.map_congr_left fun entry member => ?_).trans (List.map_id _)
    exact (Text.trim_cons (by decide)).trans (solid entry (List.mem_cons_of_mem _ member)).trim
  rw [entries, cut, trimmed, List.filter_eq_self]
  intro entry member
  simpa using (solid entry member).nonempty

end Literal

end Authoring
