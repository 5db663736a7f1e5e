import Mathlib
import Authoring.Proofs.Fields
import Authoring.Proofs.Program.Scanning

/-! Literals that are displayed values are read back as these values. -/

namespace Authoring

namespace Literal

variable {text : List Char}

theorem between?_inner (opening closing : Char) (inner : List Char) :
    between? opening closing (opening :: (inner ++ [closing])) = some inner := by
  simp [between?]

theorem between?_other {opening closing c : Char} (different : c ≠ opening) (rest : List Char) :
    between? opening closing (c :: rest) = none := by
  simp [between?, different]

theorem takeWhile_toDigits (count : Nat) :
    (Nat.toDigits 10 count).takeWhile Decimal.isDigit = Nat.toDigits 10 count := by
  rw [List.takeWhile_eq_self_iff]
  exact fun c member => Decimal.isDigit_of_mem_toDigits member

theorem dropWhile_toDigits (count : Nat) :
    (Nat.toDigits 10 count).dropWhile Decimal.isDigit = [] := by
  rw [List.dropWhile_eq_nil_iff]
  exact fun c member => Decimal.isDigit_of_mem_toDigits member

theorem number?_unsigned {digits : List Char} (unsigned : ∀ rest, digits ≠ '-' :: rest)
    (nonempty : digits.isEmpty = false) (whole : digits.takeWhile Decimal.isDigit = digits)
    (nothing : digits.dropWhile Decimal.isDigit = [])
    (small : (Decimal.valueOf digits : Int) < 2 ^ 63) :
    number? digits = some (.int (Int64.ofInt (Decimal.valueOf digits))) := by
  unfold number?
  split
  rename_i negative size split
  split at split
  · rename_i rest
    exact absurd rfl (unsigned rest)
  · cases split
    simp only [whole, nothing, nonempty, Bool.false_eq_true, if_false]
    rw [if_pos ⟨by omega, small⟩]

theorem number?_integerText (value : Int64) :
    number? (Decimal.integerText value.toInt) = some (.int value) := by
  have least := value.le_toInt
  have greatest := value.toInt_lt
  have back : Int64.ofInt value.toInt = value := Int64.ofInt_toInt value
  have nonempty : (Nat.toDigits 10 value.toInt.natAbs).isEmpty = false := by
    simp [Nat.toDigits_ne_nil]
  unfold Decimal.integerText
  by_cases negative : value.toInt < 0
  · have size : -(value.toInt.natAbs : Int) = value.toInt := by omega
    simp only [number?, negative, if_true, takeWhile_toDigits, dropWhile_toDigits, nonempty,
      Decimal.valueOf_toDigits, size, Bool.false_eq_true, if_false]
    rw [if_pos ⟨least, greatest⟩, back]
  · have size : (value.toInt.natAbs : Int) = value.toInt := by omega
    have unsigned : ∀ rest, Nat.toDigits 10 value.toInt.natAbs ≠ '-' :: rest := by
      intro rest same
      have digit : '-'.isDigit = true :=
        Nat.isDigit_of_mem_toDigits (by decide) (by decide) (same ▸ List.mem_cons_self)
      cases digit
    rw [if_neg negative, number?_unsigned unsigned nonempty (takeWhile_toDigits _)
      (dropWhile_toDigits _) (by rw [Decimal.valueOf_toDigits, size]; exact greatest),
      Decimal.valueOf_toDigits, size, back]

theorem solid_listed {rest : List (List Char)}
    (solid : ∀ entry ∈ text :: rest, Text.Solid entry) : Text.Solid (text ++ listed rest) := by
  induction rest generalizing text with
  | nil =>
      rw [listed, List.flatMap_nil, List.append_nil]
      exact solid text List.mem_cons_self
  | cons next later ih =>
      have tail := ih fun entry member => solid entry (List.mem_cons_of_mem _ member)
      have whole := (solid text List.mem_cons_self).append tail [',', ' ']
      simpa [listed] using whole

theorem displayItems_eq (items : List Value) :
    Value.displayItems items = listed (items.map Value.display) ++ [']'] := by
  induction items with
  | nil => rfl
  | cons item rest ih => simp [Value.displayItems, listed, ih]

theorem display_list (item : Value) (rest : List Value) :
    (Value.list (item :: rest)).display =
      '[' :: ((item.display ++ listed (rest.map Value.display)) ++ [']']) := by
  rw [Value.display, displayItems_eq, List.append_assoc]

theorem integerText_visible (value : Int) :
    ∀ c ∈ Decimal.integerText value, Text.isBlank c = false := by
  intro c member
  rcases Decimal.mem_integerText member with rfl | digit
  · decide
  · exact Text.isBlank_of_isDigit digit

theorem solid_integerText (value : Int) : Text.Solid (Decimal.integerText value) :=
  Text.solid_of_visible (Decimal.integerText_ne_nil value) (integerText_visible value)

theorem solid_display (value : Value) (plain : value.Plain) : Text.Solid value.display := by
  cases value with
  | bool value =>
      cases value with
      | true =>
          rw [Value.display]
          exact Text.solid_of_visible (by simp) (by simp [Text.isBlank])
      | false =>
          rw [Value.display]
          exact Text.solid_of_visible (by simp) (by simp [Text.isBlank])
  | int value =>
      rw [Value.display]
      exact solid_integerText value.toInt
  | string text =>
      rw [Value.display, Value.displayString_of_unquoted plain.1]
      exact Text.solid_between (by decide) (by decide) _
  | list items =>
      cases items with
      | nil => exact Text.solid_between (by decide) (by decide) []
      | cons item rest =>
          rw [display_list]
          exact Text.solid_between (by decide) (by decide) _
  | null | float | map => exact plain.elim

theorem plainItems_iff {items : List Value} :
    Value.PlainItems items ↔ ∀ item ∈ items, item.Plain := by
  induction items with
  | nil => simp [Value.PlainItems]
  | cons item rest ih => simp [Value.PlainItems, ih]

theorem entries_display {item : Value} {rest : List Value}
    (plain : Value.PlainItems (item :: rest)) :
    listEntries? (Value.list (item :: rest)).display = some ((item :: rest).map Value.display) := by
  have each := plainItems_iff.mp plain
  have solid : ∀ entry ∈ (item :: rest).map Value.display, Text.Solid entry := by
    intro entry member
    obtain ⟨value, listed, rfl⟩ := List.mem_map.mp member
    exact solid_display value (each value listed)
  have pass : ∀ entry ∈ (item :: rest).map Value.display, Passes .start entry .start := by
    intro entry member
    obtain ⟨value, listed, rfl⟩ := List.mem_map.mp member
    exact passes_display value (each value listed) 0
  rw [List.map_cons] at solid pass
  rw [listEntries?, display_list, between?_inner, Option.map_some, (solid_listed solid).trim,
    entries_listed pass solid, List.map_cons]

theorem value_integerText (number : Int64) :
    value (Decimal.integerText number.toInt) = .int number := by
  obtain ⟨c, rest, same, digit⟩ := Decimal.integerText_head number.toInt
  have differs : ∀ other : Char, other ≠ '-' → other.isDigit = false → c ≠ other := by
    rintro other notMinus notDigit rfl
    rcases digit with minus | digit
    · exact notMinus minus
    · rw [digit] at notDigit
      cases notDigit
  have quoted : between? '"' '"' (c :: rest) = none :=
    between?_other (differs '"' (by decide) (by decide)) rest
  have read := number?_integerText number
  rw [same] at read ⊢
  rw [value, quoted]
  simp only [read, List.cons.injEq, differs 't' (by decide) (by decide),
    differs 'f' (by decide) (by decide), false_and, if_false]

theorem value_of_listEntries {rest : List Char} {found : List (List Char)}
    (list : listEntries? ('[' :: rest) = some found) :
    value ('[' :: rest) = .list (found.map value) := by
  have quoted : between? '"' '"' ('[' :: rest) = none := between?_other (by decide) rest
  have number : number? ('[' :: rest) = none := by
    simp [number?, Decimal.isDigit]
  rw [value, quoted]
  simp only [number, List.cons.injEq, Char.reduceEq, false_and, if_false]
  split
  · rename_i entries same
    cases list.symm.trans same
    exact congrArg Value.list List.attach_map_val
  · rename_i none
    rw [list] at none
    cases none

mutual
theorem value_display : (value : Value) → value.Plain → Literal.value value.display = value
  | .bool true, _ => by
      rw [Value.display, value]
      simp [between?]
  | .bool false, _ => by
      rw [Value.display, value]
      simp [between?]
  | .int number, _ => by
      rw [Value.display]
      exact value_integerText number
  | .string text, plain => by
      rw [Value.display, Value.displayString_of_unquoted plain.1, value, between?_inner]
      simp
  | .list [], _ => by
      have list : listEntries? ['[', ']'] = some [] := rfl
      rw [Value.display]
      exact value_of_listEntries list
  | .list (item :: rest), plain => by
      have list := entries_display plain
      rw [display_list] at list ⊢
      rw [value_of_listEntries list, List.map_cons, List.map_cons, value_display item plain.1,
        values_display rest plain.2]

theorem values_display : (items : List Value) → Value.PlainItems items →
    (items.map Value.display).map Literal.value = items
  | [], _ => rfl
  | item :: rest, plain => by
      rw [List.map_cons, List.map_cons, value_display item plain.1, values_display rest plain.2]
end

/-! Properties -/

structure IsKey (key : String) : Prop where
  nonempty : key ≠ ""
  trimmed : Text.trim key.toList = key.toList
  clean : ∀ c ∈ key.toList, c ∉ [':', ',', '"', '[', ']', '\x7b', '\x7d', '(', ')', '\n']

structure PlainProperties (properties : Properties) : Prop where
  distinct : (Fields.keys properties).Nodup
  keys : ∀ property ∈ properties, IsKey property.1
  values : ∀ property ∈ properties, property.2.Plain

def displayProperty (property : String × Value) : List Char :=
  property.1.toList ++ ':' :: ' ' :: property.2.display

variable {property : String × Value}

theorem IsKey.solid {key : String} (isKey : IsKey key) : Text.Solid key.toList :=
  Text.solid_of_trim (by simpa using isKey.nonempty) isKey.trimmed

theorem displayFields_eq (properties : Properties) :
    Value.displayFields properties = listed (properties.map displayProperty) ++ ['\x7d'] := by
  induction properties with
  | nil => rfl
  | cons property rest ih =>
      obtain ⟨name, value⟩ := property
      simp [Value.displayFields, listed, displayProperty, ih]

theorem display_map (property : String × Value) (rest : Properties) :
    (Value.map (property :: rest)).display = '\x7b' ::
      ((displayProperty property ++ listed (rest.map displayProperty)) ++ ['\x7d']) := by
  obtain ⟨name, value⟩ := property
  simp [Value.display, displayFields_eq, displayProperty]

theorem solid_property (isKey : IsKey property.1) (plain : property.2.Plain) :
    Text.Solid (displayProperty property) := by
  have whole := isKey.solid.append (solid_display property.2 plain) [':', ' ']
  simpa [displayProperty] using whole

theorem passes_property (isKey : IsKey property.1) (plain : property.2.Plain) :
    Passes .start (displayProperty property) .start := by
  have neutral : ∀ c ∈ property.1.toList, isNeutral c = true := by
    intro c member
    have clean := isKey.clean c member
    simp only [List.mem_cons, List.not_mem_nil, or_false, not_or] at clean
    simp [isNeutral, isOpener, isCloser, clean]
  have value := passes_display property.2 plain 0
  exact (passes_neutral neutral).append
    (Passes.cons (.inl (by decide)) (Passes.cons (.inl (by decide)) value))

theorem property_display (isKey : IsKey property.1) (plain : property.2.Plain) :
    Literal.property (displayProperty property) = .ok property := by
  have before : ∀ c ∈ property.1.toList, (c != ':') = true := by
    intro c member
    have clean := isKey.clean c member
    simp only [List.mem_cons, List.not_mem_nil, or_false, not_or] at clean
    simp [clean]
  have name : (displayProperty property).takeWhile (· != ':') = property.1.toList :=
    Text.takeWhile_stop before (by decide) _
  have tail : (displayProperty property).dropWhile (· != ':') =
      ':' :: ' ' :: property.2.display :=
    Text.dropWhile_stop before (by decide) _
  have nonempty : property.1.toList.isEmpty = false := by simpa using isKey.nonempty
  have value : Text.trim (' ' :: property.2.display) = property.2.display :=
    (Text.trim_cons (by decide)).trans (solid_display property.2 plain).trim
  rw [Literal.property, name, tail, isKey.trimmed]
  simp [nonempty, value, value_display property.2 plain]

theorem mapM_property {properties : Properties} (plain : PlainProperties properties) :
    (properties.map displayProperty).mapM Literal.property = .ok properties := by
  have keys := plain.keys
  have values := plain.values
  clear plain
  induction properties with
  | nil => rfl
  | cons property rest ih =>
      have tail := ih (fun other member => keys other (List.mem_cons_of_mem _ member))
        (fun other member => values other (List.mem_cons_of_mem _ member))
      rw [List.map_cons, List.mapM_cons, property_display (keys property List.mem_cons_self)
        (values property List.mem_cons_self), tail]
      rfl

theorem object_display {properties : Properties} (plain : PlainProperties properties) :
    object (Value.map properties).display = .ok properties := by
  have read := mapM_property plain
  cases properties with
  | nil => rfl
  | cons property rest =>
      have solid : ∀ entry ∈ (property :: rest).map displayProperty, Text.Solid entry := by
        intro entry member
        obtain ⟨other, listed, rfl⟩ := List.mem_map.mp member
        exact solid_property (plain.keys other listed) (plain.values other listed)
      have pass : ∀ entry ∈ (property :: rest).map displayProperty, Passes .start entry .start := by
        intro entry member
        obtain ⟨other, listed, rfl⟩ := List.mem_map.mp member
        exact passes_property (plain.keys other listed) (plain.values other listed)
      rw [List.map_cons] at solid pass read
      have whole := @Text.solid_between '\x7b' '\x7d' (by decide) (by decide)
        (displayProperty property ++ listed (rest.map displayProperty))
      rw [object, body?, display_map, whole.trim, between?_inner, Option.map_some,
        (solid_listed solid).trim]
      simp only [entries_listed pass solid, read, bind, Except.bind]
      rw [Fields.collect_eq plain.distinct]
      rfl

theorem solid_map (properties : Properties) : Text.Solid (Value.map properties).display := by
  cases properties with
  | nil => exact Text.solid_between (by decide) (by decide) []
  | cons property rest =>
      rw [display_map]
      exact Text.solid_between (by decide) (by decide) _

/-! Displays of one line -/

mutual
theorem oneLine_display : (value : Value) → value.Plain → '\n' ∉ value.display
  | .bool true, _ => by simp [Value.display]
  | .bool false, _ => by simp [Value.display]
  | .int number, _ => by
      intro member
      have visible := integerText_visible number.toInt '\n' member
      cases visible
  | .string text, plain => by
      rw [Value.display, Value.displayString_of_unquoted plain.1]
      simp [plain.2]
  | .list [], _ => by simp [Value.display]
  | .list (item :: rest), plain => by
      simp [Value.display, oneLine_display item plain.1, oneLine_displayItems rest plain.2]

theorem oneLine_displayItems : (items : List Value) → Value.PlainItems items →
    '\n' ∉ Value.displayItems items
  | [], _ => by simp [Value.displayItems]
  | item :: rest, plain => by
      simp [Value.displayItems, oneLine_display item plain.1, oneLine_displayItems rest plain.2]
end

theorem oneLine_property (isKey : IsKey property.1) (plain : property.2.Plain) :
    '\n' ∉ displayProperty property := by
  have key : '\n' ∉ property.1.toList := by
    intro member
    have clean := isKey.clean '\n' member
    simp at clean
  simp [displayProperty, key, oneLine_display property.2 plain]

theorem oneLine_map {properties : Properties} (plain : PlainProperties properties) :
    '\n' ∉ (Value.map properties).display := by
  have each : ∀ entry ∈ properties.map displayProperty, '\n' ∉ entry := by
    intro entry member
    obtain ⟨property, listed, rfl⟩ := List.mem_map.mp member
    exact oneLine_property (plain.keys property listed) (plain.values property listed)
  cases properties with
  | nil => simp [Value.display]
  | cons property rest =>
      rw [List.map_cons, List.forall_mem_cons] at each
      have later : '\n' ∉ listed (rest.map displayProperty) := by
        rw [listed, List.mem_flatMap]
        rintro ⟨entry, member, inside⟩
        simp only [List.mem_cons, Char.reduceEq, false_or] at inside
        exact each.2 entry member inside
      rw [display_map]
      simp [each.1, later]

end Literal

end Authoring
