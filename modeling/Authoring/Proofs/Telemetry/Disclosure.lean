import Mathlib
import Authoring.Telemetry
import Authoring.Proofs.Fields
import Authoring.Proofs.Value.Readers

/-! What telemetry discloses of properties: the scalars under keys that are not personal, with long
strings cut. Nothing else has any influence on what is kept or on its order. -/

namespace Authoring

def Fields.Match {α β : Type} (related : α → β → Prop) (one : Fields α) (other : Fields β) : Prop :=
  List.Forall₂ (fun left right => left.1 = right.1 ∧ related left.2 right.2) one other

/-! Personal keys -/

namespace Telemetry

/-- The character is the letter when case is ignored. Two letters have a third form. -/
def IsCaseOf (letter c : Char) : Prop :=
  c = letter ∨ c = letter.toUpper ∨ (letter = 'k' ∧ c = '\u212A') ∨ (letter = 's' ∧ c = '\u017F')

def IsPersonal (key : String) : Prop :=
  ∃ word ∈ sensitiveWords, ∃ part, part <:+: key.toList ∧ List.Forall₂ IsCaseOf word.toList part

def isSmall (letter : Char) : Bool :=
  letter.toNat < 128 && !letter.isUpper

variable {letter c : Char}

theorem toLower_eq_iff (small : isSmall letter = true) :
    c.toLower = letter ↔ c = letter ∨ c = letter.toUpper := by
  simp only [isSmall, Bool.and_eq_true, Bool.not_eq_true'] at small
  have same : letter.toLower = letter := Char.toLower_eq_of_not_isUpper (by simp [small.2])
  constructor
  · rintro rfl
    by_cases capital : c.isUpper = true
    · right
      rw [Char.toUpper_toLower_eq_toUpper, Char.toUpper_eq_of_not_isLower]
      exact Char.not_isLower_of_isUpper capital
    · exact .inl (Char.toLower_eq_of_not_isUpper capital).symm
  · rintro (rfl | rfl)
    · exact same
    · rw [Char.toLower_toUpper_eq_toLower, same]

theorem foldCase_eq_iff (small : isSmall letter = true) :
    foldCase c = letter ↔ IsCaseOf letter c := by
  have ascii : ∀ other : Char, isSmall other = false → letter ≠ other := by
    rintro other strange rfl
    rw [small] at strange
    cases strange
  rw [IsCaseOf, ← or_assoc, ← toLower_eq_iff small, foldCase]
  by_cases kelvin : c = '\u212A'
  · subst kelvin
    simp [ascii '\u212A' (by decide), eq_comm]
  · by_cases long : c = '\u017F'
    · subst long
      simp [ascii '\u017F' (by decide), eq_comm]
    · simp [kelvin, long]

theorem eq_map_foldCase_iff {letters part : List Char}
    (small : ∀ letter ∈ letters, isSmall letter = true) :
    letters = part.map foldCase ↔ List.Forall₂ IsCaseOf letters part := by
  induction letters generalizing part with
  | nil => cases part <;> simp
  | cons letter rest ih =>
      rw [List.forall_mem_cons] at small
      cases part with
      | nil => simp
      | cons c later =>
          rw [List.map_cons, List.cons.injEq, List.forall₂_cons, ih small.2, eq_comm,
            foldCase_eq_iff small.1]

theorem holds_iff {letters text : List Char} : holds letters text = true ↔ letters <:+: text := by
  induction text with
  | nil => cases letters <;> simp [holds]
  | cons c rest ih =>
      rw [holds, Bool.or_eq_true, List.isPrefixOf_iff_prefix, ih, List.infix_cons_iff]

theorem sensitiveWords_small : ∀ word ∈ sensitiveWords, ∀ letter ∈ word.toList,
    isSmall letter = true := by
  simp only [← List.all_eq_true]
  decide

theorem isSensitive_iff {key : String} : isSensitive key = true ↔ IsPersonal key := by
  simp only [isSensitive, List.any_eq_true, holds_iff, List.infix_map_iff, IsPersonal]
  refine exists_congr fun word => and_congr_right fun listed => exists_congr fun part => ?_
  rw [eq_map_foldCase_iff (sensitiveWords_small word listed)]

instance : DecidablePred IsPersonal :=
  fun _ => decidable_of_iff _ isSensitive_iff

/-! Disclosed fields -/

end Telemetry

def Json.cut : Json → Json
  | .string text => .string (String.ofList (text.toList.take 256))
  | document => document

def Json.isScalar : Json → Bool
  | .null => false
  | .array _ => false
  | .object _ => false
  | _ => true

/-- Equal as programs compare scalars: the two zeros among the floats are one. -/
def Json.EqualScalars (one other : Json) : Prop :=
  one = other ∨ ∃ left right : FiniteFloat, one = .number (.float left) ∧
    other = .number (.float right) ∧ (left.value == right.value) = true

def Value.EqualScalars (one other : Value) : Prop :=
  one = other ∨ ∃ left right : Float, one = .float left ∧ other = .float right ∧
    (left == right) = true

inductive Value.IsSafe : Value → Prop
  | bool (value : Bool) : IsSafe (.bool value)
  | int (value : Int64) : IsSafe (.int value)
  | float (value : Float) : IsSafe (.float value)
  | string {text : String} (short : text.length ≤ 256) : IsSafe (.string text)

namespace Telemetry

/-- The fields that may be known: no personal keys, scalars only, and strings cut. -/
def disclosed (fields : Fields Json) : Fields Json :=
  (fields.filter fun field => ¬IsPersonal field.1 ∧ field.2.isScalar = true).map fun field =>
    (field.1, field.2.cut)

theorem sanitizeValue?_eq (document : Json) : sanitizeValue? document =
    if document.isScalar then some (Value.ofJson document.cut) else none := by
  cases document <;> rfl

theorem filterMap_sanitizeField? (fields : Fields Json) :
    fields.filterMap sanitizeField? =
      (disclosed fields).map fun field => (field.1, Value.ofJson field.2) := by
  induction fields with
  | nil => rfl
  | cons field rest ih =>
      rw [List.filterMap_cons, sanitizeField?, sanitizeValue?_eq, disclosed, List.filter_cons]
      by_cases personal : IsPersonal field.1
      · simp [isSensitive_iff.mpr personal, personal, ih, disclosed]
      · cases field.2.isScalar <;>
          simp [mt isSensitive_iff.mp personal, personal, ih, disclosed]

theorem sanitize_object (fields : Fields Json) : sanitize (some (.object fields)) =
    Fields.collect ((disclosed fields).map fun field => (field.1, Value.ofJson field.2)) := by
  rw [sanitize, filterMap_sanitizeField?]

theorem sanitize_distinct {fields : Fields Json} (distinct : (Fields.keys fields).Nodup) :
    sanitize (some (.object fields)) =
      (disclosed fields).map fun field => (field.1, Value.ofJson field.2) := by
  rw [sanitize_object, Fields.collect_eq]
  refine distinct.sublist ?_
  rw [Fields.keys, Fields.keys, disclosed, List.map_map, List.map_map]
  exact List.filter_sublist.map _

theorem mem_disclosed {field : String × Json} {fields : Fields Json}
    (member : field ∈ disclosed fields) :
    ¬IsPersonal field.1 ∧ ∃ document : Json, document.isScalar = true ∧ field.2 = document.cut := by
  obtain ⟨other, listed, rfl⟩ := List.mem_map.mp member
  obtain ⟨known, scalar⟩ := of_decide_eq_true (List.mem_filter.mp listed).2
  exact ⟨known, other.2, scalar, rfl⟩

theorem means_cut {document : Json} (scalar : document.isScalar = true) :
    document.cut.Means (Value.ofJson document.cut) := by
  cases document with
  | bool value => exact .bool value
  | number number => exact Value.means_ofNumber number
  | string text => exact .string _
  | null | array | object => cases scalar

theorem isSafe_cut {document : Json} (scalar : document.isScalar = true) :
    (Value.ofJson document.cut).IsSafe := by
  cases document with
  | bool value => exact .bool value
  | number number =>
      change (Value.ofNumber number).IsSafe
      unfold Value.ofNumber
      split
      · split
        · exact .int _
        · exact .float _
      · exact .float _
  | string text =>
      refine .string ?_
      rw [String.length_ofList]
      exact List.length_take_le 256 text.toList
  | null | array | object => cases scalar

theorem ofJson_equalScalars {one other : Json} (equal : one.EqualScalars other) :
    (Value.ofJson one).EqualScalars (Value.ofJson other) := by
  rcases equal with rfl | ⟨left, right, rfl, rfl, same⟩
  · exact .inl rfl
  · exact .inr ⟨left.value, right.value, rfl, rfl, same⟩

/-- What is kept of two objects is the same, order included, once what may be known of them is the
same; and that is all that is kept, each field as the value it stands for. Whatever the properties,
no key that is kept is personal, and no value is anything but a short scalar. -/
theorem sanitize_discloses :
    (∀ one other : Fields Json, disclosed one = disclosed other →
      sanitize (some (.object one)) = sanitize (some (.object other))) ∧
    (∀ one other : Fields Json, (Fields.keys one).Nodup → (Fields.keys other).Nodup →
      Fields.Match Json.EqualScalars (disclosed one) (disclosed other) →
      Fields.Match Value.EqualScalars (sanitize (some (.object one)))
        (sanitize (some (.object other)))) ∧
    (∀ fields : Fields Json, (Fields.keys fields).Nodup →
      Fields.Match Json.Means (disclosed fields) (sanitize (some (.object fields)))) ∧
    ∀ props, ∀ property ∈ sanitize props, ¬IsPersonal property.1 ∧ property.2.IsSafe := by
  refine ⟨fun one other same => ?_, fun one other oneDistinct otherDistinct alike => ?_,
    fun fields distinct => ?_, fun props property member => ?_⟩
  · rw [sanitize_object, sanitize_object, same]
  · rw [sanitize_distinct oneDistinct, sanitize_distinct otherDistinct]
    refine List.rel_map (fun left right => ?_) alike
    exact And.imp_right ofJson_equalScalars
  · rw [sanitize_distinct distinct, Fields.Match, List.forall₂_map_right_iff, List.forall₂_same]
    intro field member
    obtain ⟨-, document, scalar, same⟩ := mem_disclosed member
    exact ⟨rfl, same ▸ means_cut scalar⟩
  · cases props with
    | none => cases member
    | some document =>
        cases document with
        | object fields =>
            rw [sanitize_object] at member
            obtain ⟨field, listed, rfl⟩ := List.mem_map.mp (Fields.mem_of_mem_collect member)
            obtain ⟨known, document, scalar, same⟩ := mem_disclosed listed
            exact ⟨known, same ▸ isSafe_cut scalar⟩
        | null | bool | number | string | array => cases member

def longest : List Char :=
  List.replicate 256 'é'

def sampleProps (secret : Char) : Fields Json :=
  [("E-Mail", .string (String.ofList [secret])), ("list", .array [.string (String.ofList [secret])]),
    ("note", .string (String.ofList (longest ++ [secret]))), ("ok", .bool true)]

theorem disclosed_sampleProps (secret : Char) : disclosed (sampleProps secret) =
    [("note", .string (String.ofList longest)), ("ok", .bool true)] := by
  have email : IsPersonal "E-Mail" := isSensitive_iff.mp (by decide)
  have note : ¬IsPersonal "note" := mt isSensitive_iff.mpr (by decide)
  have ok : ¬IsPersonal "ok" := mt isSensitive_iff.mpr (by decide)
  have cut : (longest ++ [secret]).take 256 = longest := List.take_left' List.length_replicate
  simp [disclosed, sampleProps, email, note, ok, cut, Json.isScalar, Json.cut]

def sampleRatio (ratio : FiniteFloat) : Fields Json :=
  [("ratio", .number (.float ratio))]

theorem disclosed_sampleRatio (ratio : FiniteFloat) :
    disclosed (sampleRatio ratio) = sampleRatio ratio := by
  have known : ¬IsPersonal "ratio" := mt isSensitive_iff.mpr (by decide)
  simp [disclosed, sampleRatio, known, Json.isScalar, Json.cut]

theorem sanitize_discloses_of_samples :
    let zero : FiniteFloat := ⟨0, by decide +kernel⟩
    let negative : FiniteFloat := ⟨-0, by decide +kernel⟩
    let kept := sanitize (some (.object (sampleProps '1')))
    disclosed (sampleProps '1') = disclosed (sampleProps '2') ∧
      kept = sanitize (some (.object (sampleProps '2'))) ∧
      Fields.Match Json.EqualScalars (sampleRatio zero) (sampleRatio negative) ∧
      Fields.Match Value.EqualScalars (sanitize (some (.object (sampleRatio zero))))
        (sanitize (some (.object (sampleRatio negative)))) ∧
      Fields.Match Json.Means (disclosed (sampleProps '1')) kept ∧
      ("ok", .bool true) ∈ kept ∧ ¬IsPersonal "ok" ∧ (Value.bool true).IsSafe := by
  intro zero negative kept
  obtain ⟨alike, matching, exactly, safe⟩ := sanitize_discloses
  have same : disclosed (sampleProps '1') = disclosed (sampleProps '2') := by
    rw [disclosed_sampleProps, disclosed_sampleProps]
  have distinct : (Fields.keys (sampleProps '1')).Nodup :=
    (by decide : ["E-Mail", "list", "note", "ok"].Nodup)
  have zeros : Fields.Match Json.EqualScalars (sampleRatio zero) (sampleRatio negative) :=
    .cons ⟨rfl, .inr ⟨zero, negative, rfl, rfl, by decide +kernel⟩⟩ .nil
  have ok : ("ok", .bool true) ∈ kept := by
    simp [kept, sanitize_distinct distinct, disclosed_sampleProps, Value.ofJson]
  refine ⟨same, alike _ _ same, zeros, ?_, exactly _ distinct, ok, safe _ _ ok⟩
  refine matching _ _ (List.nodup_singleton _) (List.nodup_singleton _) ?_
  rwa [disclosed_sampleRatio, disclosed_sampleRatio]

end Telemetry

end Authoring
