import Mathlib
import Authoring.Program.Statement
import Authoring.Proofs.Outcomes
import Authoring.Proofs.Text.Runs

/-! The words that statements are made of: what each scanner takes, and where it stops. -/

namespace Authoring

open Statement (isIdStart isIdCharacter)

def IsIdentifier (id : String) : Prop :=
  ∃ first rest, id.toList = first :: rest ∧ isIdStart first = true ∧
    ∀ c ∈ rest, isIdCharacter c = true

namespace Statement

open Text (IsRun)

variable {text rest letters id : List Char} {c : Char}

theorem isIdStart_cases {c : Char} (start : isIdStart c = true) :
    (48 ≤ c.toNat ∧ c.toNat ≤ 57) ∨ (65 ≤ c.toNat ∧ c.toNat ≤ 90) ∨
      (95 ≤ c.toNat ∧ c.toNat ≤ 95) ∨ (97 ≤ c.toNat ∧ c.toNat ≤ 122) := by
  simp only [isIdStart, Bool.or_eq_true, Bool.and_eq_true, decide_eq_true_eq, beq_iff_eq] at start
  rcases start with ((upper | lower) | digit) | rfl
  · exact .inr (.inl upper)
  · exact .inr (.inr (.inr lower))
  · exact .inl digit
  · exact .inr (.inr (.inl (by decide)))

theorem isBlank_of_isIdStart {c : Char} (start : isIdStart c = true) : Text.isBlank c = false := by
  have range := isIdStart_cases start
  simp only [Text.isBlank, Bool.or_eq_false_iff, Bool.and_eq_false_iff, decide_eq_false_iff_not,
    beq_eq_false_iff_ne]
  omega

theorem isWordCharacter_of_isIdStart {c : Char} (start : isIdStart c = true) :
    Text.isWordCharacter c = true := by
  have within : ∀ range ∈ Text.wordCharacters, range.1 ≤ c.toNat ∧ c.toNat ≤ range.2 →
      Text.isWordCharacter c = true := by
    rintro range member ⟨low, high⟩
    rw [Text.isWordCharacter, Text.Ranges.contains, List.any_eq_true]
    exact ⟨range, member, by simp [low, high]⟩
  unfold Text.wordCharacters at within
  rcases isIdStart_cases start with digit | upper | underscore | lower
  · exact within (48, 57) (.head _) digit
  · exact within (65, 90) (.tail _ (.head _)) upper
  · exact within (95, 95) (.tail _ (.tail _ (.head _))) underscore
  · exact within (97, 122) (.tail _ (.tail _ (.tail _ (.head _)))) lower

theorem solid_of_isIdStart {text : List Char} (nonempty : text ≠ [])
    (starts : ∀ c ∈ text, isIdStart c = true) : Text.Solid text :=
  Text.solid_of_visible nonempty fun c member => isBlank_of_isIdStart (starts c member)

theorem oneLine_identifier {id : String} (identifier : IsIdentifier id) : '\n' ∉ id.toList := by
  obtain ⟨first, rest, same, start, characters⟩ := identifier
  rw [same, List.mem_cons, not_or]
  constructor
  · rintro rfl
    cases start
  · intro member
    cases characters '\n' member

/-! Scanners -/

theorem after?_eq_some_iff : after? letters text = some rest ↔ text = letters ++ rest := by
  induction letters generalizing text with
  | nil => simp [after?]
  | cons letter others ih =>
      cases text with
      | nil => simp [after?]
      | cons c later =>
          by_cases same : c = letter
          · simp [after?, same, ih]
          · simp [after?, same]

theorem after?_append (letters rest : List Char) : after? letters (letters ++ rest) = some rest :=
  after?_eq_some_iff.mpr rfl

theorem blanks?_eq_some_iff :
    blanks? text = some rest ↔ ∃ gap, gap ≠ [] ∧ IsRun Text.isBlank text gap rest := by
  cases text with
  | nil =>
      constructor
      · nofun
      · rintro ⟨gap, nonempty, found⟩
        exact absurd (List.append_eq_nil_iff.mp found.whole.symm).1 nonempty
  | cons c later =>
      rw [blanks?.eq_def]
      constructor
      · intro read
        dsimp only at read
        split at read
        · rename_i blank
          cases read
          refine ⟨(c :: later).takeWhile Text.isBlank, ?_, Text.isRun_takeWhile _ _⟩
          rw [List.takeWhile_cons_of_pos blank]
          exact List.cons_ne_nil _ _
        · cases read
      · rintro ⟨gap, nonempty, found⟩
        obtain ⟨first, others, rfl⟩ := List.exists_cons_of_ne_nil nonempty
        have same : c = first := (List.cons.inj found.whole).1
        have blank := found.inside first List.mem_cons_self
        rw [← same] at blank
        simp only [blank, if_true, Text.trimStart, found.splits.2]

theorem blanks?_append {gap : List Char} (nonempty : gap ≠ []) (blank : Text.AllBlank gap)
    (visible : Text.StartsVisibly rest) : blanks? (gap ++ rest) = some rest :=
  blanks?_eq_some_iff.mpr ⟨gap, nonempty, rfl, blank, visible⟩

theorem identifier_parts (identifier : IsIdentifier (String.ofList id)) :
    (∃ first later, id = first :: later ∧ isIdStart first = true) ∧
      ∀ c ∈ id, isIdCharacter c = true := by
  obtain ⟨first, later, same, start, characters⟩ := identifier
  rw [String.toList_ofList] at same
  subst same
  refine ⟨⟨first, later, rfl, start⟩, List.forall_mem_cons.mpr ⟨?_, characters⟩⟩
  simp [isIdCharacter, start]

theorem identifier?_eq_some_iff : identifier? text = some (id, rest) ↔
    IsIdentifier (String.ofList id) ∧ IsRun isIdCharacter text id rest := by
  constructor
  · intro read
    rw [identifier?.eq_def] at read
    split at read
    · cases read
    · rename_i first later
      split at read
      · rename_i start
        cases read
        have leads : isIdCharacter first = true := by simp [isIdCharacter, start]
        refine ⟨⟨first, later.takeWhile isIdCharacter, ?_, start, fun c member => ?_⟩,
          Text.isRun_takeWhile _ _⟩
        · rw [String.toList_ofList, List.takeWhile_cons_of_pos leads]
        · exact List.mem_takeWhile_imp member
      · cases read
  · rintro ⟨identifier, found⟩
    obtain ⟨⟨first, later, rfl, start⟩, -⟩ := identifier_parts identifier
    have splits := found.splits
    rw [found.whole, List.cons_append] at splits ⊢
    rw [identifier?.eq_def]
    simp only [start, if_true, splits]

theorem identifier?_stops (identifier : IsIdentifier (String.ofList id))
    (stops : ∀ c ∈ rest.head?, isIdCharacter c = false) :
    identifier? (id ++ rest) = some (id, rest) :=
  identifier?_eq_some_iff.mpr ⟨identifier, rfl, (identifier_parts identifier).2, stops⟩

theorem startsVisibly_identifier (identifier : IsIdentifier (String.ofList id))
    (rest : List Char) : Text.StartsVisibly (id ++ rest) := by
  obtain ⟨⟨first, later, rfl, start⟩, -⟩ := identifier_parts identifier
  exact Text.startsVisibly_cons.mpr (isBlank_of_isIdStart start)

theorem isIdCharacter_of_isBlank (blank : Text.isBlank c = true) : isIdCharacter c = false := by
  rw [isIdCharacter, Bool.or_eq_false_iff, beq_eq_false_iff_ne]
  constructor
  · rw [← Bool.not_eq_true]
    intro start
    rw [isBlank_of_isIdStart start] at blank
    cases blank
  · rintro rfl
    cases blank

/-! Lines -/

theorem parse_cases {line : List Char} {statement : Statement} (read : parse line = .ok statement) :
    (∃ node, nodeOf line = .ok node ∧ statement = .node node) ∨
      ∃ edge, edgeOf line = .ok edge ∧ statement = .edge edge := by
  unfold parse at read
  split at read
  · obtain ⟨edge, found, rfl⟩ := map_eq_ok_iff.mp read
    exact .inr ⟨edge, found, rfl⟩
  · obtain ⟨node, found, rfl⟩ := map_eq_ok_iff.mp read
    exact .inl ⟨node, found, rfl⟩

end Statement

end Authoring
