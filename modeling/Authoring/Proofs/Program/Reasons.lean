import Mathlib
import Authoring.Proofs.Program.Nodes
import Authoring.Proofs.Program.Objects

/-! Why lines are refused as nodes. Every reason says something about the line, and what it says is
true, except for lines with an empty label in quotes. -/

namespace Authoring

open Text (AllBlank)

namespace Literal

variable {source body part : List Char} {fault : Fault}

/-- The part is not blank, and it has no colon or nothing but blanks before the first one. -/
inductive IsMalformed : List Char → Prop
  | uncoloned {part : List Char} (visible : ¬AllBlank part) (none : ':' ∉ part) : IsMalformed part
  | unnamed {front : List Char} (blank : AllBlank front) (back : List Char) :
      IsMalformed (front ++ ':' :: back)

def FirstMalformed (body part : List Char) : Prop :=
  ∃ before behind, IsCut body (before ++ part :: behind) ∧
    (∀ earlier ∈ before, ¬IsMalformed earlier) ∧ IsMalformed part

theorem FirstMalformed.malformed (first : FirstMalformed body part) : IsMalformed part := by
  obtain ⟨_, _, _, _, malformed⟩ := first
  exact malformed

theorem uncoloned_of_allBlank (blank : AllBlank part) : ':' ∉ part := by
  intro colon
  cases blank ':' colon

theorem IsMalformed.visible (malformed : IsMalformed part) : ¬AllBlank part := by
  cases malformed with
  | uncoloned visible => exact visible
  | unnamed => exact fun blank => uncoloned_of_allBlank blank (by simp)

theorem property_of_isMalformed (malformed : IsMalformed part) :
    property (Text.trim part) = .error (.malformedProperty (Text.trim part)) := by
  cases malformed with
  | uncoloned _ none =>
      exact property_uncoloned fun colon => none ((Text.trim_within part).subset colon)
  | unnamed blank back =>
      rw [property_coloned (uncoloned_of_allBlank blank), Text.trim_eq_nil_iff.mpr blank]
      rfl

def isRefused (part : List Char) : Bool :=
  !(Text.trim part).isEmpty && !(property (Text.trim part)).isOk

theorem isRefused_iff : isRefused part = true ↔ IsMalformed part := by
  rw [isRefused, Bool.and_eq_true, Bool.not_eq_true', Bool.not_eq_true', List.isEmpty_eq_false_iff,
    ne_eq, Text.trim_eq_nil_iff]
  constructor
  · rintro ⟨visible, failed⟩
    by_cases colon : ':' ∈ part
    · obtain ⟨front, back, rfl, first⟩ := List.eq_append_cons_of_mem colon
      by_cases blank : AllBlank front
      · exact .unnamed blank back
      · rw [property_eq_ok_iff.mpr ⟨_, .mk first blank, rfl⟩] at failed
        cases failed
    · exact .uncoloned visible colon
  · intro malformed
    rw [property_of_isMalformed malformed]
    exact ⟨malformed.visible, rfl⟩

theorem find?_isRefused_iff :
    (cutFrom .start body).find? isRefused = some part ↔ FirstMalformed body part := by
  simp only [List.find?_eq_some_iff_append, FirstMalformed, isCut_iff, Bool.not_eq_true',
    ← Bool.not_eq_true, isRefused_iff]
  constructor
  · rintro ⟨malformed, before, behind, parts, earlier⟩
    exact ⟨before, behind, parts.symm, earlier, malformed⟩
  · rintro ⟨before, behind, parts, earlier, malformed⟩
    exact ⟨malformed, before, behind, parts.symm, earlier⟩

theorem object_eq_error_iff (braced : IsBraced source body) : object source = .error fault ↔
    ∃ part, FirstMalformed body part ∧ fault = .malformedProperty (Text.trim part) := by
  have first : (entries body).find? (fun entry => !(property entry).isOk) =
      ((cutFrom .start body).find? isRefused).map Text.trim := by
    rw [entries_eq, List.find?_filter, List.find?_map]
    simp only [Function.comp_def, Bool.decide_and, Bool.decide_eq_true]
    rfl
  rw [object_of_isBraced braced, bind_ok_eq_error_iff, mapM_eq_error_iff, first]
  simp only [Option.map_eq_some_iff, find?_isRefused_iff]
  constructor
  · rintro ⟨_, ⟨part, malformed, rfl⟩, refused⟩
    rw [property_of_isMalformed malformed.malformed] at refused
    cases refused
    exact ⟨part, malformed, rfl⟩
  · rintro ⟨part, malformed, rfl⟩
    exact ⟨_, ⟨part, malformed, rfl⟩, property_of_isMalformed malformed.malformed⟩

end Literal

/-- What makes the text behind a label wrong, blanks around it left out, and the reason that is
given. -/
inductive TailExplains (tail : List Char) : Reason → Prop where
  | trailing (nonempty : tail ≠ []) (noObject : ¬['\x7b'] <+: tail)
      (noExpression : ¬[':', '='] <+: tail) : TailExplains tail (.trailingTokens tail)
  | unclosed (opens : ['\x7b'] <+: tail) (ends : ¬['\x7d'] <:+ tail) :
      TailExplains tail (.invalidProperties (.notAnObject tail))
  | malformed {body part : List Char} (braces : tail = '\x7b' :: (body ++ ['\x7d']))
      (first : Literal.FirstMalformed body part) :
      TailExplains tail (.invalidProperties (.malformedProperty (Text.trim part)))

/-- A keyword, blanks and an identifier start the line, which ends there or goes on with a blank.
The text is what stands behind the identifier, without the blanks around it. -/
inductive Headed : List Char → List Char → Prop where
  | mk (type : NodeType) {opening id behind : List Char} (nonempty : opening ≠ [])
      (blank : AllBlank opening) (identifier : IsIdentifier (String.ofList id))
      (separated : ∀ c ∈ behind.head?, Text.isBlank c = true) :
      Headed (type.keyword.toList ++ (opening ++ (id ++ behind))) (Text.trim behind)

inductive Labelled : List Char → List Char → Prop where
  | mk {label : String} {front rest : List Char} (written : LabelWritten label front rest) :
      Labelled (front ++ rest) (Text.trim rest)

inductive Explains (line : List Char) : Reason → Prop where
  | statement (unheaded : ¬∃ text, Headed line text) : Explains line (.invalidStatement line)
  | unclosed {quoted : List Char} (headed : Headed line ('"' :: quoted)) (unclosed : '"' ∉ quoted) :
      Explains line (.unclosedLabel line)
  | missing {text : List Char} (headed : Headed line text)
      (none : ∀ c ∈ text.head?, c ≠ '"' ∧ Statement.isIdStart c = false) :
      Explains line (.missingLabel line)
  | tail {text tail : List Char} {reason : Reason} (headed : Headed line text)
      (labelled : Labelled text tail) (explained : TailExplains tail reason) : Explains line reason

def StartsAsEdge (line : List Char) : Prop :=
  ∃ c rest, line = ['e', 'd', 'g', 'e'] ++ c :: rest ∧ Text.isBlank c = true

def HasEmptyLabel (line : List Char) : Prop :=
  ∃ rest, Headed line ('"' :: '"' :: rest)

namespace Statement

variable {line text tail : List Char} {reason : Reason}

theorem tailExplains_object {later : List Char}
    (trimmed : Text.trim ('\x7b' :: later) = '\x7b' :: later) :
    TailExplains ('\x7b' :: later) reason ↔ ∃ fault,
      Literal.object ('\x7b' :: later) = .error fault ∧ reason = .invalidProperties fault := by
  have braced_iff (body : List Char) :
      Literal.IsBraced ('\x7b' :: later) body ↔ later = body ++ ['\x7d'] := by
    rw [Literal.IsBraced, trimmed, List.cons.injEq, eq_self, true_and]
  have unbraced (ends : ¬['\x7d'] <:+ '\x7b' :: later) :
      ¬∃ body, Literal.IsBraced ('\x7b' :: later) body := by
    rintro ⟨body, braced⟩
    exact ends ⟨'\x7b' :: body, by rw [(braced_iff body).mp braced]; rfl⟩
  constructor
  · intro explains
    cases explains with
    | trailing _ noObject => exact absurd ⟨later, rfl⟩ noObject
    | unclosed _ ends => exact ⟨_, Literal.object_of_unbraced (unbraced ends), rfl⟩
    | malformed braces first =>
        have braced := (braced_iff _).mpr (List.cons.inj braces).2
        exact ⟨_, (Literal.object_eq_error_iff braced).mpr ⟨_, first, rfl⟩, rfl⟩
  · rintro ⟨fault, refused, rfl⟩
    by_cases ends : ['\x7d'] <:+ '\x7b' :: later
    · obtain ⟨body, same⟩ : ∃ body, later = body ++ ['\x7d'] := by
        obtain ⟨front, whole⟩ := ends
        cases front with
        | nil => cases whole
        | cons c body => exact ⟨body, (List.cons.inj whole).2.symm⟩
      have braced := (braced_iff body).mpr same
      obtain ⟨part, first, rfl⟩ := (Literal.object_eq_error_iff braced).mp refused
      exact .malformed (by rw [same]) first
    · rw [Literal.object_of_unbraced (unbraced ends)] at refused
      cases refused
      exact .unclosed ⟨later, rfl⟩ ends

theorem propertiesOf_eq_error_iff (trimmed : Text.trim tail = tail) :
    propertiesOf tail = .error reason ↔ TailExplains tail reason := by
  rw [propertiesOf.eq_def]
  split
  · constructor
    · nofun
    · rintro (⟨nonempty, -, -⟩ | ⟨opens, -⟩ | ⟨braces, -⟩)
      · exact absurd rfl nonempty
      · simp at opens
      · cases braces
  · rw [tailExplains_object trimmed]
    split
    · rename_i accepted
      simp [accepted]
    · rename_i refused
      simp [refused, eq_comm]
  · rename_i expression
    constructor
    · intro read
      dsimp only at read
      split at read <;> cases read
    · rintro (⟨-, -, noExpression⟩ | ⟨opens, -⟩ | ⟨braces, -⟩)
      · exact absurd ⟨expression, rfl⟩ noExpression
      · simp at opens
      · cases braces
  · rename_i nonempty noObject noExpression
    constructor
    · rintro ⟨⟩
      refine .trailing nonempty ?_ ?_
      · rintro ⟨later, same⟩
        exact noObject later same.symm
      · rintro ⟨expression, same⟩
        exact noExpression expression same.symm
    · rintro (_ | ⟨⟨later, same⟩, -⟩ | ⟨braces, -⟩)
      · rfl
      · exact absurd same.symm (noObject later)
      · exact absurd braces (noObject _)

/-! Heads and labels -/

theorem headed_iff : Headed line text ↔ ∃ type id, head? line = some (type, id, text) := by
  constructor
  · rintro ⟨type, nonempty, blank, identifier, separated⟩
    exact ⟨type, _, head?_line type nonempty blank identifier separated⟩
  · rintro ⟨type, id, read⟩
    obtain ⟨opening, behind, nonempty, blank, identifier, separated, rfl, rfl⟩ := head?_written read
    exact .mk type nonempty blank identifier separated

theorem headed_oneLine (oneLine : '\n' ∉ line) (headed : Headed line text) : '\n' ∉ text := by
  cases headed with
  | @mk type opening id behind nonempty blank identifier separated =>
      intro member
      have inside := (Text.trim_within behind).subset member
      exact oneLine (by simp [inside])

theorem headed_unique {other : List Char} (headed : Headed line text) (again : Headed line other) :
    text = other := by
  obtain ⟨type, id, read⟩ := headed_iff.mp headed
  obtain ⟨otherType, otherId, readAgain⟩ := headed_iff.mp again
  cases read.symm.trans readAgain
  rfl

theorem labelled_iff (oneLine : '\n' ∉ text) :
    Labelled text tail ↔ ∃ label behind, label? text = some (label, behind) ∧
      Text.trim behind = tail := by
  constructor
  · rintro ⟨written⟩
    refine ⟨_, _, label?_append written fun member => oneLine (List.mem_append_right _ member), ?_⟩
    exact Text.trim_trimStart _
  · rintro ⟨label, behind, read, rfl⟩
    obtain ⟨front, rest, written, rfl, rfl⟩ := label?_written read
    rw [Text.trim_trimStart]
    exact .mk written

theorem label?_eq_none_iff (oneLine : '\n' ∉ text) :
    label? text = none ↔ ¬∃ tail, Labelled text tail := by
  constructor
  · rintro missing ⟨tail, labelled⟩
    obtain ⟨label, behind, read, -⟩ := (labelled_iff oneLine).mp labelled
    cases missing.symm.trans read
  · intro unlabelled
    by_contra found
    obtain ⟨⟨label, behind⟩, read⟩ := Option.ne_none_iff_exists'.mp found
    exact unlabelled ⟨_, (labelled_iff oneLine).mpr ⟨label, behind, read, rfl⟩⟩

theorem labelled_quoted {quoted : List Char} :
    (∃ tail, Labelled ('"' :: quoted) tail) ↔ '"' ∈ quoted ∧ quoted.head? ≠ some '"' := by
  constructor
  · rintro ⟨tail, labelled⟩
    generalize whole : '"' :: quoted = text at labelled
    obtain ⟨written⟩ := labelled
    cases written with
    | quoted nonempty unquoted =>
        obtain ⟨first, later, same⟩ := List.exists_cons_of_ne_nil
          (mt String.toList_eq_nil_iff.mp nonempty)
        rw [same] at whole unquoted
        obtain ⟨-, rfl⟩ := List.cons.inj whole
        refine ⟨by simp, ?_⟩
        rintro ⟨⟩
        exact unquoted List.mem_cons_self
    | bare identifier =>
        obtain ⟨first, later, same, start, -⟩ := identifier
        rw [same] at whole
        obtain ⟨rfl, -⟩ := List.cons.inj whole
        cases start
  · rintro ⟨closed, nonempty⟩
    obtain ⟨front, rest, rfl, unquoted⟩ := List.eq_append_cons_of_mem closed
    have written : LabelWritten (String.ofList front) ('"' :: (front ++ ['"'])) rest := by
      have said : LabelWritten (String.ofList front)
          ('"' :: ((String.ofList front).toList ++ ['"'])) rest := by
        refine .quoted ?_ (by rwa [String.toList_ofList])
        rintro empty
        rw [String.ofList_eq_empty_iff.mp empty] at nonempty
        exact nonempty rfl
      rwa [String.toList_ofList] at said
    have labelled := Labelled.mk written
    rw [List.cons_append, List.append_assoc] at labelled
    exact ⟨_, labelled⟩

theorem labelled_bare (bare : text.head? ≠ some '"') :
    (∃ tail, Labelled text tail) ↔ ∃ c ∈ text.head?, isIdStart c = true := by
  constructor
  · rintro ⟨_, ⟨written⟩⟩
    cases written with
    | quoted => exact absurd rfl bare
    | bare identifier =>
        obtain ⟨first, later, same, start, -⟩ := identifier
        exact ⟨first, by rw [same]; rfl, start⟩
  · rintro ⟨c, first, start⟩
    obtain ⟨later, rfl⟩ := List.head?_eq_some_iff.mp first
    have named : identifier? (c :: later) = some (_, _) := if_pos start
    obtain ⟨identifier, run⟩ := identifier?_eq_some_iff.mp named
    have written := Labelled.mk (.bare identifier run.stops)
    rw [String.toList_ofList, ← run.whole] at written
    exact ⟨_, written⟩

/-! Lines -/

theorem explains_of_nodeOf (oneLine : '\n' ∉ line) (refused : nodeOf line = .error reason) :
    Explains line reason ∨ HasEmptyLabel line ∧ reason = .unclosedLabel line := by
  unfold nodeOf at refused
  split at refused
  · rename_i missing
    cases refused
    refine .inl (.statement ?_)
    rintro ⟨text, headed⟩
    obtain ⟨type, id, read⟩ := headed_iff.mp headed
    cases missing.symm.trans read
  · rename_i type id text head
    have headed := headed_iff.mpr ⟨type, id, head⟩
    have single := headed_oneLine oneLine headed
    split at refused
    · rename_i missing
      have unlabelled := (label?_eq_none_iff single).mp missing
      split at refused
      · rename_i quote
        cases refused
        obtain ⟨quoted, rfl⟩ := List.head?_eq_some_iff.mp quote
        rw [labelled_quoted, not_and, not_not] at unlabelled
        by_cases closed : '"' ∈ quoted
        · obtain ⟨rest, rfl⟩ := List.head?_eq_some_iff.mp (unlabelled closed)
          exact .inr ⟨⟨rest, headed⟩, rfl⟩
        · exact .inl (.unclosed headed closed)
      · rename_i bare
        cases refused
        rw [labelled_bare bare] at unlabelled
        refine .inl (.missing headed fun c first => ⟨?_, ?_⟩)
        · rintro rfl
          exact bare first
        · rw [← Bool.not_eq_true]
          exact fun start => unlabelled ⟨c, first, start⟩
    · rename_i label behind read
      have labelled := (labelled_iff single).mpr ⟨label, behind, read, rfl⟩
      have failed := bind_ok_eq_error_iff.mp refused
      exact .inl (.tail headed labelled ((propertiesOf_eq_error_iff (Text.trim_trim _)).mp failed))

theorem nodeOf_unlabelled (oneLine : '\n' ∉ line) (headed : Headed line text)
    (unlabelled : ¬∃ tail, Labelled text tail) : nodeOf line =
      .error (if text.head? = some '"' then .unclosedLabel line else .missingLabel line) := by
  obtain ⟨type, id, head⟩ := headed_iff.mp headed
  have missing := (label?_eq_none_iff (headed_oneLine oneLine headed)).mpr unlabelled
  simp only [nodeOf, head, missing]
  split <;> rfl

theorem nodeOf_of_explains (oneLine : '\n' ∉ line) (explains : Explains line reason) :
    nodeOf line = .error reason := by
  cases explains with
  | statement unheaded =>
      have missing : head? line = none := by
        by_contra found
        obtain ⟨⟨type, id, text⟩, read⟩ := Option.ne_none_iff_exists'.mp found
        exact unheaded ⟨text, headed_iff.mpr ⟨type, id, read⟩⟩
      simp only [nodeOf, missing]
  | unclosed headed unclosed =>
      refine nodeOf_unlabelled oneLine headed ?_
      rw [labelled_quoted]
      exact fun closed => unclosed closed.1
  | @missing text headed none =>
      have bare : text.head? ≠ some '"' := fun first => (none '"' first).1 rfl
      rw [nodeOf_unlabelled oneLine headed, if_neg bare]
      rw [labelled_bare bare]
      rintro ⟨c, first, start⟩
      rw [(none c first).2] at start
      cases start
  | tail headed labelled explained =>
      obtain ⟨type, id, head⟩ := headed_iff.mp headed
      obtain ⟨label, behind, read, rfl⟩ :=
        (labelled_iff (headed_oneLine oneLine headed)).mp labelled
      have failed := (propertiesOf_eq_error_iff (Text.trim_trim _)).mpr explained
      simp only [nodeOf, head, read, failed]
      rfl

theorem nodeOf_of_hasEmptyLabel (oneLine : '\n' ∉ line) (empty : HasEmptyLabel line) :
    nodeOf line = .error (.unclosedLabel line) := by
  obtain ⟨rest, headed⟩ := empty
  refine nodeOf_unlabelled oneLine headed ?_
  rw [labelled_quoted]
  exact fun labelled => labelled.2 rfl

theorem not_explains_of_hasEmptyLabel (oneLine : '\n' ∉ line) (empty : HasEmptyLabel line) :
    ¬Explains line reason := by
  intro explains
  have given := nodeOf_of_explains oneLine explains
  rw [nodeOf_of_hasEmptyLabel oneLine empty] at given
  cases given
  obtain ⟨rest, headed⟩ := empty
  cases explains with
  | unclosed again unclosed =>
      obtain ⟨-, rfl⟩ := List.cons.inj (headed_unique headed again)
      exact unclosed List.mem_cons_self
  | tail _ _ explained => cases explained

theorem parse_of_not_startsAsEdge (other : ¬StartsAsEdge line) :
    parse line = (nodeOf line).map .node := by
  rw [parse]
  split
  · rename_i rest found
    obtain ⟨behind, keyword, blanks⟩ := Option.bind_eq_some_iff.mp found
    obtain ⟨gap, nonempty, run⟩ := blanks?_eq_some_iff.mp blanks
    obtain ⟨c, later, rfl⟩ := List.exists_cons_of_ne_nil nonempty
    have edge : StartsAsEdge line := by
      rw [after?_eq_some_iff.mp keyword, run.whole]
      exact ⟨c, later ++ rest, rfl, run.inside c List.mem_cons_self⟩
    exact absurd edge other
  · rfl

/-- A line is refused for a reason just if the reason explains it, except that a label of two quotes
and nothing between them is said to be unclosed, and no reason explains that. -/
theorem parse_error_iff_explains (oneLine : '\n' ∉ line)
    (other : ¬StartsAsEdge line) (reason : Reason) :
    (parse line = .error reason ↔
      Explains line reason ∨ HasEmptyLabel line ∧ reason = .unclosedLabel line) ∧
    (HasEmptyLabel line → ¬Explains line reason) := by
  refine ⟨?_, not_explains_of_hasEmptyLabel oneLine⟩
  rw [parse_of_not_startsAsEdge other, map_eq_error_iff]
  constructor
  · exact explains_of_nodeOf oneLine
  · rintro (explains | ⟨empty, rfl⟩)
    · exact nodeOf_of_explains oneLine explains
    · exact nodeOf_of_hasEmptyLabel oneLine empty

def sampleMalformed : List Char :=
  "task t1 \"A\" \x7ba: 1, b\x7d".toList

theorem parse_error_iff_explains_of_sampleMalformed :
    '\n' ∉ sampleMalformed ∧ ¬StartsAsEdge sampleMalformed ∧
      Explains sampleMalformed (.invalidProperties (.malformedProperty ['b'])) := by
  have oneLine : '\n' ∉ sampleMalformed := by decide
  have other : ¬StartsAsEdge sampleMalformed := by
    rintro ⟨c, rest, same, -⟩
    cases same
  have refused : parse sampleMalformed =
      .error (.invalidProperties (.malformedProperty ['b'])) := rfl
  refine ⟨oneLine, other, ?_⟩
  rcases (parse_error_iff_explains oneLine other _).1.mp refused with explains | ⟨-, unclosed⟩
  · exact explains
  · cases unclosed

def sampleEmptyLabel : List Char :=
  "task t1 \"\"".toList

theorem parse_blames_sampleEmptyLabel :
    '\n' ∉ sampleEmptyLabel ∧ ¬StartsAsEdge sampleEmptyLabel ∧ Headed sampleEmptyLabel ['"', '"'] ∧
      parse sampleEmptyLabel = .error (.unclosedLabel sampleEmptyLabel) ∧
      ¬Explains sampleEmptyLabel (.unclosedLabel sampleEmptyLabel) := by
  have oneLine : '\n' ∉ sampleEmptyLabel := by decide
  have headed : Headed sampleEmptyLabel ['"', '"'] := headed_iff.mpr ⟨.task, ['t', '1'], rfl⟩
  refine ⟨oneLine, ?_, headed, rfl, not_explains_of_hasEmptyLabel oneLine ⟨[], headed⟩⟩
  rintro ⟨c, rest, same, -⟩
  cases same

end Statement

end Authoring
