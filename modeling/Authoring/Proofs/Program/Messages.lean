import Mathlib
import Authoring.Program.Compiler
import Authoring.Proofs.Json.Pointer
import Authoring.Proofs.Program.Duplicates
import Authoring.Proofs.Text.Runs

/-! What is said about a program that is refused. Each reason has words of its own and goes on with
what it is about, so the message tells the line and the reason. -/

namespace Authoring

namespace Reason

def opening : Reason → String
  | invalidEdge _ => "invalid edge syntax: "
  | unknownEdgeType _ => "unknown edge type: "
  | invalidStatement _ => "invalid statement: "
  | unclosedLabel _ => "unclosed label in: "
  | missingLabel _ => "missing label in: "
  | trailingTokens _ => "unexpected trailing tokens: "
  | invalidProperties (.notAnObject _) => "invalid properties object: "
  | invalidProperties (.malformedProperty _) => "malformed property: "
  | duplicateId _ => "duplicate node id: "

def subject : Reason → List Char
  | unknownEdgeType unknown => unknown.name.toList
  | duplicateId id => id.toList
  | invalidEdge text | invalidStatement text | unclosedLabel text | missingLabel text
  | trailingTokens text | invalidProperties (.notAnObject text)
  | invalidProperties (.malformedProperty text) => text

/-- Among the names that a line may have, only those of edge types can be unknown. -/
def IsGiven : Reason → Prop
  | unknownEdgeType unknown => unknown.sort = "edge type"
  | _ => True

variable {reason other : Reason}

theorem toList_message (given : reason.IsGiven) :
    reason.message.toList = reason.opening.toList ++ reason.subject := by
  have about (words : String) (text : List Char) :
      (words ++ String.ofList text).toList = words.toList ++ text := by
    rw [String.toList_append, String.toList_ofList]
  cases reason with
  | invalidEdge | invalidStatement | unclosedLabel | missingLabel | trailingTokens =>
      exact about _ _
  | invalidProperties fault => cases fault <;> exact about _ _
  | duplicateId => exact String.toList_append
  | unknownEdgeType unknown =>
      obtain ⟨sort, name⟩ := unknown
      cases given
      have words : "unknown " ++ "edge type" ++ ": " = "unknown edge type: " := by decide
      have written : (unknownEdgeType ⟨"edge type", name⟩).message =
          "unknown " ++ "edge type" ++ ": " ++ name := rfl
      rw [written, words, String.toList_append]
      rfl

def openings : List String :=
  ["invalid edge syntax: ", "unknown edge type: ", "invalid statement: ", "unclosed label in: ",
    "missing label in: ", "unexpected trailing tokens: ", "invalid properties object: ",
    "malformed property: ", "duplicate node id: "]

theorem opening_mem (reason : Reason) : reason.opening ∈ openings := by
  cases reason with
  | invalidProperties fault => cases fault <;> simp [opening, openings]
  | _ => simp [opening, openings]

theorem openings_apart :
    ∀ one ∈ openings, ∀ more ∈ openings, one.toList <+: more.toList → one = more := by
  decide

theorem eq_of_parts (given : reason.IsGiven) (otherGiven : other.IsGiven)
    (opened : reason.opening = other.opening) (spoken : reason.subject = other.subject) :
    reason = other := by
  rcases reason with text | ⟨sort, name⟩ | text | text | text | text | (text | text) | id <;>
    rcases other with text | ⟨sort, name⟩ | text | text | text | text | (text | text) | id <;>
      simp_all [opening, subject, IsGiven, String.toList_inj]

theorem message_inj (given : reason.IsGiven) (otherGiven : other.IsGiven)
    (same : reason.message = other.message) : reason = other := by
  have letters := congrArg String.toList same
  rw [toList_message given, toList_message otherGiven] at letters
  have opened : reason.opening = other.opening := by
    rcases List.append_eq_append_iff.mp letters with ⟨more, longer, -⟩ | ⟨more, longer, -⟩
    · exact openings_apart _ reason.opening_mem _ other.opening_mem ⟨more, longer.symm⟩
    · exact (openings_apart _ other.opening_mem _ reason.opening_mem ⟨more, longer.symm⟩).symm
  rw [opened, List.append_cancel_left_eq] at letters
  exact eq_of_parts given otherGiven opened letters

end Reason

/-! The reasons that lines are refused for -/

theorem Statement.edgeOf_isGiven {line : List Char} {reason : Reason}
    (refused : edgeOf line = .error reason) : reason.IsGiven := by
  unfold edgeOf at refused
  split at refused
  · cases refused
    trivial
  · rename_i name read
    split at refused
    · cases refused
    · rename_i unknown missing
      cases refused
      unfold EdgeType.ofName at missing
      split at missing
      · cases missing
      · cases missing
        rfl

theorem Statement.propertiesOf_isGiven {tail : List Char} {reason : Reason}
    (refused : propertiesOf tail = .error reason) : reason.IsGiven := by
  unfold propertiesOf at refused
  dsimp only at refused
  split at refused
  · cases refused
  · split at refused <;> cases refused
    trivial
  · split at refused <;> cases refused
  · cases refused
    trivial

theorem Statement.nodeOf_isGiven {line : List Char} {reason : Reason}
    (refused : nodeOf line = .error reason) : reason.IsGiven := by
  unfold nodeOf at refused
  split at refused
  · cases refused
    trivial
  · split at refused
    · split at refused <;> cases refused <;> trivial
    · exact propertiesOf_isGiven (bind_ok_eq_error_iff.mp refused)

theorem Statement.parse_isGiven {line : List Char} {reason : Reason}
    (refused : parse line = .error reason) : reason.IsGiven := by
  unfold parse at refused
  split at refused
  · exact edgeOf_isGiven (map_eq_error_iff.mp refused)
  · exact nodeOf_isGiven (map_eq_error_iff.mp refused)

theorem Program.statements_isGiven {options : CompileOptions} {declared : List String}
    {number : Nat} {lines : List (List Char)} {error : CompileError}
    (failed : statements options declared number lines = .error error) : error.reason.IsGiven := by
  induction lines generalizing declared number with
  | nil => cases failed
  | cons raw rest ih =>
      rw [statements] at failed
      split at failed
      · exact ih failed
      · split at failed
        · rename_i reason refused
          cases failed
          exact Statement.parse_isGiven refused
        · exact ih (bind_ok_eq_error_iff.mp failed)
        · split at failed
          · cases failed
            trivial
          · exact ih (bind_ok_eq_error_iff.mp failed)

theorem CompileError.toList_message (error : CompileError) : error.message.toList =
    "QGL syntax error on line ".toList ++
      ((toString error.lineNumber).toList ++ ':' :: ' ' :: error.reason.message.toList) := by
  have written : error.message = "QGL syntax error on line " ++ toString error.lineNumber ++ ": " ++
    error.reason.message := rfl
  rw [written]
  simp

/-- The message about a program that is refused tells the number of the line and the reason. -/
theorem compile_message_tells {options more : CompileOptions} {source text : String}
    {error other : CompileError} (failed : compile options source = .error error)
    (again : compile more text = .error other) (same : error.message = other.message) :
    error.lineNumber = other.lineNumber ∧ error.reason = other.reason := by
  have letters := congrArg String.toList same
  rw [CompileError.toList_message, CompileError.toList_message, List.append_cancel_left_eq]
    at letters
  have run (error : CompileError) : Text.IsRun Decimal.isDigit
      ((toString error.lineNumber).toList ++ ':' :: ' ' :: error.reason.message.toList)
      (toString error.lineNumber).toList (':' :: ' ' :: error.reason.message.toList) := by
    refine ⟨rfl, fun c member => ?_, fun c first => ?_⟩
    · exact Decimal.isDigit_of_mem_toString member
    · cases first
      rfl
  obtain ⟨numbers, rests⟩ := (run error).unique (letters ▸ run other)
  have messages := (List.cons.inj (List.cons.inj rests).2).2
  refine ⟨Pointer.toString_injective (String.toList_inj.mp numbers), ?_⟩
  exact Reason.message_inj (Program.statements_isGiven (compile_eq_error_iff.mp failed))
    (Program.statements_isGiven (compile_eq_error_iff.mp again)) (String.toList_inj.mp messages)

end Authoring
