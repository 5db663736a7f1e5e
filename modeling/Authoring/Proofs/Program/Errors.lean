import Mathlib
import Authoring.Proofs.Program.Duplicates
import Authoring.Proofs.Text.Runs

/-! What the error of a compilation says: the first line that cannot stay, and nothing about the lines
behind it. -/

namespace Authoring

namespace Program

def firstLines (count : Nat) (source : String) : String :=
  String.ofList (((Text.lines source.toList).take count).flatMap (· ++ ['\n']))

def leading (count : Nat) (source : String) : List (List Char) :=
  ((Text.lines source.toList).take count).map Text.trim

theorem lines_firstLines (count : Nat) (source : String) :
    Text.lines (firstLines count source).toList = (Text.lines source.toList).take count := by
  rw [firstLines, String.toList_ofList, Text.lines_flatMap]
  exact fun line member => Text.noFeed_of_mem_lines (List.mem_of_mem_take member)

theorem statements_trimmed (options : CompileOptions) (declared : List String) (number : Nat)
    (lines : List (List Char)) :
    statements options declared number (lines.map Text.trim) =
      statements options declared number lines := by
  induction lines generalizing declared number with
  | nil => rfl
  | cons raw rest ih => simp only [List.map_cons, statements, Text.trim_trim, ih]

end Program

/-- The error names the first line of the source that cannot stay: the lines before it compile, and
nothing that could stand behind it would mend it. -/
structure LocatesFirst (options : CompileOptions) (source : String) (error : CompileError) :
    Prop where
  positive : 1 ≤ error.lineNumber
  inside : error.lineNumber ≤ (Text.lines source.toList).length
  line : (Text.lines source.toList)[error.lineNumber - 1]?.map Text.trim = some error.line
  visible : ¬Text.AllBlank error.line
  uncommented : ¬['/', '/'] <+: error.line
  front : ∃ graph, compile options (Program.firstLines (error.lineNumber - 1) source) = .ok graph
  back : ∀ other, Program.leading error.lineNumber other = Program.leading error.lineNumber source →
    compile options other = .error error

theorem compile_error_locates {options : CompileOptions} {source : String} {error : CompileError}
    (failed : compile options source = .error error) : LocatesFirst options source error := by
  obtain ⟨front, raw, back, whole, place, line, spoken, ⟨found, compiled⟩, again⟩ :=
    Program.statements_error_split (compile_eq_error_iff.mp failed)
  have before : error.lineNumber - 1 = front.length := by omega
  refine ⟨by omega, ?_, ?_, ?_, ?_, ⟨Graph.ofStatements found, ?_⟩, ?_⟩
  · rw [whole, List.length_append, List.length_cons]
    omega
  · rw [before, whole, List.getElem?_append_right (Nat.le_refl _), Nat.sub_self, line]
    rfl
  · intro blank
    rw [line, ← Text.trim_eq_nil_iff, Text.trim_trim] at blank
    rw [blank] at spoken
    cases spoken
  · rintro ⟨comment, same⟩
    rw [← line, ← same] at spoken
    cases spoken
  · rw [compile_eq_map, Program.lines_firstLines, before, whole, List.take_left, compiled]
    rfl
  · intro other same
    have reached : Program.leading error.lineNumber source = (front ++ [raw]).map Text.trim := by
      rw [Program.leading, whole, place, List.append_cons, List.take_left']
      simp [Nat.add_comm]
    rw [reached] at same
    rw [compile_eq_error_iff, ← Program.statements_trimmed,
      ← List.take_append_drop error.lineNumber (Text.lines other.toList), List.map_append,
      ← Program.leading, same, ← List.map_append, Program.statements_trimmed, List.append_assoc]
    exact again _

def sampleRefusal : String :=
  "// plan\r\n\r\ngoal g1 Ship\r\n  task g1 Draft\r\nnothing"

theorem compile_error_locates_of_sampleRefusal :
    ∃ error, compile .default sampleRefusal = .error error ∧ error.lineNumber = 4 ∧
      error.line = "task g1 Draft".toList ∧ LocatesFirst .default sampleRefusal error := by
  have failed : compile .default sampleRefusal =
      .error ⟨4, "task g1 Draft".toList, .duplicateId "g1"⟩ := by
    rw [compile_eq_error_iff]
    rfl
  exact ⟨_, failed, rfl, rfl, compile_error_locates failed⟩

end Authoring
