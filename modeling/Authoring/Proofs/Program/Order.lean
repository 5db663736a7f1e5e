import Mathlib
import Authoring.Proofs.Program.Duplicates
import Authoring.Proofs.Score.Reads
import Authoring.Proofs.Text.Solid

/-! Programs whose lines come in another order. Whether a program compiles depends on each line by
itself and on which ids the lines declare, so the order matters to the error alone. -/

namespace Authoring

namespace Program

variable {options : CompileOptions} {declared : List String} {number : Nat}
  {lines : List (List Char)}

/-- No line declares an id that another line has declared or that has been declared before. -/
def Fresh (declared : List String) (lines : List (List Char)) : Prop :=
  (lines.filterMap declares?).Nodup ∧ ∀ id ∈ lines.filterMap declares?, id ∉ declared

theorem fresh_cons {raw : List Char} {rest : List (List Char)} :
    Fresh declared (raw :: rest) ↔ (∀ id, declares? raw = some id → id ∉ declared) ∧
      Fresh ((declares? raw).toList ++ declared) rest := by
  cases declares : declares? raw with
  | none => simp [Fresh, declares]
  | some id =>
      rw [Fresh, Fresh, List.filterMap_cons_some declares, List.nodup_cons, List.forall_mem_cons]
      simp only [Option.some.injEq, forall_eq', Option.toList_some, List.singleton_append,
        List.mem_cons, not_or]
      constructor
      · rintro ⟨⟨apart, distinct⟩, unknown, later⟩
        refine ⟨unknown, distinct, fun other member => ⟨?_, later other member⟩⟩
        rintro rfl
        exact apart member
      · rintro ⟨unknown, distinct, later⟩
        exact ⟨⟨fun member => (later id member).1 rfl, distinct⟩, unknown,
          fun other member => (later other member).2⟩

theorem statements_ok_iff :
    (∃ found, statements options declared number lines = .ok found) ↔
      (∀ raw ∈ lines, ∃ said, readLine raw = .ok said) ∧
        (options.allowDuplicateIds = false → Fresh declared lines) := by
  induction lines generalizing declared number with
  | nil => simp [statements, Fresh]
  | cons raw rest ih =>
      rw [List.forall_mem_cons, fresh_cons]
      cases read : readLine raw with
      | error reason => simp [statements_refused read]
      | ok said =>
          by_cases fresh : Admits options declared raw
          · have onward : (∃ found, statements options declared number (raw :: rest) = .ok found) ↔
                ∃ found, statements options ((declares? raw).toList ++ declared) (number + 1) rest =
                  .ok found := by
              rw [statements_goes_on read fresh]
              simp [map_eq_ok_iff]
            rw [onward, ih]
            constructor
            · rintro ⟨readable, later⟩
              exact ⟨⟨⟨said, rfl⟩, readable⟩, fun strict =>
                ⟨fun id declares => fresh id declares strict, later strict⟩⟩
            · rintro ⟨⟨_, readable⟩, later⟩
              exact ⟨readable, fun strict => (later strict).2⟩
          · obtain ⟨id, declares, strict, known⟩ := not_admits_iff.mp fresh
            rw [statements_redeclared read declares known strict]
            constructor
            · rintro ⟨found, compiled⟩
              cases compiled
            · rintro ⟨-, later⟩
              exact absurd known ((later strict).1 id declares)

theorem fresh_perm_iff {left right : List (List Char)} (moved : left.Perm right) :
    Fresh declared left ↔ Fresh declared right := by
  have ids := moved.filterMap declares?
  simp only [Fresh, ids.nodup_iff, ids.mem_iff]

theorem terminated_intercalate {line : String} {rest : List String} :
    ("\n".intercalate (line :: rest)).toList ++ ['\n'] =
      ((line :: rest).map String.toList).flatMap (· ++ ['\n']) := by
  induction rest generalizing line with
  | nil => simp
  | cons next others ih =>
      rw [String.intercalate_cons_cons, List.map_cons, List.flatMap_cons, ← ih]
      simp

theorem statements_intercalate {written : List String} (options : CompileOptions)
    (oneLine : ∀ line ∈ written, '\n' ∉ line.toList) :
    statements options [] 1 (Text.lines ("\n".intercalate written).toList) =
      statements options [] 1 (written.map String.toList) := by
  cases written with
  | nil => rfl
  | cons line rest =>
      have split : Text.lines (("\n".intercalate (line :: rest)).toList ++ ['\n']) =
          (line :: rest).map String.toList := by
        rw [terminated_intercalate]
        exact Text.lines_flatMap (List.forall_mem_map.mpr oneLine)
      rw [← split]
      rcases Text.lines_terminated ("\n".intercalate (line :: rest)).toList with plain | blank
      · rw [plain]
      · rw [blank, statements_blank_last]

end Program

theorem compile_ok_iff {options : CompileOptions} {source : String} :
    (∃ graph, compile options source = .ok graph) ↔
      ∃ found, Program.statements options [] 1 (Text.lines source.toList) = .ok found := by
  simp [compile_eq_map, map_eq_ok_iff]

/-- The lines of a program in any other order make a program that compiles just as well, to the same
nodes and edges, and with the same score whatever the weights. -/
theorem compile_rearranged (options : CompileOptions) {left right : List String}
    (moved : left.Perm right) (oneLine : ∀ line ∈ left, '\n' ∉ line.toList) :
    let first := compile options ("\n".intercalate left)
    let second := compile options ("\n".intercalate right)
    ((∃ graph, first = .ok graph) ↔ ∃ graph, second = .ok graph) ∧
      ∀ graph other, first = .ok graph → second = .ok other →
        graph.nodes.Perm other.nodes ∧ graph.edges.Perm other.edges ∧
          ∀ weights, score weights graph = score weights other := by
  intro first second
  have texts := moved.map String.toList
  have joined := Program.statements_intercalate options oneLine
  have joinedMoved := Program.statements_intercalate options fun line member =>
    oneLine line (moved.mem_iff.mpr member)
  refine ⟨?_, fun graph other compiled compiledMoved => ?_⟩
  · simp only [first, second, compile_ok_iff, joined, joinedMoved, Program.statements_ok_iff,
      texts.mem_iff, Program.fresh_perm_iff texts]
  · obtain ⟨found, read, rfl⟩ := statements_of_compile compiled
    obtain ⟨others, readMoved, rfl⟩ := statements_of_compile compiledMoved
    rw [joined] at read
    rw [joinedMoved] at readMoved
    have statements : found.Perm others := by
      rw [Program.statements_eq_filterMap read, Program.statements_eq_filterMap readMoved]
      exact texts.filterMap _
    have rearranged : (Graph.ofStatements found).Rearranges (Graph.ofStatements others) :=
      ⟨statements.filterMap _, statements.filterMap _⟩
    exact ⟨rearranged.nodes, rearranged.edges, rearranged.scoresLike.score⟩

def sampleLines : List String :=
  ["edge t1 -> g1 : refines", "", "goal g1 Ship", "// later", "task t1 Draft",
    "constraint c1 Short"]

theorem compile_rearranged_of_sampleLines :
    (∀ line ∈ sampleLines, '\n' ∉ line.toList) ∧ sampleLines.Perm sampleLines.reverse ∧
      (∃ graph, compile .default ("\n".intercalate sampleLines.reverse) = .ok graph) ∧
      ∀ graph other, compile .default ("\n".intercalate sampleLines) = .ok graph →
        compile .default ("\n".intercalate sampleLines.reverse) = .ok other →
        graph.nodes.Perm other.nodes ∧ graph.edges.Perm other.edges ∧
          score .ones graph = score .ones other := by
  have oneLine : ∀ line ∈ sampleLines, '\n' ∉ line.toList := by decide
  have moved : sampleLines.Perm sampleLines.reverse := (List.reverse_perm sampleLines).symm
  have compiled : ∃ graph, compile .default ("\n".intercalate sampleLines) = .ok graph := ⟨_, rfl⟩
  obtain ⟨same, alike⟩ := compile_rearranged .default moved oneLine
  refine ⟨oneLine, moved, same.mp compiled, fun graph other first second => ?_⟩
  obtain ⟨nodes, edges, scores⟩ := alike graph other first second
  exact ⟨nodes, edges, scores .ones⟩

end Authoring
