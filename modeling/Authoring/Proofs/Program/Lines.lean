import Mathlib
import Authoring.Program.Compiler
import Authoring.Proofs.Outcomes

/-! What the lines of a program say, one by one. A compilation goes over a line in one of three
ways: it refuses what the line says, it refuses the id that the line declares again, or it goes
on. -/

namespace Authoring

def Statement.id? (statement : Statement) : Option String :=
  statement.node?.map Node.id

namespace Program

def readLine (raw : List Char) : Except Reason (Option Statement) :=
  if isSilent (Text.trim raw) then .ok none else (Statement.parse (Text.trim raw)).map some

def statement? (raw : List Char) : Option Statement :=
  (readLine raw).toOption.join

def declares? (raw : List Char) : Option String :=
  (statement? raw).bind Statement.id?

variable {options : CompileOptions} {declared : List String} {number : Nat} {raw : List Char}
  {said : Option Statement}

theorem readLine_error_iff {reason : Reason} :
    readLine raw = .error reason ↔
      isSilent (Text.trim raw) = false ∧ Statement.parse (Text.trim raw) = .error reason := by
  unfold readLine
  cases isSilent (Text.trim raw) <;> simp [map_eq_error_iff]

theorem readLine_ok_cases (read : readLine raw = .ok said) :
    isSilent (Text.trim raw) = true ∧ said = none ∨
      ∃ statement, isSilent (Text.trim raw) = false ∧
        Statement.parse (Text.trim raw) = .ok statement ∧ said = some statement := by
  unfold readLine at read
  split at read
  · rename_i silent
    cases read
    exact .inl ⟨silent, rfl⟩
  · rename_i spoken
    obtain ⟨statement, parsed, rfl⟩ := map_eq_ok_iff.mp read
    exact .inr ⟨statement, by simpa using spoken, parsed, rfl⟩

theorem statement?_of_readLine (read : readLine raw = .ok said) : statement? raw = said := by
  rw [statement?, read]
  cases said <;> rfl

theorem declares?_of_readLine (read : readLine raw = .ok said) :
    declares? raw = said.bind Statement.id? := by
  rw [declares?, statement?_of_readLine read]

theorem readLine_of_declares? {id : String} (declares : declares? raw = some id) :
    ∃ said, readLine raw = .ok said := by
  cases read : readLine raw with
  | ok said => exact ⟨said, rfl⟩
  | error reason => simp [declares?, statement?, read, Except.toOption] at declares

def Admits (options : CompileOptions) (declared : List String) (raw : List Char) : Prop :=
  ∀ id, declares? raw = some id → options.allowDuplicateIds = false → id ∉ declared

theorem not_admits_iff : ¬Admits options declared raw ↔
    ∃ id, declares? raw = some id ∧ options.allowDuplicateIds = false ∧ id ∈ declared := by
  unfold Admits
  push Not
  rfl

theorem admits_append {known : List String} : Admits options (declared ++ known) raw ↔
    Admits options declared raw ∧ Admits options known raw := by
  simp only [Admits, List.mem_append, not_or]
  constructor
  · intro fresh
    exact ⟨fun id declares strict => (fresh id declares strict).1,
      fun id declares strict => (fresh id declares strict).2⟩
  · rintro ⟨left, right⟩ id declares strict
    exact ⟨left id declares strict, right id declares strict⟩

theorem statements_refused {reason : Reason} (read : readLine raw = .error reason)
    (rest : List (List Char)) :
    statements options declared number (raw :: rest) =
      .error ⟨number, Text.trim raw, reason⟩ := by
  obtain ⟨spoken, parsed⟩ := readLine_error_iff.mp read
  simp [statements, spoken, parsed]

theorem statements_redeclared {id : String} (read : readLine raw = .ok said)
    (declares : declares? raw = some id) (known : id ∈ declared)
    (strict : options.allowDuplicateIds = false) (rest : List (List Char)) :
    statements options declared number (raw :: rest) =
      .error ⟨number, Text.trim raw, .duplicateId id⟩ := by
  rw [declares?_of_readLine read] at declares
  rcases readLine_ok_cases read with ⟨silent, rfl⟩ | ⟨statement, spoken, parsed, rfl⟩
  · cases declares
  · cases statement with
    | edge link => cases declares
    | node node =>
        cases declares
        simp [statements, spoken, parsed, known, strict]

theorem statements_goes_on (read : readLine raw = .ok said) (fresh : Admits options declared raw)
    (rest : List (List Char)) :
    statements options declared number (raw :: rest) =
      (statements options ((declares? raw).toList ++ declared) (number + 1) rest).map
        (said.toList ++ ·) := by
  rw [Admits, declares?_of_readLine read] at fresh
  rw [declares?_of_readLine read]
  rcases readLine_ok_cases read with ⟨silent, rfl⟩ | ⟨statement, spoken, parsed, rfl⟩
  · cases later : statements options declared (number + 1) rest <;>
      simp [statements, silent, later, Except.map]
  · cases statement with
    | edge link =>
        cases later : statements options declared (number + 1) rest <;>
          simp [statements, spoken, parsed, later, Statement.id?, Statement.node?, Except.map,
            bind, Except.bind, pure, Except.pure]
    | node node =>
        have unknown : ¬(node.id ∈ declared ∧ options.allowDuplicateIds = false) :=
          fun ⟨known, strict⟩ => fresh node.id rfl strict known
        cases later : statements options (node.id :: declared) (number + 1) rest <;>
          simp [statements, spoken, parsed, unknown, later, Statement.id?, Statement.node?,
            Except.map, bind, Except.bind, pure, Except.pure]

theorem statements_cons_cases (options : CompileOptions) (declared : List String)
    (raw : List Char) :
    (∃ reason, ∀ number rest, statements options declared number (raw :: rest) =
        .error ⟨number, Text.trim raw, reason⟩) ∨
      ∃ said, readLine raw = .ok said ∧ ∀ number rest,
        statements options declared number (raw :: rest) =
          (statements options ((declares? raw).toList ++ declared) (number + 1) rest).map
            (said.toList ++ ·) := by
  cases read : readLine raw with
  | error reason => exact .inl ⟨reason, fun number => statements_refused read⟩
  | ok said =>
      by_cases fresh : Admits options declared raw
      · exact .inr ⟨said, rfl, fun number => statements_goes_on read fresh⟩
      · obtain ⟨id, declares, strict, known⟩ := not_admits_iff.mp fresh
        exact .inl ⟨.duplicateId id, fun number => statements_redeclared read declares known strict⟩

theorem statements_eq_filterMap {lines : List (List Char)} {found : List Statement}
    (compiled : statements options declared number lines = .ok found) :
    found = lines.filterMap statement? := by
  induction lines generalizing declared number found with
  | nil =>
      cases compiled
      rfl
  | cons raw rest ih =>
      rcases statements_cons_cases options declared raw with
        ⟨reason, refused⟩ | ⟨said, read, onward⟩
      · rw [refused] at compiled
        cases compiled
      · rw [onward, map_eq_ok_iff] at compiled
        obtain ⟨others, later, rfl⟩ := compiled
        rw [List.filterMap_cons, statement?_of_readLine read, ih later]
        cases said <;> rfl

theorem statements_blank_last (options : CompileOptions) (declared : List String) (number : Nat)
    (lines : List (List Char)) :
    statements options declared number (lines ++ [[]]) =
      statements options declared number lines := by
  induction lines generalizing declared number with
  | nil => rfl
  | cons raw rest ih =>
      rcases statements_cons_cases options declared raw with
        ⟨reason, refused⟩ | ⟨said, read, onward⟩
      · rw [List.cons_append, refused, refused]
      · rw [List.cons_append, onward, onward, ih]

theorem spoken_of_refused {error : CompileError}
    (refused : statements options declared number [raw] = .error error) :
    isSilent (Text.trim raw) = false := by
  rw [← Bool.not_eq_true]
  intro silent
  simp [statements, silent] at refused

theorem statements_error_split {lines : List (List Char)} {error : CompileError}
    (failed : statements options declared number lines = .error error) :
    ∃ front raw back, lines = front ++ raw :: back ∧ error.lineNumber = number + front.length ∧
      error.line = Text.trim raw ∧ isSilent (Text.trim raw) = false ∧
      (∃ found, statements options declared number front = .ok found) ∧
      ∀ other, statements options declared number (front ++ raw :: other) = .error error := by
  induction lines generalizing declared number with
  | nil => cases failed
  | cons raw rest ih =>
      rcases statements_cons_cases options declared raw with
        ⟨reason, refused⟩ | ⟨said, read, onward⟩
      · rw [refused] at failed
        cases failed
        exact ⟨[], raw, rest, rfl, rfl, rfl, spoken_of_refused (refused number []), ⟨[], rfl⟩,
          refused number⟩
      · rw [onward, map_eq_error_iff] at failed
        obtain ⟨front, last, back, rfl, place, line, spoken, ⟨found, compiled⟩, again⟩ := ih failed
        refine ⟨raw :: front, last, back, rfl, ?_, line, spoken, ⟨said.toList ++ found, ?_⟩, ?_⟩
        · rw [place, List.length_cons]
          omega
        · rw [onward, compiled]
          rfl
        · intro other
          rw [List.cons_append, onward, again]
          rfl

theorem statements_error_number {lines : List (List Char)} {error : CompileError}
    (failed : statements options declared number lines = .error error) :
    number ≤ error.lineNumber := by
  obtain ⟨front, -, -, -, place, -⟩ := statements_error_split failed
  omega

end Program

end Authoring
