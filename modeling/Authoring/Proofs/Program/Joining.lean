import Mathlib
import Authoring.Proofs.Program.Duplicates
import Authoring.Proofs.Text.Solid

/-! Programs put one behind the other. The second one compiles as it does alone, with its line
numbers moved, unless one of its lines declares an id of the first. -/

namespace Authoring

def CompileError.moved (error : CompileError) (shift : Nat) : CompileError :=
  { error with lineNumber := shift + error.lineNumber }

namespace Program

variable {options : CompileOptions} {declared known : List String} {number index : Nat}
  {id : String}
  {lines : List (List Char)}

theorem statements_append {front : List (List Char)} {found : List Statement}
    (compiled : statements options declared number front = .ok found)
    (back : List (List Char)) :
    statements options declared number (front ++ back) =
      (statements options ((front.filterMap declares?).reverse ++ declared)
        (number + front.length) back).map (found ++ ·) := by
  induction front generalizing declared number found with
  | nil =>
      cases compiled
      cases outcome : statements options declared number back <;> simp [outcome, Except.map]
  | cons raw rest ih =>
      rcases statements_cons_cases options declared raw with
        ⟨reason, refused⟩ | ⟨said, read, onward⟩
      · rw [refused] at compiled
        cases compiled
      · rw [onward, map_eq_ok_iff] at compiled
        obtain ⟨others, later, rfl⟩ := compiled
        have known : ((raw :: rest).filterMap declares?).reverse ++ declared =
            (rest.filterMap declares?).reverse ++ ((declares? raw).toList ++ declared) := by
          cases declares : declares? raw <;> simp [declares]
        rw [List.cons_append, onward, ih later, known, List.length_cons, Nat.add_right_comm,
          Nat.add_assoc]
        cases statements options _ _ back <;> simp [Except.map]

theorem statements_moved (shift : Nat)
    (apart : options.allowDuplicateIds = false → ∀ index id,
      DeclaresAt lines index id → id ∈ known →
      ∃ error, statements options declared number lines = .error error ∧
        error.lineNumber ≤ number + index) :
    statements options (declared ++ known) (shift + number) lines =
      (statements options declared number lines).mapError (·.moved shift) := by
  induction lines generalizing declared number with
  | nil => rfl
  | cons raw rest ih =>
      cases read : readLine raw with
      | error reason =>
          rw [statements_refused read, statements_refused read]
          rfl
      | ok said =>
          by_cases fresh : Admits options declared raw
          · have onward : statements options declared number (raw :: rest) = _ :=
              statements_goes_on read fresh rest
            -- A line that declares what is known besides would have to be refused already.
            have unknown : Admits options known raw := by
              intro id declares strict member
              obtain ⟨error, failed, bound⟩ := apart strict 0 id declares member
              rw [onward, map_eq_error_iff] at failed
              have behind := statements_error_number failed
              omega
            rw [statements_goes_on read (admits_append.mpr ⟨fresh, unknown⟩), onward,
              ← List.append_assoc, Nat.add_assoc, ih]
            · cases statements options _ _ rest <;> rfl
            · intro strict index id declares member
              obtain ⟨error, failed, bound⟩ := apart strict (index + 1) id declares member
              rw [onward, map_eq_error_iff] at failed
              exact ⟨error, failed, by omega⟩
          · obtain ⟨id, declares, strict, member⟩ := not_admits_iff.mp fresh
            rw [statements_redeclared read declares member strict,
              statements_redeclared read declares (List.mem_append_left known member) strict]
            rfl

theorem statements_known_refused (strict : options.allowDuplicateIds = false) (shift : Nat)
    (here : DeclaresAt lines index id) (member : id ∈ known)
    (first : ∀ earlier < index, ∀ other, DeclaresAt lines earlier other → other ∉ known)
    (reached : ∀ error, statements options declared number lines = .error error →
      number + index < error.lineNumber) :
    ∃ line, lines[index]? = some line ∧
      statements options (declared ++ known) (shift + number) lines =
        .error ⟨shift + number + index, Text.trim line, .duplicateId id⟩ := by
  induction lines generalizing declared number index with
  | nil => simp [DeclaresAt] at here
  | cons raw rest ih =>
      cases read : readLine raw with
      | error reason =>
          have late := reached _ (statements_refused read rest)
          dsimp only at late
          omega
      | ok said =>
          cases index with
          | zero =>
              have old : id ∈ declared ++ known := List.mem_append_right declared member
              exact ⟨raw, rfl, statements_redeclared read here old strict rest⟩
          | succ index =>
              have fresh : Admits options declared raw := by
                intro other declares _ old
                have late := reached _ (statements_redeclared read declares old strict rest)
                dsimp only at late
                omega
              have unknown : Admits options known raw :=
                fun other declares _ => first 0 (Nat.succ_pos index) other declares
              have behind : ∀ error, statements options ((declares? raw).toList ++ declared)
                  (number + 1) rest = .error error → number + 1 + index < error.lineNumber := by
                intro error failed
                have onward : statements options declared number (raw :: rest) = _ :=
                  statements_goes_on read fresh rest
                rw [failed] at onward
                have late := reached error onward
                omega
              have later : ∀ earlier < index, ∀ other, DeclaresAt rest earlier other →
                  other ∉ known :=
                fun earlier less => first (earlier + 1) (Nat.succ_lt_succ less)
              obtain ⟨line, found, refused⟩ := ih here later behind
              have place : shift + (number + 1) + index = shift + number + (index + 1) := by omega
              refine ⟨line, found, ?_⟩
              rw [statements_goes_on read (admits_append.mpr ⟨fresh, unknown⟩),
                ← List.append_assoc, Nat.add_assoc, refused, place]
              rfl

theorem mem_of_declaresAt (here : DeclaresAt lines index id) : id ∈ lines.filterMap declares? := by
  obtain ⟨raw, found, declares⟩ := Option.bind_eq_some_iff.mp here
  exact List.mem_filterMap.mpr ⟨raw, List.mem_of_getElem? found, declares⟩

def DeclaresOf (graph : Graph) (lines : List (List Char)) (index : Nat) (id : String) : Prop :=
  DeclaresAt lines index id ∧ id ∈ graph.nodes.map Node.id

theorem statements_front {front : String} {first : Graph}
    (compiled : compile options front = .ok first) :
    ∃ found, statements options [] 1 (Text.lines (front.toList ++ ['\n'])) = .ok found ∧
      Graph.ofStatements found = first := by
  obtain ⟨found, read, same⟩ := statements_of_compile compiled
  refine ⟨found, ?_, same⟩
  rcases Text.lines_terminated front.toList with plain | blank
  · rw [plain, read]
  · rw [blank, statements_blank_last, read]

theorem statements_joined {front : String} {found : List Statement}
    (read : statements options [] 1 (Text.lines (front.toList ++ ['\n'])) = .ok found)
    (back : String) :
    statements options [] 1 (Text.lines (front ++ "\n" ++ back).toList) =
      (statements options ([] ++ ((Graph.ofStatements found).nodes.map Node.id).reverse)
        (front.toList.count '\n' + 1 + 1) (Text.lines back.toList)).map (found ++ ·) := by
  have whole : (front ++ "\n" ++ back).toList = front.toList ++ '\n' :: back.toList := by simp
  rw [whole, Text.lines_append_line, statements_append read, Text.length_lines_terminated,
    Nat.add_comm 1, ← ids_ofStatements read, List.append_nil, List.nil_append]

end Program

def Graph.followedBy (first second : Graph) : Graph :=
  ⟨first.nodes ++ second.nodes, first.edges ++ second.edges, some schemaId⟩

theorem Graph.ofStatements_append (first second : List Statement) :
    Graph.ofStatements (first ++ second) =
      (Graph.ofStatements first).followedBy (Graph.ofStatements second) := by
  simp [Graph.ofStatements, Graph.followedBy]

open Program (DeclaresAt DeclaresOf)

variable {options : CompileOptions} {front back : String} {first : Graph}

theorem compile_joined_moved (compiled : compile options front = .ok first)
    (apart : options.allowDuplicateIds = false → ∀ index id,
      DeclaresOf first (Text.lines back.toList) index id →
        ∃ error, compile options back = .error error ∧ error.lineNumber ≤ index + 1) :
    compile options (front ++ "\n" ++ back) =
      ((compile options back).map first.followedBy).mapError
        (·.moved (front.toList.count '\n' + 1)) := by
  obtain ⟨found, read, rfl⟩ := Program.statements_front compiled
  have known : options.allowDuplicateIds = false → ∀ index id,
      DeclaresAt (Text.lines back.toList) index id →
      id ∈ ((Graph.ofStatements found).nodes.map Node.id).reverse →
      ∃ error, Program.statements options [] 1 (Text.lines back.toList) = .error error ∧
        error.lineNumber ≤ 1 + index := by
    intro strict index id declares member
    obtain ⟨error, failed, bound⟩ := apart strict index id ⟨declares, List.mem_reverse.mp member⟩
    exact ⟨error, compile_eq_error_iff.mp failed, by omega⟩
  rw [compile_eq_map, compile_eq_map, Program.statements_joined read,
    Program.statements_moved _ known]
  cases Program.statements options [] 1 (Text.lines back.toList) with
  | error error => rfl
  | ok later => exact congrArg Except.ok (Graph.ofStatements_append found later)

theorem compile_joined_refused (compiled : compile options front = .ok first)
    (strict : options.allowDuplicateIds = false) {index : Nat} {id : String}
    (shared : DeclaresOf first (Text.lines back.toList) index id)
    (least : ∀ earlier < index, ∀ other,
      ¬DeclaresOf first (Text.lines back.toList) earlier other)
    (reached : ∀ error, compile options back = .error error → index + 1 < error.lineNumber) :
    ∃ line, (Text.lines back.toList)[index]? = some line ∧
      compile options (front ++ "\n" ++ back) =
        .error ⟨front.toList.count '\n' + 1 + (index + 1), Text.trim line, .duplicateId id⟩ := by
  obtain ⟨found, read, rfl⟩ := Program.statements_front compiled
  have late : ∀ error,
      Program.statements options [] 1 (Text.lines back.toList) = .error error →
      1 + index < error.lineNumber := by
    intro error failed
    have bound := reached error (compile_eq_error_iff.mpr failed)
    omega
  obtain ⟨line, inside, refused⟩ := Program.statements_known_refused strict
    (front.toList.count '\n' + 1) shared.1 (List.mem_reverse.mpr shared.2)
    (fun earlier less other declares member =>
      least earlier less other ⟨declares, List.mem_reverse.mp member⟩) late
  refine ⟨line, inside, ?_⟩
  rw [compile_eq_error_iff, Program.statements_joined read, refused, Nat.add_assoc _ 1 index,
    Nat.add_comm 1 index]
  rfl

/-- Behind a program that compiles, another one compiles as it does alone, only further down, unless
it comes to declare an id of the first. Then the first line that does is refused. -/
theorem compile_joined (compiled : compile options front = .ok first) (back : String) :
    let lines := Text.lines back.toList
    let shift := front.toList.count '\n' + 1
    let alone := compile options back
    let joined := compile options (front ++ "\n" ++ back)
    (∀ second, alone = .ok second →
      options.allowDuplicateIds = true ∨
        (first.nodes.map Node.id).Disjoint (second.nodes.map Node.id) →
      joined = .ok ⟨first.nodes ++ second.nodes, first.edges ++ second.edges,
        some Graph.schemaId⟩) ∧
    (options.allowDuplicateIds = false → ∀ index id, DeclaresOf first lines index id →
      (∀ error, alone = .error error → index + 1 < error.lineNumber) →
      ∃ least ≤ index, ∃ other line, DeclaresOf first lines least other ∧
        (∀ earlier < least, ∀ name, ¬DeclaresOf first lines earlier name) ∧
        lines[least]? = some line ∧
        joined = .error ⟨shift + (least + 1), Text.trim line, .duplicateId other⟩) ∧
    ∀ error, alone = .error error →
      options.allowDuplicateIds = true ∨
        (∀ index id, DeclaresOf first lines index id → error.lineNumber ≤ index + 1) →
      joined = .error { error with lineNumber := shift + error.lineNumber } := by
  intro lines shift alone joined
  refine ⟨fun second compiledBack separate => ?_, fun strict index id shared reached => ?_,
    fun error failed late => ?_⟩
  · have moved : joined = (alone.map first.followedBy).mapError (·.moved shift) := by
      refine compile_joined_moved compiled fun strict index id ⟨declares, member⟩ => ?_
      rcases separate with allowed | disjoint
      · rw [strict] at allowed
        cases allowed
      · obtain ⟨later, read, rfl⟩ := statements_of_compile compiledBack
        have inside := Program.mem_of_declaresAt declares
        rw [← Program.ids_ofStatements read] at inside
        exact absurd inside (disjoint member)
    rw [moved, compiledBack]
    rfl
  · classical
    have some : ∃ index id, DeclaresOf first lines index id := ⟨index, id, shared⟩
    have bound : Nat.find some ≤ index := Nat.find_min' some ⟨id, shared⟩
    obtain ⟨other, here⟩ := Nat.find_spec some
    have least : ∀ earlier < Nat.find some, ∀ name, ¬DeclaresOf first lines earlier name :=
      fun earlier less name before => Nat.find_min some less ⟨name, before⟩
    obtain ⟨line, inside, refused⟩ := compile_joined_refused compiled strict here least
      fun error failed => by
        have late := reached error failed
        omega
    exact ⟨Nat.find some, bound, other, line, here, least, inside, refused⟩
  · have moved : joined = (alone.map first.followedBy).mapError (·.moved shift) := by
      refine compile_joined_moved compiled fun strict index id shared => ?_
      rcases late with allowed | late
      · rw [strict] at allowed
        cases allowed
      · exact ⟨error, failed, late index id shared⟩
    rw [moved, failed]
    rfl

def sampleFront : String :=
  "goal g1 Ship\n"

def sampleFrontGraph : Graph :=
  ⟨[⟨"g1", .goal, "Ship", []⟩], [], some Graph.schemaId⟩

def sampleBack : String :=
  " task g1 Draft\nnothing"

theorem compile_joined_of_sampleBack :
    compile .default sampleFront = .ok sampleFrontGraph ∧
      compile .default (sampleFront ++ "\n" ++ sampleBack) =
        .error ⟨3, "task g1 Draft".toList, .duplicateId "g1"⟩ := by
  have compiled : compile .default sampleFront = .ok sampleFrontGraph := rfl
  have failed : compile .default sampleBack =
      .error ⟨2, "nothing".toList, .invalidStatement "nothing".toList⟩ := by
    rw [compile_eq_error_iff]
    rfl
  have shared : DeclaresOf sampleFrontGraph (Text.lines sampleBack.toList) 0 "g1" := by
    refine ⟨?_, List.mem_singleton.mpr rfl⟩
    rw [DeclaresAt]
    decide +kernel
  have reached : ∀ error, compile .default sampleBack = .error error →
      0 + 1 < error.lineNumber := by
    intro error found
    rw [failed] at found
    cases found
    decide
  obtain ⟨least, bound, other, line, ⟨-, member⟩, -, inside, refused⟩ :=
    (compile_joined compiled sampleBack).2.1 rfl 0 "g1" shared reached
  have start : least = 0 := Nat.le_zero.mp bound
  have id : other = "g1" := List.mem_singleton.mp member
  subst start id
  have first : " task g1 Draft".toList = line := Option.some.inj inside
  rw [← first] at refused
  exact ⟨compiled, refused⟩

end Authoring
