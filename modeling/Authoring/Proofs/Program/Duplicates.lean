import Mathlib
import Authoring.Proofs.Program.Lines

/-! Compiling with and without repeated ids. Where ids may not be repeated, the first line that
declares one again is refused if the compilation gets so far, and nothing else is different. -/

namespace Authoring

namespace Program

variable {declared : List String} {lines rest : List (List Char)} {raw : List Char}
  {index number : Nat} {id : String}

def DeclaresAt (lines : List (List Char)) (index : Nat) (id : String) : Prop :=
  lines[index]?.bind declares? = some id

def Redeclares (lines : List (List Char)) (index : Nat) (id : String) : Prop :=
  DeclaresAt lines index id ∧ ∃ earlier < index, DeclaresAt lines earlier id

def IsSecondDeclaration (lines : List (List Char)) (index : Nat) (id : String) : Prop :=
  DeclaresAt lines index id ∧ ∃ first < index, DeclaresAt lines first id ∧
    ∀ other < index, DeclaresAt lines other id → other = first

def RefusesAt (lines : List (List Char)) (index : Nat) (id : String)
    (outcome : Except CompileError Graph) : Prop :=
  ∃ line error, lines[index]? = some line ∧ outcome = .error error ∧
    error = ⟨index + 1, Text.trim line, .duplicateId id⟩ ∧
    error.reason.message = "duplicate node id: " ++ id

def RedeclaresAfter (declared : List String) (lines : List (List Char)) (index : Nat)
    (id : String) : Prop :=
  DeclaresAt lines index id ∧ (id ∈ declared ∨ ∃ earlier < index, DeclaresAt lines earlier id)

theorem redeclaresAfter_nil : RedeclaresAfter [] lines index id ↔ Redeclares lines index id := by
  simp [RedeclaresAfter, Redeclares]

theorem redeclaresAfter_zero :
    RedeclaresAfter declared (raw :: rest) 0 id ↔ declares? raw = some id ∧ id ∈ declared := by
  simp [RedeclaresAfter, DeclaresAt]

theorem redeclaresAfter_succ :
    RedeclaresAfter declared (raw :: rest) (index + 1) id ↔
      RedeclaresAfter ((declares? raw).toList ++ declared) rest index id := by
  have before : (∃ earlier < index + 1, DeclaresAt (raw :: rest) earlier id) ↔
      declares? raw = some id ∨ ∃ earlier < index, DeclaresAt rest earlier id := by
    constructor
    · rintro ⟨earlier, less, declares⟩
      cases earlier with
      | zero => exact .inl declares
      | succ earlier => exact .inr ⟨earlier, Nat.lt_of_succ_lt_succ less, declares⟩
    · rintro (declares | ⟨earlier, less, declares⟩)
      · exact ⟨0, Nat.succ_pos _, declares⟩
      · exact ⟨earlier + 1, Nat.succ_lt_succ less, declares⟩
  have member : id ∈ (declares? raw).toList ↔ declares? raw = some id := by
    cases declares? raw <;> simp [eq_comm]
  rw [RedeclaresAfter, RedeclaresAfter, before, List.mem_append, member]
  constructor
  · rintro ⟨here, known | declares | earlier⟩
    · exact ⟨here, .inl (.inr known)⟩
    · exact ⟨here, .inl (.inl declares)⟩
    · exact ⟨here, .inr earlier⟩
  · rintro ⟨here, (declares | known) | earlier⟩
    · exact ⟨here, .inr (.inl declares)⟩
    · exact ⟨here, .inl known⟩
    · exact ⟨here, .inr (.inr earlier)⟩

structure IsFirst (declared : List String) (lines : List (List Char)) (index : Nat)
    (id : String) : Prop where
  again : RedeclaresAfter declared lines index id
  least : ∀ earlier < index, ∀ other, ¬RedeclaresAfter declared lines earlier other

theorem IsFirst.tail (first : IsFirst declared (raw :: rest) (index + 1) id) :
    IsFirst ((declares? raw).toList ++ declared) rest index id where
  again := redeclaresAfter_succ.mp first.again
  least := fun earlier less other again =>
    first.least (earlier + 1) (Nat.succ_lt_succ less) other (redeclaresAfter_succ.mpr again)

theorem IsFirst.cons (fresh : ∀ other, declares? raw = some other → other ∉ declared)
    (first : IsFirst ((declares? raw).toList ++ declared) rest index id) :
    IsFirst declared (raw :: rest) (index + 1) id where
  again := redeclaresAfter_succ.mpr first.again
  least := by
    intro earlier less other again
    cases earlier with
    | zero =>
        obtain ⟨declares, known⟩ := redeclaresAfter_zero.mp again
        exact fresh other declares known
    | succ earlier =>
        exact first.least earlier (Nat.lt_of_succ_lt_succ less) other
          (redeclaresAfter_succ.mp again)

theorem exists_isFirst (again : RedeclaresAfter declared lines index id) :
    ∃ first ≤ index, ∃ other, IsFirst declared lines first other := by
  induction index using Nat.strong_induction_on generalizing id with
  | _ index ih =>
      by_cases least : ∀ earlier < index, ∀ other, ¬RedeclaresAfter declared lines earlier other
      · exact ⟨index, Nat.le_refl _, id, again, least⟩
      · push Not at least
        obtain ⟨earlier, less, other, before⟩ := least
        obtain ⟨first, bound, found⟩ := ih earlier less before
        exact ⟨first, Nat.le_trans bound (Nat.le_of_lt less), found⟩

theorem IsFirst.isSecondDeclaration (first : IsFirst [] lines index id) :
    IsSecondDeclaration lines index id := by
  obtain ⟨here, earlier, less, before⟩ := redeclaresAfter_nil.mp first.again
  refine ⟨here, earlier, less, before, fun other bound declares => ?_⟩
  -- Of two lines before, the later one would be a repetition before the first.
  rcases lt_trichotomy other earlier with below | same | above
  · exact absurd ⟨before, .inr ⟨other, below, declares⟩⟩ (first.least earlier less id)
  · exact same
  · exact absurd ⟨declares, .inr ⟨earlier, above, before⟩⟩ (first.least other bound id)

/-! The ids that come more than once -/

theorem not_redeclares_of_repeatsFrom (distinct : declared.Nodup)
    (none : repeatsFrom declared (lines.filterMap declares?) = []) (index : Nat) (id : String) :
    ¬RedeclaresAfter declared lines index id := by
  induction lines generalizing declared index with
  | nil => simp [RedeclaresAfter, DeclaresAt]
  | cons raw rest ih =>
      cases declares : declares? raw with
      | none =>
          rw [List.filterMap_cons_none declares] at none
          cases index with
          | zero => simp [redeclaresAfter_zero, declares]
          | succ index =>
              rw [redeclaresAfter_succ, declares]
              exact ih distinct none index
      | some other =>
          rw [List.filterMap_cons_some declares, repeatsFrom] at none
          by_cases known : other ∈ declared
          · rw [if_pos (List.count_eq_one_of_mem distinct known)] at none
            cases none
          · rw [if_neg (by simp [List.count_eq_zero_of_not_mem known])] at none
            cases index with
            | zero =>
                rw [redeclaresAfter_zero, declares]
                rintro ⟨same, member⟩
                cases same
                exact known member
            | succ index =>
                rw [redeclaresAfter_succ, declares]
                exact ih (List.nodup_cons.mpr ⟨known, distinct⟩) none index

theorem isFirst_of_repeatsFrom {later : List String} (distinct : declared.Nodup)
    (repeated : repeatsFrom declared (lines.filterMap declares?) = id :: later) :
    ∃ index, IsFirst declared lines index id := by
  induction lines generalizing declared with
  | nil => simp [repeatsFrom] at repeated
  | cons raw rest ih =>
      cases declares : declares? raw with
      | none =>
          rw [List.filterMap_cons_none declares] at repeated
          obtain ⟨index, first⟩ := ih distinct repeated
          refine ⟨index + 1, IsFirst.cons (by simp [declares]) ?_⟩
          simpa [declares] using first
      | some other =>
          rw [List.filterMap_cons_some declares, repeatsFrom] at repeated
          by_cases known : other ∈ declared
          · rw [if_pos (List.count_eq_one_of_mem distinct known)] at repeated
            obtain ⟨rfl, _⟩ := List.cons.inj repeated
            exact ⟨0, redeclaresAfter_zero.mpr ⟨declares, known⟩, fun earlier less => by omega⟩
          · rw [if_neg (by simp [List.count_eq_zero_of_not_mem known])] at repeated
            obtain ⟨index, first⟩ := ih (List.nodup_cons.mpr ⟨known, distinct⟩) repeated
            refine ⟨index + 1, IsFirst.cons (by simp [declares, known]) ?_⟩
            simpa [declares] using first

/-! The two compilations -/

theorem statements_permissive_cons {said : Option Statement} (read : readLine raw = .ok said)
    (others : List String) (number : Nat) (rest : List (List Char)) :
    statements ⟨true⟩ others number (raw :: rest) =
      (statements ⟨true⟩ ((declares? raw).toList ++ others) (number + 1) rest).map
        (said.toList ++ ·) :=
  statements_goes_on read (fun _ _ strict => by cases strict) rest

theorem statements_strict_eq_permissive (others : List String)
    (clear : ∀ index id, RedeclaresAfter declared lines index id →
      ∃ error, statements ⟨true⟩ others number lines = .error error ∧
        error.lineNumber ≤ number + index) :
    statements ⟨false⟩ declared number lines = statements ⟨true⟩ others number lines := by
  induction lines generalizing declared others number with
  | nil => rfl
  | cons raw rest ih =>
      cases read : readLine raw with
      | error reason => rw [statements_refused read, statements_refused read]
      | ok said =>
          have onward := statements_permissive_cons read others number rest
          have failure : ∀ error, statements ⟨true⟩ others number (raw :: rest) = .error error →
              statements ⟨true⟩ ((declares? raw).toList ++ others) (number + 1) rest =
                .error error := by
            intro error failed
            rwa [onward, map_eq_error_iff] at failed
          -- A fault behind this line comes too late to hide that the line repeats an id.
          have fresh : ∀ id, declares? raw = some id → id ∉ declared := by
            intro id declares known
            obtain ⟨error, failed, bound⟩ :=
              clear 0 id (redeclaresAfter_zero.mpr ⟨declares, known⟩)
            have behind := statements_error_number (failure error failed)
            omega
          rw [onward, statements_goes_on read fun id declares _ => fresh id declares]
          congr 1
          apply ih
          intro index id again
          obtain ⟨error, failed, bound⟩ := clear (index + 1) id (redeclaresAfter_succ.mpr again)
          exact ⟨error, failure error failed, by omega⟩

theorem statements_strict_refuses (others : List String) (first : IsFirst declared lines index id)
    (reached : ∀ error, statements ⟨true⟩ others number lines = .error error →
      number + index < error.lineNumber) :
    ∃ line, lines[index]? = some line ∧ statements ⟨false⟩ declared number lines =
      .error ⟨number + index, Text.trim line, .duplicateId id⟩ := by
  induction lines generalizing declared others number index with
  | nil => exact absurd first.again.1 (by simp [DeclaresAt])
  | cons raw rest ih =>
      cases index with
      | zero =>
          obtain ⟨declares, known⟩ := redeclaresAfter_zero.mp first.again
          obtain ⟨said, read⟩ := readLine_of_declares? declares
          exact ⟨raw, rfl, statements_redeclared read declares known rfl rest⟩
      | succ index =>
          cases read : readLine raw with
          | error reason =>
              have early : number + (index + 1) < number := reached _ (statements_refused read rest)
              omega
          | ok said =>
              have fresh : ∀ other, declares? raw = some other → other ∉ declared :=
                fun other declares known => first.least 0 (Nat.succ_pos _) other
                  (redeclaresAfter_zero.mpr ⟨declares, known⟩)
              have behind : ∀ error, statements ⟨true⟩ ((declares? raw).toList ++ others)
                  (number + 1) rest = .error error → number + 1 + index < error.lineNumber := by
                intro error failed
                have onward := statements_permissive_cons read others number rest
                rw [failed] at onward
                have late := reached error onward
                omega
              obtain ⟨line, found, refused⟩ := ih _ first.tail behind
              refine ⟨line, found, ?_⟩
              rw [statements_goes_on read fun other declares _ => fresh other declares, refused,
                Nat.add_right_comm, Nat.add_assoc]
              rfl

theorem ids_ofStatements {options : CompileOptions} {found : List Statement}
    (compiled : statements options declared number lines = .ok found) :
    (Graph.ofStatements found).nodes.map Node.id = lines.filterMap declares? := by
  rw [Graph.ofStatements, statements_eq_filterMap compiled, List.map_filterMap,
    List.filterMap_filterMap]
  rfl

theorem duplicateIds_ofStatements {options : CompileOptions} {found : List Statement}
    (compiled : statements options declared number lines = .ok found) :
    (Graph.ofStatements found).duplicateIds = repeatsFrom [] (lines.filterMap declares?) := by
  rw [Graph.duplicateIds, ids_ofStatements compiled, repeats]

end Program

theorem compile_eq_map (options : CompileOptions) (source : String) :
    compile options source =
      (Program.statements options [] 1 (Text.lines source.toList)).map Graph.ofStatements := by
  rw [compile]
  cases Program.statements options [] 1 (Text.lines source.toList) <;> rfl

theorem statements_of_compile {options : CompileOptions} {source : String} {graph : Graph}
    (compiled : compile options source = .ok graph) :
    ∃ found, Program.statements options [] 1 (Text.lines source.toList) = .ok found ∧
      Graph.ofStatements found = graph := by
  rwa [compile_eq_map, map_eq_ok_iff] at compiled

theorem compile_eq_error_iff {options : CompileOptions} {source : String} {error : CompileError} :
    compile options source = .error error ↔
      Program.statements options [] 1 (Text.lines source.toList) = .error error := by
  rw [compile_eq_map, map_eq_error_iff]

open Program (DeclaresAt Redeclares RedeclaresAfter IsSecondDeclaration IsFirst RefusesAt)

theorem compile_strict_eq {source : String}
    (clear : ∀ index id, Redeclares (Text.lines source.toList) index id →
      ∃ error, compile ⟨true⟩ source = .error error ∧ error.lineNumber ≤ index + 1) :
    compile ⟨false⟩ source = compile ⟨true⟩ source := by
  rw [compile_eq_map, compile_eq_map, Program.statements_strict_eq_permissive []]
  intro index id again
  obtain ⟨error, failed, bound⟩ := clear index id (Program.redeclaresAfter_nil.mp again)
  exact ⟨error, compile_eq_error_iff.mp failed, by omega⟩

theorem compile_strict_refuses {source : String} {index : Nat} {id : String}
    (first : IsFirst [] (Text.lines source.toList) index id)
    (reached : ∀ error, compile ⟨true⟩ source = .error error → index + 1 < error.lineNumber) :
    RefusesAt (Text.lines source.toList) index id (compile ⟨false⟩ source) := by
  have late : ∀ error, Program.statements ⟨true⟩ [] 1 (Text.lines source.toList) = .error error →
      1 + index < error.lineNumber := by
    intro error failed
    have bound := reached error (compile_eq_error_iff.mpr failed)
    omega
  obtain ⟨line, found, refused⟩ := Program.statements_strict_refuses [] first late
  rw [Nat.add_comm] at refused
  exact ⟨line, _, found, compile_eq_error_iff.mpr refused, rfl, rfl⟩

theorem compile_strict_second {source : String} {graph : Graph} {id : String}
    {later : List String} (compiled : compile ⟨true⟩ source = .ok graph)
    (repeated : graph.duplicateIds = id :: later) :
    ∃ index, IsSecondDeclaration (Text.lines source.toList) index id ∧
      RefusesAt (Text.lines source.toList) index id (compile ⟨false⟩ source) := by
  obtain ⟨found, outcome, rfl⟩ := statements_of_compile compiled
  rw [Program.duplicateIds_ofStatements outcome] at repeated
  obtain ⟨index, first⟩ := Program.isFirst_of_repeatsFrom List.nodup_nil repeated
  refine ⟨index, first.isSecondDeclaration, compile_strict_refuses first ?_⟩
  intro error failed
  rw [compiled] at failed
  cases failed

theorem compile_strict_error {source : String} {error : CompileError}
    (failed : compile ⟨true⟩ source = .error error) :
    let lines := Text.lines source.toList
    ((∀ index id, Redeclares lines index id → error.lineNumber ≤ index + 1) ∧
        compile ⟨false⟩ source = .error error) ∨
      ∃ index id, index + 1 < error.lineNumber ∧ Redeclares lines index id ∧
        (∀ earlier < index, ∀ other, ¬Redeclares lines earlier other) ∧
        RefusesAt lines index id (compile ⟨false⟩ source) := by
  intro lines
  by_cases clear : ∀ index id, Redeclares lines index id → error.lineNumber ≤ index + 1
  · refine .inl ⟨clear, ?_⟩
    rw [compile_strict_eq fun index id again => ⟨error, failed, clear index id again⟩, failed]
  · push Not at clear
    obtain ⟨index, id, again, before⟩ := clear
    obtain ⟨least, bound, other, first⟩ :=
      Program.exists_isFirst (Program.redeclaresAfter_nil.mpr again)
    have early : least + 1 < error.lineNumber := by omega
    refine .inr ⟨least, other, early, Program.redeclaresAfter_nil.mp first.again, ?_, ?_⟩
    · exact fun earlier less name repeated =>
        first.least earlier less name (Program.redeclaresAfter_nil.mpr repeated)
    · refine compile_strict_refuses first fun found found' => ?_
      rw [failed] at found'
      cases found'
      exact early

theorem Program.RefusesAt.not_ok {source : String} {index : Nat} {id : String} {graph : Graph}
    (refuses : RefusesAt (Text.lines source.toList) index id (compile ⟨false⟩ source)) :
    compile ⟨false⟩ source ≠ .ok graph := by
  obtain ⟨line, error, _, refused, _⟩ := refuses
  rw [refused]
  nofun

theorem compile_strict_ok_iff {source : String} {graph : Graph} :
    compile ⟨false⟩ source = .ok graph ↔
      compile ⟨true⟩ source = .ok graph ∧ graph.duplicateIds = [] := by
  have same : ∀ {plain : Graph}, compile ⟨true⟩ source = .ok plain → plain.duplicateIds = [] →
      compile ⟨false⟩ source = compile ⟨true⟩ source := by
    intro plain compiled none
    obtain ⟨found, outcome, rfl⟩ := statements_of_compile compiled
    rw [Program.duplicateIds_ofStatements outcome] at none
    refine compile_strict_eq fun index id again => ?_
    exact absurd (Program.redeclaresAfter_nil.mpr again)
      (Program.not_redeclares_of_repeatsFrom List.nodup_nil none index id)
  constructor
  · intro compiled
    cases outcome : compile ⟨true⟩ source with
    | error error =>
        rcases compile_strict_error outcome with ⟨_, failed⟩ | ⟨index, id, _, _, _, refuses⟩
        · rw [compiled] at failed
          cases failed
        · exact absurd compiled refuses.not_ok
    | ok plain =>
        cases repeated : plain.duplicateIds with
        | nil =>
            rw [same outcome repeated, outcome] at compiled
            exact ⟨compiled, Except.ok.inj compiled ▸ repeated⟩
        | cons id later =>
            obtain ⟨index, _, refuses⟩ := compile_strict_second outcome repeated
            exact absurd compiled refuses.not_ok
  · rintro ⟨compiled, none⟩
    rw [same compiled none, compiled]

/-- Without repeated ids a program compiles to what it compiles to with them, unless there are any;
then the line that repeats an id first is refused. Of a fault and a repetition, the earlier is
reported. -/
theorem strict_compile_agrees (source : String) :
    let lines := Text.lines source.toList
    let permissive := compile ⟨true⟩ source
    let strict := compile ⟨false⟩ source
    (∀ graph, strict = .ok graph ↔ permissive = .ok graph ∧ graph.duplicateIds = []) ∧
    (∀ graph id later, permissive = .ok graph → graph.duplicateIds = id :: later →
      ∃ index, IsSecondDeclaration lines index id ∧ RefusesAt lines index id strict) ∧
    ∀ error, permissive = .error error →
      ((∀ index id, Redeclares lines index id → error.lineNumber ≤ index + 1) ∧
        strict = .error error) ∨
      ∃ index id, index + 1 < error.lineNumber ∧ Redeclares lines index id ∧
        (∀ earlier < index, ∀ other, ¬Redeclares lines earlier other) ∧
        RefusesAt lines index id strict :=
  ⟨fun _ => compile_strict_ok_iff, fun _ _ _ => compile_strict_second,
    fun _ => compile_strict_error⟩

def sampleRepetition : String :=
  "goal g1 Ship\ntask g1 Draft\nnothing"

theorem strict_compile_agrees_of_sampleRepetition :
    ∃ error, compile ⟨true⟩ sampleRepetition = .error error ∧ error.lineNumber = 3 ∧
      ∃ index id, index + 1 < 3 ∧
        RefusesAt (Text.lines sampleRepetition.toList) index id
          (compile ⟨false⟩ sampleRepetition) := by
  have failed : compile ⟨true⟩ sampleRepetition =
      .error ⟨3, "nothing".toList, .invalidStatement "nothing".toList⟩ := by
    rw [compile_eq_error_iff]
    rfl
  have again : Redeclares (Text.lines sampleRepetition.toList) 1 "g1" := by
    refine ⟨?_, 0, Nat.zero_lt_one, ?_⟩
    · rw [DeclaresAt]
      decide +kernel
    · rw [DeclaresAt]
      decide +kernel
  refine ⟨_, failed, rfl, ?_⟩
  rcases (strict_compile_agrees sampleRepetition).2.2 _ failed with ⟨late, _⟩ | early
  · exact absurd (late 1 "g1" again) (by decide)
  · obtain ⟨index, id, bound, _, _, refuses⟩ := early
    exact ⟨index, id, bound, refuses⟩

end Authoring
