import Mathlib
import Authoring.Proofs.Outcomes
import Authoring.Proofs.Program.Duplicates
import Authoring.Proofs.Program.Nodes
import Authoring.Proofs.Value.Json

/-! What compiled programs hold. Every node comes from a line, no name is given two values, and no
value has a null or a map anywhere. -/

namespace Authoring

namespace Value

mutual
def Written : Value → Prop
  | .null => False
  | .map _ => False
  | .list items => WrittenItems items
  | _ => True

def WrittenItems : List Value → Prop
  | [] => True
  | item :: rest => item.Written ∧ WrittenItems rest
end

theorem writtenItems_iff {items : List Value} :
    WrittenItems items ↔ ∀ item ∈ items, item.Written := by
  induction items with
  | nil => simp [WrittenItems]
  | cons item rest ih => simp [WrittenItems, ih]

theorem written_of_isNumeric {value : Value} (numeric : value.isNumeric = true) :
    value.Written := by
  cases value with
  | int | float => trivial
  | null | bool | string | list | map => cases numeric

mutual
theorem Written.distinct : {value : Value} → value.Written → value.Distinct
  | .bool _, _ => trivial
  | .int _, _ => trivial
  | .float _, _ => trivial
  | .string _, _ => trivial
  | .list _, written => WrittenItems.distinct written

theorem WrittenItems.distinct : {items : List Value} → WrittenItems items → DistinctItems items
  | [], _ => trivial
  | _ :: _, written => ⟨written.1.distinct, WrittenItems.distinct written.2⟩
end

end Value

structure Properties.Written (properties : Properties) : Prop where
  distinct : (Fields.keys properties).Nodup
  values : ∀ property ∈ properties, property.2.Written

theorem Properties.Written.none : Properties.Written [] :=
  ⟨List.nodup_nil, fun _ member => nomatch member⟩

theorem Properties.Written.map_distinct {properties : Properties} (written : properties.Written) :
    (Value.map properties).Distinct :=
  ⟨written.distinct, Value.distinctFields_iff.mpr fun property member =>
    (written.values property member).distinct⟩

namespace Literal

theorem number?_isNumeric {text : List Char} {value : Value} (found : number? text = some value) :
    value.isNumeric = true := by
  simp only [number?] at found
  split at found
  all_goals
    split at found
    · cases found
    · split at found
      · split_ifs at found <;> (rw [← Option.some.inj found]; rfl)
      · split at found
        · cases found
        · rw [← Option.some.inj found]
          rfl
      · cases found

theorem value_written (text : List Char) : (value text).Written := by
  fun_induction value text with
  | case1 => trivial
  | case2 => trivial
  | case3 => trivial
  | case4 text _ _ _ number found => exact Value.written_of_isNumeric (number?_isNumeric found)
  | case5 text _ _ _ _ entries list ih =>
      refine Value.writtenItems_iff.mpr fun item member => ?_
      obtain ⟨⟨entry, listed⟩, -, rfl⟩ := List.mem_map.mp member
      exact ih entry listed
  | case6 => trivial

theorem property_written {entry : List Char} {property : String × Value}
    (read : Literal.property entry = .ok property) : property.2.Written := by
  simp only [Literal.property] at read
  split at read
  · cases read
  · split at read
    · cases read
    · cases read
      exact value_written _

theorem object_parts {source : List Char} {properties : Properties}
    (read : object source = .ok properties) :
    (Fields.keys properties).Nodup ∧ ∃ body, body? source = some body ∧
      ∀ property ∈ properties, ∃ entry ∈ entries body, Literal.property entry = .ok property := by
  rw [object] at read
  split at read
  · cases read
  · rename_i body inside
    obtain ⟨found, pairs, same⟩ := bind_eq_ok_iff.mp read
    cases same
    refine ⟨Fields.collect_distinct found, body, inside, fun property member => ?_⟩
    exact exists_of_mapM pairs (Fields.mem_of_mem_collect member)

theorem object_written {source : List Char} {properties : Properties}
    (read : object source = .ok properties) : properties.Written := by
  obtain ⟨distinct, body, -, each⟩ := object_parts read
  refine ⟨distinct, fun property member => ?_⟩
  obtain ⟨entry, -, read⟩ := each property member
  exact property_written read

end Literal

namespace Statement

theorem properties_written {tail : List Char} {properties : Properties}
    (gives : TailGives tail properties) : properties.Written := by
  cases gives with
  | nothing => exact .none
  | noExpression => exact .none
  | expression => exact ⟨List.nodup_singleton _, List.forall_mem_singleton.mpr trivial⟩
  | object opening accepted => exact Literal.object_written accepted

theorem parse_written {line : List Char} {node : Node} (read : parse line = .ok (.node node)) :
    Properties.Written node.properties := by
  obtain ⟨parts, written⟩ := isNodeLine_of_parse read
  exact properties_written written.properties

end Statement

namespace Program

theorem parse_of_statement? {raw : List Char} {statement : Statement}
    (found : statement? raw = some statement) :
    Statement.parse (Text.trim raw) = .ok statement := by
  cases read : readLine raw with
  | error reason => simp [statement?, read, Except.toOption] at found
  | ok said =>
      rw [statement?_of_readLine read] at found
      rcases readLine_ok_cases read with ⟨-, rfl⟩ | ⟨other, -, parsed, rfl⟩
      · cases found
      · cases found
        exact parsed

end Program

variable {options : CompileOptions} {source : String} {graph : Graph}

theorem lines_of_compiled (compiled : compile options source = .ok graph) :
    let said := fun statement => ∃ raw ∈ Text.lines source.toList,
      Statement.parse (Text.trim raw) = .ok statement
    (∀ node ∈ graph.nodes, said (.node node)) ∧ ∀ edge ∈ graph.edges, said (.edge edge) := by
  obtain ⟨found, read, rfl⟩ := statements_of_compile compiled
  intro said
  have each : ∀ statement ∈ found, said statement := by
    intro statement listed
    rw [Program.statements_eq_filterMap read] at listed
    obtain ⟨raw, inside, spoken⟩ := List.mem_filterMap.mp listed
    exact ⟨raw, inside, Program.parse_of_statement? spoken⟩
  constructor
  · intro node member
    obtain ⟨statement, listed, declared⟩ := List.mem_filterMap.mp member
    cases statement with
    | edge link => cases declared
    | node other =>
        cases declared
        exact each _ listed
  · intro edge member
    obtain ⟨statement, listed, linked⟩ := List.mem_filterMap.mp member
    cases statement with
    | node declared => cases linked
    | edge other =>
        cases linked
        exact each _ listed

theorem compile_written (compiled : compile options source = .ok graph) :
    ∀ node ∈ graph.nodes, Properties.Written node.properties := by
  intro node member
  obtain ⟨raw, -, read⟩ := (lines_of_compiled compiled).1 node member
  exact Statement.parse_written read

end Authoring
