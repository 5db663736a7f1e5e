import Mathlib
import Authoring.Deliverable.Contracts
import Authoring.Proofs.Contract.Location
import Authoring.Proofs.Text.Runs

/-! The lines that tell violations. A line names the rule that is broken, the path and the
parameters, and it tells which they are as long as no name on the path has a space in it. -/

namespace Authoring

theorem spaced_inj {one other rest more : List Char} (solid : ' ' ∉ one) (otherSolid : ' ' ∉ other)
    (same : one ++ ' ' :: rest = other ++ ' ' :: more) : one = other ∧ rest = more := by
  have run {word behind : List Char} (solid : ' ' ∉ word) :
      Text.IsRun (fun c => c != ' ') (word ++ ' ' :: behind) word (' ' :: behind) := by
    refine ⟨rfl, fun c member => ?_, fun c first => ?_⟩
    · rw [bne_iff_ne]
      rintro rfl
      exact solid member
    · cases first
      rfl
  obtain ⟨words, rests⟩ := (run solid).unique (same ▸ run otherSolid)
  exact ⟨words, (List.cons.inj rests).2⟩

theorem Problem.rule_solid (problem : Problem) : ' ' ∉ problem.rule.toList := by
  cases problem <;> simp [rule]

theorem Problem.params_object (problem : Problem) :
    ∃ name value rest, problem.params = .object ((name, value) :: rest) := by
  cases problem <;> exact ⟨_, _, _, rfl⟩

theorem Problem.params_opens (problem : Problem) :
    ∃ rest, problem.params.toText.toList = '\x7b' :: rest := by
  obtain ⟨name, value, rest, object⟩ := problem.params_object
  rw [object, Json.toText, String.toList_ofList, Json.compact]
  exact ⟨_, rfl⟩

namespace Violation

variable {violation left right : Violation}

theorem toList_text (violation : Violation) :
    violation.text.toList = violation.problem.rule.toList ++ ' ' ::
      ((if violation.path = [] then []
        else 'a' :: 't' :: ' ' :: (violation.pathText.toList ++ [' '])) ++
          violation.problem.params.toText.toList) := by
  obtain ⟨path, problem⟩ := violation
  cases path with
  | nil =>
      have written : text ⟨[], problem⟩ = problem.rule ++ " " ++ problem.params.toText := rfl
      simp [written]
  | cons step rest =>
      have written : text ⟨step :: rest, problem⟩ = problem.rule ++ " at " ++
        pathText ⟨step :: rest, problem⟩ ++ " " ++ problem.params.toText := rfl
      simp [written]

theorem pathText_here (here : violation.path = []) : violation.pathText = "" := by
  rw [pathText, here]
  rfl

theorem text_inj (solid : ' ' ∉ left.pathText.toList) (otherSolid : ' ' ∉ right.pathText.toList)
    (same : left.text = right.text) :
    left.problem.rule = right.problem.rule ∧ left.pathText = right.pathText ∧
      left.problem.params.toText = right.problem.params.toText := by
  have letters := congrArg String.toList same
  rw [toList_text, toList_text] at letters
  obtain ⟨rules, rests⟩ := spaced_inj left.problem.rule_solid right.problem.rule_solid letters
  obtain ⟨params, opens⟩ := left.problem.params_opens
  obtain ⟨otherParams, otherOpens⟩ := right.problem.params_opens
  refine ⟨String.toList_inj.mp rules, ?_⟩
  by_cases here : left.path = []
  · by_cases otherHere : right.path = []
    · rw [if_pos here, if_pos otherHere] at rests
      exact ⟨(pathText_here here).trans (pathText_here otherHere).symm, String.toList_inj.mp rests⟩
    · rw [if_pos here, if_neg otherHere, opens] at rests
      cases rests
  · by_cases otherHere : right.path = []
    · rw [if_neg here, if_pos otherHere, otherOpens] at rests
      cases rests
    · rw [if_neg here, if_neg otherHere] at rests
      simp only [List.cons_append, List.append_assoc, List.nil_append, List.cons.injEq, true_and]
        at rests
      obtain ⟨paths, params⟩ := spaced_inj solid otherSolid rests
      exact ⟨String.toList_inj.mp paths, String.toList_inj.mp params⟩

theorem text_wrongType_array (name : String) : text ⟨[.field name], .wrongType "array"⟩ =
    "type at /" ++ name ++ " \x7b\"type\":\"array\"\x7d" := by
  have params : (Problem.wrongType "array").params.toText = "\x7b\"type\":\"array\"\x7d" := by
    decide
  refine String.toList_inj.mp ?_
  rw [toList_text, toList_pathText, params]
  simp [segments, Step.segment, Problem.rule]

end Violation

namespace Contract

inductive Unspaced : Contract → Prop
  | object {fields : List (String × Presence × Contract)} {names : List String}
      (solid : ∀ field ∈ fields, ' ' ∉ field.1.toList)
      (inside : ∀ field ∈ fields, Unspaced field.2.2) : Unspaced (.object fields names)
  | array {minItems : Nat} {maxItems : Option Nat} {contract : Contract}
      (inside : Unspaced contract) : Unspaced (.array minItems maxItems contract)
  | string {contract : StringContract} : Unspaced (.string contract)
  | integer {minimum maximum : Option Int64} : Unspaced (.integer minimum maximum)
  | const {text : String} : Unspaced (.const text)

variable {contract : Contract} {document : Json} {violation : Violation}

theorem Unspaced.segments (unspaced : contract.Unspaced)
    (found : violation ∈ contract.check document) :
    ∀ segment ∈ violation.segments, ' ' ∉ segment.toList := by
  have here {violation : Violation} (root : violation.path = []) :
      ∀ segment ∈ violation.segments, ' ' ∉ segment.toList := by
    rw [Violation.segments, root]
    exact List.forall_mem_nil _
  induction unspaced generalizing document violation with
  | @object fields names solid _ ih =>
      cases document with
      | object held =>
          rcases mem_check_object_cases found with
            root | ⟨field, listed, value, _, inner, inside, rfl⟩
          · exact here root
          · exact List.forall_mem_cons.mpr ⟨solid field listed, ih field listed inside⟩
      | null | bool | number | string | array =>
          exact here ((own_wrongType "object").here violation found)
  | array _ ih =>
      cases document with
      | array items =>
          rcases mem_check_array_cases found with root | ⟨position, item, _, inner, inside, rfl⟩
          · exact here root
          · have solid : ' ' ∉ (toString position).toList := fun member =>
              absurd (Decimal.isDigit_of_mem_toString member) (by decide)
            exact List.forall_mem_cons.mpr ⟨solid, ih inside⟩
      | null | bool | number | string | object =>
          exact here ((own_wrongType "array").here violation found)
  | string => exact here ((own_check_string _ document).here violation found)
  | integer => exact here ((own_check_integer _ _ document).here violation found)
  | const => exact here ((own_check_const _ document).here violation found)

theorem Unspaced.pathText (unspaced : contract.Unspaced)
    (found : violation ∈ contract.check document) : ' ' ∉ violation.pathText.toList := by
  rw [Violation.toList_pathText]
  intro member
  obtain ⟨segment, listed, inside⟩ := List.mem_flatMap.mp member
  exact unspaced.segments found segment listed (List.mem_of_ne_of_mem (by decide) inside)

end Contract

section Kinds

open Contract (Unspaced)

theorem sourcesContract_unspaced : sourcesContract.Unspaced := by
  refine .array (.object (by decide) ?_)
  simp only [List.forall_mem_cons]
  exact ⟨.string, .string, .string, .string, .string, List.forall_mem_nil _⟩

theorem slideContract_unspaced : slideContract.Unspaced := by
  have figure : figureContract.Unspaced := by
    refine .object (by decide) ?_
    simp only [List.forall_mem_cons]
    exact ⟨.string, .string, List.forall_mem_nil _⟩
  refine .object (by decide) ?_
  simp only [List.forall_mem_cons]
  exact ⟨.string, .array .string, .array figure, .array .string, .string, List.forall_mem_nil _⟩

theorem cardContract_unspaced : cardContract.Unspaced := by
  refine .object (by decide) ?_
  simp only [List.forall_mem_cons]
  exact ⟨.string, .string, .array .string, .array .string, List.forall_mem_nil _⟩

theorem DocumentKind.contract_unspaced (kind : DocumentKind) : kind.contract.Unspaced := by
  cases kind with
  | slideDeck =>
      refine .object (by decide) ?_
      simp only [List.forall_mem_cons]
      refine ⟨.const, .object (by decide) ?_, .array slideContract_unspaced,
        sourcesContract_unspaced, List.forall_mem_nil _⟩
      simp only [List.forall_mem_cons]
      exact ⟨.string, .integer, List.forall_mem_nil _⟩
  | onePager =>
      refine .object (by decide) ?_
      simp only [List.forall_mem_cons]
      refine ⟨.const, .object (by decide) ?_, .string, .array .string, .array .string,
        .array .string, .array .string, sourcesContract_unspaced, List.forall_mem_nil _⟩
      simp only [List.forall_mem_cons]
      exact ⟨.string, .integer, List.forall_mem_nil _⟩
  | flashcards =>
      refine .object (by decide) ?_
      simp only [List.forall_mem_cons]
      refine ⟨.const, .object (by decide) ?_, .array cardContract_unspaced,
        sourcesContract_unspaced, List.forall_mem_nil _⟩
      simp only [List.forall_mem_cons]
      exact ⟨.string, List.forall_mem_nil _⟩

/-- Whatever the documents are, a line about the shape of one tells which rule is broken in which
place. -/
theorem DocumentKind.line_tells {kind other : DocumentKind} {document elsewhere : Json}
    {left right : Violation} (found : left ∈ kind.contract.check document)
    (again : right ∈ other.contract.check elsewhere) (same : left.text = right.text) :
    left.problem.rule = right.problem.rule ∧ left.pathText = right.pathText ∧
      left.problem.params.toText = right.problem.params.toText :=
  Violation.text_inj (kind.contract_unspaced.pathText found)
    (other.contract_unspaced.pathText again) same

end Kinds

end Authoring
