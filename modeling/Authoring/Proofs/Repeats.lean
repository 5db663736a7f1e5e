import Mathlib
import Authoring.Proofs.Enumeration
import Authoring.Fields

/-! Nothing comes more than once in a list without repeats, and what does is listed once, as is what
comes at all. -/

namespace Authoring

variable {α : Type} [BEq α]

def ComesAgain (entries : List α) (position : Nat) (entry : α) : Prop :=
  entries[position]? = some entry ∧ (entries.take position).count entry = 1

theorem enumerates_repeatsFrom (seen entries : List α) :
    Enumerates (repeatsFrom seen entries) fun position entry => entries[position]? = some entry ∧
      seen.count entry + (entries.take position).count entry = 1 := by
  induction entries generalizing seen with
  | nil => exact .nil (by simp)
  | cons entry rest ih =>
      have later : Enumerates (repeatsFrom (entry :: seen) rest) fun position other =>
          (entry :: rest)[position + 1]? = some other ∧
            seen.count other + ((entry :: rest).take (position + 1)).count other = 1 := by
        refine (ih (entry :: seen)).congr fun position other => ?_
        rw [List.getElem?_cons_succ, List.take_succ_cons, List.count_cons, List.count_cons]
        refine and_congr_right fun _ => ?_
        omega
      rw [repeatsFrom]
      split
      · rename_i again
        refine later.cons fun other => ?_
        simp only [List.getElem?_cons_zero, List.take_zero, List.count_nil, Option.some.injEq]
        exact ⟨fun found => found.1.symm, by rintro rfl; exact ⟨rfl, again⟩⟩
      · rename_i other
        refine later.skip ?_
        rintro _ ⟨⟨⟩, once⟩
        exact other once

theorem enumerates_repeats (entries : List α) :
    Enumerates (repeats entries) (ComesAgain entries) :=
  (enumerates_repeatsFrom [] entries).congr fun position entry => by
    rw [List.count_nil, Nat.zero_add, ComesAgain]

variable [LawfulBEq α]

theorem repeatsFrom_eq_nil_iff {seen entries : List α} (distinct : seen.Nodup) :
    repeatsFrom seen entries = [] ↔ entries.Nodup ∧ ∀ entry ∈ entries, entry ∉ seen := by
  induction entries generalizing seen with
  | nil => simp [repeatsFrom]
  | cons entry rest ih =>
      simp only [repeatsFrom]
      by_cases known : entry ∈ seen
      · rw [if_pos (List.count_eq_one_of_mem distinct known)]
        simp [known]
      · rw [if_neg (by simp [List.count_eq_zero_of_not_mem known]),
          ih (List.nodup_cons.mpr ⟨known, distinct⟩)]
        rw [List.nodup_cons, List.forall_mem_cons]
        simp only [List.mem_cons, not_or]
        constructor
        · rintro ⟨later, fresh⟩
          exact ⟨⟨fun member => (fresh entry member).1 rfl, later⟩, known,
            fun other member => (fresh other member).2⟩
        · rintro ⟨⟨fresh, later⟩, _, unseen⟩
          refine ⟨later, fun other member => ⟨?_, unseen other member⟩⟩
          rintro rfl
          exact fresh member

theorem repeats_eq_nil_iff {entries : List α} : repeats entries = [] ↔ entries.Nodup := by
  rw [repeats, repeatsFrom_eq_nil_iff List.nodup_nil]
  simp

theorem enumerates_firsts {β : Type} (read : β → Option α) (items : List β) :
    Enumerates (items.filterMap read).eraseDups fun position result =>
      (∃ item, items[position]? = some item ∧ read item = some result) ∧
        ∀ item ∈ items.take position, read item ≠ some result := by
  induction items generalizing read with
  | nil => exact .nil (by simp)
  | cons item rest ih =>
      cases found : read item with
      | none =>
        rw [List.filterMap_cons_none found]
        refine ((ih read).congr fun position result => ?_).skip ?_
        · simp [found]
        · simp [found]
      | some first =>
        rw [List.filterMap_cons_some found, List.eraseDups_cons, List.filter_filterMap]
        refine ((ih _).congr fun position result => ?_).cons fun result => ?_
        · simp only [List.getElem?_cons_succ, List.take_succ_cons, List.forall_mem_cons, found,
            Option.filter_eq_some_iff, Bool.not_eq_true', beq_eq_false_iff_ne, ne_eq,
            Option.some.injEq]
          constructor
          · rintro ⟨⟨other, listed, read, different⟩, fresh⟩
            exact ⟨⟨other, listed, read⟩, Ne.symm different, fun earlier member same =>
              fresh earlier member ⟨same, different⟩⟩
          · rintro ⟨⟨other, listed, read⟩, different, fresh⟩
            exact ⟨⟨other, listed, read, Ne.symm different⟩, fun earlier member same =>
              fresh earlier member same.1⟩
        · simp [found, eq_comm]

theorem enumerates_eraseDups (entries : List α) (test : α → Bool) :
    Enumerates (entries.filter test).eraseDups fun position entry =>
      entries[position]? = some entry ∧ test entry = true ∧ entry ∉ entries.take position := by
  rw [← List.filterMap_eq_filter]
  refine (enumerates_firsts _ entries).congr fun position entry => ?_
  simp only [Option.guard_eq_some_iff, ne_eq, not_and]
  constructor
  · rintro ⟨⟨_, listed, rfl, tested⟩, fresh⟩
    exact ⟨listed, tested, fun member => fresh _ member rfl tested⟩
  · rintro ⟨listed, tested, fresh⟩
    refine ⟨⟨entry, listed, rfl, tested⟩, ?_⟩
    rintro other member rfl
    exact absurd member fresh

end Authoring
