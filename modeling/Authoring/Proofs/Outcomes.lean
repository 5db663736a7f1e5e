import Mathlib

/-! Computations that may fail, taken apart. -/

namespace Authoring

variable {α β ε : Type} {outcome : Except ε α}

theorem map_eq_ok_iff {change : α → β} {result : β} :
    outcome.map change = .ok result ↔ ∃ value, outcome = .ok value ∧ change value = result := by
  cases outcome <;> simp [Except.map]

theorem map_eq_error_iff {change : α → β} {error : ε} :
    outcome.map change = .error error ↔ outcome = .error error := by
  cases outcome <;> simp [Except.map]

theorem bind_eq_ok_iff {next : α → Except ε β} {result : β} :
    outcome >>= next = .ok result ↔ ∃ value, outcome = .ok value ∧ next value = .ok result := by
  cases outcome <;> simp [bind, Except.bind]

theorem bind_ok_eq_error_iff {change : α → β} {error : ε} :
    (outcome >>= fun value => .ok (change value)) = .error error ↔ outcome = .error error := by
  cases outcome <;> simp [bind, Except.bind]

theorem toOption_eq_some_iff {result : α} :
    outcome.toOption = some result ↔ outcome = .ok result := by
  cases outcome <;> simp [Except.toOption]

theorem mapM_eq_filterMap {read : α → Except ε β} {items : List α} {results : List β}
    (done : items.mapM read = .ok results) :
    results = items.filterMap fun item => (read item).toOption := by
  induction items generalizing results with
  | nil =>
      cases done
      rfl
  | cons item rest ih =>
      simp only [List.mapM_cons, bind_eq_ok_iff] at done
      obtain ⟨found, first, others, later, same⟩ := done
      cases same
      rw [List.filterMap_cons, first, ← ih later]
      rfl

theorem exists_of_mapM {read : α → Except ε β} {items : List α} {results : List β}
    (done : items.mapM read = .ok results) {result : β} (member : result ∈ results) :
    ∃ item ∈ items, read item = .ok result := by
  rw [mapM_eq_filterMap done] at member
  obtain ⟨item, listed, found⟩ := List.mem_filterMap.mp member
  exact ⟨item, listed, toOption_eq_some_iff.mp found⟩

theorem mapM_eq_error_iff {read : α → Except ε β} {items : List α} {error : ε} :
    items.mapM read = .error error ↔ ∃ item,
      items.find? (fun item => !(read item).isOk) = some item ∧ read item = .error error := by
  induction items with
  | nil => simp [pure, Except.pure]
  | cons item rest ih =>
      rw [List.mapM_cons, List.find?_cons]
      cases first : read item with
      | error problem => simp [first, bind, Except.bind, Except.isOk, Except.toBool]
      | ok result =>
          have passes : (!(Except.ok result : Except ε β).isOk) = false := rfl
          rw [passes, ← ih]
          cases rest.mapM read <;> simp [bind, Except.bind, pure, Except.pure]

theorem exists_mapM_eq_ok_iff {read : α → Except ε β} {items : List α} :
    (∃ results, items.mapM read = .ok results) ↔
      ∀ item ∈ items, ∃ result, read item = .ok result := by
  induction items with
  | nil => simp [pure, Except.pure]
  | cons item rest ih =>
      rw [List.forall_mem_cons, ← ih]
      simp only [List.mapM_cons, bind_eq_ok_iff]
      constructor
      · rintro ⟨_, first, found, others, later, _⟩
        exact ⟨⟨first, found⟩, others, later⟩
      · rintro ⟨⟨first, found⟩, others, later⟩
        exact ⟨first :: others, first, found, others, later, rfl⟩

end Authoring
