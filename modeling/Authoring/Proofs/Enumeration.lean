import Mathlib

/-! Lists that hold exactly what there is, in the order of its places. -/

namespace Authoring

variable {κ α : Type}

/-- The list holds every item once for each of its places, in the order of the places, and nothing
else. -/
def Enumerates [Preorder κ] (listed : List α) (present : κ → α → Prop) : Prop :=
  ∃ found : List (κ × α), found.Pairwise (fun earlier later => earlier.1 < later.1) ∧
    (∀ place item, (place, item) ∈ found ↔ present place item) ∧ listed = found.map Prod.snd

namespace Enumerates

section Order

variable [Preorder κ] {listed more : List α} {present other : κ → α → Prop}

theorem congr (enumerates : Enumerates listed present)
    (same : ∀ place item, present place item ↔ other place item) : Enumerates listed other := by
  obtain ⟨found, ordered, members, listed⟩ := enumerates
  exact ⟨found, ordered, fun place item => (members place item).trans (same place item), listed⟩

theorem unique (enumerates : Enumerates listed present) (again : Enumerates more present) :
    listed = more := by
  obtain ⟨found, ordered, members, rfl⟩ := enumerates
  obtain ⟨others, othersOrdered, othersMembers, rfl⟩ := again
  have nodup {places : List (κ × α)}
      (ordered : places.Pairwise fun earlier later => earlier.1 < later.1) : places.Nodup := by
    refine ordered.imp ?_
    rintro entry _ less rfl
    exact lt_irrefl _ less
  have perm : found.Perm others := (List.perm_ext_iff_of_nodup (nodup ordered)
    (nodup othersOrdered)).mpr fun ⟨place, item⟩ =>
      (members place item).trans (othersMembers place item).symm
  rw [perm.eq_of_pairwise (fun _ _ _ _ less more => absurd more less.asymm) ordered othersOrdered]

theorem filter (enumerates : Enumerates listed present) (test : α → Bool) :
    Enumerates (listed.filter test) fun place item => present place item ∧ test item = true := by
  obtain ⟨found, ordered, members, rfl⟩ := enumerates
  refine ⟨found.filter fun entry => test entry.2, ordered.filter _, fun place item => ?_, ?_⟩
  · rw [List.mem_filter, members]
  · rw [List.filter_map]
    rfl

theorem nil (nothing : ∀ place item, ¬present place item) : Enumerates [] present :=
  ⟨[], .nil, fun place item => by simp [nothing place item], rfl⟩

theorem nothing (enumerates : Enumerates [] present) (place : κ) (item : α) :
    ¬present place item := by
  intro held
  obtain ⟨found, -, members, none⟩ := enumerates
  rw [← members, List.map_eq_nil_iff.mp none.symm] at held
  cases held

end Order

/-! Items at the positions of a list -/

section Positions

variable {listed : List α} {present : Nat → α → Prop}

theorem skip (later : Enumerates listed fun position => present (position + 1))
    (nothing : ∀ item, ¬present 0 item) : Enumerates listed present := by
  obtain ⟨found, ordered, members, rfl⟩ := later
  refine ⟨found.map fun entry => (entry.1 + 1, entry.2), ?_, fun position item => ?_, ?_⟩
  · rw [List.pairwise_map]
    exact ordered.imp Nat.succ_lt_succ
  · cases position with
    | zero => simp [nothing item]
    | succ position => simp [← members]
  · rw [List.map_map]
    rfl

theorem cons {first : α} (later : Enumerates listed fun position => present (position + 1))
    (only : ∀ item, present 0 item ↔ item = first) : Enumerates (first :: listed) present := by
  obtain ⟨found, ordered, members, rfl⟩ := later
  refine ⟨(0, first) :: found.map fun entry => (entry.1 + 1, entry.2), ?_,
    fun position item => ?_, ?_⟩
  · rw [List.pairwise_cons, List.pairwise_map]
    refine ⟨fun entry member => ?_, ordered.imp Nat.succ_lt_succ⟩
    obtain ⟨_, _, rfl⟩ := List.mem_map.mp member
    exact Nat.succ_pos _
  · cases position with
    | zero => simp [only]
    | succ position => simp [← members]
  · rw [List.map_cons, List.map_map]
    rfl

end Positions

end Enumerates

/-! Sections one after the other -/

/-- What is in numbered sections. A place starts with the number of its section. -/
inductive InSections (sections : List (List Nat → α → Prop)) : List Nat → α → Prop where
  | inside (number : Nat) {under : List Nat → α → Prop} {place : List Nat} {item : α}
      (found : sections[number]? = some under) (held : under place item) :
      InSections sections (number :: place) item

section Sections

variable {sections : List (List Nat → α → Prop)} {under : List Nat → α → Prop}
  {listed more : List α} {place : List Nat} {item : α}

theorem inSections_concat : InSections (sections ++ [under]) place item ↔
    InSections sections place item ∨
      ∃ rest, place = sections.length :: rest ∧ under rest item := by
  constructor
  · rintro ⟨number, found, held⟩
    rcases Nat.lt_trichotomy number sections.length with inside | rfl | outside
    · rw [List.getElem?_append_left inside] at found
      exact .inl (.inside number found held)
    · rw [List.getElem?_concat_length] at found
      cases found
      exact .inr ⟨_, rfl, held⟩
    · rw [List.getElem?_eq_none (by simpa using outside)] at found
      cases found
  · rintro (⟨number, found, held⟩ | ⟨rest, rfl, held⟩)
    · have inside := (List.getElem?_eq_some_iff.mp found).1
      exact .inside number (by rw [List.getElem?_append_left inside, found]) held
    · exact .inside sections.length List.getElem?_concat_length held

theorem Enumerates.nextSection (before : Enumerates listed (InSections sections))
    (added : Enumerates more under) :
    Enumerates (listed ++ more) (InSections (sections ++ [under])) := by
  obtain ⟨found, ordered, members, rfl⟩ := before
  obtain ⟨others, othersOrdered, othersMembers, rfl⟩ := added
  refine ⟨found ++ others.map fun entry => (sections.length :: entry.1, entry.2), ?_,
    fun place item => ?_, ?_⟩
  · rw [List.pairwise_append, List.pairwise_map]
    refine ⟨ordered, othersOrdered.imp fun less => List.cons_lt_cons_iff.mpr (.inr ⟨rfl, less⟩), ?_⟩
    rintro ⟨place, item⟩ member _ listed
    obtain ⟨entry, -, rfl⟩ := List.mem_map.mp listed
    obtain ⟨number, inside, -⟩ := (members place item).mp member
    exact List.cons_lt_cons_iff.mpr (.inl (List.getElem?_eq_some_iff.mp inside).1)
  · rw [List.mem_append, members, inSections_concat, List.mem_map]
    simp only [Prod.exists, Prod.mk.injEq, othersMembers]
    refine or_congr_right ⟨?_, ?_⟩
    · rintro ⟨rest, item, held, rfl, rfl⟩
      exact ⟨rest, rfl, held⟩
    · rintro ⟨rest, rfl, held⟩
      exact ⟨rest, item, held, rfl, rfl⟩
  · rw [List.map_append, List.map_map]
    rfl

theorem enumerates_noSection : Enumerates ([] : List α) (InSections []) :=
  .nil fun place item held => by
    obtain ⟨number, found, -⟩ := held
    cases found

theorem Enumerates.firstSection (only : Enumerates more under) :
    Enumerates more (InSections [under]) :=
  enumerates_noSection.nextSection only

end Sections

end Authoring
