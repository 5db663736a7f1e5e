import Mathlib
import Authoring.Deliverable.Rules
import Authoring.Graph.Basic
import Authoring.Proofs.Repeats

/-! Ids that come more than once, among the nodes of a graph and among the sources of a deliverable.
Each of them is listed once, by the place where it comes for the second time. A single pass finds
them that remembers what it has read and what it has listed. -/

namespace Authoring

section Lists

variable {α : Type} [DecidableEq α]

/-- The list holds each entry that comes at least twice, and each of them once, in the order of
their second occurrences. -/
structure ListsRepeats (entries listed : List α) : Prop where
  once : listed.Nodup
  mem_iff : ∀ entry, entry ∈ listed ↔ List.Duplicate entry entries
  ordered : listed.Pairwise fun earlier later => ∃ place next, place < next ∧
    ComesAgain entries place earlier ∧ ComesAgain entries next later

variable {entries listed more : List α} {entry : α} {place later : Nat}

/-! Second occurrences -/

theorem count_take_lt (found : entries[place]? = some entry) (before : place < later) :
    (entries.take place).count entry < (entries.take later).count entry := by
  have here : (entries.take (place + 1)).count entry = (entries.take place).count entry + 1 := by
    rw [List.take_add_one, found, Option.toList_some, List.count_append, List.count_singleton_self]
  have onward := (List.take_sublist_take_left (l := entries)
    (Nat.succ_le_of_lt before)).count_le entry
  rw [Nat.succ_eq_add_one, here] at onward
  omega

theorem ComesAgain.place_unique (again : ComesAgain entries place entry)
    (other : ComesAgain entries later entry) : place = later := by
  have notBefore {first second : Nat} (again : ComesAgain entries first entry)
      (other : ComesAgain entries second entry) : ¬first < second := by
    intro before
    have more := count_take_lt again.1 before
    rw [again.2, other.2] at more
    exact lt_irrefl _ more
  exact le_antisymm (not_lt.mp (notBefore other again)) (not_lt.mp (notBefore again other))

theorem exists_occurrence_iff {number : Nat} : number < entries.count entry ↔
    ∃ place, entries[place]? = some entry ∧ (entries.take place).count entry = number := by
  constructor
  · intro enough
    induction entries generalizing number with
    | nil => simp at enough
    | cons first rest ih =>
        by_cases same : first = entry
        · rw [same, List.count_cons_self] at enough
          cases number with
          | zero => exact ⟨0, by rw [same]; rfl, rfl⟩
          | succ number =>
              obtain ⟨place, found, before⟩ := ih (Nat.lt_of_succ_lt_succ enough)
              refine ⟨place + 1, found, ?_⟩
              rw [same, List.take_succ_cons, List.count_cons_self, before]
        · rw [List.count_cons_of_ne same] at enough
          obtain ⟨place, found, before⟩ := ih enough
          exact ⟨place + 1, found, by rw [List.take_succ_cons, List.count_cons_of_ne same, before]⟩
  · rintro ⟨place, found, rfl⟩
    have whole := count_take_lt found (List.getElem?_eq_some_iff.mp found).1
    rwa [List.take_length] at whole

theorem exists_comesAgain_iff :
    (∃ place, ComesAgain entries place entry) ↔ List.Duplicate entry entries := by
  rw [List.duplicate_iff_two_le_count]
  exact exists_occurrence_iff.symm

theorem listsRepeats_of_enumerates (listing : Enumerates listed (ComesAgain entries)) :
    ListsRepeats entries listed := by
  obtain ⟨found, ordered, members, rfl⟩ := listing
  have placed : (found.map Prod.snd).Pairwise fun earlier later => ∃ place next, place < next ∧
      ComesAgain entries place earlier ∧ ComesAgain entries next later := by
    rw [List.pairwise_map]
    refine ordered.imp_of_mem fun first second less => ?_
    exact ⟨_, _, less, (members _ _).mp first, (members _ _).mp second⟩
  refine ⟨placed.imp ?_, fun entry => ?_, placed⟩
  · rintro entry _ ⟨place, next, less, again, other⟩ rfl
    exact less.ne (again.place_unique other)
  · rw [← exists_comesAgain_iff, List.mem_map]
    constructor
    · rintro ⟨⟨place, _⟩, member, rfl⟩
      exact ⟨place, (members _ _).mp member⟩
    · rintro ⟨place, again⟩
      exact ⟨(place, entry), (members _ _).mpr again, rfl⟩

theorem ListsRepeats.unique (lists : ListsRepeats entries listed)
    (other : ListsRepeats entries more) : listed = more := by
  have perm : listed.Perm more := (List.perm_ext_iff_of_nodup lists.once other.once).mpr
    fun entry => (lists.mem_iff entry).trans (other.mem_iff entry).symm
  refine perm.eq_of_pairwise ?_ lists.ordered other.ordered
  rintro first second - - ⟨place, next, less, again, later⟩ ⟨back, front, more, last, first⟩
  rw [again.place_unique first, later.place_unique last] at less
  exact absurd more less.asymm

theorem repeats_iff : ListsRepeats entries listed ↔ listed = repeats entries := by
  have lists := listsRepeats_of_enumerates (enumerates_repeats entries)
  constructor
  · exact fun other => other.unique lists
  · rintro rfl
    exact lists

example : repeats ["b", "a", "c", "a", "a", "b"] = ["a", "b"] := by decide

/-! The pass -/

/-- What a pass has read, each entry once, and what it has listed. -/
structure Pass (α : Type) where
  seen : List α
  listed : List α

namespace Pass

def start : Pass α :=
  ⟨[], []⟩

def next (pass : Pass α) (entry : α) : Pass α where
  seen := pass.seen.insert entry
  listed :=
    if entry ∈ pass.seen ∧ entry ∉ pass.listed then pass.listed ++ [entry] else pass.listed

def through (pass : Pass α) (entries : List α) : Pass α :=
  entries.foldl next pass

structure Knows (pass : Pass α) (entries : List α) : Prop where
  seen : ∀ entry, entry ∈ pass.seen ↔ entry ∈ entries
  listed : ∀ entry, entry ∈ pass.listed ↔ 2 ≤ entries.count entry

variable {pass : Pass α}

theorem knows_start : (start : Pass α).Knows [] :=
  ⟨fun _ => Iff.rfl, fun _ => by simp [start]⟩

theorem Knows.listed_next (knows : pass.Knows entries) (entry : α) :
    (pass.next entry).listed = pass.listed ++ if entries.count entry = 1 then [entry] else [] := by
  have again : entry ∈ pass.seen ∧ entry ∉ pass.listed ↔ entries.count entry = 1 := by
    rw [knows.seen, knows.listed, ← List.count_pos_iff]
    omega
  simp only [next, again]
  split
  · rfl
  · exact (List.append_nil _).symm

theorem Knows.next (knows : pass.Knows entries) (entry : α) :
    (pass.next entry).Knows (entry :: entries) := by
  refine ⟨fun other => ?_, fun other => ?_⟩
  · rw [Pass.next, List.mem_insert_iff, knows.seen, List.mem_cons]
  · rw [knows.listed_next, List.mem_append, knows.listed]
    rcases eq_or_ne entry other with rfl | different
    · have here : entry ∈ (if entries.count entry = 1 then [entry] else []) ↔
          entries.count entry = 1 := by
        split_ifs with once <;> simp [once]
      rw [here, List.count_cons_self]
      omega
    · have elsewhere : other ∉ (if entries.count entry = 1 then [entry] else []) := by
        split_ifs <;> simp [different.symm]
      rw [List.count_cons_of_ne different, or_iff_left elsewhere]

theorem Knows.listed_through (knows : pass.Knows listed) (entries : List α) :
    (pass.through entries).listed = pass.listed ++ repeatsFrom listed entries := by
  induction entries generalizing pass listed with
  | nil => simp [through, repeatsFrom]
  | cons entry rest ih =>
      rw [through, List.foldl_cons, ← through, ih (knows.next entry), knows.listed_next,
        repeatsFrom, List.append_assoc]
      split <;> rfl

theorem listed_start_through (entries : List α) :
    (start.through entries).listed = repeats entries :=
  knows_start.listed_through entries

end Pass

structure IsRepeatsOf (listed entries : List α) : Prop where
  iff : ∀ other, ListsRepeats entries other ↔ other = listed
  eq_nil_iff : listed = [] ↔ entries.Nodup
  through : (Pass.start.through entries).listed = listed

theorem isRepeatsOf_repeats (entries : List α) : IsRepeatsOf (repeats entries) entries where
  iff := fun _ => repeats_iff
  eq_nil_iff := repeats_eq_nil_iff
  through := Pass.listed_start_through entries

end Lists

theorem duplicateSources_eq (sources : List Source) :
    Rules.duplicateSources sources =
      if (sources.map Source.id).Nodup then []
      else [.duplicateSources (repeats (Rules.sourceIds sources))] := by
  have empty : repeats (Rules.sourceIds sources) = [] ↔ (sources.map Source.id).Nodup :=
    repeats_eq_nil_iff
  rw [Rules.duplicateSources, Rules.report]
  by_cases distinct : (sources.map Source.id).Nodup
  · simp [distinct, empty.mpr distinct]
  · have some : (repeats (Rules.sourceIds sources)).isEmpty = false := by
      rwa [List.isEmpty_eq_false_iff, ne_eq, empty]
    simp [distinct, some]

/-- The duplicate ids of a graph are the ids that come at least twice among its nodes, each once and
by the place of its second occurrence. Those of a list of sources are found in the same way, and
where there are any, they break one rule together. -/
theorem duplicates_listed (graph : Graph) (sources : List Source) :
    IsRepeatsOf graph.duplicateIds (graph.nodes.map Node.id) ∧
    IsRepeatsOf (repeats (Rules.sourceIds sources)) (sources.map Source.id) ∧
    Rules.duplicateSources sources =
      if (sources.map Source.id).Nodup then []
      else [.duplicateSources (repeats (Rules.sourceIds sources))] :=
  ⟨isRepeatsOf_repeats _, isRepeatsOf_repeats _, duplicateSources_eq sources⟩

end Authoring
