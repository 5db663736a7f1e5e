import Mathlib
import Authoring.Fields

/-! Looking names up in fields. Fields that are put in order answer as before, and two lists in
order that answer alike are one. -/

namespace Authoring.Fields

variable {α β : Type} {name : String}

theorem mem_of_get? {fields : Fields α} {value : α} (found : get? name fields = some value) :
    (name, value) ∈ fields := by
  induction fields with
  | nil => simp [get?] at found
  | cons field rest ih =>
      obtain ⟨key, held⟩ := field
      simp only [get?] at found
      split at found
      · rename_i same
        rw [← same, ← Option.some.inj found]
        exact List.mem_cons_self
      · exact List.mem_cons_of_mem _ (ih found)

theorem get?_eq_none_iff {fields : Fields α} : get? name fields = none ↔ name ∉ keys fields := by
  induction fields with
  | nil => simp [get?, keys]
  | cons field rest ih =>
      obtain ⟨key, held⟩ := field
      by_cases same : key = name
      · simp [get?, keys, same]
      · simpa [get?, keys, same, Ne.symm same] using ih

theorem get?_isSome_iff {fields : Fields α} : (get? name fields).isSome ↔ name ∈ keys fields := by
  rw [← not_iff_not, ← get?_eq_none_iff, Option.not_isSome_iff_eq_none]

theorem mem_keys_of_get? {fields : Fields α} {value : α} (found : get? name fields = some value) :
    name ∈ keys fields :=
  get?_isSome_iff.mp (by rw [found]; rfl)

theorem get?_of_mem {fields : Fields α} {value : α} (distinct : (keys fields).Nodup)
    (member : (name, value) ∈ fields) : get? name fields = some value := by
  induction fields with
  | nil => simp at member
  | cons field rest ih =>
      obtain ⟨key, held⟩ := field
      obtain ⟨fresh, distinct⟩ := List.nodup_cons.mp distinct
      rcases List.mem_cons.mp member with same | member
      · injection same with sameKey sameValue
        simp [get?, sameKey, sameValue]
      · have different : key ≠ name := by
          rintro rfl
          exact fresh (List.mem_map.mpr ⟨_, member, rfl⟩)
        simp only [get?, different, if_false]
        exact ih distinct member

theorem get?_append (left right : Fields α) :
    get? name (left ++ right) = (get? name left).or (get? name right) := by
  induction left with
  | nil => rfl
  | cons field rest ih =>
      obtain ⟨key, held⟩ := field
      simp only [List.cons_append, get?, ih]
      split <;> rfl

theorem get?_map (change : String → α → β) (fields : Fields α) :
    get? name (fields.map fun field => (field.1, change field.1 field.2)) =
      (get? name fields).map (change name) := by
  induction fields with
  | nil => rfl
  | cons field rest ih =>
      obtain ⟨key, held⟩ := field
      simp only [List.map_cons, get?]
      split
      · rename_i same
        rw [same]
        rfl
      · exact ih

theorem get?_filter_name (keep : String → Bool) (fields : Fields α) :
    get? name (fields.filter fun field => keep field.1) =
      if keep name then get? name fields else none := by
  induction fields with
  | nil => simp [get?]
  | cons field rest ih =>
      obtain ⟨key, held⟩ := field
      by_cases same : key = name
      · cases kept : keep name <;> simp [get?, same, kept, ih]
      · cases kept : keep key <;> simp [get?, same, kept, ih]

theorem get?_filter {keep : String × α → Bool} {fields : Fields α}
    (distinct : (keys fields).Nodup) :
    get? name (fields.filter keep) = (get? name fields).filter fun value => keep (name, value) := by
  induction fields with
  | nil => rfl
  | cons field rest ih =>
      obtain ⟨key, held⟩ := field
      obtain ⟨fresh, distinct⟩ := List.nodup_cons.mp distinct
      by_cases same : key = name
      · subst same
        cases kept : keep (key, held)
        · simp [get?, kept, ih distinct, get?_eq_none_iff.mpr fresh, Option.filter]
        · simp [get?, kept, Option.filter]
      · cases kept : keep (key, held) <;> simp [get?, kept, same, ih distinct]

theorem get?_insertOrdered (key : String) (value : α) (fields : Fields α) :
    get? name (insertOrdered key value fields) =
      if key = name then some value else get? name fields := by
  induction fields with
  | nil => rfl
  | cons field rest ih =>
      obtain ⟨first, held⟩ := field
      simp only [insertOrdered]
      split
      · rename_i same
        by_cases known : key = name <;> simp [get?, same, known]
      · split
        · rfl
        · rename_i different _
          by_cases known : key = name
          · have other : first ≠ name := fun same => different (same.trans known.symm)
            simpa [get?, other, known] using ih
          · simp only [get?, ih, known, if_false]

theorem get?_foldl_insertOrdered {pairs : List (String × α)} (distinct : (keys pairs).Nodup)
    (fields : Fields α) :
    get? name (pairs.foldl (fun fields pair => insertOrdered pair.1 pair.2 fields) fields) =
      (get? name pairs).or (get? name fields) := by
  induction pairs generalizing fields with
  | nil => rfl
  | cons pair rest ih =>
      obtain ⟨key, value⟩ := pair
      obtain ⟨fresh, distinct⟩ := List.nodup_cons.mp distinct
      rw [List.foldl_cons, ih distinct, get?_insertOrdered]
      by_cases same : key = name
      · have absent : get? name rest = none := get?_eq_none_iff.mpr (same ▸ fresh)
        simp [get?, same, absent]
      · simp [get?, same]

theorem get?_ordered {pairs : List (String × α)} (distinct : (keys pairs).Nodup) :
    get? name (ordered pairs) = get? name pairs := by
  rw [ordered, get?_foldl_insertOrdered distinct]
  simp [get?]

theorem mem_of_mem_insertOrdered {field : String × α} {key : String} {value : α}
    {fields : Fields α} (member : field ∈ insertOrdered key value fields) :
    field = (key, value) ∨ field ∈ fields := by
  induction fields with
  | nil => exact .inl (List.mem_singleton.mp member)
  | cons first rest ih =>
      obtain ⟨name, held⟩ := first
      simp only [insertOrdered] at member
      split at member
      · rcases List.mem_cons.mp member with same | member
        · exact .inl same
        · exact .inr (List.mem_cons_of_mem _ member)
      · split at member
        · exact List.mem_cons.mp member
        · rcases List.mem_cons.mp member with same | member
          · exact .inr (same ▸ List.mem_cons_self)
          · rcases ih member with new | old
            · exact .inl new
            · exact .inr (List.mem_cons_of_mem _ old)

theorem mem_of_mem_ordered {field : String × α} {pairs : List (String × α)}
    (member : field ∈ ordered pairs) : field ∈ pairs := by
  revert field
  apply List.foldlRecOn pairs
    (motive := fun fields : Fields α => ∀ {field}, field ∈ fields → field ∈ pairs)
  · simp
  · intro fields known pair listed field member
    rcases mem_of_mem_insertOrdered member with new | old
    · exact new ▸ listed
    · exact known old

def Ascending (fields : Fields α) : Prop :=
  (keys fields).Pairwise (· < ·)

theorem Ascending.distinct {fields : Fields α} (ascending : Ascending fields) :
    (keys fields).Nodup :=
  List.Pairwise.imp (fun less => ne_of_lt less) ascending

theorem mem_keys_insertOrdered {key : String} {value : α} {fields : Fields α} :
    name ∈ keys (insertOrdered key value fields) ↔ name = key ∨ name ∈ keys fields := by
  rw [← get?_isSome_iff, get?_insertOrdered, ← get?_isSome_iff]
  by_cases same : key = name
  · simp [same]
  · simp [same, Ne.symm same]

theorem insertOrdered_ascending (key : String) (value : α) {fields : Fields α}
    (ascending : Ascending fields) : Ascending (insertOrdered key value fields) := by
  induction fields with
  | nil => simp [insertOrdered, Ascending, keys]
  | cons field rest ih =>
      obtain ⟨first, held⟩ := field
      obtain ⟨least, later⟩ := List.pairwise_cons.mp ascending
      simp only [insertOrdered]
      split
      · rename_i same
        exact List.pairwise_cons.mpr ⟨same ▸ least, later⟩
      · rename_i different
        split
        · rename_i less
          refine List.pairwise_cons.mpr ⟨?_, ascending⟩
          intro other member
          rcases List.mem_cons.mp member with same | member
          · exact same ▸ less
          · exact lt_trans less (least other member)
        · rename_i notLess
          have less : first < key := lt_of_le_of_ne (not_lt.mp notLess) different
          refine List.pairwise_cons.mpr ⟨?_, ih later⟩
          intro other member
          rcases mem_keys_insertOrdered.mp member with same | member
          · exact same ▸ less
          · exact least other member

theorem ordered_ascending (pairs : List (String × α)) : Ascending (ordered pairs) := by
  apply List.foldlRecOn (motive := fun fields : Fields α => Ascending fields) pairs
  · exact List.Pairwise.nil
  · exact fun fields ascending pair _ => insertOrdered_ascending pair.1 pair.2 ascending

theorem Ascending.ext {left right : Fields α} (leftAscending : Ascending left)
    (rightAscending : Ascending right) (alike : ∀ name, get? name left = get? name right) :
    left = right := by
  induction left generalizing right with
  | nil =>
      cases right with
      | nil => rfl
      | cons field rest => simpa [get?] using alike field.1
  | cons field rest ih =>
      cases right with
      | nil => simpa [get?] using alike field.1
      | cons other later =>
          obtain ⟨key, value⟩ := field
          obtain ⟨otherKey, otherValue⟩ := other
          obtain ⟨least, ascending⟩ := List.pairwise_cons.mp leftAscending
          obtain ⟨otherLeast, otherAscending⟩ := List.pairwise_cons.mp rightAscending
          -- Each first name is found in the other list, where none comes before the first.
          have found : get? key ((otherKey, otherValue) :: later) = some value := by
            rw [← alike]
            simp [get?]
          have otherFound : get? otherKey ((key, value) :: rest) = some otherValue := by
            rw [alike]
            simp [get?]
          have sameKey : key = otherKey := by
            by_contra different
            have member : key ∈ keys later := by
              simp only [get?, Ne.symm different, if_false] at found
              exact mem_keys_of_get? found
            have otherMember : otherKey ∈ keys rest := by
              simp only [get?, different, if_false] at otherFound
              exact mem_keys_of_get? otherFound
            exact lt_asymm (otherLeast key member) (least otherKey otherMember)
          subst sameKey
          have sameValue : otherValue = value := by simpa [get?] using found
          subst sameValue
          congr 1
          apply ih ascending otherAscending
          intro name
          by_cases same : key = name
          · subst same
            rw [get?_eq_none_iff.mpr fun member => lt_irrefl _ (least _ member),
              get?_eq_none_iff.mpr fun member => lt_irrefl _ (otherLeast _ member)]
          · simpa [get?, same] using alike name

theorem ordered_eq_of_alike {left right : Fields α} (leftDistinct : (keys left).Nodup)
    (rightDistinct : (keys right).Nodup) (alike : ∀ name, get? name left = get? name right) :
    ordered left = ordered right := by
  apply (ordered_ascending left).ext (ordered_ascending right)
  intro name
  rw [get?_ordered leftDistinct, get?_ordered rightDistinct, alike]

theorem Ascending.ordered_eq {fields : Fields α} (ascending : Ascending fields) :
    ordered fields = fields := by
  apply (ordered_ascending fields).ext ascending
  intro name
  rw [get?_ordered ascending.distinct]

theorem insertOrdered_map (change : α → β) (key : String) (value : α) (fields : Fields α) :
    insertOrdered key (change value) (fields.map fun field => (field.1, change field.2)) =
      (insertOrdered key value fields).map fun field => (field.1, change field.2) := by
  induction fields with
  | nil => rfl
  | cons field rest ih =>
      obtain ⟨name, old⟩ := field
      simp only [List.map_cons, insertOrdered]
      split
      · rfl
      · split
        · rfl
        · rw [ih, List.map_cons]

theorem ordered_map (change : α → β) (pairs : List (String × α)) :
    ordered (pairs.map fun pair => (pair.1, change pair.2)) =
      (ordered pairs).map fun field => (field.1, change field.2) := by
  have kept : ∀ fields : Fields α,
      (pairs.map fun pair => (pair.1, change pair.2)).foldl
          (fun fields pair => insertOrdered pair.1 pair.2 fields)
          (fields.map fun field => (field.1, change field.2)) =
        (pairs.foldl (fun fields pair => insertOrdered pair.1 pair.2 fields) fields).map
          fun field => (field.1, change field.2) := by
    induction pairs with
    | nil => exact fun fields => rfl
    | cons pair rest ih =>
        intro fields
        have moved := insertOrdered_map change pair.1 pair.2 fields
        simp only [List.map_cons, List.foldl_cons, moved, ih]
  exact kept []

theorem get?_insert (key : String) (value : α) (fields : Fields α) :
    get? name (insert key value fields) = if key = name then some value else get? name fields := by
  induction fields with
  | nil => rfl
  | cons field rest ih =>
      obtain ⟨first, held⟩ := field
      simp only [insert]
      split
      · rename_i same
        by_cases known : key = name <;> simp [get?, same, known]
      · rename_i different
        by_cases known : key = name
        · have other : first ≠ name := fun same => different (same.trans known.symm)
          simpa [get?, other, known] using ih
        · simp only [get?, ih, known, if_false]

theorem insert_fresh {key : String} {value : α} {fields : Fields α} (fresh : key ∉ keys fields) :
    insert key value fields = fields ++ [(key, value)] := by
  induction fields with
  | nil => rfl
  | cons field rest ih =>
      obtain ⟨name, old⟩ := field
      have different : name ≠ key := fun same => fresh (same ▸ List.mem_cons_self)
      rw [insert, if_neg different, ih fun member => fresh (List.mem_cons_of_mem _ member)]
      rfl

theorem collect_eq {pairs : List (String × α)} (distinct : (keys pairs).Nodup) :
    collect pairs = pairs := by
  have kept : ∀ fields : Fields α, (keys (fields ++ pairs)).Nodup →
      pairs.foldl (fun fields pair => insert pair.1 pair.2 fields) fields = fields ++ pairs := by
    clear distinct
    induction pairs with
    | nil => exact fun fields _ => (List.append_nil fields).symm
    | cons pair rest ih =>
        intro fields distinct
        obtain ⟨key, value⟩ := pair
        have fresh : key ∉ keys fields := by
          rw [keys, List.map_append, List.map_cons] at distinct
          exact fun member => List.disjoint_of_nodup_append distinct member List.mem_cons_self
        rw [List.foldl_cons, insert_fresh fresh, ih _ (by simpa using distinct)]
        simp
  exact kept [] distinct

theorem mem_of_mem_insert {field : String × α} {key : String} {value : α} {fields : Fields α}
    (member : field ∈ insert key value fields) : field = (key, value) ∨ field ∈ fields := by
  induction fields with
  | nil => exact .inl (List.mem_singleton.mp member)
  | cons first rest ih =>
      obtain ⟨name, old⟩ := first
      simp only [insert] at member
      split at member
      · rcases List.mem_cons.mp member with same | member
        · exact .inl same
        · exact .inr (List.mem_cons_of_mem _ member)
      · rcases List.mem_cons.mp member with same | member
        · exact .inr (same ▸ List.mem_cons_self)
        · rcases ih member with new | old
          · exact .inl new
          · exact .inr (List.mem_cons_of_mem _ old)

theorem insert_distinct (key : String) (value : α) {fields : Fields α}
    (distinct : (keys fields).Nodup) : (keys (insert key value fields)).Nodup := by
  induction fields with
  | nil => simp [insert, keys]
  | cons first rest ih =>
      obtain ⟨name, old⟩ := first
      obtain ⟨fresh, distinct⟩ := List.nodup_cons.mp distinct
      simp only [insert]
      split
      · rename_i same
        exact List.nodup_cons.mpr ⟨same ▸ fresh, distinct⟩
      · rename_i different
        refine List.nodup_cons.mpr ⟨fun member => ?_, ih distinct⟩
        obtain ⟨field, inside, same⟩ := List.mem_map.mp member
        rcases mem_of_mem_insert inside with new | old
        · rw [new] at same
          exact different same.symm
        · exact fresh (List.mem_map.mpr ⟨field, old, same⟩)

theorem collect_distinct (pairs : List (String × α)) : (keys (collect pairs)).Nodup := by
  apply List.foldlRecOn (motive := fun fields : Fields α => (keys fields).Nodup) pairs
  · exact List.nodup_nil
  · exact fun fields distinct pair _ => insert_distinct pair.1 pair.2 distinct

theorem mem_of_mem_collect {field : String × α} {pairs : List (String × α)}
    (member : field ∈ collect pairs) : field ∈ pairs := by
  revert field
  apply List.foldlRecOn pairs
    (motive := fun fields : Fields α => ∀ {field}, field ∈ fields → field ∈ pairs)
  · simp
  · intro fields known pair listed field member
    rcases mem_of_mem_insert member with new | old
    · exact new ▸ listed
    · exact known old

theorem keys_insert {key : String} {value : α} {fields : Fields α} :
    keys (insert key value fields) =
      if key ∈ keys fields then keys fields else keys fields ++ [key] := by
  induction fields with
  | nil => rfl
  | cons field rest ih =>
      obtain ⟨name, old⟩ := field
      by_cases same : name = key
      · simp [insert, keys, same]
      · simp only [insert, if_neg same]
        change name :: keys (insert key value rest) =
          if key ∈ name :: keys rest then name :: keys rest else name :: keys rest ++ [key]
        rw [ih]
        by_cases known : key ∈ keys rest
        · rw [if_pos known, if_pos (List.mem_cons_of_mem name known)]
        · rw [if_neg known, if_neg (by simp [Ne.symm same, known]), List.cons_append]

theorem keys_collect (pairs : List (String × α)) :
    keys (collect pairs) = (keys pairs).eraseDups := by
  induction pairs using List.reverseRecOn with
  | nil => rfl
  | append_singleton before pair ih =>
      have last : keys (before ++ [pair]) = keys before ++ [pair.1] := List.map_append
      rw [collect, List.foldl_append, List.foldl_cons, List.foldl_nil, ← collect, keys_insert, ih,
        last, List.eraseDups_append]
      by_cases known : pair.1 ∈ keys before
      · simp [List.removeAll, List.mem_eraseDups, known]
      · simp [List.removeAll, List.mem_eraseDups, known, List.eraseDups_cons]

theorem get?_eq_some_iff {name : String} {value : α} {fields : Fields α} :
    get? name fields = some value ↔
      ∃ before behind, fields = before ++ (name, value) :: behind ∧ name ∉ keys before := by
  constructor
  · intro found
    induction fields with
    | nil => cases found
    | cons field rest ih =>
        obtain ⟨key, held⟩ := field
        rw [get?] at found
        split at found
        · rename_i same
          cases found
          exact ⟨[], rest, by rw [same]; rfl, List.not_mem_nil⟩
        · rename_i different
          obtain ⟨before, behind, rfl, fresh⟩ := ih found
          exact ⟨(key, held) :: before, behind, rfl, by simpa [keys, Ne.symm different] using fresh⟩
  · rintro ⟨before, behind, rfl, fresh⟩
    rw [get?_append, get?_eq_none_iff.mpr fresh]
    simp [get?]

theorem get?_collect {name : String} (pairs : List (String × α)) :
    get? name (collect pairs) = get? name pairs.reverse := by
  induction pairs using List.reverseRecOn with
  | nil => rfl
  | append_singleton before pair ih =>
      rw [collect, List.foldl_append, List.foldl_cons, List.foldl_nil, ← collect, get?_insert, ih,
        List.reverse_append]
      rfl

theorem get?_collect_iff {name : String} {value : α} {pairs : List (String × α)} :
    get? name (collect pairs) = some value ↔
      ∃ before behind, pairs = before ++ (name, value) :: behind ∧ name ∉ keys behind := by
  rw [get?_collect, get?_eq_some_iff]
  constructor
  · rintro ⟨before, behind, same, fresh⟩
    refine ⟨behind.reverse, before.reverse, ?_, ?_⟩
    · rw [← List.reverse_reverse pairs, same]
      simp
    · rwa [keys, List.map_reverse, List.mem_reverse]
  · rintro ⟨before, behind, rfl, fresh⟩
    refine ⟨behind.reverse, before.reverse, by simp, ?_⟩
    rwa [keys, List.map_reverse, List.mem_reverse]

end Authoring.Fields
