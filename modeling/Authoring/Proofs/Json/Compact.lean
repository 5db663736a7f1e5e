import Mathlib
import Authoring.Proofs.Json.Tokens

/-! Compact text is read back as the outline of the document it was printed from, as long as no
number is a float and no container is too deep. -/

namespace Authoring.Json

theorem ofInt?_eq_some {value : Int}
    (wide : -0x8000000000000000 ≤ value ∧ value < 0x10000000000000000) :
    WideInt.ofInt? value = some ⟨value, wide⟩ :=
  dif_pos wide

open Outline (ofJson ofItems ofFields)

mutual
def levels : Json → Nat
  | .array items => levelsOfItems items + 1
  | .object fields => levelsOfFields fields + 1
  | _ => 0

def levelsOfItems : List Json → Nat
  | [] => 0
  | item :: rest => max item.levels (levelsOfItems rest)

def levelsOfFields : List (String × Json) → Nat
  | [] => 0
  | (_, value) :: rest => max value.levels (levelsOfFields rest)
end

mutual
def Floatless : Json → Prop
  | .number (.float _) => False
  | .array items => FloatlessItems items
  | .object fields => FloatlessFields fields
  | _ => True

def FloatlessItems : List Json → Prop
  | [] => True
  | item :: rest => item.Floatless ∧ FloatlessItems rest

def FloatlessFields : List (String × Json) → Prop
  | [] => True
  | (_, value) :: rest => value.Floatless ∧ FloatlessFields rest
end

theorem ofInt_value (whole : WideInt) : ofInt whole.value = .number (.integer whole) := by
  rw [ofInt, ofInt?_eq_some whole.inRange]

theorem ofInt64_whole (value : Int64) :
    ∃ whole : WideInt, whole.value = value.toInt ∧
      ofInt value.toInt = .number (.integer whole) := by
  have least := value.le_toInt
  have greatest := value.toInt_lt
  exact ⟨⟨value.toInt, by omega⟩, rfl, ofInt_value ⟨value.toInt, _⟩⟩

theorem ofUInt64_whole (value : UInt64) :
    ∃ whole, ofNat value.toNat = .number (.integer whole) := by
  have greatest := value.toNat_lt
  exact ⟨⟨value.toNat, by omega⟩, ofInt_value ⟨value.toNat, _⟩⟩

@[simp] theorem levels_ofInt (value : Int) : (ofInt value).levels = 0 := by
  unfold ofInt ofFloat
  split
  · rfl
  · split <;> rfl

theorem floatlessFields_append {left right : List (String × Json)} :
    FloatlessFields (left ++ right) ↔ FloatlessFields left ∧ FloatlessFields right := by
  induction left with
  | nil => simp [FloatlessFields]
  | cons field rest ih => simp [FloatlessFields, ih, and_assoc]

/-! One token -/

variable {progress : Progress} {frames : List Frame} {c : Char} {text rest : List Char}

theorem scan_token {token : Token} (visible : isSpace c = false)
    (found : tokenAt c text = (token, rest)) :
    scan progress (c :: text) = scan (progress.step token) rest := by
  rw [scan, if_neg (by simp [visible]), found]

theorem scan_mark {token : Token} (visible : isSpace c = false)
    (known : punctuation? c = some token) :
    scan progress (c :: text) = scan (progress.step token) text :=
  scan_token visible (by rw [tokenAt, known])

def Awaits (progress : Progress) (frames : List Frame) : Prop :=
  ∀ token, token ≠ .closeArray → progress.step token = Progress.onValue frames token

theorem atValue_awaits (frames : List Frame) : Awaits (.atValue frames) frames :=
  fun _ _ => rfl

theorem atFirstItem_awaits (deep : Bool) (frames : List Frame) :
    Awaits (.atFirstItem deep frames) (.array deep [] :: frames) := by
  intro token opens
  cases token with
  | closeArray => exact absurd rfl opens
  | openArray | openObject | closeObject | comma | colon | leaf | cut => rfl

theorem scan_leaf {value : Outline} (awaits : Awaits progress frames) (visible : isSpace c = false)
    (found : tokenAt c text = (.leaf value, rest)) :
    scan progress (c :: text) = scan (Progress.fill value frames) rest := by
  rw [scan_token visible found, awaits (.leaf value) nofun]
  rfl

theorem isSpace_of_integerText {value : Int} (member : c ∈ Decimal.integerText value) :
    isSpace c = false := by
  have differs : ∀ space : Char, space ≠ '-' → space.isDigit = false → c ≠ space := by
    rintro space notMinus notDigit rfl
    rcases Decimal.mem_integerText member with minus | digit
    · exact notMinus minus
    · rw [digit] at notDigit
      cases notDigit
  simp [isSpace, differs ' ' (by decide) rfl, differs '\n' (by decide) rfl,
    differs '\t' (by decide) rfl, differs '\r' (by decide) rfl]

theorem scan_name {name : String} {before : List (Outline × Outline)}
    (takes : progress.step (.leaf (.string name)) =
      .atColon false before (.string name) frames) (text : List Char) :
    scan progress (stringText name ++ ':' :: text) =
      scan (.atValue (.member false before (.string name) :: frames)) text := by
  rw [stringText, List.cons_append, List.append_assoc, List.singleton_append,
    scan_token rfl (tokenAt_string name _), takes, scan_mark rfl rfl]
  rfl

/-! Documents -/

theorem endsNumeral_nil : EndsNumeral [] :=
  nofun

theorem endsNumeral_compactItems (items : List Json) (rest : List Char) :
    EndsNumeral (compactItems items ++ rest) := by
  rintro c later same
  cases items with
  | nil =>
      obtain ⟨rfl, -⟩ := List.cons.inj same
      decide
  | cons item others =>
      obtain ⟨rfl, -⟩ := List.cons.inj same
      decide

theorem endsNumeral_compactFields (fields : List (String × Json)) (rest : List Char) :
    EndsNumeral (compactFields fields ++ rest) := by
  rintro c later same
  cases fields with
  | nil =>
      obtain ⟨rfl, -⟩ := List.cons.inj same
      decide
  | cons field others =>
      obtain ⟨rfl, -⟩ := List.cons.inj same
      decide

theorem isDeep_eq_false (shallow : frames.length + 1 ≤ 127) : Progress.isDeep frames = false := by
  rw [Progress.isDeep, decide_eq_false_iff_not]
  omega

mutual
/-- Where a value may come next, a printed value fills the place, and what follows it is unread. -/
theorem scan_compact : (document : Json) → document.Floatless → ∀ {progress : Progress}
    {frames : List Frame}, Awaits progress frames → frames.length + document.levels ≤ 127 →
    ∀ {rest : List Char}, EndsNumeral rest →
      scan progress (document.compact ++ rest) = scan (Progress.fill (ofJson document) frames) rest
  | .null, _, _, _, awaits, _, rest, _ => scan_leaf awaits rfl (tokenAt_null rest)
  | .bool true, _, _, _, awaits, _, rest, _ => scan_leaf awaits rfl (tokenAt_true rest)
  | .bool false, _, _, _, awaits, _, rest, _ => scan_leaf awaits rfl (tokenAt_false rest)
  | .number (.integer whole), _, progress, frames, awaits, _, rest, ends => by
      obtain ⟨c, text, written, _⟩ := Decimal.integerText_head whole.value
      have visible := isSpace_of_integerText (written ▸ List.mem_cons_self)
      have read := scan_leaf awaits visible (tokenAt_whole whole ends written)
      rw [compact, numberText, written]
      exact read
  | .string value, _, progress, frames, awaits, _, rest, _ => by
      rw [compact, stringText, List.cons_append, List.append_assoc]
      exact scan_leaf awaits rfl (tokenAt_string value rest)
  | .array [], _, progress, frames, awaits, shallow, rest, _ => by
      have flat : Progress.isDeep frames = false := isDeep_eq_false shallow
      rw [compact, List.cons_append, scan_mark rfl rfl, awaits .openArray nofun,
        Progress.onValue, flat, List.singleton_append, scan_mark rfl rfl]
      rfl
  | .array (item :: others), whole, progress, frames, awaits, shallow, rest, _ => by
      simp only [levels, levelsOfItems] at shallow
      have flat : Progress.isDeep frames = false := isDeep_eq_false (by omega)
      have first := scan_compact item whole.1 (atFirstItem_awaits false frames)
        (by rw [List.length_cons]; omega) (endsNumeral_compactItems others rest)
      have later := scan_compactItems others whole.2 [ofJson item] frames (by omega) rest
      rw [compact, List.cons_append, scan_mark rfl rfl, awaits .openArray nofun,
        Progress.onValue, flat, List.append_assoc, first]
      exact later
  | .object [], _, progress, frames, awaits, shallow, rest, _ => by
      have flat : Progress.isDeep frames = false := isDeep_eq_false shallow
      rw [compact, List.cons_append, scan_mark rfl rfl, awaits .openObject nofun,
        Progress.onValue, flat, List.singleton_append, scan_mark rfl rfl]
      rfl
  | .object ((name, value) :: others), whole, progress, frames, awaits, shallow, rest, _ => by
      simp only [levels, levelsOfFields] at shallow
      have flat : Progress.isDeep frames = false := isDeep_eq_false (by omega)
      have first := scan_compact value whole.1
        (atValue_awaits (.member false [] (.string name) :: frames))
        (by rw [List.length_cons]; omega) (endsNumeral_compactFields others rest)
      have later := scan_compactFields others whole.2 [(.string name, ofJson value)] frames
        (by omega) rest
      rw [compact, List.cons_append, scan_mark rfl rfl, awaits .openObject nofun,
        Progress.onValue, flat, List.append_assoc, List.cons_append, List.append_assoc,
        scan_name rfl, first]
      exact later

theorem scan_compactItems : (items : List Json) → FloatlessItems items →
    ∀ (before : List Outline) (frames : List Frame),
      frames.length + levelsOfItems items + 1 ≤ 127 → ∀ (rest : List Char),
      scan (.afterElement (.array false before) frames) (compactItems items ++ rest) =
        scan (Progress.fill (.array false (before.reverse ++ ofItems items) none) frames) rest
  | [], _, before, frames, _, rest => by
      rw [compactItems, List.singleton_append, scan_mark rfl rfl, ofItems, List.append_nil]
      rfl
  | item :: others, whole, before, frames, shallow, rest => by
      simp only [levelsOfItems] at shallow
      have first := scan_compact item whole.1 (atValue_awaits (.array false before :: frames))
        (by rw [List.length_cons]; omega) (endsNumeral_compactItems others rest)
      have later := scan_compactItems others whole.2 (ofJson item :: before) frames
        (by omega) rest
      rw [List.reverse_cons, List.append_assoc, List.singleton_append] at later
      rw [compactItems, List.cons_append, List.append_assoc, scan_mark rfl rfl]
      exact first.trans later

theorem scan_compactFields : (fields : List (String × Json)) → FloatlessFields fields →
    ∀ (before : List (Outline × Outline)) (frames : List Frame),
      frames.length + levelsOfFields fields + 1 ≤ 127 → ∀ (rest : List Char),
      scan (.afterElement (.object false before) frames) (compactFields fields ++ rest) =
        scan (Progress.fill (.object false (before.reverse ++ ofFields fields) none) frames) rest
  | [], _, before, frames, _, rest => by
      rw [compactFields, List.singleton_append, scan_mark rfl rfl, ofFields, List.append_nil]
      rfl
  | (name, value) :: others, whole, before, frames, shallow, rest => by
      simp only [levelsOfFields] at shallow
      have first := scan_compact value whole.1
        (atValue_awaits (.member false before (.string name) :: frames))
        (by rw [List.length_cons]; omega) (endsNumeral_compactFields others rest)
      have later := scan_compactFields others whole.2 ((.string name, ofJson value) :: before)
        frames (by omega) rest
      rw [List.reverse_cons, List.append_assoc, List.singleton_append] at later
      rw [compactFields, List.cons_append, List.append_assoc, List.cons_append, List.append_assoc,
        scan_mark rfl rfl]
      exact (scan_name rfl _).trans (first.trans later)
end

theorem outline_toText {document : Json} (whole : document.Floatless)
    (shallow : document.levels ≤ 127) : outline document.toText = ⟨ofJson document, false⟩ := by
  have read := scan_compact document whole (atValue_awaits []) (by simpa using shallow)
    endsNumeral_nil
  rw [List.append_nil] at read
  rw [outline, toText, String.toList_ofList, read]
  simp [Progress.fill, scan, Progress.finish]

/-! Lines -/

theorem oneLine_escaped (c : Char) : '\n' ∉ escaped c := by
  unfold escaped
  split_ifs with _ _ _ _ feed _ _ control
  · decide
  · decide
  · decide
  · decide
  · decide
  · decide
  · decide
  · have visible : ∀ digit < 16, '\n' ≠ Nat.digitChar digit := by decide
    have high := visible (c.toNat / 16) (by omega)
    have low := visible (c.toNat % 16) (by omega)
    simp [high, low]
  · simpa using Ne.symm feed

theorem oneLine_stringText (value : String) : '\n' ∉ stringText value := by
  simp [stringText, oneLine_escaped]

theorem oneLine_integerText (value : Int) : '\n' ∉ Decimal.integerText value := by
  intro member
  cases isSpace_of_integerText member

mutual
theorem oneLine_compact : (document : Json) → document.Floatless → '\n' ∉ document.compact
  | .null, _ => by simp [compact]
  | .bool true, _ => by simp [compact]
  | .bool false, _ => by simp [compact]
  | .number (.integer whole), _ => oneLine_integerText whole.value
  | .string value, _ => oneLine_stringText value
  | .array [], _ => by simp [compact]
  | .array (item :: others), whole => by
      simp [compact, oneLine_compact item whole.1, oneLine_compactItems others whole.2]
  | .object [], _ => by simp [compact]
  | .object ((name, value) :: others), whole => by
      simp [compact, oneLine_stringText name, oneLine_compact value whole.1,
        oneLine_compactFields others whole.2]

theorem oneLine_compactItems : (items : List Json) → FloatlessItems items →
    '\n' ∉ compactItems items
  | [], _ => by simp [compactItems]
  | item :: others, whole => by
      simp [compactItems, oneLine_compact item whole.1, oneLine_compactItems others whole.2]

theorem oneLine_compactFields : (fields : List (String × Json)) → FloatlessFields fields →
    '\n' ∉ compactFields fields
  | [], _ => by simp [compactFields]
  | (name, value) :: others, whole => by
      simp [compactFields, oneLine_stringText name, oneLine_compact value whole.1,
        oneLine_compactFields others whole.2]
end

end Authoring.Json
