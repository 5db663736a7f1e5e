import Mathlib
import Authoring.Ledger.Event
import Authoring.Proofs.Outcomes
import Authoring.Proofs.Value.Json

/-! What a raw event has to hold for it to be accepted, and the event that is made of it. -/

namespace Authoring.LedgerEvent

def IsText (text? : Option String) (found : Option Json) : Prop :=
  match text? with
  | none => found = none ∨ found = some .null
  | some text => found = some (.string text)

/-- A payload that may be left out. Null counts as left out. -/
def IsPayload (value? : Option Value) (found : Option Json) : Prop :=
  match value? with
  | none => found = none ∨ found = some .null
  | some value => ∃ document, found = some document ∧ document ≠ .null ∧
      value = Value.ofJson document

theorem IsPayload.eq_some {value? : Option Value} {document : Json}
    (payload : IsPayload value? (some document)) (notNull : document ≠ .null) :
    value? = some (Value.ofJson document) := by
  cases value? with
  | none => simp [IsPayload, notNull] at payload
  | some value =>
      obtain ⟨_, same, -, rfl⟩ := payload
      cases same
      rfl

structure IsMadeOf (event : LedgerEvent) (raw : Json) : Prop where
  time : ∃ number, raw.get? "ts" = some (.number number) ∧
    event.time = Decimal.toInt64 number.toFloat
  url : raw.get? "url" = some (.string event.url)
  title : raw.get? "title" = some (.string event.title)
  selection : IsText event.selection (raw.get? "selection")
  goalState : ∃ document, raw.get? "goalState" = some document ∧
    event.goalState = Value.ofJson document
  action : IsText event.action (raw.get? "action")
  difference : IsPayload event.artifactDiff (raw.get? "artifactDiff")

variable {fields : Fields Json} {event : LedgerEvent} {raw : Json}

theorem optionalText_eq_ok_iff {name : String} {error : EventError} {text? : Option String} :
    optionalText fields name error = .ok text? ↔ IsText text? (Fields.get? name fields) := by
  unfold optionalText IsText
  cases Fields.get? name fields with
  | none => cases text? <;> simp
  | some document => cases document <;> cases text? <;> simp

theorem differenceOf_eq_iff {value? : Option Value} :
    differenceOf fields = value? ↔ IsPayload value? (Fields.get? "artifactDiff" fields) := by
  unfold differenceOf IsPayload
  cases Fields.get? "artifactDiff" fields with
  | none => cases value? <;> simp
  | some document => cases document <;> cases value? <;> simp [eq_comm]

theorem get?_object (name : String) : (Json.object fields).get? name = Fields.get? name fields :=
  rfl

theorem number?_eq_some_iff {found : Option Json} {number : Number} :
    found.bind Json.number? = some number ↔ found = some (.number number) := by
  cases found with
  | none => simp
  | some document => cases document <;> simp [Json.number?]

theorem ofJson_eq_ok_iff : LedgerEvent.ofJson raw = .ok event ↔ event.IsMadeOf raw := by
  constructor
  · intro read
    unfold LedgerEvent.ofJson at read
    split at read
    case h_2 => cases read
    case h_1 fields =>
      split at read
      case h_1 => cases read
      case h_2 number time =>
        split at read
        case h_2 => cases read
        case h_1 url title urlFound titleFound =>
          split at read
          case h_1 => cases read
          case h_2 goalState goalFound =>
            obtain ⟨selection, selectionRead, read⟩ := bind_eq_ok_iff.mp read
            obtain ⟨action, actionRead, same⟩ := bind_eq_ok_iff.mp read
            cases same
            exact {
              time := ⟨number, number?_eq_some_iff.mp time, rfl⟩
              url := urlFound
              title := titleFound
              selection := optionalText_eq_ok_iff.mp selectionRead
              goalState := ⟨goalState, goalFound, rfl⟩
              action := optionalText_eq_ok_iff.mp actionRead
              difference := differenceOf_eq_iff.mp rfl }
  · rintro ⟨⟨number, timeFound, time⟩, url, title, selection, ⟨goalState, goalFound, goal⟩, action,
      difference⟩
    obtain ⟨fields, rfl, -⟩ := Json.exists_object_of_get? url
    simp only [get?_object] at timeFound url title selection goalFound action difference
    have selectionRead := (@optionalText_eq_ok_iff fields _ .badSelection _).mpr selection
    have actionRead := (@optionalText_eq_ok_iff fields _ .badAction _).mpr action
    have differenceRead := differenceOf_eq_iff.mpr difference
    simp only [LedgerEvent.ofJson, number?_eq_some_iff.mpr timeFound, url, title, goalFound,
      selectionRead, actionRead, differenceRead, ← time, ← goal, bind, Except.bind]
    rfl

end Authoring.LedgerEvent
