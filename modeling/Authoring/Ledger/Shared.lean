import Authoring.Ledger.Store

/-! Ledgers behind handles. A cloned handle stands for the same ledger as the one it was cloned
from, so whatever is done through either is seen through both. -/

namespace Authoring

inductive LedgerCall where
  | append (event : LedgerEvent)
  | appendJson (raw : Json)
  | list (options : ListOptions)
  | clear

inductive LedgerAnswer where
  | stored (stored : StoredEvent)
  | refused (error : EventError)
  | listed (events : List StoredEvent)
  | cleared

def Ledger.answer (ledger : Ledger) : LedgerCall → LedgerAnswer × Ledger
  | .append event => (.stored (ledger.append event).1, (ledger.append event).2)
  | .appendJson raw =>
      match ledger.appendJson raw with
      | .ok (stored, next) => (.stored stored, next)
      | .error error => (.refused error, ledger)
  | .list options => (.listed (ledger.list options), ledger)
  | .clear => (.cleared, ledger.clear)

/-- The ledgers that have been made, and for each handle the place of the ledger it stands for. -/
structure Ledgers where
  held : List Ledger
  handles : List Nat
  known : ∀ place ∈ handles, place < held.length

inductive LedgerAction where
  | create
  | clone (handle : Nat)
  | call (handle : Nat) (call : LedgerCall)

namespace Ledgers

def empty : Ledgers :=
  ⟨[], [], nofun⟩

def create (ledgers : Ledgers) : Ledgers where
  held := ledgers.held ++ [.empty]
  handles := ledgers.handles ++ [ledgers.held.length]
  known := by
    intro place member
    rw [List.length_append, List.length_singleton]
    rcases List.mem_append.mp member with old | new
    · exact Nat.lt_succ_of_lt (ledgers.known place old)
    · rw [List.mem_singleton.mp new]
      exact Nat.lt_succ_self _

def share (ledgers : Ledgers) (place : Nat) (known : place < ledgers.held.length) : Ledgers where
  held := ledgers.held
  handles := ledgers.handles ++ [place]
  known := by
    intro other member
    rcases List.mem_append.mp member with old | new
    · exact ledgers.known other old
    · exact List.mem_singleton.mp new ▸ known

def replace (ledgers : Ledgers) (place : Nat) (ledger : Ledger) : Ledgers where
  held := ledgers.held.set place ledger
  handles := ledgers.handles
  known := by simpa using ledgers.known

def ledger? (ledgers : Ledgers) (handle : Nat) : Option Ledger :=
  ledgers.handles[handle]?.bind fun place => ledgers.held[place]?

def step (ledgers : Ledgers) : LedgerAction → Option LedgerAnswer × Ledgers
  | .create => (none, ledgers.create)
  | .clone handle =>
      match found : ledgers.handles[handle]? with
      | none => (none, ledgers)
      | some place =>
          (none, ledgers.share place (ledgers.known place (List.mem_of_getElem? found)))
  | .call handle call =>
      match ledgers.handles[handle]?, ledgers.ledger? handle with
      | some place, some ledger =>
          (some (ledger.answer call).1, ledgers.replace place (ledger.answer call).2)
      | _, _ => (none, ledgers)

def run (ledgers : Ledgers) (actions : List LedgerAction) : Ledgers :=
  actions.foldl (fun ledgers action => (ledgers.step action).2) ledgers

end Ledgers

end Authoring
