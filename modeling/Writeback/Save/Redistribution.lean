import Writeback.Save.Ledger

/-!
# Handing answers back to their objects

Entry `i` of an answer belongs to object `i` of the batch. An entry that is a pair whose first
element is a number from 200 up to but not including 300 accepts the object: its post-create hook
is called with the part of the payload under the type's name, and decides how the save ends. Any
other entry, also a missing one, rejects that object alone.

A hook that crashes ends the redistribution: its save and all that come after it are cancelled, and
no further hook is called.
-/

namespace Writeback

inductive Verdict where
  | accepted (payload : Json)
  | rejected (entry : Option Json)
deriving DecidableEq, Repr

def Number.isSuccess (n : Number) : Bool :=
  200 * Binary64.scale ≤ n.toFloat.scaled && n.toFloat.scaled < 300 * Binary64.scale

/-- Reads an entry for an object of the given type. -/
def Verdict.ofEntry (typeName : String) (entry : Option Json) : Verdict :=
  match entry with
  | some (.arr [.num status, payload]) =>
    if status.isSuccess then accepted ((payload.field? typeName).getD .null) else rejected entry
  | _ => rejected entry

/-- The saves of held answers, in the order of the batches and of their positions, each with its
entry. -/
def assignEntries (responses : List HeldResponse) : List (Save × Option Json) :=
  responses.flatMap fun response =>
    response.batch.zipIdx.map fun (save, i) => (save, response.body.item? i)

namespace Ledger

/-- Ends one save by its entry. The second component tells whether its hook crashed; the save is
then not ended yet. -/
def deliver (typeName : String) (save : Save) (entry : Option Json) (l : Ledger) : Ledger × Bool :=
  match Verdict.ofEntry typeName entry with
  | .rejected entry => (l.settle (.error (.rejected entry)) save, false)
  | .accepted payload =>
    let called := l.note (.hooked save payload)
    match (l.saveable save.object).hook payload with
    | .returned value =>
      ((called.modifyRecord save.object fun r => r.markCreated payload).settle
        (.ok (.created value)) save, false)
    | .failed failure => (called.settle (.error failure) save, false)
    | .crashed => (called, true)

/-- Ends the saves in order, until a hook crashes. The second component tells whether one did. -/
def deliverAll (typeName : String) : List (Save × Option Json) → Ledger → Ledger × Bool
  | [], l => (l, false)
  | (save, entry) :: rest, l =>
    match l.deliver typeName save entry with
    | (l, false) => deliverAll typeName rest l
    | (l, true) => (l.settleAll (.error .cancelled) (save :: rest.map Prod.fst), true)

def redistribute (typeName : String) (responses : List HeldResponse) (l : Ledger) :
    Ledger × Bool :=
  deliverAll typeName (assignEntries responses) l

end Ledger

end Writeback
