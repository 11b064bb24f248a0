import Writeback.Json.DeepEq
import Writeback.Json.Shape

/-!
# How one value changed

A value is compared in three versions: as it was loaded, as it stands locally, and as the server
holds it now. It changed locally when the local version differs from the loaded one. Both sides
are in conflict when all three versions differ pairwise.
-/

namespace Writeback

/-- How one value moved between the loaded, the local and the remote version. -/
structure Change where
  /-- Changed on both sides, and not to the same value. -/
  conflict : Bool
  isLocal : Bool
deriving DecidableEq, Repr

namespace Change

def between {α : Type} [DeepEq α] (previous current remote : α) : Change where
  conflict := !deepEq previous remote && !deepEq previous current && !deepEq current remote
  isLocal := !deepEq previous current

def isSafe (c : Change) : Bool := c.isLocal && !c.conflict

def toJson (c : Change) : Json :=
  .object [("hasConflict", .bool c.conflict), ("isChangedLocally", .bool c.isLocal)]

/-- The record form: two flags, both required. -/
def reader : RecordReader (Option Bool × Option Bool) Change where
  name := "ChangeDescriptor"
  fields := [
    ("hasConflict", fun x acc => do return (some (← Reader.flag x), acc.2)),
    ("isChangedLocally", fun x acc => do return (acc.1, some (← Reader.flag x)))]
  empty := (none, none)
  finish := fun acc => do
    return ⟨← required "hasConflict" acc.1, ← required "isChangedLocally" acc.2⟩
  defaults := false

end Change

end Writeback
