import Writeback.Json.Path
import Writeback.Merge.Change

/-!
# Resolving one field

The field is looked up by its path in three versions of a document. When it changed locally and the
two sides are not in conflict, the local value becomes an update for the caller to apply; a field
removed locally becomes a removal. The update may be taken at a root, a path above the field. A
field in conflict gives no update.
-/

namespace Writeback

/-- A value to write at a path, or a removal of what is there. -/
structure FieldUpdate where
  path : String
  value : Option Json
deriving DecidableEq, Repr

structure FieldResolution where
  conflict : Bool
  /-- Present only when the local edit is safe to keep. -/
  update : Option FieldUpdate
deriving DecidableEq, Repr

namespace FieldResolution

/-- The document after the update was written, when there is one. -/
def applyTo (r : FieldResolution) (container : Json) : Json :=
  match r.update with
  | some u => container.set u.path u.value
  | none => container

/-- The written form of the update; a removal has no value. -/
def updateJson (r : FieldResolution) : Json :=
  match r.update with
  | none => .null
  | some ⟨path, none⟩ => .object [("path", .str path)]
  | some ⟨path, some v⟩ => .object [("path", .str path), ("value", v)]

end FieldResolution

/-- Compares the field at `key` in the three versions and offers the local value at `root`, or at
`key` when no root is given. -/
def resolveField (base current remote : Json) (key : String) (root : Option String) :
    FieldResolution :=
  let change := Change.between (base.get? key) (current.get? key) (remote.get? key)
  let path := root.getD key
  { conflict := change.conflict
    update := if change.isSafe then some ⟨path, current.get? path⟩ else none }

end Writeback
