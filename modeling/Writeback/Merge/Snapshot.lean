import Writeback.Merge.AttributeValue
import Writeback.Merge.Field

/-!
# Resolving a whole object

After a save was refused because the object changed on the server, three versions of it are at
hand: as loaded, with local edits, and as the server holds it now. The listed fields are resolved
one by one on the three versions, and every safe local edit is written onto the remote one. When
the loaded object has custom attribute values, their lists are merged as well; if one of the lists
does not have the right shape, that is reported as a conflict and the remote list stays.
-/

namespace Writeback

structure Snapshot where
  base : Json
  current : Json
  remote : Json
deriving DecidableEq, Repr

/-- The remote version with every safe local edit, and the names of the fields in conflict in the
order they were checked. -/
structure SnapshotResolution where
  merged : Json
  conflicts : List String
deriving DecidableEq, Repr

namespace Snapshot

def toJson (s : Snapshot) : Json :=
  .object [("base", s.base), ("local", s.current), ("remote", s.remote)]

/-- The record form: three documents, all required. -/
def reader : RecordReader (Option Json × Option Json × Option Json) Snapshot where
  name := "ConflictSnapshot"
  fields := [
    ("base", fun x acc => .ok (some x, acc.2.1, acc.2.2)),
    ("local", fun x acc => .ok (acc.1, some x, acc.2.2)),
    ("remote", fun x acc => .ok (acc.1, acc.2.1, some x))]
  empty := (none, none, none)
  finish := fun acc => do
    return ⟨← required "base" acc.1, ← required "local" acc.2.1, ← required "remote" acc.2.2⟩
  defaults := false

/-- The field that holds the custom attribute values of an object. -/
def attributeKey : String := "custom_attribute_values"

/-- The custom attribute values of an object; an absent or null list is empty. -/
def attributeValues (attrs : Json) : Except ShapeError (List AttributeValue) :=
  match attrs.field? attributeKey with
  | none | some .null => .ok []
  | some x => Reader.list AttributeValue.read x

/-- The three lists of custom attribute values, when all have the right shape. -/
def attributeLists? (s : Snapshot) :
    Option (List AttributeValue × List AttributeValue × List AttributeValue) :=
  match attributeValues s.base, attributeValues s.current, attributeValues s.remote with
  | .ok previous, .ok current, .ok remote => some (previous, current, remote)
  | _, _, _ => none

def resolveField (s : Snapshot) (field : String) : FieldResolution :=
  Writeback.resolveField s.base s.current s.remote field none

/-- Writes the merged list into an object; other documents have no place for it. -/
def putAttributes (values : List AttributeValue) : Json → Json
  | .obj fields =>
    .obj (Fields.insert attributeKey (.arr (values.map AttributeValue.toJson)) fields)
  | x => x

/-- The remote version with the safe edits of the listed fields. -/
def mergeFields (s : Snapshot) (fields : List String) : Json :=
  fields.foldl (fun merged field => (s.resolveField field).applyTo merged) s.remote

def fieldConflicts (s : Snapshot) (fields : List String) : List String :=
  fields.filter fun field => (s.resolveField field).conflict

/-- Carries the local edits over to the remote version. -/
def resolve (s : Snapshot) (fields : List String) : SnapshotResolution :=
  let merged := s.mergeFields fields
  let conflicts := s.fieldConflicts fields
  match s.base.field? attributeKey with
  | none => ⟨merged, conflicts⟩
  | some _ =>
    match s.attributeLists? with
    | none => ⟨merged, conflicts ++ [attributeKey]⟩
    | some (previous, current, remote) =>
      let resolution := resolveAttributes previous current remote remote
      ⟨putAttributes resolution.values merged,
        if resolution.conflict then conflicts ++ [attributeKey] else conflicts⟩

end Snapshot

end Writeback
