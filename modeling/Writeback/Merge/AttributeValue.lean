import Writeback.Merge.Change
import Writeback.Merge.ObjectList

/-!
# Merging custom attribute values

A custom attribute value belongs to the definition with a given id and holds a plain value, a list
of mapped objects, or both. Three versions of a list of values are merged entry by entry into a
container, matched by the id of the definition. The plain value is resolved like any field and may
be in conflict. A list of objects is kept or taken over as a whole when only one side changed it;
when both did, the lists are merged by id, which is never reported as a conflict.

The merge walks the loaded entries. An entry that is missing locally or remotely counts as absent
values, and one that is missing from the container is written nowhere.
-/

namespace Writeback

structure AttributeValue where
  definition : Identifier
  /-- The plain value; an explicit null is a value. -/
  value : Option Json
  objects : Option (List MappedObject)
  extra : Fields
deriving DecidableEq, Repr

namespace AttributeValue

def ofValue (definition : Identifier) (value : Json) : AttributeValue :=
  ⟨definition, some value, none, []⟩

def ofObjects (definition : Identifier) (objects : List MappedObject) : AttributeValue :=
  ⟨definition, none, some objects, []⟩

/-- The written form: the plain value only when there is one, the objects always. -/
def toJson (v : AttributeValue) : Json :=
  let objects := match v.objects with
    | some objects => .arr (objects.map MappedObject.toJson)
    | none => .null
  let fields := Fields.insert "custom_attribute_id" v.definition.toJson
    (Fields.insert "attribute_objects" objects v.extra)
  .obj (match v.value with
    | some x => Fields.insert "attribute_value" x fields
    | none => fields)

/-- Reads the objects of an entry; null stands for none. -/
def readObjects : Option Json → Except ShapeError (Option (List MappedObject))
  | some x => Reader.optional (Reader.list MappedObject.read) x
  | none => .ok none

/-- Reads an entry that has the id of its definition. -/
def read : Reader AttributeValue
  | .obj fields => do
    let objects ← readObjects (Fields.get? fields "attribute_objects")
    let definition ← match Fields.get? fields "custom_attribute_id" with
      | some x => Identifier.read x
      | none => .error (.missing "custom_attribute_id")
    return {
      definition, objects
      value := Fields.get? fields "attribute_value"
      extra := Fields.erase "attribute_objects"
        (Fields.erase "attribute_value" (Fields.erase "custom_attribute_id" fields)) }
  | x => .error (.unexpected x (.record "CustomAttributeValue"))

def find? (values : List AttributeValue) (definition : Identifier) : Option AttributeValue :=
  values.find? fun v => v.definition == definition

end AttributeValue

structure AttributeResolution where
  conflict : Bool
  values : List AttributeValue
deriving DecidableEq, Repr

namespace AttributeResolution

/-- How the plain value of a loaded entry changed. -/
def valueChange (current remote : List AttributeValue) (item : AttributeValue) : Change :=
  Change.between item.value
    ((AttributeValue.find? current item.definition).bind AttributeValue.value)
    ((AttributeValue.find? remote item.definition).bind AttributeValue.value)

/-- What a loaded entry makes of the container's entry for the same definition. -/
def mergeEntry (current remote : List AttributeValue) (item target : AttributeValue) :
    AttributeValue :=
  let currentItem := AttributeValue.find? current item.definition
  let currentObjects := currentItem.bind AttributeValue.objects
  let remoteObjects :=
    (AttributeValue.find? remote item.definition).bind AttributeValue.objects
  let change := Change.between item.objects currentObjects remoteObjects
  { target with
    value :=
      if (valueChange current remote item).isSafe then currentItem.bind AttributeValue.value
      else target.value
    objects :=
      if change.conflict then
        resolveObjects (item.objects.getD []) (currentObjects.getD []) (remoteObjects.getD [])
      else if change.isLocal then currentObjects
      else target.objects }

def updateFirst (definition : Identifier) (f : AttributeValue → AttributeValue) :
    List AttributeValue → List AttributeValue
  | [] => []
  | v :: rest =>
    if v.definition = definition then f v :: rest else v :: updateFirst definition f rest

end AttributeResolution

def resolveAttributes (previous current remote container : List AttributeValue) :
    AttributeResolution :=
  { conflict := previous.any fun item =>
      (AttributeResolution.valueChange current remote item).conflict
    values := previous.foldl
      (fun values item => AttributeResolution.updateFirst item.definition
        (AttributeResolution.mergeEntry current remote item) values)
      container }

end Writeback
