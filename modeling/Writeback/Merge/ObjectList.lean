import Writeback.Json.DeepEq
import Writeback.Json.Shape

/-!
# Merging lists of mapped objects

An object that is mapped through a custom attribute is known by its id; its other fields are
carried along. Three versions of a list of such objects are merged by id alone: what was deleted
locally stays deleted, what was added locally is kept unless the server already has it, and
everything else is as the server has it. Remote objects come first, then local additions in their
local order.
-/

namespace Writeback

/-- The id of an object or of a definition, a signed 64-bit integer. -/
structure Identifier where
  value : Int
  range : -0x8000000000000000 ≤ value ∧ value < 0x8000000000000000
deriving DecidableEq, Repr

namespace Identifier

def toJson (i : Identifier) : Json :=
  .num (.int i.value ⟨i.range.1, Int.lt_trans i.range.2 (by decide)⟩)

/-- Reads an integer in the signed 64-bit range. -/
def read : Reader Identifier
  | .num (.int n _) =>
    if h : -0x8000000000000000 ≤ n ∧ n < 0x8000000000000000 then .ok ⟨n, h⟩
    else .error (.outOfRange n .signed64)
  | x => .error (.unexpected x (.integer .signed64))

end Identifier

/-- An object referred to by a custom attribute, such as a mapped person. -/
structure MappedObject where
  id : Identifier
  extra : Fields
deriving DecidableEq, Repr

namespace MappedObject

def ofId (id : Identifier) : MappedObject := ⟨id, []⟩

instance : DeepEq MappedObject := ⟨fun a b => a.id == b.id && Fields.equal a.extra b.extra⟩

/-- The written form: the other fields with the id among them. -/
def toJson (o : MappedObject) : Json := .obj (Fields.insert "id" o.id.toJson o.extra)

def read : Reader MappedObject
  | .obj fields =>
    match Fields.get? fields "id" with
    | some x => do return ⟨← Identifier.read x, Fields.erase "id" fields⟩
    | none => .error (.missing "id")
  | x => .error (.unexpected x (.record "AttributeObject"))

end MappedObject

/-- Whether a list holds an object with this id. -/
def hasId (objects : List MappedObject) (id : Identifier) : Bool :=
  objects.any fun o => o.id == id

def mergeObjects (previous current remote : List MappedObject) : List MappedObject :=
  (remote.filter fun o => !(hasId previous o.id && !hasId current o.id)) ++
    (current.filter fun o => !hasId previous o.id && !hasId remote o.id)

/-- The merged list, or none when nothing is left. -/
def resolveObjects (previous current remote : List MappedObject) : Option (List MappedObject) :=
  match mergeObjects previous current remote with
  | [] => none
  | merged => some merged

end Writeback
