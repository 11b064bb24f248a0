import Writeback.Save.Failure
import Writeback.Save.Telemetry
import Writeback.Text.Quoted

/-!
# Objects to be saved

The model layer supplies, for every object, the names of its type and four behaviours: its
serialization, its post-create hook, its direct save, and whether it is created in a background
task. Serialization, the hook and the direct save may crash instead of returning. A record is such
an object together with what saving has made of it so far.
-/

namespace Writeback

structure Model where
  /-- The key in the bodies of requests and answers. -/
  singular : String
  plural : String
  label : String
deriving DecidableEq, Repr, Inhabited

namespace Model

def toJson (m : Model) : Json :=
  .object [("table_singular", .str m.singular), ("table_plural", .str m.plural),
    ("model_singular", .str m.label)]

/-- The record form: three texts, all required. -/
def reader : RecordReader (Option String × Option String × Option String) Model where
  name := "ModelMeta"
  fields := [
    ("table_singular", fun x acc => do return (some (← Reader.text x), acc.2.1, acc.2.2)),
    ("table_plural", fun x acc => do return (acc.1, some (← Reader.text x), acc.2.2)),
    ("model_singular", fun x acc => do return (acc.1, acc.2.1, some (← Reader.text x)))]
  empty := (none, none, none)
  finish := fun acc => do
    return ⟨← required "table_singular" acc.1, ← required "table_plural" acc.2.1,
      ← required "model_singular" acc.2.2⟩
  defaults := false

end Model

inductive HookReply where
  | returned (value : Json)
  | failed (failure : Failure)
  | crashed
deriving DecidableEq, Repr

inductive SaveReply where
  | ok (value : Json)
  | error (failure : Failure)
  | crashed
deriving DecidableEq, Repr

/-- How a save ends by the reply to its direct save; a crash gives it up. -/
def SaveReply.result : SaveReply → SaveResult
  | ok value => .ok (.updated value)
  | error failure => .error failure
  | crashed => .error .cancelled

/-- How the timer of a direct save ends. -/
def SaveReply.ending : SaveReply → Ending
  | ok _ => .stopped
  | error _ => .failed
  | crashed => .dropped

/-- What the model layer supplies for an object. Its serialization, its hook and its direct save
are assumed not to call back into the queue. -/
structure Saveable where
  model : Model := ⟨"control", "controls", "Control"⟩
  /-- The create should run as a background task of the server. -/
  background : Bool := false
  /-- The body of the object in a request; none when serialization crashes. -/
  body : Option Json := some (.obj [])
  /-- Called with the object's payload after a successful create. -/
  hook : Json → HookReply := .returned
  saveTime : Nat := 0
  saveReply : SaveReply := .ok (.obj [])

instance : Inhabited Saveable := ⟨{}⟩

/-- An object and what saving has made of it. -/
structure Record where
  saveable : Saveable
  isNew : Bool := true
  updates : Nat := 0
  createdPayload : Option Json := none
deriving Inhabited

namespace Record

def markCreated (r : Record) (payload : Json) : Record :=
  { r with isNew := false, createdPayload := some payload }

/-- The record after a direct save, which counts unless it crashed. -/
def markReplied (r : Record) : SaveReply → Record
  | .ok _ | .error _ => { r with updates := r.updates + 1 }
  | .crashed => r

@[simp] theorem saveable_markReplied (r : Record) (reply : SaveReply) :
    (r.markReplied reply).saveable = r.saveable := by
  cases reply <;> rfl

/-- How messages show an object that waits to be saved. -/
def describePending (r : Record) : String :=
  "PendingSave \x7b type: " ++ Text.quoted r.saveable.model.singular ++ ", is_new: " ++
    (if r.isNew then "true" else "false") ++ " \x7d"

/-- The written form of what saving has made of the object. -/
def toJson (r : Record) : Json :=
  .object ([("is_new", .bool r.isNew), ("updates", .nat r.updates)] ++
    (r.createdPayload.map fun payload => ("created_payload", payload)).toList)

end Record

end Writeback
