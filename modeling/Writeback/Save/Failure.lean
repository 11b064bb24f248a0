import Writeback.Json.Description
import Writeback.Json.Shape

/-!
# How a save ends

A save is created in a batch, handed to a background task, or saved directly; or it fails for one
of five causes. A request as a whole may fail in transport, and each save it carries then fails
with the text of that cause.

A rejected entry may carry a status: its first element, when that is a number with an integral
value from 0 to 65535, in whatever form it is written.
-/

namespace Writeback

inductive TransportFailure where
  /-- The request failed on its way, for a cause that the client names. -/
  | http (text : String)
  /-- The server answered with a status that is no success. -/
  | status (code : Nat) (body : String)
  | invalidResponse (text : String)
  | invalidSettings (text : String)
deriving DecidableEq, Repr

def TransportFailure.message : TransportFailure → String
  | http text => "HTTP error: " ++ text
  | status code body => "Server error " ++ toString code ++ ": " ++ body
  | invalidResponse text => "Invalid response: " ++ text
  | invalidSettings text => "Invalid configuration: " ++ text

def TransportFailure.read (x : Json) : Except ShapeError TransportFailure :=
  match x.field? "status", x.field? "invalid_response", x.field? "invalid_config" with
  | some code, _, _ => do
    let code ← Reader.natural .unsigned16 code
    return status code (← Reader.text ((x.field? "body").getD (.str "")))
  | none, some text, _ => return invalidResponse (← Reader.text text)
  | none, none, some text => return invalidSettings (← Reader.text text)
  | none, none, none => .error (.missing "status")

inductive Failure where
  | transport (text : String)
  /-- The server refused the object, or its entry of the answer was malformed or missing. -/
  | rejected (entry : Option Json)
  | hook (text : String)
  | update (text : String)
  /-- The save was given up before it settled. -/
  | cancelled
deriving DecidableEq, Repr

inductive Outcome where
  /-- Created in a batch, with what the post-create hook returned. -/
  | created (value : Json)
  /-- Accepted as part of a background task that the whole batch shares. -/
  | backgroundTask (task : Json)
  | updated (value : Json)
deriving DecidableEq, Repr

instance decidableEqExcept {ε α : Type} [DecidableEq ε] [DecidableEq α] :
    DecidableEq (Except ε α)
  | .ok x, .ok y => decidable_of_iff (x = y) (by simp)
  | .error x, .error y => decidable_of_iff (x = y) (by simp)
  | .ok _, .error _ => .isFalse (by simp)
  | .error _, .ok _ => .isFalse (by simp)

abbrev SaveResult := Except Failure Outcome

def entryStatus? (entry : Json) : Option Nat :=
  match entry.item? 0 with
  | some (.num n) =>
    match n.toFloat.toInt? with
    | some code => if 0 ≤ code ∧ code ≤ 65535 then some code.toNat else none
    | none => none
  | _ => none

namespace Failure

/-- The failure of each save in a request that failed. -/
def ofTransport (f : TransportFailure) : Failure := transport f.message

/-- The status of a rejected save, when its entry carried one. -/
def status? : Failure → Option Nat
  | rejected (some entry) => entryStatus? entry
  | _ => none

def message : Failure → String
  | transport text => "Batch request failed: " ++ text
  | rejected entry => "Save rejected: " ++ Json.describeOption entry
  | hook text => "Post-create hook failed: " ++ text
  | update text => "Update failed: " ++ text
  | cancelled => "Save was cancelled"

/-- The written form: the cause, and what belongs to it. -/
def toJson : Failure → Json
  | transport text => .object [("error", .str "Transport"), ("message", .str text)]
  | hook text => .object [("error", .str "Hook"), ("message", .str text)]
  | update text => .object [("error", .str "Update"), ("message", .str text)]
  | cancelled => .object [("error", .str "Cancelled")]
  | rejected entry =>
    let status := match (rejected entry).status? with
      | some code => Json.nat code
      | none => .null
    .object ([("error", .str "Rejected"), ("status", status)] ++
      (entry.map fun e => ("entry", e)).toList)

end Failure

def Outcome.toJson : Outcome → Json
  | created v => .object [("created", v)]
  | backgroundTask v => .object [("background_task", v)]
  | updated v => .object [("updated", v)]

def SaveResult.toJson : SaveResult → Json
  | .ok outcome => outcome.toJson
  | .error failure => failure.toJson

end Writeback
