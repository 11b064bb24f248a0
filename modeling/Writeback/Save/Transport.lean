import Writeback.Save.Failure

/-!
# Requests and their answers

A request creates a batch of objects in one collection. The transport decides how long a request
takes to leave, how long its answer takes to come, and what the answer is; all three may depend on
the requests answered before. An answer is a body, a failure, or a crash of the transport itself.

`Transport.scripted` answers from a list of replies per collection and otherwise echoes every item
back as created. `Transport.mock` answers by the request alone. Both can be told to fail every
request to some collections.
-/

namespace Writeback

structure Request where
  plural : String
  background : Bool
  body : List Json
deriving DecidableEq, Repr

def Request.toJson (r : Request) : Json :=
  .object [("plural", .str r.plural), ("background", .bool r.background), ("body", .arr r.body)]

inductive Answer where
  | body (value : Json)
  | failure (cause : TransportFailure)
  | crash
deriving DecidableEq, Repr

/-- How requests fare. The first argument of each function is the list of the requests answered so
far, the latest first. -/
structure Transport where
  /-- How long a request takes until it counts as sent. -/
  departure : List Request → Request → Nat
  /-- How long the answer to a sent request takes. -/
  latency : List Request → Request → Nat
  answer : List Request → Request → Answer

inductive Reply where
  | echo
  | answer (value : Answer)
deriving DecidableEq, Repr

structure Script where
  latency : Nat := 0
  /-- The time a request to a collection takes to leave. -/
  departures : List (String × Nat) := []
  failing : List String := []
  /-- The replies of a collection, in order; when they have run out, it echoes. -/
  replies : List (String × List Reply) := []

/-- The body that creates every item of a request as it is. -/
def echoBody (r : Request) : Json :=
  .arr (r.body.map fun item => .arr [.int 201, item])

namespace Script

/-- The answer to a request, given how many to the same collection were answered before. -/
def answer (s : Script) (earlier : Nat) (r : Request) : Answer :=
  if s.failing.contains r.plural then .failure (.status 500 "mock failure")
  else match ((s.replies.lookup r.plural).getD [])[earlier]? with
    | some (.answer a) => a
    | some .echo | none => .body (echoBody r)

end Script

def Transport.scripted (s : Script) : Transport where
  departure := fun _ r => (s.departures.lookup r.plural).getD 0
  latency := fun _ _ => s.latency
  answer := fun earlier r =>
    s.answer (earlier.countP fun other => other.plural == r.plural) r

/-- How a request to a collection that is to fail does. -/
def Transport.mockFailure : TransportFailure := .status 500 "mock failure"

/-- Answers after a fixed time, and by the request alone. -/
def Transport.mock (latency : Nat) (responder : Request → Answer) (failing : List String) :
    Transport where
  departure := fun _ _ => 0
  latency := fun _ _ => latency
  answer := fun _ r =>
    if failing.contains r.plural then .failure mockFailure else responder r

/-- A script without replies is answered by the request alone. -/
theorem Transport.scripted_eq_mock (latency : Nat) (failing : List String) :
    scripted { latency := latency, failing := failing } =
      mock latency (fun r => .body (echoBody r)) failing :=
  rfl

end Writeback
