import Writeback.Save.Bucket
import Writeback.Save.Telemetry
import Writeback.Save.Transport

/-!
# The ledger of saves

The ledger holds the objects, the time, and a journal of everything that happened to saves: which
bucket they joined, which batches were taken and posted, what was answered, which hooks ran, how
each save settled, and what was measured. The journal is only added to, the latest entry in front;
requests, results and measurements are read off it.
-/

namespace Writeback

inductive Job where
  | cycle (key : BucketKey)
  | update (save : Save)
deriving DecidableEq, Repr

inductive Event where
  | joined (key : BucketKey) (save : Save)
  | queued (job : Job)
  | started (job : Job)
  /-- A cycle took a batch out of its bucket. -/
  | taken (key : BucketKey) (batch : List Save)
  | posted (key : BucketKey) (batch : List Save) (request : Request)
  | answered (key : BucketKey) (batch : List Save) (request : Request) (answer : Answer)
  /-- A direct save returned or crashed. -/
  | replied (save : Save) (reply : SaveReply)
  /-- The post-create hook of a save was called with this payload. -/
  | hooked (save : Save) (payload : Json)
  | settled (save : Save) (result : SaveResult)
  | measured (measurement : Measurement)
deriving DecidableEq

structure Entry where
  time : Nat
  event : Event
deriving DecidableEq

/-- The objects, the time, and what happened so far. -/
structure Ledger where
  clock : Nat := 0
  records : List Record := []
  /-- The latest entry comes first. -/
  journal : List Entry := []

namespace Ledger

def note (l : Ledger) (event : Event) : Ledger :=
  { l with journal := ⟨l.clock, event⟩ :: l.journal }

def record (l : Ledger) (object : Nat) : Record := l.records[object]?.getD default

def saveable (l : Ledger) (object : Nat) : Saveable := (l.record object).saveable

/-- The body of a batch; none when the serialization of an object crashes. -/
def batchBody? (l : Ledger) (key : BucketKey) (batch : List Save) : Option (List Json) :=
  batch.mapM fun save =>
    (l.saveable save.object).body.map fun body => .obj [(key.typeName, body)]

def modifyRecord (l : Ledger) (object : Nat) (f : Record → Record) : Ledger :=
  { l with records := l.records.modify object f }

def settle (l : Ledger) (result : SaveResult) (save : Save) : Ledger :=
  l.note (.settled save result)

def settleAll (l : Ledger) (result : SaveResult) (saves : List Save) : Ledger :=
  saves.foldl (fun l save => l.settle result save) l

def result? (l : Ledger) (handle : Nat) : Option SaveResult :=
  l.journal.findSome? fun entry =>
    match entry.event with
    | .settled save result => if save.handle = handle then some result else none
    | _ => none

/-- The handles that ended and how, in the order they did. -/
def results (l : Ledger) : List (Nat × SaveResult) :=
  l.journal.reverse.filterMap fun entry =>
    match entry.event with
    | .settled save result => some (save.handle, result)
    | _ => none

/-- The requests sent so far, in order. -/
def requests (l : Ledger) : List Request :=
  l.journal.reverse.filterMap fun entry =>
    match entry.event with
    | .posted _ _ request => some request
    | _ => none

/-- The requests answered so far, the latest first. -/
def answeredRequests (l : Ledger) : List Request :=
  l.journal.filterMap fun entry =>
    match entry.event with
    | .answered _ _ request _ => some request
    | _ => none

/-- The measurements kept so far, in the order the operations ended. -/
def measurements (l : Ledger) : List Measurement :=
  l.journal.reverse.filterMap fun entry =>
    match entry.event with
    | .measured m => some m
    | _ => none

/-- Ends a timer with success or failure, and keeps the measurement if the tracker does. -/
def measure (l : Ledger) (tracker : Tracker) (timer : Timer) (ending : Ending) : Ledger :=
  match tracker.finish? timer ending l.clock with
  | some m => l.note (.measured m)
  | none => l

end Ledger

end Writeback
