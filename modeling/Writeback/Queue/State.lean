import Writeback.Save.Redistribution
import Writeback.Save.Settings

/-!
# The state of the save queue

Jobs wait in the queue for a quiet period. A drain takes all of them and starts them in order, each
as soon as it gets one of a limited number of permits; drains that wait for a permit stand in line.
A job keeps its permit until it ends.

The state is a machine with one thread of control. A task stands in exactly one place: among the
tasks that are ready to run, first in first out; among the sleepers, which wait for the clock; or,
for a drain, in the line for permits. What a task still holds (jobs, a batch, a save) is part of
it, so that every save can be found in one place of the state until it settles.
-/

namespace Writeback.Queue

/-- What the queue runs on. -/
structure Setup where
  settings : Settings := {}
  transport : Transport
  tracker : Tracker := .recording

/-- Jobs that were taken out of the queue together and have not started yet. -/
structure Drain where
  id : Nat
  jobs : List Job
deriving DecidableEq, Repr

/-- A batch on its way. -/
structure Cycle where
  key : BucketKey
  batch : List Save
  request : Request
  timer : Timer
deriving DecidableEq, Repr

/-- How far a job with a permit has come. -/
inductive Stage where
  /-- About to start. -/
  | start (job : Job)
  /-- The request leaves. -/
  | depart (cycle : Cycle)
  /-- The answer arrives. -/
  | arrive (cycle : Cycle)
  /-- A direct save returns or crashes. -/
  | saved (save : Save) (timer : Timer)
deriving DecidableEq, Repr

/-- What a task does when it runs next. -/
inductive Task where
  /-- The quiet period that began with this generation is about to be waited for. -/
  | countdown (generation : Nat)
  /-- The quiet period of this generation is over. -/
  | due (generation : Nat)
  /-- A flush starts on its own. -/
  | flush (drain : Nat)
  /-- A drain was given a permit. -/
  | admitted (drain : Drain)
  /-- A job of a drain goes on. -/
  | job (drain : Nat) (stage : Stage)
deriving DecidableEq, Repr

/-- Whether a task works on the jobs of a drain. -/
def Task.belongsTo (drain : Nat) : Task → Bool
  | flush id => id == drain
  | admitted d => d.id == drain
  | job id _ => id == drain
  | countdown _ | due _ => false

/-- A task that waits for the clock. -/
structure Sleeper where
  due : Nat
  task : Task
deriving DecidableEq, Repr

/-- The state of the queue. -/
structure State extends Ledger where
  /-- The jobs that wait for the quiet period, in the order they were pushed. -/
  jobs : List Job := []
  /-- Grows with every push and every flush; an older quiet period takes nothing when it ends. -/
  generation : Nat := 0
  buckets : List Bucket := []
  /-- The permits that nobody holds. -/
  free : Nat
  /-- The drains in line for a permit. -/
  waiting : List Drain := []
  /-- The tasks that can run, in the order they will. -/
  ready : List Task := []
  /-- The tasks that wait for the clock, in the order they began to. -/
  sleeping : List Sleeper := []
  /-- How many drains there have been. -/
  drains : Nat := 0
  /-- How many saves were asked for. -/
  handles : Nat := 0
  /-- The requests sent and not answered. -/
  inFlight : Nat := 0
  /-- The most requests that were in flight at once. -/
  peak : Nat := 0

namespace State

/-- A queue before anything happened. -/
def initial (settings : Settings) : State := { free := settings.permits }

/-- Applies a change to the ledger. -/
def onLedger (s : State) (f : Ledger → Ledger) : State := { s with toLedger := f s.toLedger }

/-- The bucket with this key. -/
def bucket? (s : State) (key : BucketKey) : Option Bucket :=
  s.buckets.find? fun b => b.key == key

/-- Changes the bucket with this key. -/
def modifyBucket (s : State) (key : BucketKey) (f : Bucket → Bucket) : State :=
  { s with buckets := s.buckets.map fun b => if b.key = key then f b else b }

/-- Adds a bucket unless there is one with its key. -/
def ensureBucket (s : State) (bucket : Bucket) : State :=
  match s.bucket? bucket.key with
  | some _ => s
  | none => { s with buckets := s.buckets ++ [bucket] }

/-- Puts a task behind the others that can run. -/
def spawn (s : State) (task : Task) : State := { s with ready := s.ready ++ [task] }

/-- Lets a task sleep for a while, which is positive. -/
def sleep (s : State) (duration : Nat) (task : Task) : State :=
  { s with sleeping := s.sleeping ++ [⟨s.clock + duration, task⟩] }

/-- Lets a task sleep; after no time at all it goes on at once. -/
def sleepThen (s : State) (duration : Nat) (task : Task) (goOn : State → State) : State :=
  if duration = 0 then goOn s else s.sleep duration task

/-- Pushes a job and begins a new quiet period. -/
def pushJob (s : State) (job : Job) : State :=
  ({ s with jobs := s.jobs ++ [job], generation := s.generation + 1 }.onLedger
    (·.note (.queued job))).spawn (.countdown (s.generation + 1))

/-- Gives a permit back: to the drain that waits longest, if one does. -/
def release (s : State) : State :=
  match s.waiting with
  | [] => { s with free := s.free + 1 }
  | drain :: rest => { s with waiting := rest }.spawn (.admitted drain)

/-- Starts jobs while there are permits; with jobs left, the drain stands in line. -/
def startJobs (id : Nat) : List Job → State → State
  | [], s => s
  | job :: rest, s =>
    if 0 < s.free then
      startJobs id rest ({ s with free := s.free - 1 }.spawn (.job id (.start job)))
    else { s with waiting := s.waiting ++ [⟨id, job :: rest⟩] }

/-- Takes all jobs out of the queue and starts them. -/
def drain (id : Nat) (s : State) : State := startJobs id s.jobs { s with jobs := [] }

end State

end Writeback.Queue
