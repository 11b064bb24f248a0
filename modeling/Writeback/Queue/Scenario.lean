import Writeback.Queue.Run
import Writeback.Queue.Shutdown

/-!
# Scenarios

A scenario is a caller of the queue: it enqueues objects, lets time pass, flushes, and waits for
handles or drops them. After each instruction the queue is observed. A handle is reported once,
when it is first seen to have ended, and a dropped handle never.

A scenario ends by waiting for all handles that are left, or by giving everything up at once.
-/

namespace Writeback.Queue

inductive Instruction where
  | enqueue (records : List Record)
  | again (object : Nat)
  | sleep (duration : Nat)
  /-- Flushes and waits for it, then sleeps for a moment. -/
  | flush
  | flushLater
  /-- Waits for a handle, then sleeps for a moment. -/
  | await (handle : Nat)
  | dropHandle (handle : Nat)

/-- What can be seen of the queue from outside. -/
structure Observation where
  clock : Nat
  pendingJobs : Nat
  /-- The buckets by type, foreground first. -/
  buckets : List Bucket
  requests : Nat
  /-- The handles seen to have ended for the first time, by number. -/
  settled : List (Nat × SaveResult)
  awaited : Option (Nat × SaveResult) := none

/-- The queue and the handles that its caller has not yet seen ending. -/
structure Caller where
  queue : State
  handles : List Nat := []

namespace Caller

/-- The handles that have ended, in order. -/
def settled (c : Caller) : List (Nat × SaveResult) :=
  c.handles.filterMap fun handle => (c.queue.result? handle).map fun result => (handle, result)

/-- The caller after it has seen the handles that have ended. -/
def acknowledge (c : Caller) : Caller :=
  { c with handles := c.handles.filter fun handle => (c.queue.result? handle).isNone }

def observe (c : Caller) (awaited : Option (Nat × SaveResult)) : Observation where
  clock := c.queue.clock
  pendingJobs := c.queue.jobs.length
  buckets := c.queue.buckets.mergeSort fun a b => a.key.before b.key
  requests := c.queue.requests.length
  settled := c.settled
  awaited := awaited

def onQueue (c : Caller) (f : State → State) : Caller := { c with queue := f c.queue }

def enqueue (c : Caller) (object : Nat) : Caller where
  queue := c.queue.enqueue object
  handles := c.handles ++ [c.queue.handles]

def create (c : Caller) (record : Record) : Caller :=
  (c.onQueue (·.addRecord record)).enqueue c.queue.records.length

/-- Waits for a handle that was not reported yet, and then for a moment. -/
def await (setup : Setup) (c : Caller) (handle : Nat) : Caller × Option (Nat × SaveResult) :=
  if c.handles.contains handle then
    let queue := c.queue.waitFor setup handle
    let result := queue.result? handle
    (⟨queue.sleepFor setup 1, c.handles.filter fun h => h != handle⟩,
      result.map fun r => (handle, r))
  else (c, none)

def perform (setup : Setup) (c : Caller) : Instruction → Caller × Option (Nat × SaveResult)
  | .enqueue records => (records.foldl create c, none)
  | .again object => (c.enqueue object, none)
  | .sleep duration => (c.onQueue (·.sleepFor setup duration), none)
  | .flush => (c.onQueue fun s => (s.flushAndWait setup).sleepFor setup 1, none)
  | .flushLater => (c.onQueue (·.flushLater), none)
  | .await handle => c.await setup handle
  | .dropHandle handle => ({ c with handles := c.handles.filter fun h => h != handle }, none)

/-- Carries out instructions and observes the queue after each. -/
def performAll (setup : Setup) : List Instruction → Caller → Caller × List Observation
  | [], c => (c, [])
  | instruction :: rest, c =>
    let (c, awaited) := c.perform setup instruction
    let (last, seen) := performAll setup rest c.acknowledge
    (last, c.observe awaited :: seen)

/-- Waits for all handles that are left, in order, and then for a moment. -/
def settle (setup : Setup) (c : Caller) : Caller :=
  c.onQueue fun s =>
    (c.handles.foldl (fun s handle => s.waitFor setup handle) s).sleepFor setup 1

end Caller

structure Abandonment where
  /-- The handles that ended when all tasks were given up. -/
  onShutdown : List (Nat × SaveResult)
  pendingJobs : Nat
  /-- The handles that ended when the queue was discarded. -/
  onDiscard : List (Nat × SaveResult)

/-- What a scenario shows: the observations, how it ended, and the queue at the end. -/
structure Report where
  steps : List Observation
  abandoned : Option Abandonment
  /-- The queue at the end, before anything was given up. -/
  queue : State

def Caller.abandon (c : Caller) : Abandonment :=
  let stopped := c.onQueue State.shutdown
  { onShutdown := stopped.settled
    pendingJobs := stopped.queue.jobs.length
    onDiscard := (stopped.acknowledge.onQueue State.discard).settled }

def Setup.play (setup : Setup) (instructions : List Instruction) (abandon : Bool) : Report :=
  let start : Caller := { queue := .initial setup.settings }
  let (caller, steps) := Caller.performAll setup instructions start
  if abandon then
    { steps := steps, abandoned := some caller.abandon, queue := caller.queue }
  else
    let last := caller.settle setup
    { steps := steps ++ [last.observe none], abandoned := none, queue := last.queue }

end Writeback.Queue
