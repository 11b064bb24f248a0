import Writeback.Queue.Step

/-!
# Running the queue

The queue runs until a condition holds, until the clock reaches a time, or until nothing is left to
do. The number of steps is bounded by the work that is left: a weight for every task, every queued
job and every pending object, chosen so that each step makes the total smaller. A pending object
weighs more than the cycle that takes it, since that cycle may push a job for the next one.
-/

namespace Writeback.Queue

def Stage.work : Stage → Nat
  | .start _ => 3
  | .depart _ => 11
  | .arrive _ => 9
  | .saved _ _ => 1

/-- The work left in a task that can run. Jobs that have not started weigh four each. -/
def Task.work : Task → Nat
  | .countdown _ => 4
  | .due _ => 2
  | .flush _ => 2
  | .admitted drain => 1 + 4 * drain.jobs.length
  | .job _ stage => stage.work

namespace State

/-- The work left in the queue. A sleeper weighs one more than its task, and a drain in line as
much as when it is admitted. -/
def work (s : State) : Nat :=
  4 * s.jobs.length +
    (s.buckets.map fun b => 10 * b.pending.length).foldr (· + ·) 0 +
    (s.waiting.map fun d => 1 + 4 * d.jobs.length).foldr (· + ·) 0 +
    (s.ready.map Task.work).foldr (· + ·) 0 +
    (s.sleeping.map fun p => 1 + p.task.work).foldr (· + ·) 0

/-- Takes at most so many steps, until the condition holds. -/
def runSteps (setup : Setup) (finished : State → Bool) : Nat → State → State
  | 0, s => s
  | fuel + 1, s =>
    if finished s then s
    else match s.step? setup with
      | some s => runSteps setup finished fuel s
      | none => s

/-- Runs until the condition holds or nothing is left to do. -/
def runUntil (setup : Setup) (finished : State → Bool) (s : State) : State :=
  runSteps setup finished s.work s

/-- Nothing can run, and no sleeper is due before the time. -/
def quietBefore (time : Nat) (s : State) : Bool :=
  s.ready.isEmpty && (match s.nextDue? with
    | some due => decide (time ≤ due)
    | none => true)

/-- Lets time pass up to a point, and runs what is due before it. No time at all lets nothing
run. -/
def sleepFor (setup : Setup) (duration : Nat) (s : State) : State :=
  if duration = 0 then s
  else
    let time := s.clock + duration
    (s.runUntil setup (quietBefore time)).onLedger fun l => { l with clock := max l.clock time }

/-- Whether anything of a drain is left: jobs that have not started or have not ended. -/
def isLive (s : State) (drain : Nat) : Bool :=
  (s.waiting.any fun d => d.id == drain) || s.ready.any (Task.belongsTo drain) ||
    s.sleeping.any fun p => p.task.belongsTo drain

/-- Flushes, and runs until all jobs of the flush have ended. -/
def flushAndWait (setup : Setup) (s : State) : State :=
  s.flush.runUntil setup fun t => !t.isLive s.drains

def waitFor (setup : Setup) (handle : Nat) (s : State) : State :=
  s.runUntil setup fun t => (t.result? handle).isSome

end State

end Writeback.Queue
