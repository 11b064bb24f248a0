import Writeback.Queue.Step

/-!
# Giving tasks up

A task that is given up never runs again. A job that had started ends as a crash would end it, a
job that had not started is dropped, and permits are given back. A job that is dropped before it
starts does nothing more: a direct save is cancelled, but a bucket whose cycle was to start stays
as it is.

`abandonFlush` gives up one drain with all its jobs, as when a caller stops waiting for a flush.
`shutdown` gives up every task; `discard` then cancels the saves that are still queued.
-/

namespace Writeback.Queue.State

def dropJob (s : State) : Job → State
  | .cycle _ => s
  | .update save => s.onLedger (·.settle (.error .cancelled) save)

def dropJobs (s : State) (jobs : List Job) : State := jobs.foldl dropJob s

def abandonStage (s : State) : Stage → State
  | .start job => (s.dropJob job).release
  | .depart cycle => (s.abortCycle cycle.key cycle.batch).release
  | .arrive cycle => (s.abortCycle cycle.key cycle.batch).release
  | .saved save _ => (s.onLedger (·.settle (.error .cancelled) save)).release

def abandonTask (s : State) : Task → State
  | .countdown _ => s
  | .due _ => s
  | .flush _ => s
  | .admitted drain => (s.dropJobs drain.jobs).release
  | .job _ stage => s.abandonStage stage

/-- A drain in line for a permit is given up. -/
def abandonDrain (s : State) (drain : Drain) : State := s.dropJobs drain.jobs

/-- A flush is given up: its jobs that have not started are dropped, the others abandoned. -/
def abandonFlush (s : State) (drain : Nat) : State :=
  let tasks := s.ready.filter (Task.belongsTo drain) ++
    (s.sleeping.map Sleeper.task).filter (Task.belongsTo drain)
  let drains := s.waiting.filter fun d => d.id == drain
  let left := { s with
    ready := s.ready.filter fun task => !task.belongsTo drain
    sleeping := s.sleeping.filter fun p => !p.task.belongsTo drain
    waiting := s.waiting.filter fun d => !(d.id == drain) }
  tasks.foldl abandonTask (drains.foldl abandonDrain left)

/-- Every task is given up, and none that this leads to ever runs. -/
def shutdown (s : State) : State :=
  let tasks := s.ready ++ s.sleeping.map Sleeper.task
  let left := { s with ready := [], sleeping := [], waiting := [] }
  let stopped := tasks.foldl abandonTask (s.waiting.foldl abandonDrain left)
  { stopped with ready := [] }

def queuedSaves (s : State) : List Save :=
  (s.jobs.filterMap fun
    | .update save => some save
    | .cycle _ => none) ++
  s.buckets.flatMap fun b => b.pending ++ b.held.flatMap HeldResponse.batch

def discard (s : State) : State :=
  let left := { s with
    jobs := []
    buckets := s.buckets.map Bucket.emptied }
  left.onLedger (·.settleAll (.error .cancelled) s.queuedSaves)

end Writeback.Queue.State
