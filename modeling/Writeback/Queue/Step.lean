import Writeback.Queue.State

/-!
# The steps of the save queue

`enqueue`, `flush` and `flushLater` are what a caller does. `runTask` lets one task run up to the
next point where it waits; `step?` runs the task that is first in line or, when none can run, moves
the clock to the next time a sleeper is due.

A cycle of a bucket takes a batch, sends it, and holds the body of the answer in the bucket. If
objects are pending by then, it pushes a job for the next cycle; otherwise the bucket leaves flight
and all held answers are handed back. A cycle that a crash cuts short cancels its own batch; if
objects are pending, it too pushes a job for the next cycle, and otherwise the bucket leaves flight
and the saves of all held answers are cancelled.
-/

namespace Writeback.Queue.State

/-- Asks for an object to be saved. An existing object gets a job of its own; a new one joins its
bucket, which gets a job unless a cycle of it is queued or running. -/
def enqueue (s : State) (object : Nat) : State :=
  let save : Save := ⟨object, s.handles⟩
  let s := { s with handles := s.handles + 1 }
  let saveable := s.saveable object
  if (s.record object).isNew then
    let key := BucketKey.ofSaveable saveable
    let busy := ((s.bucket? key).map Bucket.inFlight).getD false
    let s := (s.ensureBucket { key := key, plural := saveable.model.plural }).onLedger
      (·.note (.joined key save))
    let s := s.modifyBucket key fun b => { b.push save with inFlight := true }
    if busy then s else s.pushJob (.cycle key)
  else s.pushJob (.update save)

def addRecord (s : State) (record : Record) : State :=
  s.onLedger fun l => { l with records := l.records ++ [record] }

/-- Starts a drain with everything in the queue, and outdates the quiet period. -/
def startFlush (s : State) (id : Nat) : State :=
  drain id { s with generation := s.generation + 1 }

/-- Flushes now. The drain gets the number that `drains` had before. -/
def flush (s : State) : State := { s with drains := s.drains + 1 }.startFlush s.drains

def flushLater (s : State) : State :=
  { s with drains := s.drains + 1 }.spawn (.flush s.drains)

/-- Ends a cycle that was not cut short, with the answer that is to be held, if any. -/
def closeCycle (s : State) (key : BucketKey) (response : Option HeldResponse) : State :=
  match s.bucket? key with
  | none => s
  | some bucket =>
    let held := bucket.held ++ response.toList
    if bucket.pending.isEmpty then
      (s.modifyBucket key fun b => { b with held := [], inFlight := false }).onLedger
        fun l => (l.redistribute key.typeName held).1
    else
      (s.modifyBucket key fun b => { b with held := held }).pushJob (.cycle key)

/-- Ends a cycle that was cut short while it held a batch. -/
def abortCycle (s : State) (key : BucketKey) (batch : List Save) : State :=
  let s := match s.bucket? key with
    | none => s
    | some bucket =>
      if bucket.pending.isEmpty then
        (s.modifyBucket key fun b => { b with held := [], inFlight := false }).onLedger
          (·.settleAll (.error .cancelled) (bucket.held.flatMap HeldResponse.batch))
      else s.pushJob (.cycle key)
  s.onLedger (·.settleAll (.error .cancelled) batch)

def arrive (setup : Setup) (cycle : Cycle) (s : State) : State :=
  let answer := setup.transport.answer s.answeredRequests cycle.request
  let s := { s with inFlight := s.inFlight - 1 }.onLedger
    (·.note (.answered cycle.key cycle.batch cycle.request answer))
  match answer with
  | .crash => s.abortCycle cycle.key cycle.batch
  | .failure cause =>
    (s.onLedger fun l => (l.measure setup.tracker cycle.timer .failed).settleAll
      (.error (.ofTransport cause)) cycle.batch).closeCycle cycle.key none
  | .body value =>
    let s := s.onLedger (·.measure setup.tracker cycle.timer .stopped)
    match value.field? "background_task" with
    | some task =>
      (s.onLedger (·.settleAll (.ok (.backgroundTask task)) cycle.batch)).closeCycle cycle.key none
    | none => s.closeCycle cycle.key (some ⟨cycle.batch, value⟩)

/-- A request leaves, and is in flight from now on. -/
def depart (setup : Setup) (drain : Nat) (cycle : Cycle) (s : State) : State :=
  let latency := setup.transport.latency s.answeredRequests cycle.request
  let s := { s with inFlight := s.inFlight + 1, peak := max s.peak (s.inFlight + 1) }.onLedger
    (·.note (.posted cycle.key cycle.batch cycle.request))
  s.sleepThen latency (.job drain (.arrive cycle)) fun s => (s.arrive setup cycle).release

/-- The timer of a batch, labelled by its first object. -/
def batchTimer (s : State) (batch : List Save) : Timer where
  label := (batch.head?.map fun save => (s.saveable save.object).model.label).getD ""
  action := .create batch.length
  since := s.clock

/-- A cycle of a bucket starts: it takes a batch and sends it. -/
def startCycle (setup : Setup) (drain : Nat) (key : BucketKey) (s : State) : State :=
  match s.bucket? key with
  | none => s.release
  | some bucket =>
    let limit := setup.settings.batchLimit
    let batch := bucket.nextBatch limit
    let s := (s.modifyBucket key (·.afterBatch limit)).onLedger (·.note (.taken key batch))
    if batch.isEmpty then (s.closeCycle key none).release
    else match s.batchBody? key batch with
      | none => (s.abortCycle key batch).release
      | some body =>
        let request := ⟨bucket.plural, key.background, body⟩
        let cycle := ⟨key, batch, request, s.batchTimer batch⟩
        s.sleepThen (setup.transport.departure s.answeredRequests request)
          (.job drain (.depart cycle)) (·.depart setup drain cycle)

/-- A direct save returns or crashes. If it crashed, its timer is dropped and the save is
cancelled. -/
def finishUpdate (setup : Setup) (save : Save) (timer : Timer) (s : State) : State :=
  s.onLedger fun l =>
    let reply := (l.saveable save.object).saveReply
    let l := (l.modifyRecord save.object (·.markReplied reply)).note (.replied save reply)
    (l.measure setup.tracker timer reply.ending).settle reply.result save

def startUpdate (setup : Setup) (drain : Nat) (save : Save) (s : State) : State :=
  let saveable := s.saveable save.object
  let timer := ⟨saveable.model.label, .update, s.clock⟩
  s.sleepThen saveable.saveTime (.job drain (.saved save timer))
    fun s => (s.finishUpdate setup save timer).release

/-- A job with a permit runs up to where it waits, or to its end. -/
def runStage (setup : Setup) (drain : Nat) : Stage → State → State
  | .start job, s =>
    let s := s.onLedger (·.note (.started job))
    match job with
    | .cycle key => s.startCycle setup drain key
    | .update save => s.startUpdate setup drain save
  | .depart cycle, s => s.depart setup drain cycle
  | .arrive cycle, s => (s.arrive setup cycle).release
  | .saved save timer, s => (s.finishUpdate setup save timer).release

/-- The quiet period of a generation is over. It counts only if nothing was pushed or flushed
since. -/
def endQuiet (s : State) (generation : Nat) : State :=
  if s.generation = generation then drain s.drains { s with drains := s.drains + 1 } else s

/-- A task runs up to where it waits, or to its end. -/
def runTask (setup : Setup) : Task → State → State
  | .countdown generation, s =>
    s.sleepThen setup.settings.delay (.due generation) (·.endQuiet generation)
  | .due generation, s => s.endQuiet generation
  | .flush id, s => s.startFlush id
  | .admitted ⟨_, []⟩, s => s.release
  | .admitted ⟨id, job :: rest⟩, s => startJobs id rest (s.spawn (.job id (.start job)))
  | .job id stage, s => s.runStage setup id stage

def nextDue? (s : State) : Option Nat := (s.sleeping.map Sleeper.due).min?

/-- The clock reaches a time, and the sleepers that are due by then can run. -/
def wakeAt (s : State) (time : Nat) : State :=
  { s with
    clock := time
    ready := s.ready ++ (s.sleeping.filter fun p => p.due ≤ time).map Sleeper.task
    sleeping := s.sleeping.filter fun p => !(p.due ≤ time) }

/-- The first task in line runs, or else the clock moves to the next time a sleeper is due. There
is no step when no task is left. -/
def step? (setup : Setup) (s : State) : Option State :=
  match s.ready with
  | task :: rest => some (runTask setup task { s with ready := rest })
  | [] => s.nextDue?.map s.wakeAt

end Writeback.Queue.State
