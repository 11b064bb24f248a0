import Mathlib.Data.Multiset.Bind
import Writeback.Proofs.Queue.History
import Writeback.Queue.State

/-!
# The work of the queue without its schedule

A job goes through phases from the moment it is pushed until nothing of it is left. `Workload`
keeps the phase of every job, the buckets and the ledger, and forgets where a job stands: in the
queue, with a drain, in line for a permit, among the tasks that can run or among the sleepers.
`Step` is everything that can happen to a workload, in any order whatever: no rule asks for a
permit, a quiet period or a turn. What holds after all steps therefore holds for every schedule.

Phases and buckets are multisets. A rule takes the phase or bucket that it is about out of its
multiset and puts what becomes of it back.
-/

namespace Writeback.Queue

/-- How far a job has come since it was pushed. -/
inductive Phase where
  /-- It has not started. -/
  | waiting (job : Job)
  /-- Its batch was taken, and the request is about to leave. -/
  | leaving (cycle : Cycle)
  /-- The request was sent. -/
  | sent (cycle : Cycle)
  | answered (cycle : Cycle) (answer : Answer)
  /-- A cycle that was not cut short is about to end, with the answer that is to be held. -/
  | closing (key : BucketKey) (response : Option HeldResponse)
  /-- A cycle was cut short while it held a batch. -/
  | failing (key : BucketKey) (batch : List Save)
  /-- A direct save is out. -/
  | saving (save : Save)
  /-- A direct save returned or crashed. -/
  | replied (save : Save) (reply : SaveReply)

namespace Phase

/-- The bucket that a cycle belongs to. -/
def keys : Phase → Multiset BucketKey
  | waiting (.cycle key) => {key}
  | leaving cycle | sent cycle | answered cycle _ => {cycle.key}
  | closing key _ | failing key _ => {key}
  | waiting (.update _) | saving _ | replied _ _ => 0

/-- The saves that a job has in hand. -/
def saves : Phase → Multiset Save
  | waiting (.update save) | saving save | replied save _ => {save}
  | leaving cycle | sent cycle | answered cycle _ => ↑cycle.batch
  | closing _ response => ↑(response.toList.flatMap HeldResponse.batch)
  | failing _ batch => ↑batch
  | waiting (.cycle _) => 0

@[simp] theorem keys_waiting_cycle (key : BucketKey) : (waiting (.cycle key)).keys = {key} := rfl
@[simp] theorem keys_waiting_update (save : Save) : (waiting (.update save)).keys = 0 := rfl
@[simp] theorem keys_leaving (cycle : Cycle) : (leaving cycle).keys = {cycle.key} := rfl
@[simp] theorem keys_sent (cycle : Cycle) : (sent cycle).keys = {cycle.key} := rfl
@[simp] theorem keys_answered (cycle : Cycle) (answer : Answer) :
    (answered cycle answer).keys = {cycle.key} := rfl
@[simp] theorem keys_closing (key : BucketKey) (response : Option HeldResponse) :
    (closing key response).keys = {key} := rfl
@[simp] theorem keys_failing (key : BucketKey) (batch : List Save) :
    (failing key batch).keys = {key} := rfl
@[simp] theorem keys_saving (save : Save) : (saving save).keys = 0 := rfl
@[simp] theorem keys_replied (save : Save) (reply : SaveReply) :
    (replied save reply).keys = 0 := rfl

@[simp] theorem saves_waiting_cycle (key : BucketKey) : (waiting (.cycle key)).saves = 0 := rfl
@[simp] theorem saves_waiting_update (save : Save) : (waiting (.update save)).saves = {save} := rfl
@[simp] theorem saves_leaving (cycle : Cycle) : (leaving cycle).saves = ↑cycle.batch := rfl
@[simp] theorem saves_sent (cycle : Cycle) : (sent cycle).saves = ↑cycle.batch := rfl
@[simp] theorem saves_answered (cycle : Cycle) (answer : Answer) :
    (answered cycle answer).saves = ↑cycle.batch := rfl
@[simp] theorem saves_closing (key : BucketKey) (response : Option HeldResponse) :
    (closing key response).saves = ↑(response.toList.flatMap HeldResponse.batch) := rfl
@[simp] theorem saves_failing (key : BucketKey) (batch : List Save) :
    (failing key batch).saves = ↑batch := rfl
@[simp] theorem saves_saving (save : Save) : (saving save).saves = {save} := rfl
@[simp] theorem saves_replied (save : Save) (reply : SaveReply) :
    (replied save reply).saves = {save} := rfl

end Phase

/-- The ledger, the buckets, and the phase of every job. -/
structure Workload extends Ledger where
  underway : Multiset Phase := 0
  buckets : Multiset Bucket := 0
  /-- How many saves were asked for. -/
  handles : Nat := 0

namespace Workload

def onLedger (w : Workload) (f : Ledger → Ledger) : Workload := { w with toLedger := f w.toLedger }

@[simp] theorem onLedger_toLedger (w : Workload) (f : Ledger → Ledger) :
    (w.onLedger f).toLedger = f w.toLedger := rfl
@[simp] theorem onLedger_underway (w : Workload) (f : Ledger → Ledger) :
    (w.onLedger f).underway = w.underway := rfl
@[simp] theorem onLedger_buckets (w : Workload) (f : Ledger → Ledger) :
    (w.onLedger f).buckets = w.buckets := rfl

/-- The save that is asked for when the object is enqueued next. -/
def nextSave (w : Workload) (object : Nat) : Save := ⟨object, w.handles⟩

/-- The bucket that an object joins. -/
def keyOf (w : Workload) (object : Nat) : BucketKey := .ofSaveable (w.saveable object)

/-- What can happen to a workload. -/
inductive Step (limit : Nat) : Workload → Workload → Prop where
  /-- Time passes. -/
  | pass (w : Workload) (time : Nat) : Step limit w { w with clock := time }
  /-- An object comes into being. -/
  | create (w : Workload) (record : Record) :
      Step limit w { w with records := w.records ++ [record] }
  /-- Something is written down that says nothing about any save. -/
  | remark (w : Workload) (event : Event) : event.isRemark = true →
      Step limit w (w.onLedger (·.note event))
  /-- An existing object is enqueued. -/
  | ask (w : Workload) (object : Nat) : object < w.records.length →
      (w.record object).isNew = false →
      Step limit w (({ w with
        handles := w.handles + 1
        underway := .waiting (.update (w.nextSave object)) ::ₘ w.underway } : Workload).onLedger
          (·.note (.queued (.update (w.nextSave object)))))
  /-- A new object is the first of its bucket. -/
  | joinFirst (w : Workload) (object : Nat) : object < w.records.length →
      (w.record object).isNew = true → w.keyOf object ∉ w.buckets.map Bucket.key →
      Step limit w (({ w with
        handles := w.handles + 1
        underway := .waiting (.cycle (w.keyOf object)) ::ₘ w.underway
        buckets := { key := w.keyOf object, plural := (w.saveable object).model.plural
                     pending := [w.nextSave object], inFlight := true } ::ₘ w.buckets } :
          Workload).onLedger (·.note (.joined (w.keyOf object) (w.nextSave object))))
  /-- A new object joins a bucket that is not in flight. -/
  | joinIdle {w : Workload} {others : Multiset Bucket} (object : Nat) (b : Bucket) :
      object < w.records.length → (w.record object).isNew = true → b.key = w.keyOf object →
      w.buckets = b ::ₘ others → b.inFlight = false →
      Step limit w (({ w with
        handles := w.handles + 1
        underway := .waiting (.cycle b.key) ::ₘ w.underway
        buckets := { b.push (w.nextSave object) with inFlight := true } ::ₘ others } :
          Workload).onLedger (·.note (.joined b.key (w.nextSave object))))
  /-- A new object joins a bucket that is in flight. -/
  | joinBusy {w : Workload} {others : Multiset Bucket} (object : Nat) (b : Bucket) :
      object < w.records.length → (w.record object).isNew = true → b.key = w.keyOf object →
      w.buckets = b ::ₘ others → b.inFlight = true →
      Step limit w (({ w with
        handles := w.handles + 1
        buckets := { b.push (w.nextSave object) with inFlight := true } ::ₘ others } :
          Workload).onLedger (·.note (.joined b.key (w.nextSave object))))
  /-- A cycle takes a batch and makes a request of it. -/
  | take {w : Workload} {rest : Multiset Phase} {others : Multiset Bucket} (b : Bucket)
      (body : List Json) (timer : Timer) :
      w.underway = .waiting (.cycle b.key) ::ₘ rest → w.buckets = b ::ₘ others →
      b.pending ≠ [] → w.batchBody? b.key (b.nextBatch limit) = some body →
      Step limit w (({ w with
        underway := .leaving ⟨b.key, b.nextBatch limit, ⟨b.plural, b.key.background, body⟩, timer⟩
          ::ₘ rest
        buckets := b.afterBatch limit ::ₘ others } : Workload).onLedger
          (·.note (.taken b.key (b.nextBatch limit))))
  /-- A cycle takes a batch, and the serialization of an object crashes. -/
  | spoil {w : Workload} {rest : Multiset Phase} {others : Multiset Bucket} (b : Bucket) :
      w.underway = .waiting (.cycle b.key) ::ₘ rest → w.buckets = b ::ₘ others →
      b.pending ≠ [] → w.batchBody? b.key (b.nextBatch limit) = none →
      Step limit w (({ w with
        underway := .failing b.key (b.nextBatch limit) ::ₘ rest
        buckets := b.afterBatch limit ::ₘ others } : Workload).onLedger
          (·.note (.taken b.key (b.nextBatch limit))))
  /-- A request leaves. -/
  | post {w : Workload} {rest : Multiset Phase} (cycle : Cycle) :
      w.underway = .leaving cycle ::ₘ rest →
      Step limit w (({ w with underway := .sent cycle ::ₘ rest } : Workload).onLedger
        (·.note (.posted cycle.key cycle.batch cycle.request)))
  /-- A request is answered. -/
  | answer {w : Workload} {rest : Multiset Phase} (cycle : Cycle) (answer : Answer) :
      w.underway = .sent cycle ::ₘ rest →
      Step limit w (({ w with underway := .answered cycle answer ::ₘ rest } : Workload).onLedger
        (·.note (.answered cycle.key cycle.batch cycle.request answer)))
  /-- The transport crashed. -/
  | crash {w : Workload} {rest : Multiset Phase} (cycle : Cycle) :
      w.underway = .answered cycle .crash ::ₘ rest →
      Step limit w { w with underway := .failing cycle.key cycle.batch ::ₘ rest }
  /-- A request failed as a whole. -/
  | refuse {w : Workload} {rest : Multiset Phase} (cycle : Cycle) (cause : TransportFailure) :
      w.underway = .answered cycle (.failure cause) ::ₘ rest →
      Step limit w (({ w with underway := .closing cycle.key none ::ₘ rest } : Workload).onLedger
        (·.settleAll (.error (.ofTransport cause)) cycle.batch))
  /-- A request was accepted as a background task. -/
  | defer {w : Workload} {rest : Multiset Phase} (cycle : Cycle) (value task : Json) :
      w.underway = .answered cycle (.body value) ::ₘ rest →
      value.field? "background_task" = some task →
      Step limit w (({ w with underway := .closing cycle.key none ::ₘ rest } : Workload).onLedger
        (·.settleAll (.ok (.backgroundTask task)) cycle.batch))
  /-- The body of an answer is to be held. -/
  | hold {w : Workload} {rest : Multiset Phase} (cycle : Cycle) (value : Json) :
      w.underway = .answered cycle (.body value) ::ₘ rest →
      value.field? "background_task" = none →
      Step limit w { w with underway := .closing cycle.key (some ⟨cycle.batch, value⟩) ::ₘ rest }
  /-- A cycle ends while objects are pending, and the next one is pushed. -/
  | closeNext {w : Workload} {rest : Multiset Phase} {others : Multiset Bucket} (b : Bucket)
      (response : Option HeldResponse) :
      w.underway = .closing b.key response ::ₘ rest → w.buckets = b ::ₘ others → b.pending ≠ [] →
      Step limit w { w with
        underway := .waiting (.cycle b.key) ::ₘ rest
        buckets := { b with held := b.held ++ response.toList } ::ₘ others }
  /-- A cycle ends with its bucket empty, and the held answers are handed back. -/
  | closeLast {w : Workload} {rest : Multiset Phase} {others : Multiset Bucket} (b : Bucket)
      (response : Option HeldResponse) :
      w.underway = .closing b.key response ::ₘ rest → w.buckets = b ::ₘ others → b.pending = [] →
      Step limit w (({ w with
        underway := rest
        buckets := { b with held := [], inFlight := false } ::ₘ others } : Workload).onLedger
          fun l => (l.redistribute b.key.typeName (b.held ++ response.toList)).1)
  /-- A cycle that was cut short ends while objects are pending, and the next one is pushed. -/
  | abortNext {w : Workload} {rest : Multiset Phase} {others : Multiset Bucket} (b : Bucket)
      (batch : List Save) :
      w.underway = .failing b.key batch ::ₘ rest → w.buckets = b ::ₘ others → b.pending ≠ [] →
      Step limit w (({ w with underway := .waiting (.cycle b.key) ::ₘ rest } : Workload).onLedger
        (·.settleAll (.error .cancelled) batch))
  /-- A cycle that was cut short ends with its bucket empty, and the held answers are given up. -/
  | abortLast {w : Workload} {rest : Multiset Phase} {others : Multiset Bucket} (b : Bucket)
      (batch : List Save) :
      w.underway = .failing b.key batch ::ₘ rest → w.buckets = b ::ₘ others → b.pending = [] →
      Step limit w (({ w with
        underway := rest
        buckets := { b with held := [], inFlight := false } ::ₘ others } : Workload).onLedger
          (·.settleAll (.error .cancelled) (b.held.flatMap HeldResponse.batch ++ batch)))
  /-- A direct save starts. -/
  | begin {w : Workload} {rest : Multiset Phase} (save : Save) :
      w.underway = .waiting (.update save) ::ₘ rest →
      Step limit w { w with underway := .saving save ::ₘ rest }
  /-- A direct save returns or crashes. -/
  | comeBack {w : Workload} {rest : Multiset Phase} (save : Save) :
      w.underway = .saving save ::ₘ rest →
      Step limit w (({ w with
        underway := .replied save (w.saveable save.object).saveReply ::ₘ rest } :
          Workload).onLedger fun l =>
            (l.modifyRecord save.object (·.markReplied (w.saveable save.object).saveReply)).note
              (.replied save (w.saveable save.object).saveReply))
  /-- A direct save ends. -/
  | finish {w : Workload} {rest : Multiset Phase} (save : Save) (reply : SaveReply) :
      w.underway = .replied save reply ::ₘ rest →
      Step limit w (({ w with underway := rest } : Workload).onLedger
        (·.settle reply.result save))

/-- The workloads that some sequence of steps leads to. -/
inductive Reachable (limit : Nat) : Workload → Prop where
  | initial : Reachable limit {}
  | step {v w : Workload} : Reachable limit v → Step limit v w → Reachable limit w

end Workload

end Writeback.Queue
