import Writeback.Proofs.Queue.Actions
import Writeback.Proofs.Queue.Legs
import Writeback.Proofs.Queue.Outstanding

/-!
# Queues that keep no measurements

Nothing in the queue depends on what was measured. So everything that is done to a queue can be done
to the queue without its measurements, with the same outcome but for them; and where a tracker keeps
nothing, there are none. Two runs with the same actions therefore differ in their measurements alone
when one of them has a silent tracker.
-/

namespace Writeback

def Event.measured? : Event → Option Measurement
  | measured m => some m
  | _ => none

namespace Ledger

/-- The ledger without its measurements. -/
def unmeasured (l : Ledger) : Ledger :=
  { l with journal := l.journal.filter fun entry => entry.event.measured?.isNone }

variable (l : Ledger)

/-- Whatever is not about measurements can be read off the ledger without them. -/
theorem timed_unmeasured {α : Type} {pick : Event → Option α}
    (blind : ∀ m, pick (.measured m) = none) : l.unmeasured.timed pick = l.timed pick := by
  rw [timed, timed, unmeasured, ← List.filter_reverse, List.filterMap_filter]
  refine List.filterMap_congr fun entry _ => ?_
  cases h : entry.event <;> simp [Event.measured?, blind]

theorem measurements_eq_history : l.measurements = l.history Event.measured? := by
  rw [history, events, List.filterMap_map]
  refine congrFun (congrArg _ (funext fun entry => ?_)) _
  cases h : entry.event <;> simp [h, Event.measured?]

theorem measurements_unmeasured : l.unmeasured.measurements = [] := by
  rw [measurements_eq_history, history, events, List.filterMap_map]
  refine List.filterMap_eq_nil_iff.mpr fun entry mem => ?_
  obtain ⟨-, none⟩ := List.mem_filter.mp (List.mem_reverse.mp mem)
  exact Option.isNone_iff_eq_none.mp none

theorem answeredRequests_unmeasured : l.unmeasured.answeredRequests = l.answeredRequests := by
  rw [answeredRequests_eq_history, answeredRequests_eq_history, ← map_snd_timed,
    timed_unmeasured _ fun _ => rfl, map_snd_timed]

theorem unmeasured_note {event : Event} (none : event.measured? = none) :
    l.unmeasured.note event = (l.note event).unmeasured := by
  simp [unmeasured, note, none]

/-- Where a silent tracker keeps nothing, another may keep a measurement. -/
theorem unmeasured_measure (tracker : Tracker) (timer : Timer) (ending : Ending) :
    l.unmeasured.measure .silent timer ending = (l.measure tracker timer ending).unmeasured := by
  unfold measure
  cases tracker.finish? timer ending l.clock with
  | none => rfl
  | some m => simp [unmeasured, note, Event.measured?, Tracker.finish?]

theorem unmeasured_settle (result : SaveResult) (save : Save) :
    l.unmeasured.settle result save = (l.settle result save).unmeasured :=
  l.unmeasured_note rfl

theorem unmeasured_settleAll (result : SaveResult) (saves : List Save) :
    l.unmeasured.settleAll result saves = (l.settleAll result saves).unmeasured := by
  induction saves generalizing l with
  | nil => rfl
  | cons save saves ih =>
    simp only [settleAll, List.foldl_cons, unmeasured_settle] at ih ⊢
    exact ih _

theorem unmeasured_deliver (typeName : String) (save : Save) (entry : Option Json) :
    l.unmeasured.deliver typeName save entry =
      ((l.deliver typeName save entry).1.unmeasured, (l.deliver typeName save entry).2) := by
  have called (payload : Json) : l.unmeasured.note (.hooked save payload) =
      (l.note (.hooked save payload)).unmeasured := l.unmeasured_note rfl
  have known : l.unmeasured.saveable save.object = l.saveable save.object := rfl
  simp only [deliver, known, called]
  cases Verdict.ofEntry typeName entry with
  | rejected entry => exact Prod.ext (unmeasured_settle _ _ _) rfl
  | accepted payload =>
    dsimp only
    cases (l.saveable save.object).hook payload with
    | returned value => exact Prod.ext (unmeasured_settle (modifyRecord _ _ _) _ _) rfl
    | failed failure => exact Prod.ext (unmeasured_settle _ _ _) rfl
    | crashed => rfl

theorem unmeasured_deliverAll (typeName : String) (pairs : List (Save × Option Json)) :
    deliverAll typeName pairs l.unmeasured =
      ((deliverAll typeName pairs l).1.unmeasured, (deliverAll typeName pairs l).2) := by
  induction pairs generalizing l with
  | nil => rfl
  | cons pair rest ih =>
    obtain ⟨save, entry⟩ := pair
    simp only [deliverAll, unmeasured_deliver]
    rcases l.deliver typeName save entry with ⟨m, crashed⟩
    cases crashed with
    | false => exact ih m
    | true => exact Prod.ext (unmeasured_settleAll m _ _) rfl

theorem unmeasured_redistribute (typeName : String) (responses : List HeldResponse) :
    (l.unmeasured.redistribute typeName responses).1 =
      (l.redistribute typeName responses).1.unmeasured :=
  congrArg Prod.fst (l.unmeasured_deliverAll typeName (assignEntries responses))

end Ledger

namespace Queue

/-- The queue with a tracker that keeps nothing. -/
def Setup.silenced (setup : Setup) : Setup := { setup with tracker := .silent }

namespace State

/-- The queue without its measurements. -/
def unmeasured (s : State) : State := s.onLedger Ledger.unmeasured

variable (s : State)

/-- What does the same to both ledgers, but for measurements, does it to both queues. -/
theorem unmeasured_onLedger {f g : Ledger → Ledger}
    (same : f s.toLedger.unmeasured = (g s.toLedger).unmeasured) :
    s.unmeasured.onLedger f = (s.onLedger g).unmeasured := by
  simp only [unmeasured, onLedger, same]

theorem unmeasured_note (event : Event) (none : event.measured? = none) :
    s.unmeasured.onLedger (·.note event) = (s.onLedger (·.note event)).unmeasured :=
  s.unmeasured_onLedger (s.toLedger.unmeasured_note none)

theorem unmeasured_settleAll (result : SaveResult) (saves : List Save) :
    s.unmeasured.onLedger (·.settleAll result saves) =
      (s.onLedger (·.settleAll result saves)).unmeasured :=
  s.unmeasured_onLedger (s.toLedger.unmeasured_settleAll result saves)

/-! ### The schedule -/

theorem unmeasured_sleepThen (duration : Nat) (task : Task) {goOn goOn' : State → State}
    (next : goOn' s.unmeasured = (goOn s).unmeasured) :
    s.unmeasured.sleepThen duration task goOn' = (s.sleepThen duration task goOn).unmeasured := by
  unfold sleepThen
  split
  · exact next
  · rfl

theorem unmeasured_pushJob (job : Job) : s.unmeasured.pushJob job = (s.pushJob job).unmeasured := by
  have noted := ({ s with jobs := s.jobs ++ [job], generation := s.generation + 1 } :
    State).unmeasured_note (.queued job) rfl
  exact congrArg (·.spawn (.countdown (s.generation + 1))) noted

theorem unmeasured_release : s.unmeasured.release = s.release.unmeasured := by
  unfold release
  dsimp only [unmeasured, onLedger]
  split <;> rfl

theorem unmeasured_startJobs (id : Nat) (jobs : List Job) :
    startJobs id jobs s.unmeasured = (startJobs id jobs s).unmeasured := by
  rw [startJobs_eq, startJobs_eq]
  rfl

theorem unmeasured_drain (id : Nat) : drain id s.unmeasured = (drain id s).unmeasured :=
  unmeasured_startJobs { s with jobs := [] } id s.jobs

theorem unmeasured_startFlush (id : Nat) :
    s.unmeasured.startFlush id = (s.startFlush id).unmeasured :=
  unmeasured_drain { s with generation := s.generation + 1 } id

theorem unmeasured_flush : s.unmeasured.flush = s.flush.unmeasured :=
  unmeasured_startFlush { s with drains := s.drains + 1 } s.drains

theorem unmeasured_endQuiet (generation : Nat) :
    s.unmeasured.endQuiet generation = (s.endQuiet generation).unmeasured := by
  by_cases current : s.generation = generation
  · have counted := unmeasured_drain { s with drains := s.drains + 1 } s.drains
    exact (if_pos current).trans (counted.trans (congrArg unmeasured (if_pos current).symm))
  · exact (if_neg current).trans (congrArg unmeasured (if_neg current).symm)

/-! ### The buckets -/

theorem unmeasured_ensureBucket (b : Bucket) :
    s.unmeasured.ensureBucket b = (s.ensureBucket b).unmeasured := by
  have same : s.unmeasured.bucket? b.key = s.bucket? b.key := rfl
  unfold ensureBucket
  rw [same]
  split <;> rfl

theorem unmeasured_enqueue (object : Nat) :
    s.unmeasured.enqueue object = (s.enqueue object).unmeasured := by
  generalize hr : ({ s with handles := s.handles + 1 } : State) = r
  have counted : r.unmeasured = { s.unmeasured with handles := s.handles + 1 } := hr ▸ rfl
  by_cases new : (s.record object).isNew = true
  · have joined (b : Bucket) (key : BucketKey) (save : Save) :
        ((r.unmeasured.ensureBucket b).onLedger (·.note (.joined key save))).modifyBucket key
            (fun b => { b.push save with inFlight := true }) =
          (((r.ensureBucket b).onLedger (·.note (.joined key save))).modifyBucket key
            fun b => { b.push save with inFlight := true }).unmeasured := by
      rw [unmeasured_ensureBucket, unmeasured_note _ _ rfl]
      rfl
    have fresh : (s.unmeasured.record object).isNew = true := new
    rw [enqueue_of_new new hr.symm rfl, enqueue_of_new fresh counted rfl]
    dsimp only
    rw [apply_ite unmeasured, ← unmeasured_pushJob, ← joined]
    rfl
  · have pushed := r.unmeasured_pushJob (.update ⟨object, s.handles⟩)
    subst hr
    exact (if_neg new).trans (pushed.trans (congrArg unmeasured (if_neg new).symm))

theorem unmeasured_closeCycle (key : BucketKey) (response : Option HeldResponse) :
    s.unmeasured.closeCycle key response = (s.closeCycle key response).unmeasured := by
  have same : s.unmeasured.bucket? key = s.bucket? key := rfl
  unfold closeCycle
  rw [same]
  split
  · rfl
  · dsimp only
    split
    · exact unmeasured_onLedger (s.modifyBucket key _) (Ledger.unmeasured_redistribute _ _ _)
    · exact unmeasured_pushJob (s.modifyBucket key _) _

theorem unmeasured_abortCycle (key : BucketKey) (batch : List Save) :
    s.unmeasured.abortCycle key batch = (s.abortCycle key batch).unmeasured := by
  have same : s.unmeasured.bucket? key = s.bucket? key := rfl
  have settled {r r' : State} (before : r' = r.unmeasured) :
      r'.onLedger (·.settleAll (.error .cancelled) batch) =
        (r.onLedger (·.settleAll (.error .cancelled) batch)).unmeasured :=
    before ▸ r.unmeasured_settleAll _ _
  unfold abortCycle
  rw [same]
  apply settled
  split
  · rfl
  · split
    · exact unmeasured_settleAll (s.modifyBucket key _) _ _
    · exact unmeasured_pushJob s _

/-! ### The jobs -/

variable (setup : Setup)

theorem unmeasured_measure (timer : Timer) (ending : Ending) :
    s.unmeasured.onLedger (·.measure .silent timer ending) =
      (s.onLedger (·.measure setup.tracker timer ending)).unmeasured :=
  s.unmeasured_onLedger (s.toLedger.unmeasured_measure setup.tracker timer ending)

theorem unmeasured_takeBatch (limit : Nat) (key : BucketKey) (b : Bucket) :
    s.unmeasured.takeBatch limit key b = (s.takeBatch limit key b).unmeasured :=
  (s.modifyBucket key _).unmeasured_note _ rfl

theorem unmeasured_sendRequest (cycle : Cycle) :
    s.unmeasured.sendRequest cycle = (s.sendRequest cycle).unmeasured :=
  unmeasured_note { s with inFlight := s.inFlight + 1, peak := max s.peak (s.inFlight + 1) } _ rfl

theorem unmeasured_takeAnswer (cycle : Cycle) (answer : Answer) :
    s.unmeasured.takeAnswer cycle answer = (s.takeAnswer cycle answer).unmeasured :=
  unmeasured_note { s with inFlight := s.inFlight - 1 } _ rfl

theorem unmeasured_answeredRequests : s.unmeasured.answeredRequests = s.answeredRequests :=
  s.toLedger.answeredRequests_unmeasured

theorem unmeasured_arrive (cycle : Cycle) :
    s.unmeasured.arrive setup.silenced cycle = (s.arrive setup cycle).unmeasured := by
  unfold arrive
  rw [unmeasured_answeredRequests]
  dsimp only [Setup.silenced]
  generalize setup.transport.answer s.answeredRequests cycle.request = answer
  have answered := s.unmeasured_takeAnswer cycle answer
  unfold takeAnswer at answered
  rw [answered]
  generalize State.onLedger _ _ = r
  cases answer with
  | crash => exact r.unmeasured_abortCycle _ _
  | failure cause =>
    dsimp only
    rw [← unmeasured_closeCycle, unmeasured_onLedger]
    rw [Ledger.unmeasured_measure, Ledger.unmeasured_settleAll]
  | body value =>
    dsimp only
    rw [unmeasured_measure]
    split
    · rw [unmeasured_settleAll, unmeasured_closeCycle]
    · rw [unmeasured_closeCycle]

theorem unmeasured_depart (id : Nat) (cycle : Cycle) :
    s.unmeasured.depart setup.silenced id cycle = (s.depart setup id cycle).unmeasured := by
  have goOn : ((s.unmeasured.sendRequest cycle).arrive setup.silenced cycle).release =
      (((s.sendRequest cycle).arrive setup cycle).release).unmeasured := by
    rw [unmeasured_sendRequest, unmeasured_arrive, unmeasured_release]
  have sent := s.unmeasured_sendRequest cycle
  unfold depart
  rw [unmeasured_answeredRequests]
  unfold sendRequest at sent goOn
  rw [sent] at goOn ⊢
  exact unmeasured_sleepThen _ _ _ goOn

theorem unmeasured_startCycle (id : Nat) (key : BucketKey) :
    s.unmeasured.startCycle setup.silenced id key = (s.startCycle setup id key).unmeasured := by
  have same : s.unmeasured.bucket? key = s.bucket? key := rfl
  unfold startCycle
  rw [same]
  split
  · exact s.unmeasured_release
  · next b found =>
    dsimp only [Setup.silenced]
    have taken := s.unmeasured_takeBatch setup.settings.batchLimit key b
    unfold takeBatch at taken
    rw [taken]
    generalize State.onLedger _ _ = r
    split
    · rw [unmeasured_closeCycle, unmeasured_release]
    · have body : r.unmeasured.batchBody? key (b.nextBatch setup.settings.batchLimit) =
        r.batchBody? key (b.nextBatch setup.settings.batchLimit) := rfl
      rw [body]
      split
      · rw [unmeasured_abortCycle, unmeasured_release]
      · rw [unmeasured_answeredRequests]
        exact r.unmeasured_sleepThen _ _ (r.unmeasured_depart setup id _)

theorem unmeasured_finishUpdate (save : Save) (timer : Timer) :
    s.unmeasured.finishUpdate setup.silenced save timer =
      (s.finishUpdate setup save timer).unmeasured := by
  have replied (l : Ledger) (reply : SaveReply) :
      (l.unmeasured.modifyRecord save.object (·.markReplied reply)).note (.replied save reply) =
        ((l.modifyRecord save.object (·.markReplied reply)).note
          (.replied save reply)).unmeasured :=
    (l.modifyRecord save.object (·.markReplied reply)).unmeasured_note rfl
  refine unmeasured_onLedger s ?_
  have reply : s.toLedger.unmeasured.saveable save.object = s.saveable save.object := rfl
  rw [reply]
  dsimp only [Setup.silenced]
  rw [replied, Ledger.unmeasured_measure, Ledger.unmeasured_settle]

theorem unmeasured_startUpdate (id : Nat) (save : Save) :
    s.unmeasured.startUpdate setup.silenced id save =
      (s.startUpdate setup id save).unmeasured := by
  have known : s.unmeasured.saveable save.object = s.saveable save.object := rfl
  unfold startUpdate
  rw [known]
  refine s.unmeasured_sleepThen _ _ ?_
  rw [← unmeasured_release, ← unmeasured_finishUpdate]
  rfl

theorem unmeasured_runStage (id : Nat) (stage : Stage) :
    s.unmeasured.runStage setup.silenced id stage = (s.runStage setup id stage).unmeasured := by
  cases stage with
  | start job =>
    have started := s.unmeasured_note (.started job) rfl
    unfold runStage
    dsimp only
    rw [started]
    cases job with
    | cycle key => exact unmeasured_startCycle _ setup id key
    | update save => exact unmeasured_startUpdate _ setup id save
  | depart cycle => exact s.unmeasured_depart setup id cycle
  | arrive cycle =>
    exact (congrArg release (s.unmeasured_arrive setup cycle)).trans (unmeasured_release _)
  | saved save timer =>
    exact (congrArg release (s.unmeasured_finishUpdate setup save timer)).trans
      (unmeasured_release _)

theorem unmeasured_runTask (task : Task) :
    s.unmeasured.runTask setup.silenced task = (s.runTask setup task).unmeasured := by
  match task with
  | .countdown generation =>
    exact s.unmeasured_sleepThen _ _ (s.unmeasured_endQuiet generation)
  | .due generation => exact s.unmeasured_endQuiet generation
  | .flush id => exact s.unmeasured_startFlush id
  | .admitted ⟨_, []⟩ => exact s.unmeasured_release
  | .admitted ⟨id, job :: rest⟩ =>
    exact (s.spawn (.job id (.start job))).unmeasured_startJobs id rest
  | .job id stage => exact s.unmeasured_runStage setup id stage

theorem unmeasured_step? :
    s.unmeasured.step? setup.silenced = (s.step? setup).map unmeasured := by
  have ready : s.unmeasured.ready = s.ready := rfl
  unfold step?
  rw [ready]
  split
  · next task rest _ => exact congrArg some ((s.pop rest).unmeasured_runTask setup task)
  · rw [Option.map_map]
    rfl

theorem unmeasured_perform? (action : Action) :
    s.unmeasured.perform? setup.silenced action = (s.perform? setup action).map unmeasured := by
  have guarded {p q : Prop} [Decidable p] [Decidable q] (same : q ↔ p) {r r' : State}
      (next : r' = r.unmeasured) :
      (if q then some r' else none) = (if p then some r else none).map unmeasured := by
    by_cases h : p
    · rw [if_pos h, if_pos (same.mpr h), next, Option.map_some]
    · rw [if_neg h, if_neg (mt same.mp h), Option.map_none]
  cases action with
  | create record => rfl
  | enqueue object => exact guarded .rfl (s.unmeasured_enqueue object)
  | flush => exact congrArg some s.unmeasured_flush
  | flushLater => rfl
  | step => exact s.unmeasured_step? setup
  | wait time | reorder tasks | elapse time => exact guarded .rfl rfl

end State

/-- With a tracker that keeps nothing, a run goes the same way, and nothing is measured. -/
theorem Setup.run?_silenced (setup : Setup) (actions : List Action) :
    setup.silenced.run? actions = (setup.run? actions).map State.unmeasured := by
  induction actions using List.reverseRecOn with
  | nil => rfl
  | append_singleton actions action ih =>
    rw [run?_concat, run?_concat, ih, Option.bind_map, Option.map_bind]
    exact congrArg _ (funext fun s => s.unmeasured_perform? setup action)

end Queue

end Writeback
