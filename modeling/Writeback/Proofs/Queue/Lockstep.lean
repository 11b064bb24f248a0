import Writeback.Proofs.Queue.Actions
import Writeback.Proofs.Queue.Alike
import Writeback.Proofs.Queue.Requests

/-!
# Two queues in step

When two transports differ in nothing but how they answer requests to a collection, two queues that
are alike but for the collection stay alike as long as the same is done with both. What a cycle of
the collection does beyond ending, by whatever answer it ends, is to write down what came of its
requests: so either queue is alike to one whose cycle ends and writes nothing, and they to each
other.
-/

namespace Writeback.Queue

/-- Two transports answer alike but for the requests to a collection, whatever was answered
before. -/
structure Setup.AlikeBut (plural : String) (setup other : Setup) : Prop where
  settings : other.settings = setup.settings
  departure : ∀ earlier later request,
    other.transport.departure later request = setup.transport.departure earlier request
  latency : ∀ earlier later request,
    other.transport.latency later request = setup.transport.latency earlier request
  answer : ∀ earlier later request, request.plural ≠ plural →
    other.transport.answer later request = setup.transport.answer earlier request

namespace State

/-- The bucket with a key, if there is one, is one of this collection. -/
def Owns (s : State) (key : BucketKey) (name : String) : Prop :=
  ∀ b ∈ s.buckets, b.key = key → b.plural = name

/-- The answers that the buckets of a collection hold are to requests that were sent to it. -/
structure Kept (plural : String) (s : State) : Prop where
  keys : (s.buckets.map Bucket.key).Nodup
  posted : ∀ b ∈ s.buckets, b.plural = plural →
    b.held.flatMap HeldResponse.batch ⊆ s.postedTo plural

/-- A cycle ends, and nothing is written down of its requests. -/
def endCycle (s : State) (key : BucketKey) : State :=
  match s.bucket? key with
  | none => s
  | some bucket =>
    if bucket.pending.isEmpty then
      s.modifyBucket key fun b => { b with held := [], inFlight := false }
    else s.pushJob (.cycle key)

variable {plural name : String} {s t : State} {key : BucketKey}

theorem mem_of_bucket? {b : Bucket} (found : s.bucket? key = some b) :
    b ∈ s.buckets ∧ b.key = key :=
  ⟨List.mem_of_find?_eq_some found, key_of_bucket? found⟩

theorem Owns.taken (h : s.Owns key name) (limit : Nat) (batch : List Save) :
    ((s.modifyBucket key (·.afterBatch limit)).onLedger (·.note (.taken key batch))).Owns
      key name := by
  intro b mem here
  obtain ⟨c, hc, rfl⟩ := List.mem_map.mp mem
  by_cases there : c.key = key
  · simp only [there, if_true]
    exact h c hc there
  · simp [there] at here

namespace AlikeBut

theorem owns (h : AlikeBut plural s t) (own : s.Owns key name) : t.Owns key name := by
  intro c mem here
  obtain ⟨b, hb, alike⟩ := h.exists_alike mem
  exact alike.plural_eq.trans (own b hb (alike.key.symm.trans here))

/-! ### The cycles of other collections -/

theorem bucket?_of_ne (h : AlikeBut plural s t) (own : s.Owns key name) (other : name ≠ plural) :
    t.bucket? key = s.bucket? key := by
  rcases h.bucket?_cases key with ⟨hs, ht⟩ | ⟨b, c, hs, ht, alike⟩
  · rw [hs, ht]
  · obtain ⟨mem, here⟩ := mem_of_bucket? hs
    rw [hs, ht, alike.eq_of_ne (own b mem here ▸ other)]

theorem emptied (h : AlikeBut plural s t) (key : BucketKey) :
    AlikeBut plural (s.modifyBucket key fun b => { b with held := [], inFlight := false })
      (t.modifyBucket key fun b => { b with held := [], inFlight := false }) :=
  h.modifyBucket key fun _ _ alike =>
    .of_fields alike.key alike.plural_eq alike.pending rfl fun _ => rfl

theorem closeCycle_of_ne (h : AlikeBut plural s t) (own : s.Owns key name) (other : name ≠ plural)
    (response : Option HeldResponse) :
    AlikeBut plural (s.closeCycle key response) (t.closeCycle key response) := by
  unfold State.closeCycle
  rw [h.bucket?_of_ne own other]
  split
  · exact h
  · dsimp only
    split
    · have emptied := h.emptied key
      exact emptied.onLedger (emptied.ledger.redistribute key.typeName _)
    · refine (h.modifyBucket key ?_).pushJob (.cycle key)
      exact fun b c alike => .of_fields alike.key alike.plural_eq alike.pending alike.inFlight
        fun _ => rfl

theorem abortCycle_of_ne (h : AlikeBut plural s t) (own : s.Owns key name) (other : name ≠ plural)
    (batch : List Save) :
    AlikeBut plural (s.abortCycle key batch) (t.abortCycle key batch) := by
  unfold State.abortCycle
  rw [h.bucket?_of_ne own other]
  apply settleAll
  split
  · exact h
  · split
    · exact (h.emptied key).settleAll _ _
    · exact h.pushJob (.cycle key)

/-! ### The cycles of the collection -/

theorem endCycle (h : AlikeBut plural s t) (key : BucketKey) :
    AlikeBut plural (s.endCycle key) (t.endCycle key) := by
  unfold State.endCycle
  rcases h.bucket?_cases key with ⟨hs, ht⟩ | ⟨b, c, hs, ht, alike⟩
  · rw [hs, ht]
    exact h
  · rw [hs, ht]
    dsimp only
    rw [alike.pending]
    split
    · exact h.emptied key
    · exact h.pushJob (.cycle key)

end AlikeBut

namespace Kept

theorem of_ledger (h : Kept plural s) (buckets : t.buckets = s.buckets)
    (grown : s.postedTo plural ⊆ t.postedTo plural) : Kept plural t where
  keys := buckets ▸ h.keys
  posted b mem mine := List.Subset.trans (h.posted b (buckets ▸ mem) mine) grown

theorem note (h : Kept plural s) (event : Event) : Kept plural (s.onLedger (·.note event)) :=
  h.of_ledger rfl fun save mem => by
    change save ∈ (s.toLedger.note event).postedTo plural
    rw [Ledger.postedTo_note]
    exact List.mem_append_left _ mem

theorem taken (h : Kept plural s) (key : BucketKey) (limit : Nat) (batch : List Save) :
    Kept plural ((s.modifyBucket key (·.afterBatch limit)).onLedger
      (·.note (.taken key batch))) := by
  have modified : Kept plural (s.modifyBucket key (·.afterBatch limit)) := by
    constructor
    · have same : (s.modifyBucket key (·.afterBatch limit)).buckets.map Bucket.key =
          s.buckets.map Bucket.key := by
        simp only [State.modifyBucket, List.map_map]
        apply List.map_congr_left
        intro b _
        by_cases here : b.key = key <;> simp [here, Bucket.afterBatch]
      exact same ▸ h.keys
    · intro b mem mine
      obtain ⟨c, hc, rfl⟩ := List.mem_map.mp mem
      by_cases here : c.key = key
      · simp only [here, if_true] at mine ⊢
        exact h.posted c hc mine
      · simp only [here, if_false] at mine ⊢
        exact h.posted c hc mine
  exact modified.note (.taken key batch)

theorem owns (h : Kept plural s) {b : Bucket} (found : s.bucket? key = some b) :
    s.Owns key b.plural := by
  obtain ⟨mem, here⟩ := mem_of_bucket? found
  intro c hc there
  rw [List.inj_on_of_nodup_map h.keys hc mem (there.trans here.symm)]

/-- What a bucket of the collection holds is no part of what is alike. -/
theorem aside_held (own : s.Owns key plural) (held : List HeldResponse) :
    AlikeBut plural s (s.modifyBucket key fun b => { b with held := held }) where
  schedule := rfl
  buckets := by
    simp only [State.modifyBucket, List.map_map]
    apply List.map_congr_left
    intro b mem
    by_cases here : b.key = key
    · simp [here, Bucket.unheld, own b mem here]
    · simp [here]
  ledger := .refl plural _

theorem aside_closeCycle (h : Kept plural s) (own : s.Owns key plural)
    (response : Option HeldResponse)
    (posted : response.toList.flatMap HeldResponse.batch ⊆ s.postedTo plural) :
    AlikeBut plural (s.endCycle key) (s.closeCycle key response) := by
  unfold State.endCycle State.closeCycle
  cases found : s.bucket? key with
  | none => exact .refl plural s
  | some b =>
    obtain ⟨mem, here⟩ := mem_of_bucket? found
    dsimp only
    split
    · apply AlikeBut.aside
      apply Ledger.AlikeBut.aside_redistribute
      rw [List.flatMap_append]
      exact List.append_subset.mpr ⟨h.posted b mem (own b mem here), posted⟩
    · exact (aside_held own _).pushJob (.cycle key)

theorem aside_abortCycle (h : Kept plural s) (own : s.Owns key plural) (batch : List Save) :
    AlikeBut plural ((s.endCycle key).onLedger (·.settleAll (.error .cancelled) batch))
      (s.abortCycle key batch) := by
  unfold State.endCycle State.abortCycle
  apply AlikeBut.settleAll
  cases found : s.bucket? key with
  | none => exact .refl plural s
  | some b =>
    obtain ⟨mem, here⟩ := mem_of_bucket? found
    dsimp only
    split
    · exact .aside _ (.aside_settleAll (h.posted b mem (own b mem here)) _)
    · exact .refl plural _

theorem postedTo_endCycle (s : State) (key : BucketKey) :
    (s.endCycle key).postedTo plural = s.postedTo plural := by
  unfold State.endCycle
  split
  · rfl
  · split
    · rfl
    · exact (Ledger.postedTo_note s.toLedger (.queued (.cycle key)) plural).trans
        (List.append_nil _)

section Aside

variable (h : Kept plural s) (aside : AlikeBut plural s t) (buckets : t.buckets = s.buckets)
include h aside buckets

theorem of_aside : Kept plural t :=
  h.of_ledger buckets (by rw [aside.postedTo]; exact List.Subset.refl _)

/-- A cycle ends after something was written down that came of its request. -/
theorem aside_closed (own : s.Owns key plural) {response : Option HeldResponse}
    (posted : response.toList.flatMap HeldResponse.batch ⊆ s.postedTo plural) :
    AlikeBut plural (s.endCycle key) (t.closeCycle key response) :=
  (aside.endCycle key).trans
    ((h.of_aside aside buckets).aside_closeCycle (aside.owns own) _ (aside.postedTo ▸ posted))

theorem aside_aborted (own : s.Owns key plural) {batch : List Save}
    (posted : batch ⊆ s.postedTo plural) :
    AlikeBut plural (s.endCycle key) (t.abortCycle key batch) := by
  have ended := aside.endCycle key
  rw [← postedTo_endCycle s key, ← ended.postedTo] at posted
  exact (ended.trans (.aside _ (.aside_settleAll posted _))).trans
    ((h.of_aside aside buckets).aside_abortCycle (aside.owns own) batch)

end Aside

/-- An answer to a request to the collection ends the cycle, whatever it is. -/
theorem aside_arrive (h : Kept plural s) {cycle : Cycle} (own : s.Owns cycle.key plural)
    (mine : cycle.request.plural = plural) (sent : cycle.batch ⊆ s.postedTo plural)
    (setup : Setup) :
    AlikeBut plural (({ s with inFlight := s.inFlight - 1 } : State).endCycle cycle.key)
      (s.arrive setup cycle) := by
  unfold State.arrive
  dsimp only
  generalize setup.transport.answer s.answeredRequests cycle.request = answer
  generalize hr : ({ s with inFlight := s.inFlight - 1 } : State) = r
  have kept : Kept plural r := hr ▸ h.of_ledger rfl (List.Subset.refl _)
  have owned : r.Owns cycle.key plural := hr ▸ own
  have posted : cycle.batch ⊆ r.postedTo plural := hr ▸ sent
  have answered : AlikeBut plural r
      (r.onLedger (·.note (.answered cycle.key cycle.batch cycle.request answer))) :=
    .aside _ (.aside_note (by simp [Event.isOutcome, mine]))
  have measured (ending : Ending) :=
    answered.trans (.aside (·.measure setup.tracker cycle.timer ending) (.aside_measure _ _ _ _))
  have settled (ending : Ending) (result : SaveResult) :=
    (measured ending).trans
      (.aside (·.settleAll result cycle.batch)
        (.aside_settleAll ((measured ending).postedTo.symm ▸ posted) result))
  cases answer with
  | crash => exact kept.aside_aborted answered rfl owned posted
  | failure cause =>
    exact kept.aside_closed (settled .failed (.error (.ofTransport cause))) rfl owned (by simp)
  | body value =>
    dsimp only
    cases value.field? "background_task" with
    | some task =>
      exact kept.aside_closed (settled .stopped (.ok (.backgroundTask task))) rfl owned (by simp)
    | none => exact kept.aside_closed (measured .stopped) rfl owned (by simpa using posted)

end Kept

end State

/-- What a stage goes by is right: the bucket of a cycle is one of the collection that its request
is for, and the request was sent if an answer to it is to arrive. -/
def Stage.Fits (plural : String) (s : State) : Stage → Prop
  | depart cycle => s.Owns cycle.key cycle.request.plural
  | arrive cycle => s.Owns cycle.key cycle.request.plural ∧
      (cycle.request.plural = plural → cycle.batch ⊆ s.postedTo plural)
  | start _ | saved _ _ => True

def Task.Fits (plural : String) (s : State) : Task → Prop
  | job _ stage => stage.Fits plural s
  | _ => True

namespace State.AlikeBut

variable {plural : String} {setup other : Setup} {s t : State} (h : AlikeBut plural s t)
  (agree : setup.AlikeBut plural other)
include h

/-! ### The tasks -/

theorem batchTimer (batch : List Save) : t.batchTimer batch = s.batchTimer batch := by
  have clock : t.clock = s.clock := h.ledger.clock
  simp only [State.batchTimer, h.ledger.saveable, clock]

theorem finishUpdate (save : Save) (timer : Timer) :
    AlikeBut plural (s.finishUpdate setup save timer) (t.finishUpdate other save timer) := by
  apply h.onLedger
  dsimp only
  rw [h.ledger.saveable]
  generalize (s.saveable save.object).saveReply = reply
  have back := (h.ledger.modifyRecord save.object (f := (·.markReplied reply))
    fun r => r.saveable_markReplied reply).note (.replied save reply)
  exact (back.measure _ _ timer reply.ending).note _

theorem startUpdate (id : Nat) (save : Save) :
    AlikeBut plural (s.startUpdate setup id save) (t.startUpdate other id save) := by
  have clock : t.clock = s.clock := h.ledger.clock
  have saveable : t.saveable save.object = s.saveable save.object := h.ledger.saveable _
  unfold State.startUpdate
  dsimp only
  rw [saveable, clock]
  exact h.sleepThen _ _ (h.finishUpdate save _).release

variable (hs : Kept plural s) (ht : Kept plural t)
include hs ht

theorem closeEmpty {key : BucketKey} {name : String} (own : s.Owns key name) :
    AlikeBut plural (s.closeCycle key none) (t.closeCycle key none) := by
  by_cases mine : name = plural
  · subst mine
    have first := hs.aside_closeCycle own none (List.nil_subset _)
    have second := ht.aside_closeCycle (h.owns own) none (List.nil_subset _)
    exact (first.symm.trans (h.endCycle key)).trans second
  · exact h.closeCycle_of_ne own mine none

theorem abortCycle {key : BucketKey} {name : String} (own : s.Owns key name) (batch : List Save) :
    AlikeBut plural (s.abortCycle key batch) (t.abortCycle key batch) := by
  by_cases mine : name = plural
  · subst mine
    have first := hs.aside_abortCycle own batch
    have second := ht.aside_abortCycle (h.owns own) batch
    exact (first.symm.trans ((h.endCycle key).settleAll _ batch)).trans second
  · exact h.abortCycle_of_ne own mine batch

include agree

theorem arrive {cycle : Cycle} (fits : (Stage.arrive cycle).Fits plural s) :
    AlikeBut plural (s.arrive setup cycle) (t.arrive other cycle) := by
  obtain ⟨own, sent⟩ := fits
  have out := h.frame (f := fun u => { u with inFlight := u.inFlight - 1 }) fun _ _ _ => rfl
  by_cases mine : cycle.request.plural = plural
  · have posted : cycle.batch ⊆ t.postedTo plural := h.postedTo.symm ▸ sent mine
    have first := hs.aside_arrive (mine ▸ own) mine (sent mine) setup
    have second := ht.aside_arrive (h.owns (mine ▸ own)) mine posted other
    exact (first.symm.trans (out.endCycle cycle.key)).trans second
  · unfold State.arrive
    rw [agree.answer s.answeredRequests t.answeredRequests cycle.request mine]
    dsimp only
    generalize setup.transport.answer s.answeredRequests cycle.request = answer
    have answered := out.note (.answered cycle.key cycle.batch cycle.request answer)
    have measured (ending : Ending) :=
      answered.measure setup.tracker other.tracker cycle.timer ending
    cases answer with
    | crash => exact answered.abortCycle_of_ne own mine cycle.batch
    | failure cause =>
      have settled := (measured .failed).settleAll (.error (.ofTransport cause)) cycle.batch
      exact settled.closeCycle_of_ne own mine none
    | body value =>
      dsimp only
      cases value.field? "background_task" with
      | some task =>
        have settled := (measured .stopped).settleAll (.ok (.backgroundTask task)) cycle.batch
        exact settled.closeCycle_of_ne own mine none
      | none => exact (measured .stopped).closeCycle_of_ne own mine _

theorem depart (id : Nat) {cycle : Cycle} (own : s.Owns cycle.key cycle.request.plural) :
    AlikeBut plural (s.depart setup id cycle) (t.depart other id cycle) := by
  unfold State.depart
  rw [agree.latency s.answeredRequests t.answeredRequests cycle.request]
  dsimp only
  have out := (h.frame (f := fun u => { u with
    inFlight := u.inFlight + 1, peak := max u.peak (u.inFlight + 1) }) fun _ _ _ => rfl).note
      (.posted cycle.key cycle.batch cycle.request)
  apply out.sleepThen
  have kept {u : State} (hu : Kept plural u) : Kept plural (({ u with
      inFlight := u.inFlight + 1, peak := max u.peak (u.inFlight + 1) } : State).onLedger
        (·.note (.posted cycle.key cycle.batch cycle.request))) :=
    (hu.note (.posted cycle.key cycle.batch cycle.request)).of_ledger rfl (List.Subset.refl _)
  refine (out.arrive agree (kept hs) (kept ht) ⟨own, fun mine => ?_⟩).release
  exact fun save mem => Ledger.mem_postedTo.mpr
    ⟨cycle.key, cycle.batch, cycle.request, by simp [State.onLedger], mine, mem⟩

theorem startCycle (id : Nat) (key : BucketKey) :
    AlikeBut plural (s.startCycle setup id key) (t.startCycle other id key) := by
  unfold State.startCycle
  rw [agree.settings]
  rcases h.bucket?_cases key with ⟨none, none'⟩ | ⟨b, c, found, found', alike⟩
  · rw [none, none']
    exact h.release
  · rw [found, found']
    dsimp only
    generalize setup.settings.batchLimit = limit
    rw [alike.nextBatch, alike.plural_eq]
    have own := (hs.owns found).taken limit (b.nextBatch limit)
    have taken := (h.modifyBucket key fun _ _ alike => alike.afterBatch limit).note
      (.taken key (b.nextBatch limit))
    have kept := hs.taken key limit (b.nextBatch limit)
    have kept' := ht.taken key limit (b.nextBatch limit)
    generalize (s.modifyBucket key (·.afterBatch limit)).onLedger
      (·.note (.taken key (b.nextBatch limit))) = r at own taken kept ⊢
    generalize (t.modifyBucket key (·.afterBatch limit)).onLedger
      (·.note (.taken key (b.nextBatch limit))) = r' at taken kept' ⊢
    split
    · exact (taken.closeEmpty kept kept' own).release
    · have body : r'.batchBody? key (b.nextBatch limit) = r.batchBody? key (b.nextBatch limit) :=
        Ledger.batchBody?_congr fun save _ => taken.ledger.saveable save.object
      rw [body]
      split
      · exact (taken.abortCycle kept kept' own _).release
      · rw [agree.departure r.answeredRequests, taken.batchTimer]
        exact taken.sleepThen _ _ (taken.depart agree kept kept' id own)

theorem runStage (id : Nat) {stage : Stage} (fits : stage.Fits plural s) :
    AlikeBut plural (s.runStage setup id stage) (t.runStage other id stage) := by
  cases stage with
  | start job =>
    have started := h.note (.started job)
    cases job with
    | cycle key => exact started.startCycle agree (hs.note _) (ht.note _) id key
    | update save => exact started.startUpdate id save
  | depart cycle => exact h.depart agree hs ht id fits
  | arrive cycle => exact (h.arrive agree hs ht fits).release
  | saved save timer => exact (h.finishUpdate save timer).release

theorem runTask {task : Task} (fits : task.Fits plural s) :
    AlikeBut plural (s.runTask setup task) (t.runTask other task) := by
  match task with
  | .countdown generation =>
    unfold State.runTask
    rw [agree.settings]
    exact h.sleepThen _ _ (h.endQuiet generation)
  | .due generation => exact h.endQuiet generation
  | .flush id => exact h.startFlush id
  | .admitted ⟨_, []⟩ => exact h.release
  | .admitted ⟨id, job :: rest⟩ => exact (h.spawn (.job id (.start job))).startJobs id rest
  | .job id stage => exact h.runStage agree hs ht id fits

theorem step? (fits : ∀ task ∈ s.ready, task.Fits plural s) :
    Option.Rel (AlikeBut plural) (s.step? setup) (t.step? other) := by
  have ready : t.ready = s.ready := by rw [h.schedule]
  have due : t.nextDue? = s.nextDue? := by
    rw [h.schedule]
    rfl
  unfold State.step?
  rw [ready, due]
  split
  · next task rest first =>
    have fit : task.Fits plural s := fits task (first ▸ List.mem_cons_self)
    refine .some ((h.pop rest).runTask agree ?_ ?_ ?_)
    · exact hs.of_ledger rfl (List.Subset.refl _)
    · exact ht.of_ledger rfl (List.Subset.refl _)
    · exact fit
  · cases s.nextDue? with
    | none => exact .none
    | some time => exact .some (h.wakeAt time)

theorem perform? {action : Action} (fits : ∀ task ∈ s.ready, task.Fits plural s)
    (fresh : ∀ object, action = .enqueue object →
      ∀ save ∈ s.postedTo plural, save.object ≠ object) :
    Option.Rel (AlikeBut plural) (s.perform? setup action) (t.perform? other action) := by
  have ready : t.ready = s.ready := by rw [h.schedule]
  have sleeping : t.sleeping = s.sleeping := by rw [h.schedule]
  have clock : t.clock = s.clock := h.ledger.clock
  have length : t.records.length = s.records.length := h.ledger.length
  cases action with
  | create record => exact .some (h.onLedger (h.ledger.create record))
  | enqueue object =>
    unfold State.perform?
    dsimp only
    rw [length]
    split
    · exact .some (h.enqueue (fresh object rfl))
    · exact .none
  | flush => exact .some h.flush
  | flushLater => exact .some h.flushLater
  | step => exact h.step? agree hs ht fits
  | wait time =>
    unfold State.perform?
    dsimp only
    rw [ready, sleeping, clock]
    split
    · exact .some (h.onLedger (h.ledger.pass time))
    · exact .none
  | reorder tasks =>
    unfold State.perform?
    dsimp only
    rw [ready]
    split
    · exact .some (h.pop tasks)
    · exact .none
  | elapse time =>
    unfold State.perform?
    dsimp only
    rw [clock]
    split
    · exact .some (h.wakeAt time)
    · exact .none

end State.AlikeBut

end Writeback.Queue
