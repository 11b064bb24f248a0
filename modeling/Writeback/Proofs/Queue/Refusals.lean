import Writeback.Proofs.Queue.Asking
import Writeback.Proofs.Queue.Moves
import Writeback.Proofs.Queue.Settlement

/-!
# A collection whose requests all fail

When the transport fails every request to a collection with the same cause, an answer to such a
request and the ends of its saves are written down together. So whoever looks between two moves
finds every save of an answered request ended with that cause, and once nothing is left to do every
request was answered.
-/

namespace Writeback

/-- Whether an event is an answer to a request to a collection. -/
def Event.isAnswerTo (plural : String) : Event → Bool
  | answered _ _ request _ => request.plural = plural
  | _ => false

namespace Ledger

/-- The saves of every answered request to a collection ended with the cause of a failure. -/
def Refused (plural : String) (cause : TransportFailure) (l : Ledger) : Prop :=
  ∀ key batch request answer, .answered key batch request answer ∈ l.events →
    request.plural = plural → ∀ save ∈ batch,
      .settled save (.error (.ofTransport cause)) ∈ l.events

namespace Refused

variable {plural : String} {cause : TransportFailure} {l l' : Ledger}

theorem of_news (h : Refused plural cause l) {news : List Event}
    (events : l'.events = l.events ++ news)
    (silent : ∀ e ∈ news, e.isAnswerTo plural = false) : Refused plural cause l' := by
  intro key batch request answer answered mine save mem
  rw [events] at answered ⊢
  rcases List.mem_append.mp answered with old | new
  · exact List.mem_append_left _ (h key batch request answer old mine save mem)
  · exact absurd mine (by simpa [Event.isAnswerTo] using silent _ new)

theorem note (h : Refused plural cause l) {event : Event}
    (silent : event.isAnswerTo plural = false) : Refused plural cause (l.note event) :=
  h.of_news (events_note l event) (by simpa using silent)

theorem settleAll (h : Refused plural cause l) (result : SaveResult) (saves : List Save) :
    Refused plural cause (l.settleAll result saves) :=
  h.of_news (events_settleAll l result saves) (by simp [Event.isAnswerTo])

theorem measure (h : Refused plural cause l) (tracker : Tracker) (timer : Timer)
    (ending : Ending) : Refused plural cause (l.measure tracker timer ending) := by
  unfold Ledger.measure
  split
  · exact h.note rfl
  · exact h

theorem redistribute (h : Refused plural cause l) (typeName : String)
    (responses : List HeldResponse) :
    Refused plural cause (l.redistribute typeName responses).1 := by
  obtain ⟨reports, reported, -⟩ := reported_redistribute typeName responses l
  refine h.of_news reported.events fun e he => ?_
  have report := reported.isReport e he
  cases e <;> simp_all [Event.isReport, Event.isAnswerTo]

/-- A request fails, and its saves with it. -/
theorem refuse (h : Refused plural cause l) (key : BucketKey) (batch : List Save)
    (request : Request) (tracker : Tracker) (timer : Timer) :
    Refused plural cause (((l.note (.answered key batch request (.failure cause))).measure tracker
      timer .failed).settleAll (.error (.ofTransport cause)) batch) := by
  generalize hm : (l.note (.answered key batch request (.failure cause))).measure tracker timer
    .failed = m
  obtain ⟨news, events, silent⟩ : ∃ news, m.events =
      l.events ++ .answered key batch request (.failure cause) :: news ∧
        ∀ e ∈ news, e.isAnswerTo plural = false := by
    subst hm
    unfold Ledger.measure
    split
    · next m _ => exact ⟨[.measured m], by simp, by simp [Event.isAnswerTo]⟩
    · exact ⟨[], by simp, by simp⟩
  intro key' batch' request' answer answered mine save mem
  rw [events_settleAll, List.mem_append] at answered ⊢
  rcases answered with earlier | settled
  · rw [events] at earlier ⊢
    rcases List.mem_append.mp earlier with old | new
    · exact .inl (List.mem_append_left _ (h key' batch' request' answer old mine save mem))
    · rcases List.mem_cons.mp new with same | later
      · obtain ⟨rfl, rfl, rfl, rfl⟩ : key' = key ∧ batch' = batch ∧ request' = request ∧
          answer = .failure cause := by simpa using same
        exact .inr (List.mem_map_of_mem mem)
      · exact absurd mine (by simpa [Event.isAnswerTo] using silent _ later)
  · simp at settled

end Refused

end Ledger

namespace Queue

/-- The transport fails every request to a collection with one cause. -/
def Setup.Refuses (setup : Setup) (plural : String) (cause : TransportFailure) : Prop :=
  ∀ earlier request, request.plural = plural →
    setup.transport.answer earlier request = .failure cause

namespace State

variable {plural : String} {cause : TransportFailure} {setup : Setup} {s t : State}

theorem refused_pushJob (h : s.Refused plural cause) (job : Job) :
    (s.pushJob job).Refused plural cause :=
  Ledger.Refused.note h rfl

theorem refused_release (h : s.Refused plural cause) : s.release.Refused plural cause := by
  rwa [release_toLedger]

theorem refused_startJobs (h : s.Refused plural cause) (id : Nat) (jobs : List Job) :
    (startJobs id jobs s).Refused plural cause := by
  rw [startJobs_eq]
  exact h

theorem refused_drain (h : s.Refused plural cause) (id : Nat) :
    (drain id s).Refused plural cause := by
  rwa [drain_toLedger]

theorem refused_closeCycle (h : s.Refused plural cause) (key : BucketKey)
    (response : Option HeldResponse) : (s.closeCycle key response).Refused plural cause := by
  unfold closeCycle
  split
  · exact h
  · dsimp only
    split
    · exact Ledger.Refused.redistribute h _ _
    · exact refused_pushJob h _

theorem refused_abortCycle (h : s.Refused plural cause) (key : BucketKey) (batch : List Save) :
    (s.abortCycle key batch).Refused plural cause := by
  unfold abortCycle
  apply Ledger.Refused.settleAll
  split
  · exact h
  · split
    · exact Ledger.Refused.settleAll h _ _
    · exact refused_pushJob h _

theorem refused_arrive (refuses : setup.Refuses plural cause) (h : s.Refused plural cause)
    (cycle : Cycle) : (s.arrive setup cycle).Refused plural cause := by
  unfold arrive
  by_cases mine : cycle.request.plural = plural
  · rw [refuses _ _ mine]
    exact refused_closeCycle (Ledger.Refused.refuse h _ _ _ _ _) _ _
  · generalize setup.transport.answer s.answeredRequests cycle.request = answer
    have answered : ({ s with inFlight := s.inFlight - 1 }.onLedger
        (·.note (.answered cycle.key cycle.batch cycle.request answer))).Refused plural cause :=
      Ledger.Refused.note h (by simpa [Event.isAnswerTo] using mine)
    cases answer with
    | crash => exact refused_abortCycle answered _ _
    | failure other => exact refused_closeCycle ((answered.measure _ _ _).settleAll _ _) _ _
    | body value =>
      dsimp only
      split
      · exact refused_closeCycle ((answered.measure _ _ _).settleAll _ _) _ _
      · exact refused_closeCycle (answered.measure _ _ _) _ _

theorem refused_sleepThen (h : s.Refused plural cause) (duration : Nat) (task : Task)
    {goOn : State → State} (next : (goOn s).Refused plural cause) :
    (s.sleepThen duration task goOn).Refused plural cause := by
  unfold sleepThen
  split
  · exact next
  · exact h

theorem refused_depart (refuses : setup.Refuses plural cause) (h : s.Refused plural cause)
    (id : Nat) (cycle : Cycle) : (s.depart setup id cycle).Refused plural cause := by
  have posted : ({ s with
      inFlight := s.inFlight + 1, peak := max s.peak (s.inFlight + 1) }.onLedger
        (·.note (.posted cycle.key cycle.batch cycle.request))).Refused plural cause :=
    Ledger.Refused.note h rfl
  exact refused_sleepThen posted _ _ (refused_release (refused_arrive refuses posted cycle))

theorem refused_startCycle (refuses : setup.Refuses plural cause) (h : s.Refused plural cause)
    (id : Nat) (key : BucketKey) : (s.startCycle setup id key).Refused plural cause := by
  unfold startCycle
  split
  · exact refused_release h
  · next bucket _ =>
    have taken : ((s.modifyBucket key (·.afterBatch setup.settings.batchLimit)).onLedger
        (·.note (.taken key (bucket.nextBatch setup.settings.batchLimit)))).Refused plural cause :=
      Ledger.Refused.note h rfl
    dsimp only
    split
    · exact refused_release (refused_closeCycle taken _ _)
    · split
      · exact refused_release (refused_abortCycle taken _ _)
      · exact refused_sleepThen taken _ _ (refused_depart refuses taken id _)

theorem refused_finishUpdate (h : s.Refused plural cause) (save : Save) (timer : Timer) :
    (s.finishUpdate setup save timer).Refused plural cause := by
  have replied (reply : SaveReply) : ((s.modifyRecord save.object (·.markReplied reply)).note
      (.replied save reply)).Refused plural cause := Ledger.Refused.note h rfl
  unfold finishUpdate onLedger
  exact ((replied _).measure _ _ _).note rfl

theorem refused_runStage (refuses : setup.Refuses plural cause) (h : s.Refused plural cause)
    (id : Nat) (stage : Stage) : (s.runStage setup id stage).Refused plural cause := by
  cases stage with
  | start job =>
    have started : (s.onLedger (·.note (.started job))).Refused plural cause :=
      Ledger.Refused.note h rfl
    cases job with
    | cycle key => exact refused_startCycle refuses started id key
    | update save =>
      exact refused_sleepThen started _ _ (refused_release (refused_finishUpdate started save _))
  | depart cycle => exact refused_depart refuses h id cycle
  | arrive cycle => exact refused_release (refused_arrive refuses h cycle)
  | saved save timer => exact refused_release (refused_finishUpdate h save timer)

theorem refused_endQuiet (h : s.Refused plural cause) (generation : Nat) :
    (s.endQuiet generation).Refused plural cause := by
  unfold endQuiet
  split
  · exact refused_drain (s := { s with drains := s.drains + 1 }) h _
  · exact h

theorem refused_step? (refuses : setup.Refuses plural cause) (h : s.Refused plural cause)
    (step : s.step? setup = some t) : t.Refused plural cause := by
  unfold step? at step
  split at step
  · next task rest _ =>
    cases step
    have popped : (s.pop rest).Refused plural cause := h
    match task with
    | .countdown generation => exact refused_sleepThen popped _ _ (refused_endQuiet popped _)
    | .due generation => exact refused_endQuiet popped generation
    | .flush id =>
      exact refused_drain (s := { s.pop rest with generation := s.generation + 1 }) popped id
    | .admitted ⟨_, []⟩ => exact refused_release popped
    | .admitted ⟨id, job :: jobs⟩ =>
      exact refused_startJobs (s := (s.pop rest).spawn (.job id (.start job))) popped id jobs
    | .job id stage => exact refused_runStage refuses popped id stage
  · obtain ⟨time, -, rfl⟩ := Option.map_eq_some_iff.mp step
    exact h

theorem refused_enqueue (h : s.Refused plural cause) (object : Nat) :
    (s.enqueue object).Refused plural cause := by
  by_cases new : (s.record object).isNew = true
  · obtain ⟨queued, remarks, events⟩ := events_enqueue_of_new new
    refine Ledger.Refused.of_news h events (List.forall_mem_cons.mpr ⟨rfl, fun e he => ?_⟩)
    have remark := remarks e he
    cases e <;> simp_all [Event.isRemark, Event.isAnswerTo]
  · exact Ledger.Refused.of_news h (events_enqueue_of_old new) (by simp [Event.isAnswerTo])

theorem refused_turn (refuses : setup.Refuses plural cause) (h : s.Refused plural cause)
    (turn : Turn setup s t) : t.Refused plural cause := by
  cases turn with
  | move move =>
    cases move with
    | create record => exact h
    | enqueue object => exact refused_enqueue h object
    | flush => exact refused_drain (s := { s with
        drains := s.drains + 1, generation := s.generation + 1 }) h _
    | flushLater => exact h
    | step _ step => exact refused_step? refuses h step
    | wait time => exact h
  | reorder tasks => exact h
  | elapse time => exact h

end State

theorem ReachableInAnyOrder.refused {plural : String} {cause : TransportFailure} {setup : Setup}
    {s : State} (h : ReachableInAnyOrder setup s) (refuses : setup.Refuses plural cause) :
    s.Refused plural cause := by
  refine h.induction (P := fun s => s.Refused plural cause) ?_ ?_
  · intro key batch request answer answered
    exact absurd answered List.not_mem_nil
  · intro s t _ turn ih
    exact State.refused_turn refuses ih turn

end Queue

end Writeback
