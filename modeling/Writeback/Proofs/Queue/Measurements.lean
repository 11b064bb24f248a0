import Writeback.Proofs.Queue.Silence
import Writeback.Proofs.Queue.Endings

/-!
# What is measured

A timer is started for each batch that is to be sent and for each direct save, and it ends where the
answer or the reply comes; a crash of the transport or of the direct save drops it, and a batch
whose serialization crashes never gets one. So a tracker that keeps measurements has kept, at any
moment, one for each request that was answered and one for each direct save that returned, in the
order they did. What a timer was started for stays with the job, through all the turns in which
other jobs run.
-/

namespace Writeback

/-- What a measurement tells of an operation, but for its times. -/
structure Operation where
  label : String
  action : Action
  failed : Bool
deriving DecidableEq

def Timer.operation (timer : Timer) (failed : Bool) : Operation :=
  ⟨timer.label, timer.action, failed⟩

def Measurement.operation (m : Measurement) : Operation := ⟨m.label, m.action, m.failed⟩

namespace Operation

variable (supply : Nat → Saveable)

/-- A batch is created, under the label of its first object. -/
def creation (batch : List Save) (request : Request) (failed : Bool) : Operation :=
  ⟨(batch.head?.map fun save => (supply save.object).model.label).getD "",
    .create request.body.length, failed⟩

/-- An object is saved directly. -/
def update (save : Save) (failed : Bool) : Operation :=
  ⟨(supply save.object).model.label, .update, failed⟩

end Operation

namespace Event

/-- The operation that ends with an event. -/
def operation? (supply : Nat → Saveable) : Event → Option Operation
  | answered _ batch request (.body _) => some (.creation supply batch request false)
  | answered _ batch request (.failure _) => some (.creation supply batch request true)
  | replied save (.ok _) => some (.update supply save false)
  | replied save (.error _) => some (.update supply save true)
  | _ => none

/-- How a save ended. -/
def result? : Event → Option (Save × SaveResult)
  | settled save result => some (save, result)
  | _ => none

/-- Whether an event is a measurement, or may be the end of what is measured. -/
def isTimed : Event → Bool
  | answered _ _ _ (.body _) | answered _ _ _ (.failure _) => true
  | replied _ (.ok _) | replied _ (.error _) | measured _ => true
  | _ => false

theorem isTimed_of_isClosing {e : Event} (h : e.isClosing = true) : e.isTimed = false := by
  cases e <;> simp_all [isClosing, isTimed]

theorem isTimed_of_isAsking {e : Event} (h : e.isAsking = true) : e.isTimed = false := by
  cases e <;> simp_all [isAsking, isTimed]

theorem operation?_of_isTimed {e : Event} (h : e.isTimed = false) (supply : Nat → Saveable) :
    e.operation? supply = none ∧ e.measured? = none := by
  cases e with
  | answered key batch request answer => cases answer <;> simp_all [isTimed, operation?, measured?]
  | replied save reply => cases reply <;> simp_all [isTimed, operation?, measured?]
  | _ => simp_all [isTimed, operation?, measured?]

end Event

namespace Ledger

variable {l l' : Ledger} {supply : Nat → Saveable} {news : List Event}

/-- The measurements are those of the operations that ended, in the order they did. -/
def Logged (supply : Nat → Saveable) (l : Ledger) : Prop :=
  l.measurements.map (fun m => (m.till, m.operation)) = l.timed (Event.operation? supply)

namespace Logged

theorem untimed (h : l.Logged supply) (grows : l.journal <:+ l'.journal)
    (events : l'.events = l.events ++ news) (untimed : ∀ e ∈ news, e.isTimed = false) :
    l'.Logged supply := by
  have none (e : Event) (mem : e ∈ news) := Event.operation?_of_isTimed (untimed e mem) supply
  have unmeasured : l'.measurements = l.measurements := by
    rw [measurements_eq_history, measurements_eq_history, history, history, events,
      List.filterMap_append, List.filterMap_eq_nil_iff.mpr fun e mem => (none e mem).2,
      List.append_nil]
  rw [Logged, unmeasured, timed_eq_of_news grows events fun e mem => (none e mem).1]
  exact h

theorem note (h : l.Logged supply) {event : Event} (untimed : event.isTimed = false) :
    (l.note event).Logged supply :=
  h.untimed (List.suffix_cons _ _) (events_note l event) (by simpa using untimed)

theorem settleAll (h : l.Logged supply) (result : SaveResult) (saves : List Save) :
    (l.settleAll result saves).Logged supply :=
  h.untimed (Steady.settleAll l result saves).grows (events_settleAll l _ _)
    (by simp [Event.isTimed])

/-- An operation ends, and its timer with it. -/
theorem measure (h : l.Logged supply) {event : Event} {tracker : Tracker} {timer : Timer}
    {ending : Ending} (failed : Bool) (recording : tracker = .recording)
    (operation : event.operation? supply = some (timer.operation failed))
    (unmeasured : event.measured? = none)
    (ends : ending = if failed then .failed else .stopped) :
    ((l.note event).measure tracker timer ending).Logged supply := by
  have kept : (l.note event).measure tracker timer ending =
      (l.note event).note
        (.measured ⟨timer.label, timer.action, failed, timer.since, l.clock⟩) := by
    cases failed <;> simp [Ledger.measure, Tracker.finish?, recording, ends, Ledger.note]
  have before : (l.history Event.measured?).map (fun m => (m.till, m.operation)) =
      l.timed (Event.operation? supply) := l.measurements_eq_history ▸ h
  rw [kept, Logged, measurements_eq_history, history_note, history_note, timed_note, timed_note,
    operation, unmeasured, ← before]
  simp [Event.measured?, Event.operation?, Measurement.operation, Timer.operation]

/-- A timer that is dropped leaves nothing behind. -/
theorem dropped (h : l.Logged supply) (tracker : Tracker) (timer : Timer) :
    (l.measure tracker timer .dropped).Logged supply := by
  cases tracker <;> exact h

end Logged

end Ledger

namespace Queue

/-- The timer of a job that is out was started for what the job is doing. -/
def Stage.Timed (supply : Nat → Saveable) : Stage → Prop
  | start _ => True
  | depart cycle | arrive cycle => ∀ failed,
      cycle.timer.operation failed = .creation supply cycle.batch cycle.request failed
  | saved save timer => ∀ failed, timer.operation failed = .update supply save failed

/-- What a job takes up is as supplied, if it is about to start. -/
def Stage.Supplied (supply : Nat → Saveable) (s : State) : Stage → Prop
  | start (.cycle key) => ∀ b, s.bucket? key = some b →
      ∀ save ∈ b.pending, s.saveable save.object = supply save.object
  | start (.update save) => s.saveable save.object = supply save.object
  | depart _ | arrive _ | saved _ _ => True

/-- What was measured is what ended, and so it will be with the jobs that are out, also with the
one that runs. -/
structure Measuring (supply : Nat → Saveable) (hand : Option Stage) (s : State) : Prop where
  logged : s.Logged supply
  tasks : ∀ id stage, .job id stage ∈ s.tasks → stage.Timed supply
  hand : ∀ stage ∈ hand, stage.Timed supply ∧ stage.Supplied supply s

namespace Measuring

variable {setup : Setup} {supply : Nat → Saveable} {s t : State}

theorem closeCycle (h : s.Logged supply) (key : BucketKey) (response : Option HeldResponse) :
    (s.closeCycle key response).Logged supply := by
  obtain ⟨jobs, pushed, -⟩ := Pushed.closeCycle s key response
  obtain ⟨news, events, closing⟩ := s.exists_events_closeCycle key response
  exact h.untimed pushed.grows events fun e mem => Event.isTimed_of_isClosing (closing e mem)

theorem abortCycle (h : s.Logged supply) (key : BucketKey) (batch : List Save) :
    (s.abortCycle key batch).Logged supply := by
  obtain ⟨jobs, pushed, -⟩ := Pushed.abortCycle s key batch
  obtain ⟨news, events, closing⟩ := s.exists_events_abortCycle key batch
  exact h.untimed pushed.grows events fun e mem => Event.isTimed_of_isClosing (closing e mem)

/-- Where a request is answered or a direct save replies, the operation of the timer ends. -/
theorem logged_leg (recording : setup.tracker = .recording) {stage : Stage}
    {next : Option (Nat × Stage)} (leg : Leg setup s stage t next) (h : s.Logged supply)
    (timed : stage.Timed supply) : t.Logged supply := by
  cases leg with
  | missing | begin => exact h.note rfl
  | idle => exact closeCycle (s := State.takeBatch _ _ _ _) ((h.note rfl).note rfl) _ none
  | spoil => exact abortCycle (s := State.takeBatch _ _ _ _) ((h.note rfl).note rfl) _ _
  | @take key =>
    have started : (s.toLedger.note (.started (.cycle key))).Logged supply := h.note rfl
    exact started.note rfl
  | post cycle => exact h.note rfl
  | crash cycle => exact abortCycle (s := State.takeAnswer _ _ _) (h.note rfl) _ _
  | refuse cycle cause =>
    have ended : ((s.toLedger.note (.answered cycle.key cycle.batch cycle.request
        (.failure cause))).measure setup.tracker cycle.timer .failed).Logged supply :=
      h.measure true recording (congrArg some (timed true).symm) rfl rfl
    exact closeCycle (s := State.onLedger _ _) (ended.settleAll _ _) cycle.key none
  | defer cycle value =>
    have ended : ((s.toLedger.note (.answered cycle.key cycle.batch cycle.request
        (.body value))).measure setup.tracker cycle.timer .stopped).Logged supply :=
      h.measure false recording (congrArg some (timed false).symm) rfl rfl
    exact closeCycle (s := State.onLedger _ _) (ended.settleAll _ _) cycle.key none
  | hold cycle value =>
    have ended : ((s.toLedger.note (.answered cycle.key cycle.batch cycle.request
        (.body value))).measure setup.tracker cycle.timer .stopped).Logged supply :=
      h.measure false recording (congrArg some (timed false).symm) rfl rfl
    exact closeCycle (s := State.onLedger _ _) ended cycle.key _
  | comeBack save timer =>
    unfold State.finishUpdate
    dsimp only [State.onLedger]
    generalize (s.toLedger.saveable save.object).saveReply = reply
    have back : (s.toLedger.modifyRecord save.object (·.markReplied reply)).Logged supply := h
    refine Ledger.Logged.note ?_ rfl
    cases reply with
    | ok value => exact back.measure false recording (congrArg some (timed false).symm) rfl rfl
    | error failure => exact back.measure true recording (congrArg some (timed true).symm) rfl rfl
    | crashed => exact (back.note rfl).dropped _ _

/-- A leg of a job is measured as it should. -/
theorem leg (recording : setup.tracker = .recording) {stage : Stage}
    {next : Option (Nat × Stage)} (leg : Leg setup s stage t next)
    (h : Measuring supply (some stage) s) : Measuring supply (next.map Prod.snd) t := by
  obtain ⟨timed, supplied⟩ := h.hand stage rfl
  refine ⟨logged_leg recording leg h.logged timed,
    fun id other there => h.tasks id other (leg.job_mem_tasks.mp there), fun stage' same => ?_⟩
  cases leg with
  | @take key b body found filled made =>
    cases same
    refine ⟨fun failed => ?_, trivial⟩
    obtain ⟨length, -⟩ := Ledger.getElem?_batchBody? made
    have label : ((b.nextBatch setup.settings.batchLimit).head?.map fun save =>
          (s.saveable save.object).model.label) =
        (b.nextBatch setup.settings.batchLimit).head?.map fun save =>
          (supply save.object).model.label := by
      refine Option.map_congr fun save first => ?_
      rw [supplied b found save (List.mem_of_mem_take (List.mem_of_mem_head? first))]
    simp only [Timer.operation, Operation.creation, State.batchTimer, label, length]
  | post cycle =>
    cases same
    exact ⟨timed, trivial⟩
  | begin save =>
    cases same
    have known : s.saveable save.object = supply save.object := supplied
    exact ⟨fun failed => by simp [Timer.operation, Operation.update, known], trivial⟩
  | _ => cases same

/-- A job that is about to start takes up what exists, and so what was supplied. -/
theorem supplied (reach : ReachableInAnyOrder setup s) (agrees : s.Agrees supply) {id : Nat}
    {stage : Stage} (there : .job id stage ∈ s.tasks) : stage.Supplied supply s := by
  have known {save : Save} (mem : save ∈ s.workload.load) :
      s.saveable save.object = supply save.object :=
    agrees _ (reach.workload.known_of_load mem)
  match stage with
  | .start (.cycle key) =>
    intro b found save pending
    refine known (Multiset.mem_add.mpr (.inl (Multiset.mem_add.mpr (.inr ?_))))
    exact Multiset.mem_bind.mpr ⟨b, List.mem_of_find?_eq_some found,
      Multiset.mem_add.mpr (.inl pending)⟩
  | .start (.update save) =>
    refine known (Multiset.mem_add.mpr (.inl (Multiset.mem_add.mpr (.inl ?_))))
    exact Multiset.mem_bind.mpr ⟨_, State.phase_mem_underway there, Multiset.mem_singleton_self _⟩
  | .depart _ | .arrive _ | .saved _ _ => trivial

theorem interlude (h : Measuring supply none s) (between : Interlude s t) :
    Measuring supply none t := by
  obtain ⟨news, events, asking⟩ := between.asks
  refine ⟨h.logged.untimed between.grows events fun e mem =>
    Event.isTimed_of_isAsking (asking e mem), fun id stage mem => ?_, by simp⟩
  match stage with
  | .start _ => trivial
  | .depart _ | .arrive _ | .saved _ _ => exact h.tasks id _ ((between.running id _ rfl).mp mem)

theorem turn (recording : setup.tracker = .recording) (reach : ReachableInAnyOrder setup s)
    (agrees : s.Agrees supply) (turn : Turn setup s t) (h : Measuring supply none s) :
    Measuring supply none t := by
  rcases turn.runs_or_interlude with ⟨id, stage, rest, ready, runs⟩ | between
  · have there : .job id stage ∈ s.tasks := by simp [State.tasks, ready]
    refine runs.induction (P := Measuring supply) (fun _ _ _ _ leg => Measuring.leg recording leg)
      (fun r duration next _ h => ⟨h.logged, fun id' stage' mem => ?_, by simp⟩)
      (fun r h => h.interlude (.release r))
      ⟨h.logged, fun id' stage' mem => h.tasks id' stage' ?_, fun stage' same => ?_⟩
    · rcases State.mem_tasks_sleep.mp mem with there | same
      · exact h.tasks id' stage' there
      · cases same
        exact (h.hand next rfl).1
    · exact State.tasks_pop ready ▸ List.mem_cons_of_mem _ mem
    · cases same
      exact ⟨h.tasks id stage there, supplied reach agrees there⟩
  · exact h.interlude between

end Measuring

theorem ReachableInAnyOrder.measuring {setup : Setup} {s : State}
    (recording : setup.tracker = .recording) (h : ReachableInAnyOrder setup s) :
    ∀ supply, s.Agrees supply → Measuring supply none s := by
  refine h.induction (P := fun s => ∀ supply, s.Agrees supply → Measuring supply none s)
    (fun supply _ => ⟨rfl, by simp [State.tasks, State.initial], by simp⟩) ?_
  intro s t reach turn ih supply agrees
  have before : s.Agrees supply :=
    Workload.Steps.agrees (turn.steps reach.workload.tokens.guarded) agrees
  exact (ih supply before).turn recording reach before turn

/-- Telemetry matches what happened, and nothing depends on it. In any run with a recording tracker
there is one measurement for each request that was answered, unless the transport crashed, and one
for each direct save that returned, in the order they did and with the time: that of a request has
the label of the first object of its batch, tells how many objects its body creates, and says that
it failed exactly if the transport did; that of a direct save has the label of its object, and says
that it failed exactly if the save returned an error. There is none for a direct save that crashed,
and none for a batch with an object whose serialization crashes, as it is never answered. With a
tracker that keeps nothing the same actions lead to the same state but for the measurements: to the
same requests and results, at the same times. -/
theorem Setup.measurements_match {setup : Setup} (recording : setup.tracker = .recording)
    {actions : List Action} {s : State} (run : setup.run? actions = some s) :
    (s.measurements.map fun m => (m.till, m.operation)) =
        s.timed (Event.operation? s.saveable) ∧
      (∀ key batch request answer, .answered key batch request answer ∈ s.events →
        s.batchBody? key batch = some request.body) ∧
      setup.silenced.run? actions = some s.unmeasured ∧ s.unmeasured.measurements = [] ∧
      s.unmeasured.timed Event.request? = s.timed Event.request? ∧
      s.unmeasured.timed Event.result? = s.timed Event.result? := by
  have reach : ReachableInAnyOrder setup s := Setup.reachable_iff.mpr ⟨actions, run⟩
  refine ⟨(reach.measuring recording s.saveable fun _ _ => rfl).logged, ?_, ?_,
    s.measurements_unmeasured, s.timed_unmeasured fun _ => rfl, s.timed_unmeasured fun _ => rfl⟩
  · intro key batch request answer answered
    obtain ⟨-, body, made, rfl⟩ :=
      Ledger.mem_requestsOf (reach.workload.requestsOf_of_answered answered)
    exact made
  · rw [setup.run?_silenced, run, Option.map_some]

/-- A control is created, a direct save fails, another one crashes, and so does the serialization of
a person: the first two are measured, in the order they end. -/
theorem Setup.measurements_match_of_four_jobs :
    let setup : Setup := { transport := .scripted { latency := 5 } }
    let actions : List Action :=
      [.create ⟨{}, true, 0, none⟩, .enqueue 0,
        .create ⟨{ saveTime := 3, saveReply := .error (.update "gone") }, false, 0, none⟩,
        .enqueue 1,
        .create ⟨{ saveTime := 4, saveReply := .crashed }, false, 0, none⟩, .enqueue 2,
        .create ⟨{ model := ⟨"person", "people", "Person"⟩, body := none }, true, 0, none⟩,
        .enqueue 3, .flush] ++ List.replicate 15 .step
    setup.tracker = .recording ∧ ∃ s, setup.run? actions = some s ∧
      (s.measurements.map fun m => (m.till, m.operation)) =
        [(3, ⟨"Control", .update, true⟩), (5, ⟨"Control", .create 1, false⟩)] ∧
      s.timed (Event.operation? s.saveable) =
        [(3, ⟨"Control", .update, true⟩), (5, ⟨"Control", .create 1, false⟩)] ∧
      setup.silenced.run? actions = some s.unmeasured := by
  intro setup actions
  have kept : (setup.run? actions).map
      (fun s => s.measurements.map fun m => (m.till, m.operation)) =
        some [(3, ⟨"Control", .update, true⟩), (5, ⟨"Control", .create 1, false⟩)] := by
    decide +kernel
  obtain ⟨s, run, measured⟩ := Option.map_eq_some_iff.mp kept
  have recording : setup.tracker = .recording := rfl
  obtain ⟨same, -, silenced, -⟩ := measurements_match recording run
  exact ⟨recording, s, run, measured, same ▸ measured, silenced⟩

end Queue

end Writeback
