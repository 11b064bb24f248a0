import Writeback.Proofs.Queue.Courses
import Writeback.Proofs.Queue.Dropping

/-!
# The legs of a job

A job that runs goes from stage to stage. A leg is the way from one stage to where the next one is
due, or to the end of the job: a cycle takes its batch, sends it and has it answered; a direct save
begins and comes back. Where no time passes until the next stage, the job goes on at once, so that
one turn may be several legs. `Leg` lists them, and `State.runs_runStage` says that a job does
nothing besides. All other turns are interludes, in which no job comes any further.
-/

namespace Writeback

/-- Whether an event is an object that joins a bucket or a job that is pushed. -/
def Event.isAsking : Event → Bool
  | joined _ _ | queued _ => true
  | _ => false

/-- Whether an event is one of those that end a cycle: reports on saves, or the push of the next
one. -/
def Event.isClosing : Event → Bool
  | hooked _ _ | settled _ _ | queued _ => true
  | _ => false

theorem Event.isClosing_of_isReport {e : Event} (h : e.isReport = true) : e.isClosing = true := by
  cases e <;> simp_all [isReport, isClosing]

/-- An event on the wire: a batch is taken, sent, or answered. -/
def Event.wire? : Event → Option Event
  | taken key batch => some (taken key batch)
  | posted key batch request => some (posted key batch request)
  | answered key batch request answer => some (answered key batch request answer)
  | _ => none

theorem Event.wire?_of_isClosing {e : Event} (h : e.isClosing = true) : e.wire? = none := by
  cases e <;> simp_all [isClosing, wire?]

theorem Event.wire?_of_isAsking {e : Event} (h : e.isAsking = true) : e.wire? = none := by
  cases e <;> simp_all [isAsking, wire?]

theorem Event.wire?_of_isRemark {e : Event} (h : e.isRemark = true) : e.wire? = none := by
  cases e <;> simp_all [isRemark, wire?]

theorem Event.eq_of_wire? {e told : Event} (h : e.wire? = some told) : e = told := by
  cases e <;> simp_all [wire?]

namespace Ledger

/-- What happened on the wire, in order, each event with its time. -/
def wires (l : Ledger) : List (Nat × Event) := l.timed Event.wire?

/-- What is said of the wire is found in the log of the wire. -/
theorem history_eq_wires {α : Type} (l : Ledger) {pick : Event → Option α}
    (wire : ∀ e, e.wire?.bind pick = pick e) :
    l.history pick = l.wires.filterMap fun entry => pick entry.2 := by
  have log : l.wires.filterMap (fun entry => pick entry.2) =
      (l.wires.map Prod.snd).filterMap pick := by
    rw [List.filterMap_map]
    rfl
  rw [log, wires, map_snd_timed]
  simp only [history, List.filterMap_filterMap, wire]

theorem takenIn_eq_wires (l : Ledger) (key : BucketKey) :
    takenIn key l.events = l.wires.filterMap fun entry => entry.2.taken? key :=
  l.history_eq_wires fun e => by cases e <;> rfl

theorem mem_wires {l : Ledger} {e : Event} (wire : e.wire? = some e) :
    e ∈ l.events ↔ ∃ time, (time, e) ∈ l.wires := by
  have log : (∃ time, (time, e) ∈ l.wires) ↔ e ∈ l.wires.map Prod.snd := by simp
  rw [log, wires, map_snd_timed, history, List.mem_filterMap]
  constructor
  · intro mem
    exact ⟨e, mem, wire⟩
  · rintro ⟨other, mem, told⟩
    exact Event.eq_of_wire? told ▸ mem

end Ledger

namespace Queue

namespace State

/-- A cycle takes a batch out of its bucket. -/
def takeBatch (s : State) (limit : Nat) (key : BucketKey) (bucket : Bucket) : State :=
  (s.modifyBucket key (·.afterBatch limit)).onLedger
    (·.note (.taken key (bucket.nextBatch limit)))

/-- A request is in flight from now on. -/
def sendRequest (s : State) (cycle : Cycle) : State :=
  ({ s with inFlight := s.inFlight + 1, peak := max s.peak (s.inFlight + 1) } : State).onLedger
    (·.note (.posted cycle.key cycle.batch cycle.request))

/-- A request is in flight no more. -/
def takeAnswer (s : State) (cycle : Cycle) (answer : Answer) : State :=
  ({ s with inFlight := s.inFlight - 1 } : State).onLedger
    (·.note (.answered cycle.key cycle.batch cycle.request answer))

end State

/-- A job goes from one stage to where the next one is due, in how much time, or to its end. -/
inductive Leg (setup : Setup) (s : State) : Stage → State → Option (Nat × Stage) → Prop where
  /-- There is no bucket to take from. -/
  | missing {key : BucketKey} : s.bucket? key = none →
      Leg setup s (.start (.cycle key)) (s.noteStart (.start (.cycle key))) none
  /-- There is nothing to take. -/
  | idle {key : BucketKey} {b : Bucket} : s.bucket? key = some b →
      b.nextBatch setup.settings.batchLimit = [] →
      Leg setup s (.start (.cycle key))
        (((s.noteStart (.start (.cycle key))).takeBatch setup.settings.batchLimit key b).closeCycle
          key none) none
  /-- The serialization of an object crashes. -/
  | spoil {key : BucketKey} {b : Bucket} : s.bucket? key = some b →
      b.nextBatch setup.settings.batchLimit ≠ [] →
      s.batchBody? key (b.nextBatch setup.settings.batchLimit) = none →
      Leg setup s (.start (.cycle key))
        (((s.noteStart (.start (.cycle key))).takeBatch setup.settings.batchLimit key b).abortCycle
          key (b.nextBatch setup.settings.batchLimit)) none
  /-- A batch is made into a request, which is to leave. -/
  | take {key : BucketKey} {b : Bucket} {body : List Json} : s.bucket? key = some b →
      b.nextBatch setup.settings.batchLimit ≠ [] →
      s.batchBody? key (b.nextBatch setup.settings.batchLimit) = some body →
      Leg setup s (.start (.cycle key))
        ((s.noteStart (.start (.cycle key))).takeBatch setup.settings.batchLimit key b)
        (some (setup.transport.departure s.answeredRequests ⟨b.plural, key.background, body⟩,
          .depart ⟨key, b.nextBatch setup.settings.batchLimit, ⟨b.plural, key.background, body⟩,
            s.batchTimer (b.nextBatch setup.settings.batchLimit)⟩))
  /-- A request leaves. -/
  | post (cycle : Cycle) :
      Leg setup s (.depart cycle) (s.sendRequest cycle)
        (some (setup.transport.latency s.answeredRequests cycle.request, .arrive cycle))
  /-- The transport crashes. -/
  | crash (cycle : Cycle) :
      setup.transport.answer s.answeredRequests cycle.request = .crash →
      Leg setup s (.arrive cycle) ((s.takeAnswer cycle .crash).abortCycle cycle.key cycle.batch)
        none
  /-- A request fails as a whole. -/
  | refuse (cycle : Cycle) (cause : TransportFailure) :
      setup.transport.answer s.answeredRequests cycle.request = .failure cause →
      Leg setup s (.arrive cycle)
        (((s.takeAnswer cycle (.failure cause)).onLedger fun l =>
          (l.measure setup.tracker cycle.timer .failed).settleAll (.error (.ofTransport cause))
            cycle.batch).closeCycle cycle.key none) none
  /-- A request is accepted as a background task. -/
  | defer (cycle : Cycle) (value task : Json) :
      setup.transport.answer s.answeredRequests cycle.request = .body value →
      value.field? "background_task" = some task →
      Leg setup s (.arrive cycle)
        ((((s.takeAnswer cycle (.body value)).onLedger
          (·.measure setup.tracker cycle.timer .stopped)).onLedger
            (·.settleAll (.ok (.backgroundTask task)) cycle.batch)).closeCycle cycle.key none) none
  /-- The body of an answer is to be held. -/
  | hold (cycle : Cycle) (value : Json) :
      setup.transport.answer s.answeredRequests cycle.request = .body value →
      value.field? "background_task" = none →
      Leg setup s (.arrive cycle)
        (((s.takeAnswer cycle (.body value)).onLedger
          (·.measure setup.tracker cycle.timer .stopped)).closeCycle cycle.key
            (some ⟨cycle.batch, value⟩)) none
  /-- A direct save begins. -/
  | begin (save : Save) :
      Leg setup s (.start (.update save)) (s.noteStart (.start (.update save)))
        (some ((s.saveable save.object).saveTime,
          .saved save ⟨(s.saveable save.object).model.label, .update, s.clock⟩))
  /-- A direct save returns or crashes. -/
  | comeBack (save : Save) (timer : Timer) :
      Leg setup s (.saved save timer) (s.finishUpdate setup save timer) none

/-- A job of a drain goes on from a stage, as far as it comes in one turn. -/
inductive Runs (setup : Setup) (id : Nat) : State → Stage → State → Prop where
  /-- It waits for its next stage. -/
  | rests {s t : State} {stage next : Stage} {duration : Nat} :
      Leg setup s stage t (some (duration, next)) → duration ≠ 0 →
      Runs setup id s stage (t.sleep duration (.job id next))
  | goesOn {s t u : State} {stage next : Stage} :
      Leg setup s stage t (some (0, next)) → Runs setup id t next u → Runs setup id s stage u
  /-- It ends. -/
  | ends {s t : State} {stage : Stage} : Leg setup s stage t none → Runs setup id s stage t.release

section Running

variable {setup : Setup} {id : Nat} {s t u : State} {stage : Stage}

theorem Runs.sleepThen {next : Stage} {duration : Nat} (goOn : State → State)
    (leg : Leg setup s stage t (some (duration, next))) (runs : Runs setup id t next (goOn t)) :
    Runs setup id s stage (t.sleepThen duration (.job id next) goOn) := by
  unfold State.sleepThen
  split
  · next none => exact .goesOn (none ▸ leg) runs
  · next some => exact .rests leg some

namespace State

theorem leg_arrive (setup : Setup) (cycle : Cycle) (s : State) :
    Leg setup s (.arrive cycle) (s.arrive setup cycle) none := by
  unfold State.arrive
  dsimp only
  cases answer : setup.transport.answer s.answeredRequests cycle.request with
  | crash => exact .crash cycle answer
  | failure cause => exact .refuse cycle cause answer
  | body value =>
    dsimp only
    cases deferred : value.field? "background_task" with
    | some task => exact .defer cycle value task answer deferred
    | none => exact .hold cycle value answer deferred

theorem runs_depart (setup : Setup) (id : Nat) (cycle : Cycle) (s : State) :
    Runs setup id s (.depart cycle) (s.depart setup id cycle) :=
  .sleepThen (fun s => (s.arrive setup cycle).release) (.post cycle)
    (.ends (leg_arrive setup cycle (s.sendRequest cycle)))

theorem runs_startCycle (setup : Setup) (id : Nat) (key : BucketKey) (s : State) :
    Runs setup id s (.start (.cycle key))
      ((s.noteStart (.start (.cycle key))).startCycle setup id key) := by
  unfold State.startCycle
  cases found : (s.noteStart (.start (.cycle key))).bucket? key with
  | none => exact .ends (.missing found)
  | some b =>
    dsimp only
    split
    · next none => exact .ends (.idle found (List.isEmpty_iff.mp none))
    · next filled =>
      have filled : b.nextBatch setup.settings.batchLimit ≠ [] := by
        simpa [List.isEmpty_iff] using filled
      split
      · next crashes => exact .ends (.spoil found filled crashes)
      · next body made => exact .sleepThen _ (.take found filled made) (runs_depart setup id _ _)

/-- A job that runs goes legs. -/
theorem runs_runStage (setup : Setup) (id : Nat) (stage : Stage) (s : State) :
    Runs setup id s stage (s.runStage setup id stage) := by
  cases stage with
  | start job =>
    cases job with
    | cycle key => exact runs_startCycle setup id key s
    | update save =>
      exact .sleepThen (fun s => (s.finishUpdate setup save _).release) (.begin save)
        (.ends (.comeBack save _))
  | depart cycle => exact runs_depart setup id cycle s
  | arrive cycle => exact .ends (leg_arrive setup cycle s)
  | saved save timer => exact .ends (.comeBack save timer)

end State

/-- What a job tells the wire at a stage: its cycle takes a batch, sends it, or has it answered. -/
def State.tells (setup : Setup) (s : State) : Stage → Option Event
  | .start (.cycle key) => (s.bucket? key).map fun b =>
      .taken key (b.nextBatch setup.settings.batchLimit)
  | .depart cycle => some (.posted cycle.key cycle.batch cycle.request)
  | .arrive cycle => some (.answered cycle.key cycle.batch cycle.request
      (setup.transport.answer s.answeredRequests cycle.request))
  | .start (.update _) | .saved _ _ => none

/-- A request leaves at one stage of a cycle of its bucket only. -/
theorem State.departs_of_tells {key : BucketKey} {batch : List Save} {request : Request}
    (told : .posted key batch request ∈ s.tells setup stage) :
    ∃ cycle, stage = .depart cycle ∧ cycle.key = key := by
  match stage with
  | .start (.cycle own) =>
    obtain ⟨b, -, taken⟩ := Option.map_eq_some_iff.mp told
    cases taken
  | .depart cycle =>
    cases told
    exact ⟨cycle, rfl, rfl⟩
  | .arrive _ => cases told
  | .start (.update _) | .saved _ _ => cases told

/-- An answer is what the transport gives. -/
theorem State.answer_of_tells {key : BucketKey} {batch : List Save} {request : Request}
    {answer : Answer} (told : .answered key batch request answer ∈ s.tells setup stage) :
    setup.transport.answer s.answeredRequests request = answer := by
  match stage with
  | .start (.cycle own) =>
    obtain ⟨b, -, taken⟩ := Option.map_eq_some_iff.mp told
    cases taken
  | .depart _ => cases told
  | .arrive cycle =>
    cases told
    rfl
  | .start (.update _) | .saved _ _ => cases told

/-- What holds of the stage of a job and of the state, and is kept by each leg, holds after a run,
if it does not hang on where the job sleeps or who gets its permit. -/
theorem Runs.induction {P : Option Stage → State → Prop}
    (leg : ∀ s stage t next, Leg setup s stage t next → P (some stage) s →
      P (next.map Prod.snd) t)
    (rests : ∀ s duration next, duration ≠ 0 → P (some next) s →
      P none (s.sleep duration (.job id next)))
    (ends : ∀ s, P none s → P none s.release) (runs : Runs setup id s stage t)
    (h : P (some stage) s) : P none t := by
  induction runs with
  | rests way some => exact rests _ _ _ some (leg _ _ _ _ way h)
  | goesOn way _ ih => exact ih (leg _ _ _ _ way h)
  | ends way => exact ends _ (leg _ _ _ _ way h)

end Running

namespace State

/-- What a cycle that ends writes down, besides what it was told. -/
theorem exists_events_closeCycle (s : State) (key : BucketKey) (response : Option HeldResponse) :
    ∃ news, (s.closeCycle key response).events = s.events ++ news ∧
      ∀ e ∈ news, e.isClosing = true := by
  unfold closeCycle
  split
  · exact ⟨[], (List.append_nil _).symm, by simp⟩
  · dsimp only
    split
    · obtain ⟨reports, reported, -⟩ := Ledger.reported_redistribute key.typeName
        (_ ++ response.toList) s.toLedger
      exact ⟨reports, reported.events,
        fun e mem => Event.isClosing_of_isReport (reported.isReport e mem)⟩
    · exact ⟨_, State.events_pushJob _ _, by simp [Event.isClosing]⟩

theorem exists_events_abortCycle (s : State) (key : BucketKey) (batch : List Save) :
    ∃ news, (s.abortCycle key batch).events = s.events ++ news ∧
      ∀ e ∈ news, e.isClosing = true := by
  have settled (r : State) {news : List Event} (events : r.events = s.events ++ news)
      (closing : ∀ e ∈ news, e.isClosing = true) :
      ∃ news, (r.onLedger (·.settleAll (.error .cancelled) batch)).events = s.events ++ news ∧
        ∀ e ∈ news, e.isClosing = true := by
    refine ⟨news ++ batch.map fun save => .settled save (.error .cancelled), ?_,
      List.forall_mem_append.mpr ⟨closing, by simp [Event.isClosing]⟩⟩
    rw [← List.append_assoc, ← events]
    exact Ledger.events_settleAll _ _ _
  unfold abortCycle
  split
  · exact settled s (List.append_nil _).symm (by simp)
  · split
    · refine settled _ (Ledger.events_settleAll s.toLedger _ _) fun e mem => ?_
      obtain ⟨save, -, rfl⟩ := List.mem_map.mp mem
      rfl
    · exact settled _ (State.events_pushJob _ _) (by simp [Event.isClosing])

end State

section Schedule

open Ledger (Steady)

variable {setup : Setup} {s t : State} {id : Nat}

/-- A leg changes nothing in the schedule but for the jobs that it pushes. -/
theorem Leg.pushed {stage : Stage} {next : Option (Nat × Stage)} (leg : Leg setup s stage t next) :
    ∃ inFlight peak jobs,
      Pushed { s.noteStart stage with inFlight := inFlight, peak := peak } jobs t := by
  have counted {r : State} {jobs : List Job} (pushed : Pushed r jobs t) :
      ∃ inFlight peak jobs, Pushed { r with inFlight := inFlight, peak := peak } jobs t :=
    ⟨r.inFlight, r.peak, jobs, pushed⟩
  have took (r : State) (limit : Nat) (key : BucketKey) (b : Bucket) :
      Pushed r [] (r.takeBatch limit key b) :=
    (Pushed.modifyBucket r key _).before (.note _ rfl rfl)
  have answered (cycle : Cycle) (answer : Answer) : Pushed
      { s with inFlight := s.inFlight - 1, peak := s.peak } [] (s.takeAnswer cycle answer) :=
    .note _ rfl rfl
  have measured (cycle : Cycle) (answer : Answer) (ending : Ending) : Pushed
      { s with inFlight := s.inFlight - 1, peak := s.peak } []
      ((s.takeAnswer cycle answer).onLedger (·.measure setup.tracker cycle.timer ending)) :=
    (answered cycle answer).before (.onLedger _ (.measure _ _ _ _))
  cases leg with
  | missing | begin => exact counted (.refl _)
  | idle =>
    obtain ⟨jobs, closed, -⟩ := Pushed.closeCycle (State.takeBatch _ _ _ _) _ none
    exact counted ((took _ _ _ _).before closed)
  | spoil =>
    obtain ⟨jobs, aborted, -⟩ := Pushed.abortCycle (State.takeBatch _ _ _ _) _ _
    exact counted ((took _ _ _ _).before aborted)
  | take => exact counted (took _ _ _ _)
  | post cycle => exact ⟨_, _, [], .note _ rfl rfl⟩
  | crash cycle =>
    obtain ⟨jobs, aborted, -⟩ := Pushed.abortCycle (s.takeAnswer cycle .crash) cycle.key cycle.batch
    exact ⟨_, _, jobs, (answered cycle .crash).before aborted⟩
  | refuse cycle cause =>
    obtain ⟨jobs, closed, -⟩ := Pushed.closeCycle (State.onLedger _ _) cycle.key none
    refine ⟨_, _, jobs, ((answered cycle (.failure cause)).before (.onLedger _ ?_)).before closed⟩
    exact (Steady.measure _ _ _ _).trans (.settleAll _ _ _)
  | defer cycle value =>
    obtain ⟨jobs, closed, -⟩ := Pushed.closeCycle (State.onLedger _ _) cycle.key none
    exact ⟨_, _, jobs, ((measured cycle _ .stopped).before (.settleAll _ _ _)).before closed⟩
  | hold cycle value =>
    obtain ⟨jobs, closed, -⟩ := Pushed.closeCycle (State.onLedger _ _) cycle.key
      (some ⟨cycle.batch, value⟩)
    exact ⟨_, _, jobs, (measured cycle _ .stopped).before closed⟩
  | comeBack save timer => exact counted (.finishUpdate setup save timer s)

theorem Pushed.job_mem_tasks {jobs : List Job} (pushed : Pushed s jobs t) {stage : Stage} :
    .job id stage ∈ t.tasks ↔ .job id stage ∈ s.tasks := by
  rw [pushed.tasks_perm.mem_iff, List.mem_append, or_iff_right]
  simp [Pushed.countdowns]

theorem Leg.job_mem_tasks {stage other : Stage} {next : Option (Nat × Stage)}
    (leg : Leg setup s stage t next) : .job id other ∈ t.tasks ↔ .job id other ∈ s.tasks := by
  obtain ⟨inFlight, peak, jobs, pushed⟩ := leg.pushed
  rw [pushed.job_mem_tasks]
  simp [State.tasks]

end Schedule

namespace State

variable {s t : State} {id other : Nat} {job : Job}

theorem mem_unstartedOf : job ∈ s.unstartedOf id ↔
    (∃ d ∈ s.waiting, d.id = id ∧ job ∈ d.jobs) ∨
      ∃ task ∈ s.tasks, task.belongsTo id = true ∧ job ∈ task.unstarted := by
  simp only [unstartedOf, List.mem_append, List.mem_flatMap, List.mem_filter, beq_iff_eq,
    and_assoc]

theorem unstartedOf_subset (waiting : s.waiting ⊆ t.waiting) (tasks : s.tasks ⊆ t.tasks) :
    s.unstartedOf id ⊆ t.unstartedOf id := by
  intro job mem
  rw [mem_unstartedOf] at mem ⊢
  exact mem.imp (fun ⟨d, line, rest⟩ => ⟨d, waiting line, rest⟩)
    fun ⟨task, there, rest⟩ => ⟨task, tasks there, rest⟩

/-- A drain that is given a permit keeps its jobs. -/
theorem unstartedOf_release : s.unstartedOf id ⊆ s.release.unstartedOf id := by
  unfold release
  split
  · exact unstartedOf_subset (List.Subset.refl _) (List.Subset.refl _)
  · next drain rest line =>
    intro job mem
    rw [mem_unstartedOf] at mem ⊢
    simp only [spawn, tasks, line, List.mem_append, List.mem_cons, List.not_mem_nil,
      or_false] at mem ⊢
    rcases mem with ⟨d, rfl | there, mine, has⟩ | ⟨task, there, rest⟩
    · exact .inr ⟨_, .inl (.inr rfl), by simpa [Task.belongsTo] using mine, has⟩
    · exact .inl ⟨d, there, mine, has⟩
    · exact .inr ⟨task, there.imp_left .inl, rest⟩

theorem tasks_startJobs (id : Nat) (jobs : List Job) (s : State) {task : Task} :
    task ∈ (startJobs id jobs s).tasks ↔
      task ∈ s.tasks ∨ ∃ job ∈ jobs.take s.free, task = .job id (.start job) := by
  rw [startJobs_eq]
  simp only [tasks, List.mem_append, List.mem_map, eq_comm (a := task)]
  exact or_right_comm

theorem unstartedOf_subset_startJobs (id : Nat) (jobs : List Job) (s : State) :
    s.unstartedOf other ⊆ (startJobs id jobs s).unstartedOf other := by
  refine unstartedOf_subset ?_ fun task mem => (tasks_startJobs id jobs s).mpr (.inl mem)
  rw [startJobs_eq]
  exact List.subset_append_left _ _

/-- The jobs that a drain is to start are with it. -/
theorem subset_unstartedOf_startJobs (id : Nat) (jobs : List Job) (s : State) :
    jobs ⊆ (startJobs id jobs s).unstartedOf id := by
  intro job mem
  rw [← List.take_append_drop s.free jobs, List.mem_append] at mem
  rw [mem_unstartedOf]
  rcases mem with now | later
  · exact .inr ⟨_, (tasks_startJobs id jobs s).mpr (.inr ⟨job, now, rfl⟩),
      by simp [Task.belongsTo], List.mem_singleton_self job⟩
  · refine .inl ⟨⟨id, jobs.drop s.free⟩, ?_, rfl, later⟩
    obtain ⟨first, rest, split⟩ := List.exists_cons_of_ne_nil (List.ne_nil_of_mem later)
    rw [startJobs_eq, split]
    simp [inLine]

end State

/-- A turn in which no job comes any further: objects may join buckets, and jobs may be pushed and
drained. -/
structure Interlude (s t : State) : Prop where
  grows : s.journal <:+ t.journal
  asks : ∃ news, t.events = s.events ++ news ∧ ∀ e ∈ news, e.isAsking = true
  running : ∀ id stage, stage.starting? = none →
    (.job id stage ∈ t.tasks ↔ .job id stage ∈ s.tasks)
  unstarted : ∀ id, s.unstartedOf id ⊆ t.unstartedOf id

namespace Interlude

variable {setup : Setup} {s t u : State}

theorem trans (first : Interlude s t) (second : Interlude t u) : Interlude s u where
  grows := first.grows.trans second.grows
  asks := by
    obtain ⟨news, early, asking⟩ := first.asks
    obtain ⟨more, late, asking'⟩ := second.asks
    exact ⟨news ++ more, by rw [late, early, List.append_assoc],
      List.forall_mem_append.mpr ⟨asking, asking'⟩⟩
  running id stage started :=
    (second.running id stage started).trans (first.running id stage started)
  unstarted id := List.Subset.trans (first.unstarted id) (second.unstarted id)

theorem of_schedule (journal : t.journal = s.journal)
    (running : ∀ id stage, stage.starting? = none →
      (.job id stage ∈ t.tasks ↔ .job id stage ∈ s.tasks))
    (unstarted : ∀ id, s.unstartedOf id ⊆ t.unstartedOf id) : Interlude s t where
  grows := journal ▸ List.suffix_rfl
  asks := ⟨[], by rw [Ledger.events, journal, List.append_nil, Ledger.events], by simp⟩
  running := running
  unstarted := unstarted

/-- The same tasks stand elsewhere. -/
theorem of_perm (journal : t.journal = s.journal) (waiting : t.waiting = s.waiting)
    (tasks : t.tasks.Perm s.tasks) : Interlude s t :=
  of_schedule journal (fun _ _ _ => tasks.mem_iff)
    fun _ => State.unstartedOf_subset (waiting ▸ List.Subset.refl _) tasks.symm.subset

theorem refl (s : State) : Interlude s s := of_perm rfl rfl (.refl _)

/-- A task that has no jobs runs. -/
theorem pop {task : Task} {rest : List Task} (ready : s.ready = task :: rest)
    (idle : ∀ id stage, task ≠ .job id stage) (none : task.unstarted = []) :
    Interlude s (s.pop rest) := by
  refine of_schedule rfl (fun id stage _ => ?_) fun id job mem => ?_
  · simp [State.tasks, State.pop, ready, (idle id stage).symm]
  · rw [State.mem_unstartedOf] at mem ⊢
    refine mem.imp_right ?_
    rintro ⟨other, there, mine, has⟩
    simp only [State.tasks, ready, List.cons_append, List.mem_cons] at there
    rcases there with rfl | there
    · rw [none] at has
      cases has
    · exact ⟨other, there, mine, has⟩

theorem spawn (s : State) (task : Task)
    (idle : ∀ id stage, stage.starting? = none → task ≠ .job id stage) :
    Interlude s (s.spawn task) := by
  refine of_schedule rfl (fun id stage started => ?_) fun id => ?_
  · simp [State.mem_tasks_spawn, (idle id stage started).symm]
  · exact State.unstartedOf_subset (List.Subset.refl _) fun other mem =>
      State.mem_tasks_spawn.mpr (.inl mem)

theorem sleep (s : State) (duration generation : Nat) :
    Interlude s (s.sleep duration (.due generation)) := by
  refine of_schedule rfl (fun id stage started => ?_) fun id => ?_
  · simp [State.mem_tasks_sleep]
  · exact State.unstartedOf_subset (List.Subset.refl _) fun other mem =>
      State.mem_tasks_sleep.mpr (.inl mem)

theorem release (s : State) : Interlude s s.release := by
  refine of_schedule (by rw [State.release_toLedger]) (fun id stage started => ?_)
    fun id => State.unstartedOf_release
  unfold State.release
  split <;> simp [State.tasks, State.spawn]

theorem startJobs (id : Nat) (jobs : List Job) (s : State) :
    Interlude s (State.startJobs id jobs s) := by
  refine of_schedule (by rw [State.startJobs_eq]) (fun id' stage started => ?_)
    fun id' => State.unstartedOf_subset_startJobs id jobs s
  rw [State.tasks_startJobs, or_iff_left]
  rintro ⟨job, -, same⟩
  cases same
  cases started

theorem drain (id : Nat) (s : State) : Interlude s (State.drain id s) := by
  have emptied : Interlude s { s with jobs := [] } := of_perm rfl rfl (.refl _)
  exact emptied.trans (startJobs id s.jobs _)

theorem endQuiet (generation : Nat) (s : State) : Interlude s (s.endQuiet generation) := by
  have counted : Interlude s { s with drains := s.drains + 1 } := of_perm rfl rfl (.refl _)
  unfold State.endQuiet
  split
  · exact counted.trans (drain _ _)
  · exact refl s

theorem startFlush (id : Nat) (s : State) : Interlude s (s.startFlush id) := by
  have outdated : Interlude s { s with generation := s.generation + 1 } := of_perm rfl rfl (.refl _)
  exact outdated.trans (drain id _)

theorem flush (s : State) : Interlude s s.flush := by
  have counted : Interlude s { s with drains := s.drains + 1 } := of_perm rfl rfl (.refl _)
  exact counted.trans (startFlush s.drains _)

/-- A drain that was admitted starts a job and asks for permits for the others. -/
theorem admitted {id : Nat} {job : Job} {jobs : List Job} {rest : List Task}
    (ready : s.ready = .admitted ⟨id, job :: jobs⟩ :: rest) :
    Interlude s (State.startJobs id jobs ((s.pop rest).spawn (.job id (.start job)))) := by
  refine of_schedule (by rw [State.startJobs_eq]; rfl) (fun other stage started => ?_)
    fun other x mem => ?_
  · have fresh : ∀ job' : Job, stage ≠ .start job' := by
      rintro job' rfl
      cases started
    rw [(startJobs id jobs _).running other stage started]
    simp [State.tasks, State.spawn, State.pop, ready, fresh]
  · rw [State.mem_unstartedOf] at mem
    rcases mem with ⟨d, line, mine, has⟩ | ⟨task, there, mine, has⟩
    · exact State.unstartedOf_subset_startJobs _ _ _
        (State.mem_unstartedOf.mpr (.inl ⟨d, line, mine, has⟩))
    · simp only [State.tasks, ready, List.cons_append, List.mem_cons] at there
      rcases there with rfl | there
      · obtain rfl : id = other := by simpa [Task.belongsTo] using mine
        rcases List.mem_cons.mp has with rfl | has
        · refine State.unstartedOf_subset_startJobs _ _ _ (State.mem_unstartedOf.mpr (.inr
            ⟨.job id (.start x), ?_, by simp [Task.belongsTo], List.mem_singleton_self x⟩))
          simp [State.tasks, State.spawn]
        · exact State.subset_unstartedOf_startJobs _ _ _ has
      · refine State.unstartedOf_subset_startJobs _ _ _
          (State.mem_unstartedOf.mpr (.inr ⟨task, ?_, mine, has⟩))
        simp only [State.tasks, State.spawn, State.pop, List.mem_append] at there ⊢
        exact there.imp_left .inl

theorem note (s : State) (event : Event) (asking : event.isAsking = true) :
    Interlude s (s.onLedger (·.note event)) where
  grows := List.suffix_cons _ _
  asks := ⟨[event], Ledger.events_note _ _, by simpa using asking⟩
  running _ _ _ := .rfl
  unstarted _ := List.Subset.refl _

theorem pushJob (s : State) (job : Job) : Interlude s (s.pushJob job) := by
  have queued : Interlude s { s with jobs := s.jobs ++ [job], generation := s.generation + 1 } :=
    of_perm rfl rfl (.refl _)
  exact (queued.trans (note _ (.queued job) rfl)).trans (spawn _ _ (by simp))

theorem enqueue (s : State) (object : Nat) : Interlude s (s.enqueue object) := by
  have counted : Interlude s { s with handles := s.handles + 1 } := of_perm rfl rfl (.refl _)
  have ensured (r : State) (b : Bucket) : Interlude r (r.ensureBucket b) := by
    unfold State.ensureBucket
    split
    · exact refl r
    · exact of_perm rfl rfl (.refl _)
  have joined (b : Bucket) (key : BucketKey) (save : Save) (f : Bucket → Bucket) :
      Interlude s (((({ s with handles := s.handles + 1 } : State).ensureBucket b).onLedger
        (·.note (.joined key save))).modifyBucket key f) :=
    (counted.trans (ensured _ b)).trans ((note _ (.joined key save) rfl).trans
      (of_perm rfl rfl (.refl _)))
  unfold State.enqueue
  dsimp only
  split
  · split
    · exact joined _ _ _ _
    · exact (joined _ _ _ _).trans (pushJob _ _)
  · exact counted.trans (pushJob _ _)

theorem wires (between : Interlude s t) : t.wires = s.wires := by
  obtain ⟨news, events, asking⟩ := between.asks
  exact Ledger.timed_eq_of_news between.grows events fun e mem =>
    Event.wire?_of_isAsking (asking e mem)

end Interlude

section Keeping

variable {setup : Setup} {s t : State} {id other : Nat} {stage : Stage} {key : BucketKey}

/-- A stage that is due later is never the start of a job. -/
theorem Leg.starting?_next {next : Stage} {duration : Nat}
    (leg : Leg setup s stage t (some (duration, next))) : next.starting? = none := by
  cases leg <;> rfl

theorem Leg.unstartedOf_subset {next : Option (Nat × Stage)} (leg : Leg setup s stage t next) :
    s.unstartedOf other ⊆ t.unstartedOf other := by
  obtain ⟨inFlight, peak, jobs, pushed⟩ := leg.pushed
  refine State.unstartedOf_subset ?_ fun task mem => ?_
  · rw [pushed.waiting]
    simp
  · refine pushed.tasks_perm.mem_iff.mpr (List.mem_append_right _ ?_)
    simpa [State.tasks] using mem

/-- What a leg tells the wire, it tells where it begins. -/
theorem Leg.wires {next : Option (Nat × Stage)} (leg : Leg setup s stage t next) :
    t.wires = s.wires ++ (s.tells setup stage).toList.map fun event => (s.clock, event) := by
  have noted (l : Ledger) (event : Event) : (l.note event).wires =
      l.wires ++ (event.wire?.map fun event => (l.clock, event)).toList := Ledger.timed_note _ _ _
  have closed (r : State) (key : BucketKey) (response : Option HeldResponse) :
      (r.closeCycle key response).wires = r.wires := by
    obtain ⟨jobs, pushed, -⟩ := Pushed.closeCycle r key response
    obtain ⟨news, events, closing⟩ := r.exists_events_closeCycle key response
    exact Ledger.timed_eq_of_news pushed.grows events fun e mem =>
      Event.wire?_of_isClosing (closing e mem)
  have aborted (r : State) (key : BucketKey) (batch : List Save) :
      (r.abortCycle key batch).wires = r.wires := by
    obtain ⟨jobs, pushed, -⟩ := Pushed.abortCycle r key batch
    obtain ⟨news, events, closing⟩ := r.exists_events_abortCycle key batch
    exact Ledger.timed_eq_of_news pushed.grows events fun e mem =>
      Event.wire?_of_isClosing (closing e mem)
  have measured (l : Ledger) (timer : Timer) (ending : Ending) :
      (l.measure setup.tracker timer ending).wires = l.wires := by
    obtain ⟨news, events, remarks, -⟩ := l.exists_events_measure setup.tracker timer ending
    exact Ledger.timed_eq_of_news (Ledger.Steady.measure _ _ _ _).grows events fun e mem =>
      Event.wire?_of_isRemark (remarks e mem)
  have settled (l : Ledger) (result : SaveResult) (saves : List Save) :
      (l.settleAll result saves).wires = l.wires :=
    Ledger.timed_eq_of_news (Ledger.Steady.settleAll _ _ _).grows (Ledger.events_settleAll _ _ _)
      (by simp [Event.wire?])
  have took {key : BucketKey} {b : Bucket} (found : s.bucket? key = some b) :
      ((s.noteStart (.start (.cycle key))).takeBatch setup.settings.batchLimit key b).wires =
        s.wires ++ (s.tells setup (.start (.cycle key))).toList.map
          fun event => (s.clock, event) := by
    rw [State.tells, found]
    exact (noted (s.note _) _).trans
      (congrArg (· ++ _) ((noted s.toLedger _).trans (List.append_nil _)))
  cases leg with
  | missing none =>
    rw [State.tells, none]
    exact noted s.toLedger _
  | idle found => exact (closed _ _ _).trans (took found)
  | spoil found => exact (aborted _ _ _).trans (took found)
  | take found => exact took found
  | post cycle => exact noted s.toLedger _
  | crash cycle answer =>
    rw [State.tells, answer]
    exact (aborted _ _ _).trans (noted s.toLedger _)
  | refuse cycle cause answer =>
    rw [State.tells, answer]
    exact (closed _ _ _).trans ((settled _ _ _).trans ((measured _ _ _).trans (noted s.toLedger _)))
  | defer cycle value task answer =>
    rw [State.tells, answer]
    exact (closed _ _ _).trans ((settled _ _ _).trans ((measured _ _ _).trans (noted s.toLedger _)))
  | hold cycle value answer =>
    rw [State.tells, answer]
    exact (closed _ _ _).trans ((measured _ _ _).trans (noted s.toLedger _))
  | begin save => exact noted s.toLedger _
  | comeBack save timer =>
    have back (reply : SaveReply) :
        ((s.toLedger.modifyRecord save.object (·.markReplied reply)).note
          (.replied save reply)).wires = s.wires :=
      (noted (s.toLedger.modifyRecord save.object (·.markReplied reply)) _).trans
        (List.append_nil _)
    rw [State.tells, Option.toList_none, List.map_nil, List.append_nil]
    exact ((noted _ _).trans (List.append_nil _)).trans ((measured _ _ _).trans (back _))

/-- Only a cycle that starts takes a batch out of its bucket. -/
theorem Leg.takenIn_eq {next : Option (Nat × Stage)} (leg : Leg setup s stage t next)
    (apart : stage ≠ .start (.cycle key)) : takenIn key t.events = takenIn key s.events := by
  have none : ∀ event ∈ s.tells setup stage, event.taken? key = none := by
    intro event told
    match stage with
    | .start (.cycle own) =>
      obtain ⟨b, -, rfl⟩ := Option.map_eq_some_iff.mp told
      have other : own ≠ key := fun same => apart (same ▸ rfl)
      exact if_neg other
    | .depart _ | .arrive _ =>
      cases told
      rfl
    | .start (.update _) | .saved _ _ => cases told
  rw [Ledger.takenIn_eq_wires, Ledger.takenIn_eq_wires, leg.wires, List.filterMap_append]
  cases told : s.tells setup stage with
  | none => exact List.append_nil _
  | some event => simp [none event told]

variable (runs : Runs setup id s stage t)
include runs

/-- A job that runs leaves the jobs to a drain that are with it and have not started. -/
theorem Runs.unstartedOf_subset : s.unstartedOf other ⊆ t.unstartedOf other := by
  refine runs.induction (P := fun _ r => s.unstartedOf other ⊆ r.unstartedOf other)
    (fun _ _ _ _ leg kept => List.Subset.trans kept leg.unstartedOf_subset)
    (fun r duration next _ kept => List.Subset.trans kept ?_)
    (fun r kept => List.Subset.trans kept State.unstartedOf_release) (List.Subset.refl _)
  exact State.unstartedOf_subset (List.Subset.refl _) fun task mem =>
    State.mem_tasks_sleep.mpr (.inl mem)

/-- A job that runs leaves those that are under way where they are. -/
theorem Runs.job_mem_tasks {onward : Stage} (started : onward.starting? = none)
    (there : .job other onward ∈ s.tasks) : .job other onward ∈ t.tasks := by
  refine runs.induction (P := fun _ r => .job other onward ∈ r.tasks)
    (fun _ _ _ _ leg there => leg.job_mem_tasks.mpr there)
    (fun r duration next _ there => State.mem_tasks_sleep.mpr (.inl there))
    (fun r there => ((Interlude.release r).running other onward started).mpr there) there

theorem Runs.takenIn_eq (apart : stage ≠ .start (.cycle key)) :
    takenIn key t.events = takenIn key s.events := by
  refine (runs.induction
    (P := fun next r => takenIn key r.events = takenIn key s.events ∧
      ∀ onward ∈ next, onward ≠ .start (.cycle key))
    (fun r stage' t' next leg kept => ⟨?_, fun onward same => ?_⟩)
    (fun _ _ _ _ kept => ⟨kept.1, by simp⟩) (fun r kept => ⟨?_, by simp⟩)
    ⟨rfl, by simpa using apart⟩).1
  · exact (leg.takenIn_eq (kept.2 _ rfl)).trans kept.1
  · obtain ⟨⟨duration, next⟩, rfl, rfl⟩ := Option.map_eq_some_iff.mp same
    rintro rfl
    cases leg.starting?_next
  · rw [State.release_toLedger]
    exact kept.1

end Keeping

/-- In a turn a job runs, or no job comes any further. -/
theorem Turn.runs_or_interlude {setup : Setup} {s t : State} (turn : Turn setup s t) :
    (∃ id stage rest, s.ready = .job id stage :: rest ∧ Runs setup id (s.pop rest) stage t) ∨
      Interlude s t := by
  cases turn with
  | reorder tasks perm => exact .inr (.of_perm rfl rfl (perm.append_right _))
  | elapse time => exact .inr (.of_perm rfl rfl (s.tasks_wakeAt_perm time))
  | move move =>
    cases move with
    | create | wait => exact .inr (.of_perm rfl rfl (.refl _))
    | flushLater =>
      have counted : Interlude s { s with drains := s.drains + 1 } := .of_perm rfl rfl (.refl _)
      exact .inr (counted.trans (.spawn _ (.flush s.drains) (by simp)))
    | enqueue object => exact .inr (.enqueue s object)
    | flush => exact .inr (.flush s)
    | step _ step =>
      unfold State.step? at step
      split at step
      · next task rest ready =>
        cases step
        match task with
        | .countdown generation =>
          right
          have popped := Interlude.pop ready (by simp) rfl
          simp only [State.runTask, State.sleepThen]
          split
          · exact popped.trans (.endQuiet generation _)
          · exact popped.trans (.sleep _ _ _)
        | .due generation =>
          exact .inr ((Interlude.pop ready (by simp) rfl).trans (.endQuiet generation _))
        | .flush id => exact .inr ((Interlude.pop ready (by simp) rfl).trans (.startFlush id _))
        | .admitted ⟨_, []⟩ => exact .inr ((Interlude.pop ready (by simp) rfl).trans (.release _))
        | .admitted ⟨id, job :: jobs⟩ => exact .inr (.admitted ready)
        | .job id stage => exact .inl ⟨id, stage, rest, ready, State.runs_runStage setup id stage _⟩
      · obtain ⟨time, -, rfl⟩ := Option.map_eq_some_iff.mp step
        exact .inr (.of_perm rfl rfl (s.tasks_wakeAt_perm time))

end Queue

end Writeback
