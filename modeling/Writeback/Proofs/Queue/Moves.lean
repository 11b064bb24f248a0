import Writeback.Proofs.Queue.History
import Writeback.Queue.Reachable

/-!
# What a move does to the schedule

The schedule is where jobs and tasks stand, the permits, and the journal of pushes and starts, each
with its time. What a job does beyond that, to buckets and to the ledger, leaves the schedule alone
but for the jobs that it pushes: `Pushed` is all that enqueueing an object does, and all that a job
does before it sleeps or gives its permit back. `Effect` lists what a move can do to the schedule,
and `Move.effect` says that nothing else happens.
-/

namespace Writeback

namespace Event

def pushed? : Event → Option Job
  | queued job => some job
  | _ => none

def started? : Event → Option Job
  | started job => some job
  | _ => none

end Event

/-- The jobs that may be pushed when a job ends: the next cycle of a bucket. -/
def Job.next : Job → List Job
  | cycle key => [cycle key]
  | update _ => []

namespace Ledger

/-- The events of one kind, in order, each with its time. -/
def timed {α : Type} (l : Ledger) (pick : Event → Option α) : List (Nat × α) :=
  l.journal.reverse.filterMap fun entry => (pick entry.event).map fun x => (entry.time, x)

/-- The jobs that were pushed, in order, each with its time. -/
def pushes (l : Ledger) : List (Nat × Job) := l.timed Event.pushed?

/-- The jobs that were started, in order, each with its time. -/
def starts (l : Ledger) : List (Nat × Job) := l.timed Event.started?

theorem timed_note {α : Type} (l : Ledger) (event : Event) (pick : Event → Option α) :
    (l.note event).timed pick =
      l.timed pick ++ ((pick event).map fun x => (l.clock, x)).toList := by
  cases h : pick event <;> simp [timed, note, h]

@[simp] theorem pushes_note (l : Ledger) (event : Event) :
    (l.note event).pushes =
      l.pushes ++ (event.pushed?.map fun job => (l.clock, job)).toList :=
  timed_note l event _

@[simp] theorem starts_note (l : Ledger) (event : Event) :
    (l.note event).starts =
      l.starts ++ (event.started?.map fun job => (l.clock, job)).toList :=
  timed_note l event _

theorem map_snd_timed {α : Type} (l : Ledger) (pick : Event → Option α) :
    (l.timed pick).map Prod.snd = l.history pick := by
  rw [timed, history, events, List.map_filterMap, List.filterMap_map]
  congr 1
  funext entry
  cases h : pick entry.event <;> simp [h]

/-- A journal that grew by other events has the same of one kind. -/
theorem timed_eq_of_news {α : Type} {l l' : Ledger} {pick : Event → Option α} {news : List Event}
    (grows : l.journal <:+ l'.journal) (events : l'.events = l.events ++ news)
    (none : ∀ e ∈ news, pick e = none) : l'.timed pick = l.timed pick := by
  obtain ⟨more, split⟩ := grows
  have added : more.reverse.map Entry.event = news := by
    rw [Ledger.events, ← split, List.reverse_append, List.map_append] at events
    exact List.append_cancel_left events
  rw [timed, ← split, List.reverse_append, List.filterMap_append, timed]
  refine List.append_right_eq_self.mpr (List.filterMap_eq_nil_iff.mpr fun entry mem => ?_)
  rw [none _ (added ▸ List.mem_map_of_mem mem), Option.map_none]

/-- When a journal grew and no start was added to it, what was added is no start. -/
theorem exists_news {l l' : Ledger} (grows : l.journal <:+ l'.journal)
    (starts : l'.starts = l.starts) :
    ∃ news, l'.events = l.events ++ news ∧ ∀ e ∈ news, e.started? = none := by
  obtain ⟨more, split⟩ := grows
  have events : l'.events = l.events ++ more.reverse.map Entry.event := by
    rw [Ledger.events, ← split, List.reverse_append, List.map_append, Ledger.events]
  refine ⟨_, events, ?_⟩
  have same := congrArg (List.map Prod.snd) starts
  rw [Ledger.starts, Ledger.starts, map_snd_timed, map_snd_timed, history, history, events,
    List.filterMap_append, List.append_right_eq_self] at same
  exact List.filterMap_eq_nil_iff.mp same

/-- A change of the ledger at one moment in which no job is pushed or started, and nothing that was
written down is lost. -/
structure Steady (l l' : Ledger) : Prop where
  grows : l.journal <:+ l'.journal
  clock : l'.clock = l.clock
  pushes : l'.pushes = l.pushes
  starts : l'.starts = l.starts

namespace Steady

theorem refl (l : Ledger) : Steady l l := ⟨List.suffix_rfl, rfl, rfl, rfl⟩

theorem trans {l m n : Ledger} (first : Steady l m) (second : Steady m n) : Steady l n :=
  ⟨first.grows.trans second.grows, second.clock.trans first.clock,
    second.pushes.trans first.pushes, second.starts.trans first.starts⟩

theorem note (l : Ledger) {event : Event} (pushed : event.pushed? = none)
    (started : event.started? = none) : Steady l (l.note event) :=
  ⟨List.suffix_cons _ _, rfl, by simp [pushed], by simp [started]⟩

theorem modifyRecord (l : Ledger) (object : Nat) (f : Record → Record) :
    Steady l (l.modifyRecord object f) :=
  ⟨List.suffix_rfl, rfl, rfl, rfl⟩

theorem settle (l : Ledger) (result : SaveResult) (save : Save) : Steady l (l.settle result save) :=
  note l rfl rfl

theorem settleAll (l : Ledger) (result : SaveResult) (saves : List Save) :
    Steady l (l.settleAll result saves) := by
  induction saves generalizing l with
  | nil => exact refl l
  | cons save saves ih => exact (settle l result save).trans (ih _)

theorem measure (l : Ledger) (tracker : Tracker) (timer : Timer) (ending : Ending) :
    Steady l (l.measure tracker timer ending) := by
  unfold Ledger.measure
  split
  · exact note l rfl rfl
  · exact refl l

theorem deliver (l : Ledger) (typeName : String) (save : Save) (entry : Option Json) :
    Steady l (l.deliver typeName save entry).1 := by
  unfold Ledger.deliver
  split
  · exact settle l _ save
  · next payload _ =>
    have called : Steady l (l.note (.hooked save payload)) := note l rfl rfl
    dsimp only
    split
    · exact (called.trans (modifyRecord _ _ _)).trans (settle _ _ save)
    · exact called.trans (settle _ _ save)
    · exact called

theorem redistribute (l : Ledger) (typeName : String) (responses : List HeldResponse) :
    Steady l (l.redistribute typeName responses).1 := by
  unfold Ledger.redistribute
  induction assignEntries responses generalizing l with
  | nil => exact refl l
  | cons pair rest ih =>
    obtain ⟨save, entry⟩ := pair
    have first := deliver l typeName save entry
    rcases h : l.deliver typeName save entry with ⟨m, crashed⟩
    rw [h] at first
    cases crashed with
    | false => simpa [deliverAll, h] using first.trans (ih m)
    | true => simpa [deliverAll, h] using first.trans (settleAll m _ (save :: rest.map Prod.fst))

end Steady

end Ledger

namespace Queue

open Ledger (Steady)

/-- Between the two states some jobs were pushed, each with the countdown of its quiet period, and
nothing but buckets and the ledger changed besides. -/
structure Pushed (s : State) (pushed : List Job) (t : State) : Prop where
  grows : s.journal <:+ t.journal
  clock : t.clock = s.clock
  free : t.free = s.free
  waiting : t.waiting = s.waiting
  sleeping : t.sleeping = s.sleeping
  drains : t.drains = s.drains
  inFlight : t.inFlight = s.inFlight
  peak : t.peak = s.peak
  jobs : t.jobs = s.jobs ++ pushed
  generation : t.generation = s.generation + pushed.length
  ready : t.ready =
    s.ready ++ (List.range' (s.generation + 1) pushed.length).map Task.countdown
  pushes : t.pushes = s.pushes ++ pushed.map fun job => (s.clock, job)
  starts : t.starts = s.starts

namespace Pushed

variable {s t u : State} {jobs more : List Job}

theorem trans (first : Pushed s jobs t) (second : Pushed t more u) : Pushed s (jobs ++ more) u where
  grows := first.grows.trans second.grows
  clock := second.clock.trans first.clock
  free := second.free.trans first.free
  waiting := second.waiting.trans first.waiting
  sleeping := second.sleeping.trans first.sleeping
  drains := second.drains.trans first.drains
  inFlight := second.inFlight.trans first.inFlight
  peak := second.peak.trans first.peak
  jobs := by rw [second.jobs, first.jobs, List.append_assoc]
  generation := by rw [second.generation, first.generation, List.length_append, Nat.add_assoc]
  ready := by
    have later : t.generation + 1 = s.generation + 1 + jobs.length := by
      rw [first.generation, Nat.add_right_comm]
    rw [second.ready, first.ready, later, List.append_assoc, ← List.map_append,
      List.range'_append_1, List.length_append]
  pushes := by
    rw [second.pushes, first.pushes, first.clock, List.append_assoc, List.map_append]
  starts := second.starts.trans first.starts

theorem before (first : Pushed s [] t) (second : Pushed t jobs u) : Pushed s jobs u :=
  first.trans second

theorem onLedger (s : State) {f : Ledger → Ledger} (steady : Steady s.toLedger (f s.toLedger)) :
    Pushed s [] (s.onLedger f) :=
  ⟨steady.grows, steady.clock, rfl, rfl, rfl, rfl, rfl, rfl, (List.append_nil _).symm, rfl,
    (List.append_nil _).symm, steady.pushes.trans (List.append_nil _).symm, steady.starts⟩

theorem refl (s : State) : Pushed s [] s := onLedger s (f := id) (.refl _)

theorem note (s : State) {event : Event} (pushed : event.pushed? = none)
    (started : event.started? = none) : Pushed s [] (s.onLedger (·.note event)) :=
  onLedger s (.note _ pushed started)

theorem settleAll (s : State) (result : SaveResult) (saves : List Save) :
    Pushed s [] (s.onLedger (·.settleAll result saves)) :=
  onLedger s (.settleAll _ _ _)

theorem modifyBucket (s : State) (key : BucketKey) (f : Bucket → Bucket) :
    Pushed s [] (s.modifyBucket key f) :=
  { refl s with }

theorem ensureBucket (s : State) (bucket : Bucket) : Pushed s [] (s.ensureBucket bucket) := by
  unfold State.ensureBucket
  split
  · exact refl s
  · exact { refl s with }

theorem pushJob (s : State) (job : Job) : Pushed s [job] (s.pushJob job) :=
  ⟨List.suffix_cons _ _, rfl, rfl, rfl, rfl, rfl, rfl, rfl, rfl, rfl, rfl, Ledger.pushes_note _ _,
    (Ledger.starts_note _ _).trans (List.append_nil _)⟩

theorem closeCycle (s : State) (key : BucketKey) (response : Option HeldResponse) :
    ∃ jobs, Pushed s jobs (s.closeCycle key response) ∧ jobs.Sublist [.cycle key] := by
  unfold State.closeCycle
  split
  · exact ⟨[], refl s, List.nil_sublist _⟩
  · split
    · exact ⟨[], (modifyBucket s key _).before (onLedger _ (.redistribute _ _ _)),
        List.nil_sublist _⟩
    · exact ⟨[.cycle key], (modifyBucket s key _).before (pushJob _ _), .refl _⟩

theorem abortCycle (s : State) (key : BucketKey) (batch : List Save) :
    ∃ jobs, Pushed s jobs (s.abortCycle key batch) ∧ jobs.Sublist [.cycle key] := by
  unfold State.abortCycle
  split
  · exact ⟨[], settleAll _ _ _, List.nil_sublist _⟩
  · split
    · exact ⟨[], ((modifyBucket s key _).before (settleAll _ _ _)).before (settleAll _ _ _),
        List.nil_sublist _⟩
    · exact ⟨[.cycle key], (pushJob s _).trans (settleAll _ _ _), .refl _⟩

theorem arrive (setup : Setup) (cycle : Cycle) (s : State) :
    ∃ jobs, Pushed { s with inFlight := s.inFlight - 1 } jobs (s.arrive setup cycle) ∧
      jobs.Sublist [.cycle cycle.key] := by
  unfold State.arrive
  dsimp only
  generalize hr : ({ s with inFlight := s.inFlight - 1 } : State).onLedger
    (·.note (.answered cycle.key cycle.batch cycle.request _)) = r
  have answered : Pushed { s with inFlight := s.inFlight - 1 } [] r := by
    subst hr
    exact note _ rfl rfl
  split
  · obtain ⟨jobs, ended, next⟩ := abortCycle r cycle.key cycle.batch
    exact ⟨jobs, answered.before ended, next⟩
  · obtain ⟨jobs, ended, next⟩ := closeCycle (r.onLedger _) cycle.key none
    refine ⟨jobs, (answered.before (onLedger r ?_)).before ended, next⟩
    exact (Steady.measure _ _ _ _).trans (.settleAll _ _ _)
  · have measured := answered.before
      (onLedger r (f := (·.measure setup.tracker cycle.timer .stopped)) (.measure _ _ _ _))
    split
    · obtain ⟨jobs, ended, next⟩ := closeCycle (State.onLedger _ _) cycle.key none
      exact ⟨jobs, (measured.before (settleAll _ _ _)).before ended, next⟩
    · obtain ⟨jobs, ended, next⟩ := closeCycle (State.onLedger _ _) cycle.key _
      exact ⟨jobs, measured.before ended, next⟩

theorem finishUpdate (setup : Setup) (save : Save) (timer : Timer) (s : State) :
    Pushed s [] (s.finishUpdate setup save timer) := by
  have replied (l : Ledger) (reply : SaveReply) : Steady l
      ((l.modifyRecord save.object (·.markReplied reply)).note (.replied save reply)) :=
    (Steady.modifyRecord _ _ _).trans (.note _ rfl rfl)
  unfold State.finishUpdate
  exact onLedger _ (((replied _ _).trans (.measure _ _ _ _)).trans (.settle _ _ _))

theorem enqueue (s : State) (object : Nat) :
    ∃ jobs, Pushed s jobs (s.enqueue object) ∧ jobs.length ≤ 1 := by
  have counted : Pushed s [] { s with handles := s.handles + 1 } := { refl s with }
  unfold State.enqueue
  dsimp only
  split
  · split
    · exact ⟨[], ((counted.before (ensureBucket _ _)).before (note _ rfl rfl)).before
        (modifyBucket _ _ _), Nat.zero_le _⟩
    · exact ⟨_, (((counted.before (ensureBucket _ _)).before (note _ rfl rfl)).before
        (modifyBucket _ _ _)).before (pushJob _ _), Nat.le_refl _⟩
  · exact ⟨_, counted.before (pushJob _ _), Nat.le_refl _⟩

/-- The countdowns of the quiet periods that the pushes began. -/
def countdowns (s : State) (pushed : List Job) : List Task :=
  (List.range' (s.generation + 1) pushed.length).map Task.countdown

theorem tasks_perm (h : Pushed s jobs t) : t.tasks.Perm (countdowns s jobs ++ s.tasks) := by
  rw [State.tasks, State.tasks, h.ready, h.sleeping, ← List.append_assoc]
  exact List.perm_append_comm.append_right _

/-- The counters of the transport are no part of the schedule. -/
theorem counting (h : Pushed s jobs t) (inFlight peak : Nat) :
    Pushed { s with inFlight := inFlight, peak := peak } jobs
      { t with inFlight := inFlight, peak := peak } :=
  { h with inFlight := rfl, peak := rfl }

end Pushed

/-- The job that has come to a stage. -/
def Stage.job : Stage → Job
  | .start job => job
  | .depart cycle | .arrive cycle => .cycle cycle.key
  | .saved save _ => .update save

/-- The job that is about to start. -/
def Stage.starting? : Stage → Option Job
  | .start job => some job
  | .depart _ | .arrive _ | .saved _ _ => none

/-- What a job does that runs: it sleeps until its next stage, or it ends, pushes the next cycle if
there is one, and gives its permit back. The counters of the transport aside, this is all. -/
inductive Ran (id : Nat) (job : Job) (s : State) : State → Prop where
  | sleeps {t : State} (inFlight peak duration : Nat) (next : Stage) :
      Pushed { s with inFlight := inFlight, peak := peak } [] t → duration ≠ 0 →
      next.job = job → next.starting? = none → Ran id job s (t.sleep duration (.job id next))
  | ends {jobs : List Job} {t : State} (inFlight peak : Nat) :
      Pushed { s with inFlight := inFlight, peak := peak } jobs t → jobs.Sublist job.next →
      Ran id job s t.release

namespace Ran

variable {s t r : State} {id : Nat} {job : Job} {jobs : List Job}

theorem ended (h : Pushed s jobs t) (next : jobs.Sublist job.next) : Ran id job s t.release :=
  .ends s.inFlight s.peak h next

theorem after (first : Pushed s [] r) (h : Ran id job r t) : Ran id job s t := by
  cases h with
  | sleeps inFlight peak duration next pushed some same started =>
    exact .sleeps inFlight peak duration next ((first.counting _ _).before pushed) some same started
  | ends inFlight peak pushed next =>
    exact .ends inFlight peak ((first.counting _ _).before pushed) next

theorem counted (inFlight peak : Nat) (h : Ran id job { s with inFlight, peak } t) :
    Ran id job s t := by
  cases h with
  | sleeps inFlight peak duration next pushed some same started =>
    exact .sleeps inFlight peak duration next pushed some same started
  | ends inFlight peak pushed next => exact .ends inFlight peak pushed next

theorem sleepThen {goOn : State → State} {duration : Nat} {next : Stage} (same : next.job = job)
    (started : next.starting? = none) (h : Ran id job s (goOn s)) :
    Ran id job s (s.sleepThen duration (.job id next) goOn) := by
  unfold State.sleepThen
  split
  · exact h
  · next some => exact .sleeps s.inFlight s.peak duration next (.refl s) some same started

variable (setup : Setup)

theorem depart (cycle : Cycle) (s : State) :
    Ran id (.cycle cycle.key) s (s.depart setup id cycle) := by
  unfold State.depart
  apply counted (s.inFlight + 1) (max s.peak (s.inFlight + 1))
  refine after (Pushed.note _ rfl rfl) (sleepThen rfl rfl ?_)
  obtain ⟨jobs, answered, next⟩ := Pushed.arrive setup cycle (State.onLedger _ _)
  exact .ends _ _ answered next

/-- What is left of a cycle once it has taken its batch. -/
theorem startCycle_of_bucket? {key : BucketKey} {bucket : Bucket}
    (found : s.bucket? key = some bucket) :
    Ran id (.cycle key) ((s.modifyBucket key (·.afterBatch setup.settings.batchLimit)).onLedger
      (·.note (.taken key (bucket.nextBatch setup.settings.batchLimit))))
      (s.startCycle setup id key) := by
  unfold State.startCycle
  rw [found]
  dsimp only
  split
  · obtain ⟨jobs, closed, next⟩ := Pushed.closeCycle (State.onLedger _ _) key none
    exact ended closed next
  · split
    · obtain ⟨jobs, aborted, next⟩ := Pushed.abortCycle (State.onLedger _ _) key _
      exact ended aborted next
    · exact sleepThen rfl rfl (depart setup ⟨key, _, _, _⟩ _)

theorem startCycle (key : BucketKey) (s : State) :
    Ran id (.cycle key) s (s.startCycle setup id key) := by
  cases found : s.bucket? key with
  | none =>
    unfold State.startCycle
    rw [found]
    exact ended (.refl s) (List.nil_sublist _)
  | some bucket =>
    have taken : Pushed s [] ((s.modifyBucket key (·.afterBatch setup.settings.batchLimit)).onLedger
        (·.note (.taken key (bucket.nextBatch setup.settings.batchLimit)))) :=
      (Pushed.modifyBucket s key _).before (.note _ rfl rfl)
    exact after taken (startCycle_of_bucket? setup found)

theorem startUpdate (save : Save) (s : State) :
    Ran id (.update save) s (s.startUpdate setup id save) := by
  unfold State.startUpdate
  exact sleepThen rfl rfl (ended (.finishUpdate setup save _ s) (List.nil_sublist _))

end Ran

namespace State

/-- The start of a job is kept in the journal. -/
def noteStart (s : State) : Stage → State
  | .start job => s.onLedger (·.note (.started job))
  | .depart _ | .arrive _ | .saved _ _ => s

section NoteStart

variable (s : State) (stage : Stage)

@[simp] theorem noteStart_clock : (s.noteStart stage).clock = s.clock := by cases stage <;> rfl
@[simp] theorem noteStart_jobs : (s.noteStart stage).jobs = s.jobs := by cases stage <;> rfl
@[simp] theorem noteStart_generation : (s.noteStart stage).generation = s.generation := by
  cases stage <;> rfl
@[simp] theorem noteStart_waiting : (s.noteStart stage).waiting = s.waiting := by
  cases stage <;> rfl
@[simp] theorem noteStart_ready : (s.noteStart stage).ready = s.ready := by cases stage <;> rfl
@[simp] theorem noteStart_sleeping : (s.noteStart stage).sleeping = s.sleeping := by
  cases stage <;> rfl

@[simp] theorem noteStart_pushes : (s.noteStart stage).pushes = s.pushes := by
  cases stage <;> simp [noteStart, onLedger, Event.pushed?]

@[simp] theorem noteStart_starts : (s.noteStart stage).starts =
    s.starts ++ (stage.starting?.map fun job => (s.clock, job)).toList := by
  cases stage <;> simp [noteStart, onLedger, Event.started?, Stage.starting?]

end NoteStart

theorem runStage_ran (setup : Setup) (id : Nat) (stage : Stage) (s : State) :
    Ran id stage.job (s.noteStart stage) (s.runStage setup id stage) := by
  cases stage with
  | start job =>
    cases job with
    | cycle key => exact .startCycle setup key _
    | update save => exact .startUpdate setup save _
  | depart cycle => exact .depart setup cycle s
  | arrive cycle =>
    obtain ⟨jobs, answered, next⟩ := Pushed.arrive setup cycle s
    exact .ends _ _ answered next
  | saved save timer => exact .ended (.finishUpdate setup save timer s) (List.nil_sublist _)

section Release

variable (s : State)

@[simp] theorem release_toLedger : s.release.toLedger = s.toLedger := by
  unfold release
  split <;> rfl

@[simp] theorem release_jobs : s.release.jobs = s.jobs := by
  unfold release
  split <;> rfl

@[simp] theorem release_generation : s.release.generation = s.generation := by
  unfold release
  split <;> rfl

@[simp] theorem release_sleeping : s.release.sleeping = s.sleeping := by
  unfold release
  split <;> rfl

theorem release_ready : ∃ more, s.release.ready = s.ready ++ more := by
  unfold release
  split
  · exact ⟨[], (List.append_nil _).symm⟩
  · exact ⟨_, rfl⟩

end Release

end State

namespace Ran

variable {s t : State} {id : Nat} {job : Job}

theorem clock (ran : Ran id job s t) : t.clock = s.clock := by
  cases ran with
  | sleeps inFlight peak duration next pushed => exact pushed.clock
  | ends inFlight peak pushed =>
    rw [State.release_toLedger]
    exact pushed.clock

theorem grows (ran : Ran id job s t) : s.journal <:+ t.journal := by
  cases ran with
  | sleeps inFlight peak duration next pushed => exact pushed.grows
  | ends inFlight peak pushed =>
    rw [State.release_toLedger]
    exact pushed.grows

theorem starts (ran : Ran id job s t) : t.starts = s.starts := by
  cases ran with
  | sleeps inFlight peak duration next pushed => exact pushed.starts
  | ends inFlight peak pushed =>
    rw [State.release_toLedger]
    exact pushed.starts

theorem ready (ran : Ran id job s t) : ∃ more, t.ready = s.ready ++ more := by
  cases ran with
  | sleeps inFlight peak duration next pushed => exact ⟨_, pushed.ready⟩
  | @ends _ u inFlight peak pushed =>
    obtain ⟨more, ready⟩ := u.release_ready
    rw [ready, pushed.ready, List.append_assoc]
    exact ⟨_, rfl⟩

end Ran

namespace State

/-- The drain that stands in line with these jobs, if there are any. -/
def inLine (id : Nat) : List Job → List Drain
  | [] => []
  | job :: rest => [⟨id, job :: rest⟩]

/-- A drain starts as many of its jobs as there are permits, and stands in line with the others. -/
theorem startJobs_eq (id : Nat) (jobs : List Job) (s : State) :
    startJobs id jobs s = { s with
      free := s.free - jobs.length
      ready := s.ready ++ (jobs.take s.free).map fun job => .job id (.start job)
      waiting := s.waiting ++ inLine id (jobs.drop s.free) } := by
  induction jobs generalizing s with
  | nil => simp [startJobs, inLine]
  | cons job rest ih =>
    unfold startJobs
    split
    · next some =>
      obtain ⟨n, free⟩ := Nat.exists_eq_succ_of_ne_zero (Nat.ne_of_gt some)
      rw [ih, free]
      simp [spawn, Nat.add_sub_add_right]
    · next none => simp [Nat.eq_zero_of_not_pos none, inLine]

/-- A drain takes all jobs out of the queue. -/
theorem drain_eq (id : Nat) (s : State) :
    drain id s = { s with
      jobs := []
      free := s.free - s.jobs.length
      ready := s.ready ++ (s.jobs.take s.free).map fun job => .job id (.start job)
      waiting := s.waiting ++ inLine id (s.jobs.drop s.free) } :=
  startJobs_eq id s.jobs { s with jobs := [] }

@[simp] theorem drain_toLedger (id : Nat) (s : State) : (drain id s).toLedger = s.toLedger := by
  rw [drain_eq]

@[simp] theorem drain_jobs (id : Nat) (s : State) : (drain id s).jobs = [] := by rw [drain_eq]

@[simp] theorem drain_generation (id : Nat) (s : State) :
    (drain id s).generation = s.generation := by
  rw [drain_eq]

@[simp] theorem drain_sleeping (id : Nat) (s : State) : (drain id s).sleeping = s.sleeping := by
  rw [drain_eq]

theorem drain_ready (id : Nat) (s : State) : ∃ more, (drain id s).ready = s.ready ++ more := by
  rw [drain_eq]
  exact ⟨_, rfl⟩

/-- Sleepers that wake are tasks as before. -/
theorem tasks_wakeAt_perm (s : State) (time : Nat) : (s.wakeAt time).tasks.Perm s.tasks := by
  have parts := (List.filter_append_perm (fun p : Sleeper => decide (p.due ≤ time)) s.sleeping).map
    Sleeper.task
  rw [tasks, tasks, wakeAt, List.append_assoc, ← List.map_append]
  exact parts.append_left _

/-- The queue with its first task taken out to run. -/
def pop (s : State) (rest : List Task) : State := { s with ready := rest }

theorem tasks_pop {s : State} {task : Task} {rest : List Task} (ready : s.ready = task :: rest) :
    s.tasks = task :: (s.pop rest).tasks := by
  simp [tasks, pop, ready]

theorem mem_tasks_spawn {s : State} {task other : Task} :
    task ∈ (s.spawn other).tasks ↔ task ∈ s.tasks ∨ task = other := by
  simp only [tasks, spawn, List.mem_append, List.mem_singleton, or_right_comm]

theorem mem_tasks_sleep {s : State} {duration : Nat} {task other : Task} :
    task ∈ (s.sleep duration other).tasks ↔ task ∈ s.tasks ∨ task = other := by
  simp only [tasks, sleep, List.map_append, List.map_singleton, List.mem_append,
    List.mem_singleton, or_assoc]

/-- What a move does to the schedule. -/
inductive Effect (setup : Setup) (s : State) : State → Prop where
  | pushed {jobs : List Job} {t : State} : Pushed s jobs t → Effect setup s t
  /-- Time passes while no task can run. -/
  | passed (time : Nat) : s.ready = [] → s.clock ≤ time → (∀ p ∈ s.sleeping, time ≤ p.due) →
      Effect setup s (s.onLedger fun l => { l with clock := time })
  /-- No task can run, and the sleepers that are due first wake. -/
  | woke (time : Nat) : s.ready = [] → (∀ p ∈ s.sleeping, time ≤ p.due) →
      (∃ p ∈ s.sleeping, p.due = time) → Effect setup s (s.wakeAt time)
  | flushed : Effect setup s s.flush
  | flushesLater : Effect setup s s.flushLater
  /-- A quiet period is waited for. -/
  | counts (generation : Nat) {rest : List Task} : s.ready = .countdown generation :: rest →
      setup.settings.delay ≠ 0 →
      Effect setup s ((s.pop rest).sleep setup.settings.delay (.due generation))
  /-- A quiet period is over, at once if it takes no time. -/
  | ended (generation : Nat) {timer : Task} {rest : List Task} : s.ready = timer :: rest →
      timer = .due generation ∨ timer = .countdown generation ∧ setup.settings.delay = 0 →
      Effect setup s ((s.pop rest).endQuiet generation)
  /-- A flush that was to run on its own starts. -/
  | flushes (id : Nat) {rest : List Task} : s.ready = .flush id :: rest →
      Effect setup s ((s.pop rest).startFlush id)
  /-- A drain without jobs gives its permit back. -/
  | returned (id : Nat) {rest : List Task} : s.ready = .admitted ⟨id, []⟩ :: rest →
      Effect setup s (s.pop rest).release
  /-- A drain has a permit for the job in front, and asks for the others. -/
  | admitted (id : Nat) (job : Job) (jobs : List Job) {rest : List Task} :
      s.ready = .admitted ⟨id, job :: jobs⟩ :: rest →
      Effect setup s (startJobs id jobs ((s.pop rest).spawn (.job id (.start job))))
  | ran (id : Nat) (stage : Stage) {rest : List Task} {t : State} :
      s.ready = .job id stage :: rest → Ran id stage.job ((s.pop rest).noteStart stage) t →
      Effect setup s t

theorem step?_effect {setup : Setup} {s t : State} (step : s.step? setup = some t) :
    Effect setup s t := by
  unfold step? at step
  split at step
  · next task rest ready =>
    cases step
    match task with
    | .countdown generation =>
      simp only [runTask, sleepThen]
      split
      · next none => exact .ended generation ready (.inr ⟨rfl, none⟩)
      · next some => exact .counts generation ready some
    | .due generation => exact .ended generation ready (.inl rfl)
    | .flush id => exact .flushes id ready
    | .admitted ⟨id, []⟩ => exact .returned id ready
    | .admitted ⟨id, job :: jobs⟩ => exact .admitted id job jobs ready
    | .job id stage => exact .ran id stage ready (runStage_ran setup id stage _)
  · next ready =>
    obtain ⟨time, next, rfl⟩ := Option.map_eq_some_iff.mp step
    obtain ⟨mem, least⟩ := List.min?_eq_some_iff.mp next
    refine .woke time ready ?_ (List.mem_map.mp mem)
    exact fun p asleep => least p.due (List.mem_map_of_mem asleep)

end State

theorem Move.effect {setup : Setup} {s t : State} (move : Move setup s t) :
    State.Effect setup s t := by
  cases move with
  | create record => exact .pushed (.onLedger s ⟨List.suffix_rfl, rfl, rfl, rfl⟩)
  | enqueue object =>
    obtain ⟨jobs, pushed, -⟩ := Pushed.enqueue s object
    exact .pushed pushed
  | flush => exact .flushed
  | flushLater => exact .flushesLater
  | step _ step => exact State.step?_effect step
  | wait time ready later asleep => exact .passed time ready later asleep

end Queue

end Writeback
