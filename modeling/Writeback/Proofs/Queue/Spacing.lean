import Writeback.Proofs.Queue.Debounce
import Writeback.Proofs.Queue.Legs
import Writeback.Proofs.Queue.Precedence

/-!
# The requests of a bucket are spaced

While nobody flushes, jobs leave the queue only when the quiet period after the last push is over.
The next cycle of a bucket is pushed when the cycle before ends, or later. So a request leaves only
when all earlier ones of its bucket have been answered, and the delay has passed since.
-/

namespace Writeback

/-- All requests of a bucket in a log of the wire were answered, with so much time to spare. -/
def AnsweredBy (key : BucketKey) (slack time : Nat) (log : List (Nat × Event)) : Prop :=
  ∀ sent batch request, (sent, .posted key batch request) ∈ log →
    ∃ back answer, (back, .answered key batch request answer) ∈ log ∧ back + slack ≤ time

/-- When a request of a bucket leaves, if it is not among the first in the log, all earlier ones
have been answered, and the delay has passed since. -/
def Spaced (key : BucketKey) (delay : Nat) (first log : List (Nat × Event)) : Prop :=
  ∀ before time batch request after, log = before ++ (time, .posted key batch request) :: after →
    first <+: before → AnsweredBy key delay time before

section Logs

variable {key : BucketKey} {slack delay time later : Nat} {log more first : List (Nat × Event)}

theorem AnsweredBy.mono (h : AnsweredBy key slack time log) (le : time ≤ later) :
    AnsweredBy key slack later log := by
  intro sent batch request mem
  obtain ⟨back, answer, there, early⟩ := h sent batch request mem
  exact ⟨back, answer, there, early.trans le⟩

/-- What was answered some time ago was answered with that time to spare. -/
theorem AnsweredBy.spare (h : AnsweredBy key 0 time log) (le : time + slack ≤ later) :
    AnsweredBy key slack later log := by
  intro sent batch request mem
  obtain ⟨back, answer, there, early⟩ := h sent batch request mem
  exact ⟨back, answer, there, by omega⟩

theorem AnsweredBy.append (h : AnsweredBy key slack time log)
    (none : ∀ entry ∈ more, ∀ batch request, entry.2 ≠ .posted key batch request) :
    AnsweredBy key slack time (log ++ more) := by
  intro sent batch request mem
  rcases List.mem_append.mp mem with old | new
  · obtain ⟨back, answer, there, early⟩ := h sent batch request old
    exact ⟨back, answer, List.mem_append_left _ there, early⟩
  · exact absurd rfl (none _ new batch request)

theorem Spaced.refl (key : BucketKey) (delay : Nat) (log : List (Nat × Event)) :
    Spaced key delay log log := by
  intro before time batch request after split start
  have le := start.length_le
  rw [split, List.length_append, List.length_cons] at le
  omega

theorem Spaced.append (h : Spaced key delay first log)
    (none : ∀ entry ∈ more, ∀ batch request, entry.2 ≠ .posted key batch request) :
    Spaced key delay first (log ++ more) := by
  intro before time batch request after split start
  rcases split_append split with ⟨rest, early⟩ | ⟨front, -, late⟩
  · exact h before time batch request rest early start
  · exact absurd rfl (none (time, .posted key batch request) (by simp [late]) batch request)

/-- A request leaves when it may. -/
theorem Spaced.post (h : Spaced key delay first log) (answered : AnsweredBy key delay time log)
    (batch : List Save) (request : Request) :
    Spaced key delay first (log ++ [(time, .posted key batch request)]) := by
  intro before time' batch' request' after split start
  rcases split_append split with ⟨rest, early⟩ | ⟨front, rfl, late⟩
  · exact h before time' batch' request' rest early start
  · cases front with
    | nil =>
      obtain ⟨same, -⟩ := List.cons.inj late
      rw [← (Prod.mk.inj same).1, List.append_nil]
      exact answered
    | cons entry rest => simp at late

end Logs

theorem Event.started?_of_isAsking {e : Event} (h : e.isAsking = true) : e.started? = none := by
  cases e <;> simp_all [isAsking, started?]

namespace Queue

/-- A turn in which no caller asks for anything. Objects may come into being. -/
inductive Unattended (setup : Setup) : State → State → Prop where
  | create (s : State) (record : Record) : Unattended setup s (s.addRecord record)
  | step (s t : State) : s.step? setup = some t → Unattended setup s t
  | wait (s : State) (time : Nat) : s.ready = [] → s.clock ≤ time →
      (∀ p ∈ s.sleeping, time ≤ p.due) →
      Unattended setup s (s.onLedger fun l => { l with clock := time })
  | reorder (s : State) (tasks : List Task) : tasks.Perm s.ready →
      Unattended setup s { s with ready := tasks }
  | elapse (s : State) (time : Nat) : s.clock ≤ time → Unattended setup s (s.wakeAt time)

/-- A turn in which nobody flushes. -/
inductive Patient (setup : Setup) : State → State → Prop where
  | unattended {s t : State} : Unattended setup s t → Patient setup s t
  | enqueue (s : State) (object : Nat) : object < s.records.length →
      Patient setup s (s.enqueue object)

theorem Unattended.turn {setup : Setup} {s t : State} (turn : Unattended setup s t) :
    Turn setup s t := by
  cases turn with
  | create record => exact .move (.create s record)
  | step _ step => exact .move (.step s t step)
  | wait time ready later asleep => exact .move (.wait s time ready later asleep)
  | reorder tasks perm => exact .reorder s tasks perm
  | elapse time later => exact .elapse s time later

theorem Patient.turn {setup : Setup} {s t : State} (turn : Patient setup s t) : Turn setup s t := by
  cases turn with
  | unattended turn => exact turn.turn
  | enqueue object known => exact .move (.enqueue s object known)

theorem Unattended.later {setup : Setup} {s t : State}
    (run : Relation.ReflTransGen (Unattended setup) s t) : Later setup s t :=
  Relation.ReflTransGen.mono (fun _ _ => Unattended.turn) _ _ run

theorem Patient.later {setup : Setup} {s t : State}
    (run : Relation.ReflTransGen (Patient setup) s t) : Later setup s t :=
  Relation.ReflTransGen.mono (fun _ _ => Patient.turn) _ _ run

/-- No flush is about to start on its own. -/
def State.Unflushed (s : State) : Prop := ∀ id, .flush id ∉ s.tasks

/-- Between the two states the generation grew by the pushes alone. -/
def State.Counts (s t : State) : Prop :=
  t.generation + s.pushes.length = s.generation + t.pushes.length

section Flushing

variable {setup : Setup} {s t u : State} {id : Nat} {stage : Stage}

namespace State

theorem Unflushed.of_tasks (h : s.Unflushed) (tasks : ∀ task ∈ t.tasks, task ∈ s.tasks ∨
    ∀ id, task ≠ .flush id) : t.Unflushed := by
  intro id mem
  rcases tasks _ mem with old | other
  · exact h id old
  · exact other id rfl

theorem Unflushed.of_pushed {jobs : List Job} (h : s.Unflushed) (pushed : Pushed s jobs t) :
    t.Unflushed := by
  refine h.of_tasks fun task mem => ?_
  rcases List.mem_append.mp (pushed.tasks_perm.mem_iff.mp mem) with new | old
  · obtain ⟨generation, -, rfl⟩ := List.mem_map.mp new
    exact .inr (by simp)
  · exact .inl old

theorem Unflushed.spawn (h : s.Unflushed) {task : Task} (other : ∀ id, task ≠ .flush id) :
    (s.spawn task).Unflushed := by
  refine h.of_tasks fun task' mem => (mem_tasks_spawn.mp mem).imp_right ?_
  rintro rfl
  exact other

theorem Unflushed.sleep (h : s.Unflushed) (duration : Nat) {task : Task}
    (other : ∀ id, task ≠ .flush id) : (s.sleep duration task).Unflushed := by
  refine h.of_tasks fun task' mem => (mem_tasks_sleep.mp mem).imp_right ?_
  rintro rfl
  exact other

theorem Unflushed.release (h : s.Unflushed) : s.release.Unflushed := by
  unfold State.release
  split
  · exact h
  · exact spawn (s := { s with waiting := _ }) h (by simp)

theorem Unflushed.startJobs (h : s.Unflushed) (id : Nat) (jobs : List Job) :
    (startJobs id jobs s).Unflushed := by
  refine h.of_tasks fun task mem => ((tasks_startJobs id jobs s).mp mem).imp_right ?_
  rintro ⟨job, -, rfl⟩
  simp

theorem Unflushed.endQuiet (h : s.Unflushed) (generation : Nat) :
    (s.endQuiet generation).Unflushed := by
  unfold State.endQuiet
  split
  · exact startJobs (s := { s with drains := s.drains + 1, jobs := [] }) h _ _
  · exact h

theorem Counts.trans (first : s.Counts t) (second : t.Counts u) : s.Counts u := by
  unfold Counts at *
  omega

theorem Counts.of_eq (generation : t.generation = s.generation) (pushes : t.pushes = s.pushes) :
    s.Counts t := by
  rw [Counts, generation, pushes]

theorem Counts.of_pushed {jobs : List Job} (pushed : Pushed s jobs t) : s.Counts t := by
  rw [Counts, pushed.generation, pushed.pushes, List.length_append, List.length_map]
  omega

theorem counts_release (s : State) : s.Counts s.release :=
  .of_eq s.release_generation (congrArg Ledger.pushes s.release_toLedger)

theorem counts_endQuiet (generation : Nat) (s : State) : s.Counts (s.endQuiet generation) := by
  unfold endQuiet
  split
  · exact .of_eq (drain_generation _ _) (congrArg Ledger.pushes (drain_toLedger _ _))
  · exact .of_eq rfl rfl

end State

open State

/-- A leg stands still in time, and pushes at most. -/
theorem Leg.steady {next : Option (Nat × Stage)} (leg : Leg setup s stage t next) :
    t.clock = s.clock ∧ s.Counts t ∧ (s.Unflushed → t.Unflushed) := by
  obtain ⟨inFlight, peak, jobs, pushed⟩ := leg.pushed
  have noted : s.Counts (s.noteStart stage) :=
    .of_eq (s.noteStart_generation stage) (s.noteStart_pushes stage)
  refine ⟨pushed.clock.trans (s.noteStart_clock stage), ?_, fun calm => ?_⟩
  · exact noted.trans (Counts.of_pushed
      (s := { s.noteStart stage with inFlight := inFlight, peak := peak }) pushed)
  · refine Unflushed.of_pushed (s := { s.noteStart stage with inFlight := inFlight, peak := peak })
      (calm.of_tasks fun task mem => .inl ?_) pushed
    simpa [tasks] using mem

theorem Runs.steady (runs : Runs setup id s stage t) :
    t.clock = s.clock ∧ s.Counts t ∧ (s.Unflushed → t.Unflushed) := by
  refine runs.induction (P := fun _ r => r.clock = s.clock ∧ s.Counts r ∧
    (s.Unflushed → r.Unflushed)) (fun r stage u next leg ⟨clock, counts, calm⟩ => ?_)
    (fun r duration next _ ⟨clock, counts, calm⟩ => ?_) (fun r ⟨clock, counts, calm⟩ => ?_)
    ⟨rfl, .of_eq rfl rfl, fun calm => calm⟩
  · obtain ⟨clock', counts', calm'⟩ := leg.steady
    exact ⟨clock'.trans clock, counts.trans counts', calm' ∘ calm⟩
  · exact ⟨clock, counts, fun before => (calm before).sleep duration (by simp)⟩
  · exact ⟨(congrArg Ledger.clock r.release_toLedger).trans clock, counts.trans r.counts_release,
      fun before => (calm before).release⟩

/-- In a turn in which nobody flushes the generation grows by the pushes alone. -/
theorem Patient.steady (turn : Patient setup s t) (calm : s.Unflushed) :
    s.Counts t ∧ t.Unflushed := by
  cases turn with
  | enqueue object =>
    obtain ⟨jobs, pushed, -⟩ := Pushed.enqueue s object
    exact ⟨.of_pushed pushed, calm.of_pushed pushed⟩
  | unattended turn =>
    cases turn with
    | create | wait => exact ⟨.of_eq rfl rfl, calm⟩
    | reorder tasks perm =>
      refine ⟨.of_eq rfl rfl, calm.of_tasks fun task mem => .inl ?_⟩
      exact (perm.append_right _).mem_iff.mp mem
    | elapse time =>
      refine ⟨.of_eq rfl rfl, calm.of_tasks fun task mem => .inl ?_⟩
      exact (s.tasks_wakeAt_perm time).mem_iff.mp mem
    | step _ step =>
      unfold step? at step
      split at step
      · next task rest ready =>
        cases step
        have popped : (s.pop rest).Unflushed := calm.of_tasks fun task' mem =>
          .inl (tasks_pop ready ▸ List.mem_cons_of_mem _ mem)
        have counts : s.Counts (s.pop rest) := .of_eq rfl rfl
        match task with
        | .countdown generation =>
          simp only [runTask, sleepThen]
          split
          · exact ⟨counts.trans (counts_endQuiet _ _), popped.endQuiet generation⟩
          · exact ⟨counts, popped.sleep _ (by simp)⟩
        | .due generation =>
          exact ⟨counts.trans (counts_endQuiet _ _), popped.endQuiet generation⟩
        | .flush id => exact absurd (by simp [tasks, ready]) (calm id)
        | .admitted ⟨_, []⟩ => exact ⟨counts.trans (counts_release _), popped.release⟩
        | .admitted ⟨id, job :: jobs⟩ =>
          refine ⟨counts.trans ?_, (popped.spawn (by simp)).startJobs id jobs⟩
          exact .of_eq (by rw [runTask, startJobs_eq]; rfl) (by rw [runTask, startJobs_eq]; rfl)
        | .job id stage =>
          obtain ⟨-, counts', calm'⟩ := (runs_runStage setup id stage (s.pop rest)).steady
          exact ⟨counts.trans counts', calm' popped⟩
      · obtain ⟨time, -, rfl⟩ := Option.map_eq_some_iff.mp step
        refine ⟨.of_eq rfl rfl, calm.of_tasks fun task mem => .inl ?_⟩
        exact (s.tasks_wakeAt_perm time).mem_iff.mp mem

end Flushing

section Log

open State (bind_underway)

variable {setup : Setup} {s t : State} {id : Nat} {stage : Stage} {key : BucketKey}

theorem Interlude.starts (between : Interlude s t) : t.starts = s.starts := by
  obtain ⟨news, events, asking⟩ := between.asks
  exact Ledger.timed_eq_of_news between.grows events fun e mem =>
    Event.started?_of_isAsking (asking e mem)

/-- What happened on the wire is in the past. -/
def State.Past (s : State) : Prop := ∀ entry ∈ s.wires, entry.1 ≤ s.clock

theorem Runs.past (runs : Runs setup id s stage t) (h : s.Past) : t.Past := by
  refine runs.induction (P := fun _ => State.Past) (fun r stage u next leg past entry mem => ?_)
    (fun _ _ _ _ past => past) (fun r past => ?_) h
  · rw [leg.wires, List.mem_append] at mem
    rw [leg.steady.1]
    rcases mem with old | new
    · exact past entry old
    · obtain ⟨event, -, rfl⟩ := List.mem_map.mp new
      exact le_rfl
  · have same := r.release_toLedger
    intro entry mem
    rw [same] at mem ⊢
    exact past entry mem

theorem ReachableInAnyOrder.past (h : ReachableInAnyOrder setup s) : s.Past := by
  refine h.induction (fun entry mem => absurd mem List.not_mem_nil) fun s t reach turn past => ?_
  rcases turn.runs_or_interlude with ⟨id, stage, rest, ready, runs⟩ | between
  · exact runs.past past
  · intro entry mem
    exact (past entry (between.wires ▸ mem)).trans (reach.clock_le turn)

/-- No request of this bucket is out. -/
def State.AllBack (s : State) (key : BucketKey) : Prop :=
  ∀ id cycle, .job id (.arrive cycle) ∈ s.tasks → cycle.key ≠ key

theorem State.AllBack.toAnswer (h : s.AllBack key) : s.workload.toAnswer key = 0 := by
  have jobs (jobs : List Job) :
      (↑jobs : Multiset Job).bind (fun job => (Phase.waiting job).toAnswer key) = 0 :=
    Multiset.bind_zero _
  change s.underway.bind _ = 0
  rw [bind_underway, jobs, zero_add]
  refine (Multiset.bind_congr fun task mem => ?_).trans (Multiset.bind_zero _)
  cases task with
  | admitted drain =>
    rw [Task.phases, ← Multiset.map_coe, Multiset.bind_map]
    exact jobs drain.jobs
  | job id stage =>
    cases stage with
    | arrive cycle =>
      have other := h id cycle (Multiset.mem_coe.mp mem)
      simp [Task.phases, Stage.phase, Phase.toAnswer, other]
    | _ => rfl
  | _ => rfl

/-- Where no request of a bucket is out, all have been answered by now. -/
theorem ReachableInAnyOrder.answeredBy_clock (h : ReachableInAnyOrder setup s)
    (back : s.AllBack key) : AnsweredBy key 0 s.clock s.wires := by
  intro sent batch request mem
  have posted : (batch, request) ∈ s.posted key :=
    Ledger.mem_posted.mpr ((Ledger.mem_wires rfl).mpr ⟨sent, mem⟩)
  have closed : s.closedRequests key ++ [] = s.posted key :=
    h.workload.inTurn.answers key [] back.toAnswer.symm
  rw [← closed, List.append_nil] at posted
  obtain ⟨⟨_, _, answer⟩, there, same⟩ := List.mem_map.mp posted
  cases same
  obtain ⟨time, there⟩ := (Ledger.mem_wires rfl).mp (Ledger.mem_answered.mp there)
  exact ⟨time, answer, there, h.past _ there⟩

end Log

/-- The job is a cycle of the bucket that has not sent its request. -/
def Stage.Unsent (key : BucketKey) : Stage → Prop
  | start job => job = .cycle key
  | depart cycle => cycle.key = key
  | arrive _ | saved _ _ => False

/-- The task has a cycle of the bucket that has not sent its request. -/
def Task.IsDue (key : BucketKey) : Task → Prop
  | admitted drain => .cycle key ∈ drain.jobs
  | job _ stage => stage.Unsent key
  | countdown _ | due _ | flush _ => False

/-- A cycle of the bucket was taken out of the queue and has not sent its request. -/
def State.IsDue (s : State) (key : BucketKey) : Prop :=
  (∃ drain ∈ s.waiting, .cycle key ∈ drain.jobs) ∨ ∃ task ∈ s.tasks, task.IsDue key

section Due

variable {setup : Setup} {s t : State} {id : Nat} {stage : Stage} {key : BucketKey}

theorem Task.isDue_iff {task : Task} : task.IsDue key ↔ .cycle key ∈ task.unstarted ∨
    ∃ id cycle, task = .job id (.depart cycle) ∧ cycle.key = key := by
  cases task with
  | job id stage => cases stage <;> simp [IsDue, Stage.Unsent, unstarted, eq_comm]
  | _ => simp [IsDue, unstarted]

namespace State

theorem isDue_iff : s.IsDue key ↔ .cycle key ∈ s.drained ∨
    ∃ id cycle, .job id (.depart cycle) ∈ s.tasks ∧ cycle.key = key := by
  simp only [IsDue, Task.isDue_iff, drained, List.mem_append, List.mem_flatMap]
  constructor
  · rintro (line | ⟨task, mem, here | ⟨id, cycle, rfl, same⟩⟩)
    · exact .inl (.inl line)
    · exact .inl (.inr ⟨task, mem, here⟩)
    · exact .inr ⟨id, cycle, mem, same⟩
  · rintro ((line | ⟨task, mem, here⟩) | ⟨id, cycle, mem, same⟩)
    · exact .inl line
    · exact .inr ⟨task, mem, .inl here⟩
    · exact .inr ⟨_, mem, .inr ⟨id, cycle, rfl, same⟩⟩

theorem isDue_pop {rest : List Task} (ready : s.ready = .job id stage :: rest) :
    s.IsDue key ↔ stage.Unsent key ∨ (s.pop rest).IsDue key := by
  simp only [IsDue, tasks_pop ready, List.exists_mem_cons_iff, Task.IsDue]
  exact or_left_comm

theorem IsDue.of_sleep {duration : Nat}
    (h : (s.sleep duration (.job id stage)).IsDue key) : s.IsDue key ∨ stage.Unsent key := by
  rcases h with line | ⟨task, mem, due⟩
  · exact .inl (.inl line)
  · rcases mem_tasks_sleep.mp mem with old | rfl
    · exact .inl (.inr ⟨task, old, due⟩)
    · exact .inr due

theorem IsDue.of_release (h : s.release.IsDue key) : s.IsDue key := by
  unfold release at h
  split at h
  · exact h
  · next drain rest line =>
    rcases h with ⟨other, mem, has⟩ | ⟨task, mem, due⟩
    · exact .inl ⟨other, line ▸ List.mem_cons_of_mem _ mem, has⟩
    · rcases mem_tasks_spawn.mp mem with old | rfl
      · exact .inr ⟨task, old, due⟩
      · exact .inl ⟨drain, line ▸ List.mem_cons_self, due⟩

end State

theorem Leg.isDue {next : Option (Nat × Stage)} (leg : Leg setup s stage t next)
    (h : t.IsDue key) : s.IsDue key := by
  obtain ⟨inFlight, peak, jobs, pushed⟩ := leg.pushed
  rcases h with ⟨drain, mem, has⟩ | ⟨task, mem, due⟩
  · rw [pushed.waiting] at mem
    exact .inl ⟨drain, by simpa using mem, has⟩
  · rcases List.mem_append.mp (pushed.tasks_perm.mem_iff.mp mem) with new | old
    · obtain ⟨generation, -, rfl⟩ := List.mem_map.mp new
      exact due.elim
    · exact .inr ⟨task, by simpa [State.tasks] using old, due⟩

theorem Leg.job_next {next : Stage} {duration : Nat}
    (leg : Leg setup s stage t (some (duration, next))) : next.job = stage.job := by
  cases leg <;> rfl

/-- A cycle that is to send its request has just taken its batch. -/
theorem Leg.unsent_next {next : Stage} {duration : Nat}
    (leg : Leg setup s stage t (some (duration, next))) (unsent : next.Unsent key) :
    stage = .start (.cycle key) := by
  cases leg <;> simp_all [Stage.Unsent]

/-- The cycle that runs counts as one. -/
theorem State.cycleCount_pop {rest : List Task} (ready : s.ready = .job id stage :: rest)
    (job : stage.job = .cycle key) : s.cycleCount key = (s.pop rest).cycleCount key + 1 := by
  simp only [cycleCount, drained, running, tasks_pop ready, List.flatMap_cons,
    List.filterMap_cons, List.count_append]
  cases stage with
  | start own =>
    obtain rfl : own = .cycle key := job
    simp only [Task.unstarted, Task.cycle?, List.count_singleton_self]
    simp only [pop]
    omega
  | depart cycle | arrive cycle =>
    obtain rfl : cycle.key = key := Job.cycle.inj job
    simp only [Task.unstarted, Task.cycle?, List.countP_cons, List.count_nil, decide_true, if_true]
    simp only [pop]
    omega
  | saved save timer => cases job

/-- While a cycle of a bucket runs, there is no other. -/
theorem ReachableInAnyOrder.alone (h : ReachableInAnyOrder setup s) {rest : List Task}
    (ready : s.ready = .job id stage :: rest) (job : stage.job = .cycle key) :
    .cycle key ∉ s.jobs ∧ ¬(s.pop rest).IsDue key := by
  have one : s.cycleCount key ≤ 1 := s.count_keys key ▸ h.workload.tokens.count_le_one key
  rw [State.cycleCount_pop ready job] at one
  have none : (s.pop rest).cycleCount key = 0 := by omega
  rw [State.cycleCount] at none
  refine ⟨fun queued => ?_, fun due => ?_⟩
  · have some : 0 < (s.pop rest).jobs.count (.cycle key) := List.count_pos_iff.mpr queued
    omega
  · rcases State.isDue_iff.mp due with waits | ⟨id, cycle, mem, same⟩
    · have some := List.count_pos_iff.mpr waits
      omega
    · have some : 0 < (s.pop rest).running.countP fun cycle => cycle.key = key :=
        List.countP_pos_iff.mpr ⟨cycle, List.mem_filterMap.mpr ⟨_, mem, rfl⟩, by simpa using same⟩
      omega

/-- While a cycle of a bucket waits in the queue, no request of the bucket is out. -/
theorem ReachableInAnyOrder.allBack_of_queued (h : ReachableInAnyOrder setup s)
    (queued : .cycle key ∈ s.jobs) : s.AllBack key := by
  intro id cycle mem same
  have one : s.cycleCount key ≤ 1 := s.count_keys key ▸ h.workload.tokens.count_le_one key
  have waits := List.count_pos_iff.mpr queued
  have runs : 0 < s.running.countP fun cycle => cycle.key = key :=
    List.countP_pos_iff.mpr ⟨cycle, List.mem_filterMap.mpr ⟨_, mem, rfl⟩, by simpa using same⟩
  rw [State.cycleCount] at one
  omega

end Due

/-- While a job runs, no request of the bucket leaves too early, and one that is to leave may. -/
structure Sending (key : BucketKey) (delay : Nat) (first : List (Nat × Event)) (time : Nat)
    (hand : Option Stage) (s : State) : Prop where
  clock : s.clock = time
  spaced : Spaced key delay first s.wires
  due : s.IsDue key → AnsweredBy key delay time s.wires
  unsent : ∀ stage ∈ hand, stage.Unsent key → AnsweredBy key delay time s.wires
  alone : ∀ stage ∈ hand, stage.job = .cycle key → ¬s.IsDue key

/-- The next request of the bucket waits for its time: the cycle is pushed no earlier than the one
before was answered, and drained no earlier than the delay after the last push. -/
structure Waits (key : BucketKey) (delay : Nat) (first : List (Nat × Event)) (s : State) :
    Prop where
  queued : .cycle key ∈ s.jobs →
    ∀ push, s.pushes.getLast? = some push → AnsweredBy key 0 push.1 s.wires
  due : s.IsDue key → AnsweredBy key delay s.clock s.wires
  spaced : Spaced key delay first s.wires

section Spacing

variable {setup : Setup} {s t : State} {id : Nat} {stage : Stage} {key : BucketKey}
  {delay time : Nat} {first : List (Nat × Event)}

/-- A leg sends no request of a bucket if it is not of a cycle of the bucket. -/
theorem Leg.posts_none {next : Option (Nat × Stage)} (leg : Leg setup s stage t next)
    (key : BucketKey) (other : ∀ cycle, stage = .depart cycle → cycle.key ≠ key) :
    ∃ more, t.wires = s.wires ++ more ∧
      ∀ entry ∈ more, ∀ batch request, entry.2 ≠ .posted key batch request := by
  refine ⟨_, leg.wires, ?_⟩
  intro entry mem batch request same
  obtain ⟨event, told, rfl⟩ := List.mem_map.mp mem
  obtain rfl : event = .posted key batch request := same
  obtain ⟨cycle, departs, own⟩ := State.departs_of_tells (Option.mem_toList.mp told)
  exact other cycle departs own

theorem Sending.leg {next : Option (Nat × Stage)} (leg : Leg setup s stage t next)
    (h : Sending key delay first time (some stage) s) :
    Sending key delay first time (next.map Prod.snd) t := by
  have clock : t.clock = time := leg.steady.1.trans h.clock
  by_cases posts : ∃ cycle, stage = .depart cycle ∧ cycle.key = key
  · obtain ⟨cycle, rfl, rfl⟩ := posts
    have wires : t.wires = s.wires ++ [(time, .posted cycle.key cycle.batch cycle.request)] := by
      rw [leg.wires, h.clock]
      rfl
    have none : ¬t.IsDue cycle.key := fun due => h.alone _ rfl rfl (leg.isDue due)
    refine ⟨clock, wires ▸ h.spaced.post (h.unsent _ rfl rfl) _ _, fun due => absurd due none,
      fun onward same unsent => ?_, fun _ _ _ => none⟩
    cases leg
    cases same
    exact unsent.elim
  · obtain ⟨more, wires, others⟩ := leg.posts_none key fun cycle same own =>
      posts ⟨cycle, same, own⟩
    have append {slack time : Nat} (answered : AnsweredBy key slack time s.wires) :
        AnsweredBy key slack time t.wires := wires ▸ answered.append others
    refine ⟨clock, wires ▸ h.spaced.append others, fun due => append (h.due (leg.isDue due)),
      fun onward same unsent => ?_, fun onward same job due => ?_⟩
    · obtain ⟨⟨duration, _⟩, rfl, rfl⟩ := Option.map_eq_some_iff.mp same
      exact append (h.unsent _ rfl (leg.unsent_next unsent ▸ rfl))
    · obtain ⟨⟨duration, _⟩, rfl, rfl⟩ := Option.map_eq_some_iff.mp same
      exact h.alone _ rfl (leg.job_next ▸ job) (leg.isDue due)

theorem Sending.runs (runs : Runs setup id s stage t)
    (h : Sending key delay first time (some stage) s) :
    Sending key delay first time none t := by
  refine runs.induction (P := fun hand r => Sending key delay first time hand r)
    (fun _ _ _ _ leg h => h.leg leg) (fun r duration next _ h => ?_) (fun r h => ?_) h
  · exact ⟨h.clock, h.spaced, fun due => due.of_sleep.elim h.due (h.unsent next rfl), by simp,
      by simp⟩
  · have same := r.release_toLedger
    refine ⟨?_, ?_, fun due => ?_, by simp, by simp⟩
    · rw [same]
      exact h.clock
    · rw [same]
      exact h.spaced
    · rw [same]
      exact h.due due.of_release

/-- A job that is not a cycle of the bucket leaves the requests of the bucket alone. -/
theorem Runs.answeredBy (runs : Runs setup id s stage t) (other : stage.job ≠ .cycle key)
    {slack : Nat} (h : AnsweredBy key slack time s.wires) : AnsweredBy key slack time t.wires := by
  refine (runs.induction (P := fun hand r => (∀ stage ∈ hand, stage.job ≠ .cycle key) ∧
    AnsweredBy key slack time r.wires) (fun r stage u next leg ⟨apart, answered⟩ => ⟨?_, ?_⟩)
    (fun _ _ _ _ h => ⟨by simp, h.2⟩) (fun r h => ⟨by simp, ?_⟩) ⟨by simpa using other, h⟩).2
  · intro onward same
    obtain ⟨⟨duration, _⟩, rfl, rfl⟩ := Option.map_eq_some_iff.mp same
    exact leg.job_next ▸ apart stage rfl
  · obtain ⟨more, wires, others⟩ := leg.posts_none key fun cycle same own =>
      apart stage rfl (same ▸ own ▸ rfl)
    exact wires ▸ answered.append others
  · rw [r.release_toLedger]
    exact h.2

/-- A push puts off the next request of the bucket for the delay; other turns keep it waiting. -/
theorem Waits.queued_turn (h : Waits key delay first s) (turn : QueueTurn delay s t)
    (kept : .cycle key ∈ s.jobs → ∀ time, AnsweredBy key 0 time s.wires →
      AnsweredBy key 0 time t.wires)
    (pushed : .cycle key ∈ t.jobs → AnsweredBy key 0 s.clock t.wires)
    (queued : .cycle key ∈ t.jobs) {push : Nat × Job} (last : t.pushes.getLast? = some push) :
    AnsweredBy key 0 push.1 t.wires := by
  cases turn with
  | kept jobs generation pushes =>
    rw [jobs] at queued
    rw [pushes] at last
    exact kept queued _ (h.queued queued push last)
  | pushed jobs some queue generation pushes =>
    have mem : push ∈ jobs.map fun job => (s.clock, job) := by
      rw [pushes, List.getLast?_append_of_ne_nil _ (by simpa using some)] at last
      exact List.mem_of_getLast? last
    obtain ⟨job, -, rfl⟩ := List.mem_map.mp mem
    exact pushed queued
  | flushed id took | fired id timer _ _ _ took =>
    rw [took.jobs] at queued
    exact absurd queued List.not_mem_nil

theorem Waits.of_runs (h : Waits key setup.settings.delay first s)
    (reachable : ReachableInAnyOrder setup s) {rest : List Task}
    (ready : s.ready = .job id stage :: rest) (runs : Runs setup id (s.pop rest) stage t)
    (turn : QueueTurn setup.settings.delay s t) (reached : ReachableInAnyOrder setup t) :
    Waits key setup.settings.delay first t := by
  have due : s.IsDue key ↔ _ := State.isDue_pop ready
  have before : Sending key setup.settings.delay first s.clock (some stage) (s.pop rest) := by
    refine ⟨rfl, h.spaced, fun waits => h.due (due.mpr (.inr waits)), ?_, ?_⟩
    · intro own same unsent
      exact h.due (due.mpr (.inl (Option.mem_some_iff.mp same ▸ unsent)))
    · intro own same job
      exact (reachable.alone ready (Option.mem_some_iff.mp same ▸ job)).2
  have after := before.runs runs
  have clock : t.clock = s.clock := runs.steady.1
  refine ⟨fun queued push last => ?_, clock ▸ after.due, after.spaced⟩
  refine h.queued_turn turn (fun waiting time answered => ?_) (fun queued => ?_) queued last
  · exact runs.answeredBy (fun own => (reachable.alone ready own).1 waiting) answered
  · exact clock ▸ reached.answeredBy_clock (reached.allBack_of_queued queued)

/-- What is with a drain was there before, or the timer that counts has taken it. -/
theorem ReachableInAnyOrder.drained_of_interlude (h : ReachableInAnyOrder setup s)
    (reached : ReachableInAnyOrder setup t) (between : Interlude s t)
    (turn : QueueTurn delay s t) {job : Job} (waits : job ∈ t.drained) :
    job ∈ s.drained ∨ job ∈ s.jobs ∧ t.jobs = [] := by
  have before := h.pushes_perm.count_eq job
  have after := reached.pushes_perm.count_eq job
  have there := List.count_pos_iff.mpr waits
  rw [between.starts] at after
  simp only [List.count_append] at before after
  cases turn with
  | kept jobs generation pushes =>
    rw [pushes, jobs] at after
    exact .inl (List.count_pos_iff.mp (by omega))
  | pushed more some jobs generation pushes =>
    have pushed : (more.map fun job => (s.clock, job)).map Prod.snd = more := by simp
    rw [pushes, jobs, List.map_append, pushed, List.count_append, List.count_append] at after
    exact .inl (List.count_pos_iff.mp (by omega))
  | flushed id took generation pushes | fired id timer _ _ _ took generation pushes =>
    rw [pushes, took.jobs, List.count_nil] at after
    by_cases queued : job ∈ s.jobs
    · exact .inr ⟨queued, took.jobs⟩
    · have none := List.count_eq_zero_of_not_mem queued
      exact .inl (List.count_pos_iff.mp (by omega))

theorem Waits.of_interlude (h : Waits key setup.settings.delay first s)
    (reachable : ReachableInAnyOrder setup s) (between : Interlude s t)
    (turn : QueueTurn setup.settings.delay s t) (reached : ReachableInAnyOrder setup t)
    (later : s.clock ≤ t.clock) (counts : s.Counts t) :
    Waits key setup.settings.delay first t := by
  have wires : t.wires = s.wires := between.wires
  refine ⟨fun queued push last => ?_, fun due => ?_, wires ▸ h.spaced⟩
  · refine h.queued_turn turn (fun _ time answered => wires ▸ answered) (fun queued => ?_) queued
      last
    have back : s.AllBack key := fun id cycle mem =>
      reached.allBack_of_queued queued id cycle ((between.running id (.arrive cycle) rfl).mpr mem)
    exact wires ▸ reachable.answeredBy_clock back
  · have before : s.IsDue key → AnsweredBy key setup.settings.delay t.clock t.wires :=
      fun due => wires ▸ (h.due due).mono later
    rcases State.isDue_iff.mp due with waits | ⟨id, cycle, mem, same⟩
    · rcases reachable.drained_of_interlude reached between turn waits with old | ⟨queued, gone⟩
      · exact before (State.isDue_iff.mpr (.inl old))
      · -- Nobody flushes, so the timer that counts has taken the queue.
        cases turn with
        | kept jobs => simp [← jobs, gone] at queued
        | pushed more some jobs => simp [jobs, some] at gone
        | flushed id took generation pushes =>
          rw [State.Counts, generation, pushes] at counts
          omega
        | fired id timer _ _ live =>
          obtain ⟨push, alarm, last, only, due⟩ :=
            reachable.at_most_late.live (List.ne_nil_of_mem queued)
          obtain rfl : alarm = ⟨s.generation, s.clock⟩ :=
            List.singleton_inj.mp (only.symm.trans live)
          exact wires ▸ ((h.queued queued push last).spare due).mono later
    · exact before (State.isDue_iff.mpr (.inr ⟨id, cycle,
        (between.running id (.depart cycle) rfl).mp mem, same⟩))

/-- While nobody flushes, the next request of each bucket waits for its time. -/
theorem Waits.turn (h : Waits key setup.settings.delay first s)
    (reachable : ReachableInAnyOrder setup s) (calm : s.Unflushed) (turn : Patient setup s t) :
    Waits key setup.settings.delay first t := by
  have reached : ReachableInAnyOrder setup t := .turn reachable turn.turn
  have queue := reachable.queueTurn turn.turn
  rcases turn.turn.runs_or_interlude with ⟨id, stage, rest, ready, runs⟩ | between
  · exact h.of_runs reachable ready runs queue reached
  · exact h.of_interlude reachable between queue reached (reachable.clock_le turn.turn)
      (turn.steady calm).1

theorem Waits.of_quiescent (h : ReachableInAnyOrder setup s) (quiescent : s.Quiescent) :
    Waits key delay s.wires s := by
  obtain ⟨jobs, waiting, -⟩ := h.of_quiescent quiescent
  refine ⟨fun queued => ?_, fun due => ?_, .refl key delay s.wires⟩
  · simp [jobs] at queued
  · rcases due with ⟨drain, mem, -⟩ | ⟨task, mem, -⟩
    · simp [waiting] at mem
    · simp [quiescent.tasks] at mem

/-- From a queue at rest, while nobody flushes, the requests of each bucket are spaced: each leaves
when all earlier ones were answered and the delay has passed since. -/
theorem ReachableInAnyOrder.spaced (h : ReachableInAnyOrder setup s) (quiescent : s.Quiescent)
    (run : Relation.ReflTransGen (Patient setup) s t) :
    Spaced key setup.settings.delay s.wires t.wires := by
  have reached : ReachableInAnyOrder setup t ∧ t.Unflushed ∧
      Waits key setup.settings.delay s.wires t := by
    induction run with
    | refl =>
      exact ⟨h, by simp [State.Unflushed, quiescent.tasks],
        .of_quiescent h quiescent⟩
    | tail _ turn ih =>
      obtain ⟨reachable, calm, waits⟩ := ih
      exact ⟨.turn reachable turn.turn, (turn.steady calm).2, waits.turn reachable calm turn⟩
  exact reached.2.2.spaced

end Spacing

end Queue

end Writeback
