import Writeback.Proofs.Queue.Debounce
import Writeback.Proofs.Queue.Landing
import Writeback.Proofs.Queue.Legs
import Writeback.Proofs.Queue.Precedence

/-!
# What a flush waits for

A flush takes all jobs out of the queue and starts them, and it returns when nothing of its drain is
left. Each of its jobs stays with the drain until it starts, then sleeps from stage to stage, and is
over in some turn: a direct save has settled by then, and a cycle has had its batch answered, or
given up because the serialization of an object crashed. A bucket whose cycle waits loses nothing
from its front in the meantime. What the cycle leaves pending is a matter of the next cycle, which
is pushed for it and which the flush does not wait for.
-/

namespace Writeback

/-- A bucket that was only joined has the same objects at its front. -/
theorem Bucket.nextBatch_prefix {b c : Bucket} (key : c.key = b.key)
    (pending : b.pending <+: c.pending) (limit : Nat) :
    b.nextBatch limit <+: c.nextBatch limit := by
  have whole (d : Bucket) : d.nextBatch limit =
      if d.key.background then d.pending else d.pending.take limit := by
    unfold Bucket.nextBatch Bucket.batchSize
    split
    · exact List.take_length
    · exact (List.take_eq_take_min ..).symm
  rw [whole, whole, key]
  split
  · exact pending
  · exact pending.take limit

namespace Queue

namespace State

/-- The next cycle of a bucket is queued, as objects are pending in it. -/
def Requeued (s : State) (key : BucketKey) : Prop :=
  ∃ b, s.bucket? key = some b ∧ b.pending ≠ [] ∧ .cycle key ∈ s.jobs

/-- A bucket is empty and out of flight. -/
def Landed (s : State) (key : BucketKey) : Prop :=
  ∃ b, s.bucket? key = some b ∧ b.pending = [] ∧ b.inFlight = false

/-- A flush starts, one that a caller awaits or one that was to run on its own. Its drain has this
number. -/
inductive Flushes (s : State) (id : Nat) : State → Prop where
  | now : s.drains = id → Flushes s id s.flush
  | onItsOwn {rest : List Task} : s.ready = .flush id :: rest →
      Flushes s id ((s.pop rest).startFlush id)

end State

/-- From one state to the other the cycle of this batch ends: the request is answered, or the
serialization of an object crashed. The next cycle is queued if objects are pending, and otherwise
the bucket is out of flight. The saves of the batch have settled, unless the next cycle is queued
and the answer is held until then. -/
structure EndsCycle (key : BucketKey) (batch : List Save) (s t : State) : Prop where
  news : ∃ news, t.events = s.events ++ news ∧
    ((∃ request answer, .answered key batch request answer ∈ news) ∨
      .taken key batch ∈ news ∧ s.batchBody? key batch = none)
  next : t.Requeued key ∨ t.Landed key
  saves : ∀ save ∈ batch, save ∈ t.ended ∨
    t.Requeued key ∧ ∃ value, ⟨batch, value⟩ ∈ t.heldBy key

namespace EndsCycle

variable {s t u : State} {key : BucketKey} {batch : List Save} {b : Bucket}
  {news : List Event}

/-- What was written down before does not matter. -/
theorem after (events : s.events = u.events ++ news) (records : s.saveable = u.saveable)
    (h : EndsCycle key batch s t) : EndsCycle key batch u t where
  news := by
    obtain ⟨more, late, told⟩ := h.news
    refine ⟨news ++ more, by rw [late, events, List.append_assoc], ?_⟩
    have same : u.batchBody? key batch = s.batchBody? key batch := by
      unfold Ledger.batchBody?
      rw [records]
    rw [same]
    exact told.imp (fun ⟨request, answer, mem⟩ => ⟨request, answer, List.mem_append_right _ mem⟩)
      (And.imp_left (List.mem_append_right _))
  next := h.next
  saves := h.saves

theorem release (h : EndsCycle key batch s t) : EndsCycle key batch s t.release := by
  have ledger : t.release.toLedger = t.toLedger := t.release_toLedger
  have buckets := State.bucket?_congr t.release_buckets
  have held := State.heldBy_congr t.release_buckets
  have requeued : t.Requeued key → t.release.Requeued key := by
    rintro ⟨b, found, more, queued⟩
    exact ⟨b, (buckets key).trans found, more, by rwa [State.release_jobs]⟩
  refine ⟨ledger ▸ h.news, h.next.imp requeued ?_, fun save mem => ?_⟩
  · rintro ⟨b, found, rest⟩
    exact ⟨b, (buckets key).trans found, rest⟩
  · rw [held, ledger]
    exact (h.saves save mem).imp_right (And.imp_left requeued)

/-- A cycle that was not cut short ends. -/
theorem of_close (found : u.bucket? key = some b) (events : u.events = s.events ++ news)
    (answered : ∃ request answer, .answered key batch request answer ∈ news)
    {response : Option HeldResponse}
    (saves : (∀ save ∈ batch, save ∈ u.ended) ∨ ∃ value, response = some ⟨batch, value⟩) :
    EndsCycle key batch s (u.closeCycle key response) where
  news := by
    obtain ⟨more, late, -⟩ := u.exists_events_closeCycle key response
    obtain ⟨request, answer, mem⟩ := answered
    exact ⟨news ++ more, by rw [late, events, List.append_assoc],
      .inl ⟨request, answer, List.mem_append_left _ mem⟩⟩
  next := by
    by_cases empty : b.pending = []
    · rw [State.closeCycle_of_empty found empty]
      exact .inr ⟨_, State.bucket?_land found, empty, rfl⟩
    · rw [State.closeCycle_of_pending found empty]
      exact .inl ⟨_, State.bucket?_hold _ found, empty, List.mem_append_right _ List.mem_cons_self⟩
  saves save mem := by
    by_cases empty : b.pending = []
    · left
      rw [State.closeCycle_of_empty found empty]
      refine (Ledger.ended_redistribute _ _ _).symm ▸ ?_
      rcases saves with ended | ⟨value, rfl⟩
      · exact List.mem_append_left _ (ended save mem)
      · refine List.mem_append_right _ (List.mem_flatMap.mpr ⟨⟨batch, value⟩, ?_, mem⟩)
        exact List.mem_append_right _ List.mem_cons_self
    · rw [State.closeCycle_of_pending found empty]
      rcases saves with ended | ⟨value, rfl⟩
      · left
        refine (Ledger.ended_note _ _).symm ▸ List.mem_append_left _ (ended save mem)
      · right
        refine ⟨⟨_, State.bucket?_hold _ found, empty,
          List.mem_append_right _ List.mem_cons_self⟩, value, ?_⟩
        exact (State.heldBy_hold _ found).symm ▸ List.mem_append_right _ List.mem_cons_self

/-- A cycle that was cut short ends. -/
theorem of_abort (found : u.bucket? key = some b) (events : u.events = s.events ++ news)
    (cut : (∃ request answer, .answered key batch request answer ∈ news) ∨
      .taken key batch ∈ news ∧ s.batchBody? key batch = none) :
    EndsCycle key batch s (u.abortCycle key batch) where
  news := by
    obtain ⟨more, late, -⟩ := u.exists_events_abortCycle key batch
    refine ⟨news ++ more, by rw [late, events, List.append_assoc], ?_⟩
    exact cut.imp (fun ⟨request, answer, mem⟩ => ⟨request, answer, List.mem_append_left _ mem⟩)
      (And.imp_left (List.mem_append_left _))
  next := by
    by_cases empty : b.pending = []
    · rw [State.abortCycle_of_empty found empty]
      exact .inr ⟨_, State.bucket?_land found, empty, rfl⟩
    · rw [State.abortCycle_of_pending found empty]
      exact .inl ⟨b, found, empty, List.mem_append_right _ List.mem_cons_self⟩
  saves save mem := by
    left
    by_cases empty : b.pending = []
    · rw [State.abortCycle_of_empty found empty]
      refine (Ledger.ended_settleAll _ _ _).symm ▸ ?_
      exact List.mem_append_right _ (List.mem_append_right _ mem)
    · rw [State.abortCycle_of_pending found empty]
      exact (Ledger.ended_settleAll _ _ _).symm ▸ List.mem_append_right _ mem

end EndsCycle

/-- A cycle of the bucket with a batch that begins with these saves. -/
def Stage.Carries (key : BucketKey) (front : List Save) : Stage → Prop
  | depart cycle | arrive cycle => cycle.key = key ∧ front <+: cycle.batch
  | start _ | saved _ _ => False

namespace Stage.Carries

variable {stage : Stage} {key : BucketKey} {front : List Save}

theorem starting?_eq (h : stage.Carries key front) : stage.starting? = none := by
  cases stage with
  | start => exact h.elim
  | _ => rfl

theorem job_eq (h : stage.Carries key front) : stage.job = .cycle key := by
  cases stage with
  | depart cycle | arrive cycle => exact congrArg Job.cycle h.1
  | _ => exact h.elim

end Stage.Carries

section Running

variable {setup : Setup} {s t : State} {id : Nat} {stage : Stage} {key : BucketKey}
  {front : List Save} {save : Save}

/-- A direct save is out until it returns or crashes, and then it settles. -/
theorem Leg.of_update {next : Option (Nat × Stage)} (leg : Leg setup s stage t next)
    (job : stage.job = .update save) :
    (∃ duration timer, next = some (duration, .saved save timer)) ∨
      next = none ∧ save ∈ t.ended := by
  cases leg with
  | begin =>
    cases job
    exact .inl ⟨_, _, rfl⟩
  | comeBack =>
    cases job
    exact .inr ⟨rfl, by simp [State.finishUpdate, State.onLedger, Ledger.settle, Event.ended?]⟩
  | _ => cases job

/-- A direct save that runs sleeps until it returns or crashes, or settles. -/
theorem Runs.of_update (runs : Runs setup id s stage t) (job : stage.job = .update save) :
    (∃ timer, .job id (.saved save timer) ∈ t.tasks) ∨ save ∈ t.ended := by
  induction runs with
  | rests leg =>
    rcases leg.of_update job with ⟨_, timer, same⟩ | ⟨none, -⟩
    · cases same
      exact .inl ⟨timer, State.mem_tasks_sleep.mpr (.inr rfl)⟩
    · cases none
  | goesOn leg _ ih =>
    rcases leg.of_update job with ⟨_, timer, same⟩ | ⟨none, -⟩
    · cases same
      exact ih rfl
    · cases none
  | ends leg =>
    rcases leg.of_update job with ⟨_, _, same⟩ | ⟨-, ended⟩
    · cases same
    · right
      rwa [State.release_toLedger]

/-- A cycle that is about to start, or one that is out. -/
def Stage.Brings (limit : Nat) (key : BucketKey) (front : List Save) (b : Bucket)
    (stage : Stage) : Prop :=
  (stage = .start (.cycle key) ∧ front <+: b.nextBatch limit) ∨ stage.Carries key front

/-- A cycle is out with its batch until it ends. -/
theorem Leg.of_cycle {next : Option (Nat × Stage)} (leg : Leg setup s stage t next)
    {b : Bucket} (found : s.bucket? key = some b) (filled : front ≠ [])
    (has : stage.Brings setup.settings.batchLimit key front b) :
    (∃ duration onward c news, next = some (duration, onward) ∧ onward.Carries key front ∧
      t.bucket? key = some c ∧ t.events = s.events ++ news ∧ t.saveable = s.saveable) ∨
      next = none ∧ ∃ batch, front <+: batch ∧ EndsCycle key batch s t := by
  have starts {k : BucketKey}
      (has : Stage.Brings setup.settings.batchLimit key front b (.start (.cycle k))) :
      k = key ∧ front <+: b.nextBatch setup.settings.batchLimit := by
    simpa [Stage.Brings, Stage.Carries] using has
  have took (k : BucketKey) (c : Bucket) :
      ((s.noteStart (.start (.cycle k))).takeBatch setup.settings.batchLimit k c).events =
        s.events ++ [.started (.cycle k), .taken k (c.nextBatch setup.settings.batchLimit)] := by
    simp [State.takeBatch, State.noteStart, State.onLedger, State.modifyBucket]
  have left (found : s.bucket? key = some b) :
      ((s.noteStart (.start (.cycle key))).takeBatch setup.settings.batchLimit key b).bucket? key =
        some (b.afterBatch setup.settings.batchLimit) := by
    change (s.modifyBucket key (·.afterBatch setup.settings.batchLimit)).bucket? key = _
    rw [State.bucket?_modifyBucket (f := fun c => c.afterBatch setup.settings.batchLimit)
      fun _ => rfl, found, Option.map_some]
  have answered (cycle : Cycle) (answer : Answer) : (s.takeAnswer cycle answer).events =
      s.events ++ [.answered cycle.key cycle.batch cycle.request answer] := Ledger.events_note _ _
  -- A batch whose saves settle with the answer.
  have settled (cycle : Cycle) (answer : Answer) (ending : Ending) (result : SaveResult)
      (found : s.bucket? cycle.key = some b) : EndsCycle cycle.key cycle.batch s
        ((((s.takeAnswer cycle answer).onLedger
          (·.measure setup.tracker cycle.timer ending)).onLedger
          (·.settleAll result cycle.batch)).closeCycle cycle.key none) := by
    obtain ⟨remarks, measured, -⟩ :=
      (s.takeAnswer cycle answer).exists_events_measure setup.tracker cycle.timer ending
    have settled := Ledger.events_settleAll
      ((s.takeAnswer cycle answer).measure setup.tracker cycle.timer ending) result cycle.batch
    rw [measured, answered, List.append_assoc, List.append_assoc] at settled
    refine .of_close (b := b) ?_ settled ⟨_, _, List.mem_cons_self⟩ (.inl fun save mem => ?_)
    · exact found
    · exact (Ledger.ended_settleAll _ _ _).symm ▸ List.mem_append_right _ mem
  cases leg with
  | missing none =>
    obtain ⟨rfl, -⟩ := starts has
    simp [none] at found
  | idle there empty =>
    obtain ⟨rfl, start⟩ := starts has
    obtain rfl := Option.some.inj (there.symm.trans found)
    exact absurd (List.prefix_nil.mp (empty ▸ start)) filled
  | spoil there _ crashes =>
    obtain ⟨rfl, start⟩ := starts has
    obtain rfl := Option.some.inj (there.symm.trans found)
    exact .inr ⟨rfl, _, start, .of_abort (left found) (took _ _) (.inr ⟨by simp, crashes⟩)⟩
  | take there =>
    obtain ⟨rfl, start⟩ := starts has
    obtain rfl := Option.some.inj (there.symm.trans found)
    exact .inl ⟨_, _, _, _, rfl, ⟨rfl, start⟩, left found, took _ _, rfl⟩
  | post cycle =>
    obtain ⟨rfl, start⟩ := has.resolve_left (by simp)
    exact .inl ⟨_, _, b, _, rfl, ⟨rfl, start⟩, found, Ledger.events_note _ _, rfl⟩
  | crash cycle =>
    obtain ⟨rfl, start⟩ := has.resolve_left (by simp)
    refine .inr ⟨rfl, _, start, ?_⟩
    exact .of_abort (u := s.takeAnswer cycle .crash) found (answered _ _)
      (.inl ⟨_, _, List.mem_singleton_self _⟩)
  | refuse cycle cause =>
    obtain ⟨rfl, start⟩ := has.resolve_left (by simp)
    exact .inr ⟨rfl, _, start, settled cycle _ .failed _ found⟩
  | defer cycle value =>
    obtain ⟨rfl, start⟩ := has.resolve_left (by simp)
    exact .inr ⟨rfl, _, start, settled cycle _ .stopped _ found⟩
  | hold cycle value =>
    obtain ⟨rfl, start⟩ := has.resolve_left (by simp)
    obtain ⟨remarks, measured, -⟩ := (s.takeAnswer cycle (.body value)).exists_events_measure
      setup.tracker cycle.timer .stopped
    rw [answered, List.append_assoc] at measured
    refine .inr ⟨rfl, _, start, .of_close (b := b) ?_ measured ?_ (.inr ⟨value, rfl⟩)⟩
    · exact found
    · exact ⟨_, _, List.mem_cons_self⟩
  | begin | comeBack => rcases has with ⟨same, -⟩ | no <;> simp_all [Stage.Carries]

/-- A cycle that runs sleeps with its batch, or ends. -/
theorem Runs.of_cycle (runs : Runs setup id s stage t) {b : Bucket}
    (found : s.bucket? key = some b) (filled : front ≠ [])
    (has : stage.Brings setup.settings.batchLimit key front b) :
    (∃ onward, onward.Carries key front ∧ .job id onward ∈ t.tasks) ∨
      ∃ batch, front <+: batch ∧ EndsCycle key batch s t := by
  induction runs generalizing b with
  | rests leg =>
    rcases leg.of_cycle found filled has with ⟨_, onward, _, _, same, carries, -⟩ | ⟨none, -⟩
    · cases same
      exact .inl ⟨_, carries, State.mem_tasks_sleep.mpr (.inr rfl)⟩
    · cases none
  | goesOn leg _ ih =>
    rcases leg.of_cycle found filled has with
      ⟨_, onward, c, news, same, carries, there, events, records⟩ | ⟨none, -⟩
    · cases same
      refine (ih there (.inr carries)).imp_right ?_
      rintro ⟨batch, start, ends⟩
      exact ⟨batch, start, ends.after events records⟩
    · cases none
  | ends leg =>
    rcases leg.of_cycle found filled has with ⟨_, _, _, _, same, -⟩ | ⟨-, batch, start, ends⟩
    · cases same
    · exact .inr ⟨batch, start, ends.release⟩

end Running

section Waiting

variable {setup : Setup} {s t : State} {id : Nat} {job : Job}

/-- The job, if it is a cycle, has taken nothing since. -/
def Untaken (job : Job) (s t : State) : Prop :=
  ∀ key, job = .cycle key → takenIn key t.events = takenIn key s.events

theorem Interlude.takenIn_eq (interlude : Interlude s t) (key : BucketKey) :
    takenIn key t.events = takenIn key s.events := by
  obtain ⟨news, events, asking⟩ := interlude.asks
  have none : takenIn key news = [] := by
    refine List.filterMap_eq_nil_iff.mpr fun e mem => ?_
    have asks := asking e mem
    cases e <;> simp_all [Event.isAsking, Event.taken?]
  rw [events, takenIn_append, none, List.append_nil]

namespace State

theorem unstartedOf_subset_drained : s.unstartedOf id ⊆ s.drained := by
  intro job mem
  rw [drained, List.mem_append, List.mem_flatMap, List.mem_flatMap]
  rcases mem_unstartedOf.mp mem with ⟨d, line, -, has⟩ | ⟨task, there, -, has⟩
  · exact .inl ⟨d, line, has⟩
  · exact .inr ⟨task, there, has⟩

/-- A job of a drain stays with it, or is with the task that runs. -/
theorem mem_unstartedOf_pop {task : Task} {rest : List Task} (ready : s.ready = task :: rest)
    (mem : job ∈ s.unstartedOf id) : job ∈ (s.pop rest).unstartedOf id ∨
      task.belongsTo id = true ∧ job ∈ task.unstarted := by
  rw [mem_unstartedOf] at mem ⊢
  rcases mem with line | ⟨other, there, mine, has⟩
  · exact .inl (.inl line)
  · simp only [tasks, ready, List.cons_append, List.mem_cons] at there
    rcases there with rfl | there
    · exact .inr ⟨mine, has⟩
    · exact .inl (.inr ⟨other, there, mine, has⟩)

/-- A job that waits is not the one that starts. -/
theorem notMem_unstartedOf_pop (nodup : (s.jobs ++ s.drained).Nodup) {own : Nat}
    {rest : List Task} (ready : s.ready = .job own (.start job) :: rest) :
    job ∉ (s.pop rest).unstartedOf id := by
  intro mem
  have waits : job ∈ (s.pop rest).drained := unstartedOf_subset_drained mem
  have parts : s.drained.Perm (job :: (s.pop rest).drained) := by
    simp only [drained, tasks, ready, pop, List.cons_append, List.flatMap_cons]
    exact List.perm_middle
  have once := parts.nodup_iff.mp (List.nodup_append.mp nodup).2.1
  exact (List.nodup_cons.mp once).1 waits

end State

/-- A job that a drain has stays with it until it starts, sleeps on its way, and is over after some
turn. What it is like on its way, and what it means that it is over, are parameters. -/
theorem Later.seen_through {start : State} (Out : Stage → Prop) (Over : State → State → Prop)
    (h : ReachableInAnyOrder setup start) (mem : job ∈ start.unstartedOf id)
    (started : ∀ stage, Out stage → stage.starting? = none)
    (runs : ∀ s t rest stage, Later setup start s → s.ready = .job id stage :: rest →
      Runs setup id (s.pop rest) stage t → (stage = .start job ∧ Untaken job start s) ∨ Out stage →
      (∃ onward, Out onward ∧ .job id onward ∈ t.tasks) ∨ Over s t)
    (later : Later setup start t) :
    (job ∈ t.unstartedOf id ∧ Untaken job start t) ∨
      (∃ stage, Out stage ∧ .job id stage ∈ t.tasks) ∨
      ∃ u v, Later setup start u ∧ Turn setup u v ∧ Later setup v t ∧ Over u v := by
  induction later with
  | refl => exact .inl ⟨mem, fun _ _ => rfl⟩
  | @tail u v before turn ih =>
    have ran {rest : List Task} {stage : Stage} (ready : u.ready = .job id stage :: rest)
        (run : Runs setup id (u.pop rest) stage v)
        (has : (stage = .start job ∧ Untaken job start u) ∨ Out stage) :
        (∃ stage, Out stage ∧ .job id stage ∈ v.tasks) ∨
          ∃ a b, Later setup start a ∧ Turn setup a b ∧ Later setup b v ∧ Over a b :=
      (runs u v rest stage before ready run has).imp_right
        fun ended => ⟨u, v, before, turn, .refl, ended⟩
    rcases ih with ⟨waits, untaken⟩ | ⟨stage, out, there⟩ | ⟨a, b, early, last, after, ended⟩
    · rcases turn.runs_or_interlude with ⟨own, stage, rest, ready, run⟩ | interlude
      · rcases State.mem_unstartedOf_pop ready waits with apart | ⟨mine, here⟩
        · refine .inl ⟨run.unstartedOf_subset apart, fun key same => ?_⟩
          refine (run.takenIn_eq fun starts => ?_).trans (untaken key same)
          subst same starts
          exact State.notMem_unstartedOf_pop (h.later before).nodup_unstarted ready apart
        · obtain rfl : own = id := by simpa [Task.belongsTo] using mine
          obtain rfl : stage = .start job := by
            cases stage <;> simp_all [Task.unstarted]
          exact .inr (ran ready run (.inl ⟨rfl, untaken⟩))
      · exact .inl ⟨interlude.unstarted id waits,
          fun key same => (interlude.takenIn_eq key).trans (untaken key same)⟩
    · rcases turn.runs_or_interlude with ⟨own, other, rest, ready, run⟩ | interlude
      · by_cases here : Task.job own other = .job id stage
        · cases here
          exact .inr (ran ready run (.inr out))
        · refine .inr (.inl ⟨stage, out, run.job_mem_tasks (started stage out) ?_⟩)
          simpa [State.tasks, State.pop, ready, Ne.symm here] using there
      · exact .inr (.inl ⟨stage, out, (interlude.running id stage (started stage out)).mpr there⟩)
    · exact .inr (.inr ⟨a, b, early, last, after.tail turn, ended⟩)

end Waiting

namespace State

variable {setup : Setup} {s f t : State} {id : Nat}

/-- A task that is a timer at some time is one now. -/
theorem exists_alarm {delay now : Nat} {timer : Task} (mem : timer ∈ s.tasks) {alarm : Alarm}
    (ends : timer.alarm? delay now = some alarm) :
    ∃ before ∈ s.alarms delay, before.generation = alarm.generation := by
  have timed (time : Nat) :
      ∃ before, timer.alarm? delay time = some before ∧ before.generation = alarm.generation := by
    cases timer with
    | countdown | due =>
      cases ends
      exact ⟨_, rfl, rfl⟩
    | _ => cases ends
  rcases List.mem_append.mp mem with ready | asleep
  · obtain ⟨before, rings, same⟩ := timed s.clock
    exact ⟨before, List.mem_append_left _ (List.mem_filterMap.mpr ⟨timer, ready, rings⟩), same⟩
  · obtain ⟨p, there, rfl⟩ := List.mem_map.mp asleep
    obtain ⟨before, rings, same⟩ := timed p.due
    exact ⟨before, List.mem_append_right _ (List.mem_filterMap.mpr ⟨p, there, rings⟩), same⟩

namespace Flushes

/-- A flush starts a drain with the jobs that were in the queue. -/
theorem exists_drain (h : s.Flushes id f) : ∃ r : State, r.jobs = s.jobs ∧ r.buckets = s.buckets ∧
    r.generation = s.generation + 1 ∧ f = drain id r := by
  cases h with
  | now same =>
    subst same
    exact ⟨{ s with drains := s.drains + 1, generation := s.generation + 1 }, rfl, rfl, rfl, rfl⟩
  | @onItsOwn rest =>
    exact ⟨{ s.pop rest with generation := s.generation + 1 }, rfl, rfl, rfl, rfl⟩

theorem turn (h : s.Flushes id f) : Turn setup s f := by
  cases h with
  | now => exact .move (.flush s)
  | onItsOwn ready => exact .move (.step _ _ (by rw [step?, ready]; rfl))

theorem jobs_subset (h : s.Flushes id f) : s.jobs ⊆ f.unstartedOf id := by
  obtain ⟨r, jobs, -, -, rfl⟩ := h.exists_drain
  exact jobs ▸ subset_unstartedOf_startJobs id r.jobs _

theorem bucket? (h : s.Flushes id f) (key : BucketKey) : f.bucket? key = s.bucket? key := by
  obtain ⟨r, -, buckets, -, rfl⟩ := h.exists_drain
  refine bucket?_congr ?_ key
  rw [drain_eq]
  exact buckets

theorem generation_lt (h : s.Flushes id f) : s.generation < f.generation := by
  obtain ⟨r, -, -, generation, rfl⟩ := h.exists_drain
  rw [drain_generation, generation]
  exact Nat.lt_succ_self _

end Flushes

/-- A flush that has returned has no jobs. -/
theorem of_returned (returned : t.isLive id = false) :
    (∀ job, job ∉ t.unstartedOf id) ∧ ∀ stage, .job id stage ∉ t.tasks := by
  simp only [isLive, Bool.or_eq_false_iff, List.any_eq_false, beq_iff_eq] at returned
  obtain ⟨⟨waiting, ready⟩, sleeping⟩ := returned
  have none : ∀ task ∈ t.tasks, task.belongsTo id = false := by
    intro task mem
    rcases List.mem_append.mp mem with now | later
    · simpa using ready task now
    · obtain ⟨p, asleep, rfl⟩ := List.mem_map.mp later
      simpa using sleeping p asleep
  refine ⟨fun job mem => ?_, fun stage mem => ?_⟩
  · rcases mem_unstartedOf.mp mem with ⟨d, line, mine, -⟩ | ⟨task, there, mine, -⟩
    · exact waiting d line mine
    · simp [none task there] at mine
  · simpa [Task.belongsTo] using none _ mem

theorem isLive_of_quiescent (quiescent : t.Quiescent) (line : t.waiting = []) (id : Nat) :
    t.isLive id = false := by
  simp [isLive, quiescent.1, quiescent.2, line]

/-- In no state is an answer on its way into its bucket. -/
theorem handed_eq_zero (s : State) (key : BucketKey) : s.workload.handed key = 0 := by
  change s.underway.bind _ = 0
  have jobs (jobs : List Job) :
      ((↑jobs : Multiset Job).bind fun job => Phase.handed key (.waiting job)) = 0 :=
    Multiset.bind_zero _
  rw [bind_underway, jobs, zero_add]
  refine (Multiset.bind_congr fun task _ => ?_).trans (Multiset.bind_zero _)
  cases task with
  | admitted drain =>
    rw [Task.phases, ← Multiset.map_coe, Multiset.bind_map]
    exact jobs drain.jobs
  | job id stage => cases stage <;> rfl
  | _ => rfl

end State

namespace ReachableInAnyOrder

variable {setup : Setup} {s f t u : State} {id : Nat} {key : BucketKey} {save : Save}

/-- A flush that is awaited, with nothing more asked for, returns. -/
theorem flush_returns (h : ReachableInAnyOrder setup f) (id : Nat) :
    (f.runUntil setup fun u => !u.isLive id).isLive id = false := by
  rcases f.finished_or_quiescent_runSteps setup (fun u => !u.isLive id) (Nat.le_refl _) with
    done | quiescent
  · exact (Bool.not_eq_true' _).mp done
  · refine State.isLive_of_quiescent quiescent ?_ id
    exact ((h.later (f.later_runUntil setup _)).of_quiescent quiescent).2.1

/-- A save that ended stays so. -/
theorem result?_of_ended (h : ReachableInAnyOrder setup u) (later : Later setup u t)
    (ended : save ∈ u.ended) : (t.result? save.handle).isSome = true := by
  obtain ⟨news, events⟩ := (later.steps h.workload.tokens.guarded).exists_news
  exact Ledger.result?_isSome_iff.mpr
    (List.mem_map_of_mem (Ledger.mem_ended_of_append events ended))

/-- A save whose answer came and that has not ended is in the bucket. -/
theorem exists_heldBy (h : ReachableInAnyOrder setup t) (held : save ∈ heldIn key t.events) :
    ∃ response ∈ t.heldBy key, save ∈ response.batch := by
  have kept := h.workload.held
  by_cases known : key ∈ t.workload.buckets.map Bucket.key
  · obtain ⟨b, there, rfl⟩ := Multiset.mem_map.mp known
    have all := kept.bucket b there [] (t.handed_eq_zero b.key).symm
    rw [List.flatten_nil, List.append_nil] at all
    change _ = heldIn b.key t.events at all
    rw [← all] at held
    rw [State.heldBy_of_bucket? (h.bucket?_of_mem (Multiset.mem_coe.mp there))]
    exact List.mem_flatMap.mp held
  · have none := kept.absent key known
    change heldIn key t.events = [] at none
    rw [none] at held
    exact absurd held List.not_mem_nil

/-- An answer that is held is so until its saves end. -/
theorem ended_or_held (h : ReachableInAnyOrder setup u) (later : Later setup u t)
    {batch : List Save} {value : Json} (held : ⟨batch, value⟩ ∈ u.heldBy key)
    (mem : save ∈ batch) : (t.result? save.handle).isSome = true ∨
      ∃ value, ⟨batch, value⟩ ∈ t.heldBy key := by
  have h' := h.later later
  obtain ⟨news, events⟩ := (later.steps h.workload.tokens.guarded).exists_news
  change t.events = u.events ++ news at events
  have onRecord : OnRecord t.events key ⟨batch, value⟩ :=
    events ▸ (h.onRecord_of_heldBy held).append
  obtain ⟨request, answered, plain⟩ := onRecord
  by_cases ended : save ∈ t.ended
  · exact .inl (h'.result?_of_ended .refl ended)
  · obtain ⟨response, holds, there⟩ := h'.exists_heldBy
      (mem_heldIn.mpr ⟨⟨batch, request, value, answered, plain, mem⟩, ended⟩)
    obtain ⟨_, answered', -⟩ := h'.onRecord_of_heldBy holds
    have taken := (h'.workload.taken_of_answered answered).1
    have taken' := (h'.workload.taken_of_answered answered').1
    obtain ⟨-, rfl⟩ := h'.workload.eq_of_taken taken mem taken' there
    exact .inr ⟨response.body, holds⟩

/-- A direct save that was flushed has settled when the flush returns. -/
theorem ended_of_flushed (h : ReachableInAnyOrder setup f) (mem : .update save ∈ f.unstartedOf id)
    (later : Later setup f t) (returned : t.isLive id = false) :
    (t.result? save.handle).isSome = true := by
  obtain ⟨waits, runs⟩ := State.of_returned returned
  have seen := later.seen_through (fun stage => ∃ timer, stage = .saved save timer)
    (fun _ v => save ∈ v.ended) h mem (by rintro _ ⟨timer, rfl⟩; rfl)
    fun u v rest stage before ready run has => by
      have job : stage.job = .update save := by
        rcases has with ⟨rfl, -⟩ | ⟨timer, rfl⟩ <;> rfl
      exact (run.of_update job).imp_left fun ⟨timer, sleeps⟩ => ⟨_, ⟨timer, rfl⟩, sleeps⟩
  rcases seen with ⟨waiting, -⟩ | ⟨stage, -, there⟩ | ⟨u, v, early, turn, after, ended⟩
  · exact absurd waiting (waits _)
  · exact absurd there (runs stage)
  · exact ((h.later early).turn turn).result?_of_ended after ended

/-- As long as no batch is taken out of a bucket, the same objects are at its front. -/
theorem nextBatch_prefix (h : ReachableInAnyOrder setup f) (later : Later setup f u)
    {b c : Bucket} (before : f.bucket? key = some b) (after : u.bucket? key = some c)
    (untaken : takenIn key u.events = takenIn key f.events) (limit : Nat) :
    b.nextBatch limit <+: c.nextBatch limit := by
  obtain ⟨news, events⟩ := (later.steps h.workload.tokens.guarded).exists_news
  change u.events = f.events ++ news at events
  have pending : b.pending <+: c.pending := by
    rw [← h.pendingIn_eq before, ← (h.later later).pendingIn_eq after, pendingIn, pendingIn,
      untaken, events, joinedIn_append]
    exact (List.prefix_append _ _).drop _
  refine Bucket.nextBatch_prefix ?_ pending limit
  rw [(State.mem_of_bucket? before).2, (State.mem_of_bucket? after).2]

/-- A cycle that was flushed has ended when the flush returns, with a batch that begins with the
objects that were first in its bucket. -/
theorem endsCycle_of_flushed (h : ReachableInAnyOrder setup f)
    (mem : .cycle key ∈ f.unstartedOf id) {b : Bucket} (found : f.bucket? key = some b)
    (filled : b.nextBatch setup.settings.batchLimit ≠ []) (later : Later setup f t)
    (returned : t.isLive id = false) :
    ∃ batch u v, b.nextBatch setup.settings.batchLimit <+: batch ∧ Later setup f u ∧
      Turn setup u v ∧ Later setup v t ∧ EndsCycle key batch u v := by
  obtain ⟨waits, runs⟩ := State.of_returned returned
  have seen := later.seen_through (Stage.Carries key (b.nextBatch setup.settings.batchLimit))
    (fun u v => ∃ batch, b.nextBatch setup.settings.batchLimit <+: batch ∧
      EndsCycle key batch u v) h mem (fun _ carries => carries.starting?_eq)
    fun u v rest stage before ready run has => by
      have job : stage.job = .cycle key := by
        rcases has with ⟨rfl, -⟩ | carries
        · rfl
        · exact carries.job_eq
      have there : .job id stage ∈ u.tasks := by simp [State.tasks, ready]
      obtain ⟨c, now, -⟩ := State.exists_of_flies ((h.later before).flies_of_task there job)
      have brings : stage.Brings setup.settings.batchLimit key
          (b.nextBatch setup.settings.batchLimit) c :=
        has.imp_left fun fresh =>
          ⟨fresh.1, h.nextBatch_prefix before found now (fresh.2 key rfl) _⟩
      have same : (u.pop rest).events = u.events ++ [] := (List.append_nil _).symm
      rcases run.of_cycle now filled brings with waits | ⟨batch, start, ends⟩
      · exact .inl waits
      · exact .inr ⟨batch, start, ends.after same rfl⟩
  rcases seen with ⟨waiting, -⟩ | ⟨stage, -, there⟩ | ⟨u, v, early, turn, after, batch, start, ends⟩
  · exact absurd waiting (waits _)
  · exact absurd there (runs stage)
  · exact ⟨batch, u, v, start, early, turn, after, ends⟩

/-- A cycle in the queue has objects to take. -/
theorem exists_pending (h : ReachableInAnyOrder setup s) (mem : .cycle key ∈ s.jobs) :
    ∃ b, s.bucket? key = some b ∧ b.pending ≠ [] := by
  have waits := s.mem_underway_of_unstarted (List.mem_append_left s.drained mem)
  obtain ⟨b, there, -, rfl⟩ :=
    h.workload.tokens.exists_bucket waits (Multiset.mem_singleton_self key)
  exact ⟨b, h.bucket?_of_mem (Multiset.mem_coe.mp there), h.workload.tokens.filled b there waits⟩

/-- A timer from before a flush does not count. -/
theorem stale_of_flushes (h : ReachableInAnyOrder setup s) (flushes : s.Flushes id f)
    (later : Later setup f u) {timer : Task} (mem : timer ∈ s.tasks) {alarm : Alarm}
    (ends : timer.alarm? setup.settings.delay u.clock = some alarm) :
    alarm.generation ≠ u.generation := by
  have old : alarm.generation ≤ s.generation := by
    obtain ⟨before, there, same⟩ := State.exists_alarm mem ends
    exact same ▸ h.at_most_late.past before there
  have new := ((h.turn flushes.turn).generation_le later).1
  have grown := flushes.generation_lt
  omega

/-- What a flush guarantees. Awaited with nothing more asked for, it returns. Whenever it has
returned, whatever else went on, each direct save that was in the queue has settled, also if it
crashed. For each cycle that was in the queue, some turn meanwhile ended a cycle of its bucket whose
batch begins with the objects that were to go first: its request was answered, or an object could
not be serialized. The saves of that batch have settled, unless objects were pending then, so that
the next cycle was queued and the answer was held. A timer from before the flush takes nothing when
it ends. -/
theorem flush_sees_jobs_through (h : ReachableInAnyOrder setup s) (flushes : s.Flushes id f) :
    (f.runUntil setup fun u => !u.isLive id).isLive id = false ∧
      (∀ t, Later setup f t → t.isLive id = false →
        (∀ save, .update save ∈ s.jobs → (t.result? save.handle).isSome = true) ∧
        ∀ key, .cycle key ∈ s.jobs → ∃ b batch u v, s.bucket? key = some b ∧
          b.pending ≠ [] ∧ b.nextBatch setup.settings.batchLimit <+: batch ∧
          Later setup f u ∧ Turn setup u v ∧ Later setup v t ∧ EndsCycle key batch u v ∧
          ∀ save ∈ batch, (t.result? save.handle).isSome = true ∨
            v.Requeued key ∧ ∃ value, ⟨batch, value⟩ ∈ t.heldBy key) ∧
      ∀ timer ∈ s.tasks, ∀ u v rest alarm, Later setup f u → u.ready = timer :: rest →
        timer.alarm? setup.settings.delay u.clock = some alarm → u.step? setup = some v →
        v.jobs = u.jobs ∧ v.free = u.free ∧ v.waiting = u.waiting ∧ v.ready = rest := by
  have h' : ReachableInAnyOrder setup f := h.turn flushes.turn
  refine ⟨h'.flush_returns id, fun t later returned => ⟨fun save mem => ?_, fun key mem => ?_⟩, ?_⟩
  · exact h'.ended_of_flushed (flushes.jobs_subset mem) later returned
  · obtain ⟨b, found, pending⟩ := h.exists_pending mem
    have filled := State.nextBatch_ne_nil setup.settings pending
    obtain ⟨batch, u, v, start, early, turn, after, ends⟩ := h'.endsCycle_of_flushed
      (flushes.jobs_subset mem) (flushes.bucket? key ▸ found) filled later returned
    have reachable := (h'.later early).turn turn
    refine ⟨b, batch, u, v, found, pending, start, early, turn, after, ends, fun save mem => ?_⟩
    rcases ends.saves save mem with ended | ⟨requeued, value, held⟩
    · exact .inl (reachable.result?_of_ended after ended)
    · exact (reachable.ended_or_held after held mem).imp_right fun held => ⟨requeued, held⟩
  · intro timer mem u v rest alarm later ready ends step
    exact State.step?_of_stale ready ends (h.stale_of_flushes flushes later mem ends) step

end ReachableInAnyOrder

/-- Two new objects that go out one by one and a direct save that crashes are flushed. When the
flush returns, the direct save has settled, and the answer to the first object is held for the
second. -/
theorem flush_requeues_second_object :
    let setup : Setup := .echoing { batchSize := 1 }
    let s := setup.after [⟨{}, true, 0, none⟩, ⟨{}, true, 0, none⟩,
      ⟨{ saveReply := .crashed }, false, 0, none⟩] 0
    let t := s.flush.runUntil setup fun u => !u.isLive s.drains
    let key : BucketKey := .ofSaveable {}
    s.jobs = [.cycle key, .update ⟨2, 2⟩] ∧ t.isLive s.drains = false ∧
      (t.result? 2).isSome = true ∧ t.result? 0 = none ∧ t.jobs = [.cycle key] ∧
      ∃ batch u v, [⟨0, 0⟩] <+: batch ∧ Later setup s.flush u ∧ Turn setup u v ∧
        Later setup v t ∧ EndsCycle key batch u v := by
  intro setup s t key
  have reachable := (Setup.reachable_after _ _ _ : Reachable setup s).inAnyOrder
  have jobs : s.jobs = [.cycle key, .update ⟨2, 2⟩] := by decide +kernel
  obtain ⟨returns, done, -⟩ := reachable.flush_sees_jobs_through (.now rfl)
  obtain ⟨settled, ended⟩ := done t (State.later_runUntil _ _ _) returns
  obtain ⟨b, batch, u, v, found, -, start, early, turn, after, ends, -⟩ :=
    ended key (jobs ▸ List.mem_cons_self)
  have first : (s.bucket? key).map (fun b => b.nextBatch 1) = some [⟨0, 0⟩] := by decide +kernel
  rw [found, Option.map_some, Option.some.injEq] at first
  refine ⟨jobs, returns, settled ⟨2, 2⟩ (jobs ▸ List.mem_cons_of_mem _ List.mem_cons_self),
    by decide +kernel, by decide +kernel, batch, u, v, ?_, early, turn, after, ends⟩
  exact first ▸ start

end Queue

end Writeback
