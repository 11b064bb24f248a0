import Writeback.Proofs.Queue.Asking
import Writeback.Proofs.Queue.Flight
import Writeback.Proofs.Queue.Rest
import Writeback.Proofs.Queue.Settlement
import Writeback.Queue.Shutdown

/-!
# Flushes that are given up

A caller may stop waiting for a flush. A cycle that had started then ends as a crash would end it,
and its bucket gets the next one or leaves flight. A cycle that had not started is dropped without
a trace: nobody tells its bucket, which stays in flight, takes in what is enqueued, and is never
sent again. These are the only buckets that are left behind.

A cycle that was dropped is kept beside the workload as if it were still to start. With these
cycles counted in, what holds of the tokens of buckets and of their lines holds here too.
-/

namespace Writeback

/-- The bucket that a job is a cycle of. -/
def Job.cycle? : Job → Option BucketKey
  | .cycle key => some key
  | .update _ => none

namespace Queue

/-- The jobs of a drain that have not started. -/
def State.unstartedOf (s : State) (drain : Nat) : List Job :=
  (s.waiting.filter fun d => d.id == drain).flatMap Drain.jobs ++
    (s.tasks.filter (Task.belongsTo drain)).flatMap Task.unstarted

/-- What may happen next where callers may also give flushes up. -/
inductive LooseTurn (setup : Setup) : State → State → Prop where
  | turn {s t : State} : Turn setup s t → LooseTurn setup s t
  | drop (s : State) (drain : Nat) : LooseTurn setup s (s.abandonFlush drain)

/-- The states of the runs in which callers may also give flushes up, each with the buckets whose
cycle was dropped before it started. -/
inductive ReachableDropping (setup : Setup) : List BucketKey → State → Prop where
  | initial : ReachableDropping setup [] (.initial setup.settings)
  | turn {lost : List BucketKey} {s t : State} : ReachableDropping setup lost s → Turn setup s t →
      ReachableDropping setup lost t
  | drop {lost : List BucketKey} {s : State} (drain : Nat) : ReachableDropping setup lost s →
      ReachableDropping setup (lost ++ (s.unstartedOf drain).filterMap Job.cycle?)
        (s.abandonFlush drain)

/-- Callers may wait for all their flushes. -/
theorem Reachable.dropping {setup : Setup} {s : State} (h : Reachable setup s) :
    ReachableDropping setup [] s := by
  induction h with
  | initial => exact .initial
  | move _ move ih => exact ih.turn (.move move)

namespace Workload

variable {limit : Nat} {v w : Workload}

/-- The tokens of buckets are in order, and so are their lines. -/
structure Sound (w : Workload) : Prop where
  tokens : Tokens w
  inLine : InLine w

theorem Sound.steps (h : Sound v) (steps : Steps limit v w) : Sound w := by
  induction steps with
  | refl => exact h
  | tail _ step ih => exact ⟨step.tokens ih.tokens, step.inLine ih.tokens ih.inLine⟩

/-- The lines of buckets depend on buckets and the journal alone. -/
theorem InLine.of_lines (h : InLine v) {news : List Event} (events : w.events = v.events ++ news)
    (silent : ∀ e ∈ news, e.isWire = false) (lines : w.lines = v.lines)
    (kept : v.Keeps w.toLedger) : InLine w := by
  refine h.of_same kept (fun key => ?_) (fun key => ?_) lines
  · rw [events, joinedIn_append, joinedIn_of_silent silent, List.append_nil]
  · rw [events, takenIn_append, takenIn_of_silent silent, List.append_nil]

/-- A direct save is given up. -/
theorem Sound.cancel {p : Phase} {save : Save} (h : Sound (w.plus p)) (none : p.keys = 0) :
    Sound (w.onLedger (·.settle (.error .cancelled) save)) where
  tokens := by
    refine h.tokens.of_buckets_eq rfl (by simp [plus, none]) fun key mem => ?_
    exact Multiset.mem_cons_of_mem mem
  inLine := h.inLine.of_lines (Ledger.events_note _ _) (by simp [Event.isWire]) rfl
    ⟨le_rfl, fun _ _ => rfl⟩

/-- A cycle that had started is cut short. -/
theorem Sound.cut {p : Phase} {key : BucketKey} (h : Sound (w.plus p)) (same : p.keys = {key})
    (batch : List Save) : Sound (w.plus (.failing key batch)) where
  tokens := h.tokens.of_advance rfl rfl rfl (by simp [same]) (by simp)
  inLine := h.inLine.of_lines (List.append_nil _).symm (by simp) rfl ⟨le_rfl, fun _ _ => rfl⟩

/-- The cycles of these buckets, not started. -/
def unstartedCycles (keys : List BucketKey) : Multiset Phase :=
  ↑(keys.map fun key => Phase.waiting (.cycle key))

theorem unstartedCycles_append (keys more : List BucketKey) :
    unstartedCycles (keys ++ more) = unstartedCycles keys + unstartedCycles more := by
  simp [unstartedCycles]

theorem bind_keys_unstartedCycles (keys : List BucketKey) :
    (unstartedCycles keys).bind Phase.keys = ↑keys := by
  induction keys with
  | nil => rfl
  | cons key keys ih =>
    have split : unstartedCycles (key :: keys) =
        .waiting (.cycle key) ::ₘ unstartedCycles keys := rfl
    rw [split, Multiset.cons_bind, ih]
    rfl

/-- A cycle that was dropped keeps any other of its bucket from starting. -/
theorem Tokens.notMem_of_lost {lost : List BucketKey}
    (h : Tokens (w.plusAll (unstartedCycles lost))) {key : BucketKey} (mem : key ∈ lost) :
    .waiting (.cycle key) ∉ w.underway := by
  intro there
  have one := h.count_le_one key
  rw [plusAll, Multiset.add_bind, Multiset.count_add, bind_keys_unstartedCycles,
    Multiset.coe_count] at one
  have first : 0 < lost.count key := List.count_pos_iff.mpr mem
  have second : 0 < (w.underway.bind Phase.keys).count key :=
    Multiset.count_pos.mpr (Multiset.mem_bind.mpr ⟨_, there, Multiset.mem_singleton_self key⟩)
  omega

theorem Steps.takenIn_eq {lost : List BucketKey} (steps : Steps limit v w)
    (h : Tokens (v.plusAll (unstartedCycles lost))) {key : BucketKey} (mem : key ∈ lost) :
    takenIn key w.events = takenIn key v.events := by
  induction steps with
  | refl => rfl
  | @tail u w before step ih =>
    have tokens := (Steps.plusAll before (unstartedCycles lost)).tokens h
    rw [step.takenIn_eq (tokens.notMem_of_lost mem), ih]

theorem plusAll_singleton_add (w : Workload) (p : Phase) (ps : Multiset Phase) :
    w.plusAll ({p} + ps) = (w.plusAll ps).plus p := by
  rw [← plusAll_plusAll, plusAll_singleton]

theorem plus_plusAll (w : Workload) (p : Phase) (ps : Multiset Phase) :
    (w.plus p).plusAll ps = (w.plusAll ps).plus p := by
  rw [← plusAll_singleton w, plusAll_plusAll, add_comm, plusAll_singleton_add]

end Workload

open Workload

namespace State

variable {s : State} {ps : Multiset Phase}

/-- A job that is dropped before it starts: a direct save ends, and a cycle is put aside. -/
theorem sound_dropJob {job : Job} (h : Sound (s.workload.plusAll ({.waiting job} + ps))) :
    Sound ((s.dropJob job).workload.plusAll (unstartedCycles job.cycle?.toList + ps)) := by
  cases job with
  | cycle key => exact h
  | update save =>
    have none : unstartedCycles (Job.update save).cycle?.toList = 0 := rfl
    rw [plusAll_singleton_add] at h
    rw [none, zero_add]
    exact h.cancel rfl

/-- What is given up one after the other is given up together. -/
theorem sound_foldl {α : Type} {f : State → α → State} {phases : α → Multiset Phase}
    {lost : α → List BucketKey}
    (each : ∀ x s ps, Sound (s.workload.plusAll (phases x + ps)) →
      Sound ((f s x).workload.plusAll (unstartedCycles (lost x) + ps)))
    (xs : List α) (h : Sound (s.workload.plusAll ((↑xs : Multiset α).bind phases + ps))) :
    Sound ((xs.foldl f s).workload.plusAll (unstartedCycles (xs.flatMap lost) + ps)) := by
  induction xs generalizing s ps with
  | nil => exact h
  | cons x xs ih =>
    rw [← Multiset.cons_coe, Multiset.cons_bind, add_assoc] at h
    have first := each x s _ h
    rw [add_left_comm] at first
    have all := ih first
    rwa [List.foldl_cons, List.flatMap_cons, unstartedCycles_append, add_assoc, add_left_comm]

theorem sound_dropJobs {jobs : List Job}
    (h : Sound (s.workload.plusAll (↑(jobs.map Phase.waiting) + ps))) :
    Sound ((s.dropJobs jobs).workload.plusAll
      (unstartedCycles (jobs.filterMap Job.cycle?) + ps)) := by
  have each : (↑(jobs.map Phase.waiting) : Multiset Phase) =
      (↑jobs : Multiset Job).bind fun job => {.waiting job} := by
    rw [Multiset.bind_singleton, Multiset.map_coe]
  rw [each] at h
  rw [List.filterMap_eq_flatMap_toList]
  exact sound_foldl (f := dropJob) (fun _ _ _ h => sound_dropJob h) jobs h

/-- A cycle that had started ends as a crash would end it. -/
theorem sound_abortCycle {p : Phase} {key : BucketKey}
    (h : Sound (s.workload.plusAll ({p} + ps))) (same : p.keys = {key}) (batch : List Save) :
    Sound ((s.abortCycle key batch).workload.plusAll ps) := by
  rw [plusAll_singleton_add] at h
  have failing := h.cut same batch
  rw [← plus_plusAll] at failing
  have steps : Steps 0 _ _ := abortCycle_steps ⟨ps, failing.tokens⟩
  exact failing.steps (steps.plusAll ps)

theorem sound_abandonTask {task : Task} (h : Sound (s.workload.plusAll (task.phases + ps))) :
    Sound ((s.abandonTask task).workload.plusAll
      (unstartedCycles (task.unstarted.filterMap Job.cycle?) + ps)) := by
  have nothing {task : Task} (none : task.unstarted = []) :
      unstartedCycles (task.unstarted.filterMap Job.cycle?) + ps = ps := by
    rw [none]
    exact zero_add ps
  cases task with
  | countdown | due | flush => exact h
  | admitted drain =>
    rw [abandonTask, workload_release]
    exact sound_dropJobs h
  | job id stage =>
    cases stage with
    | start job =>
      have one : [job].filterMap Job.cycle? = job.cycle?.toList := by
        cases job <;> rfl
      rw [abandonTask, abandonStage, workload_release, Task.unstarted, one]
      exact sound_dropJob h
    | depart cycle | arrive cycle =>
      rw [abandonTask, abandonStage, workload_release, nothing rfl]
      exact sound_abortCycle h rfl cycle.batch
    | saved save timer =>
      rw [abandonTask, abandonStage, workload_release, nothing rfl]
      rw [Task.phases, plusAll_singleton_add] at h
      exact h.cancel rfl

/-- What is left when a drain is taken away, with the drains in line and the tasks that are. -/
theorem workload_eq_plusAll (s : State) (drain : Nat) :
    s.workload = ({ s with
        ready := s.ready.filter fun task => !task.belongsTo drain
        sleeping := s.sleeping.filter fun p => !p.task.belongsTo drain
        waiting := s.waiting.filter fun d => !(d.id == drain) } : State).workload.plusAll
      ((↑(s.waiting.filter fun d => d.id == drain) : Multiset Drain).bind
          (fun d => ↑(d.jobs.map Phase.waiting)) +
        (↑(s.tasks.filter (Task.belongsTo drain)) : Multiset Task).bind Task.phases) := by
  have ready : (↑s.ready : Multiset Task) = ↑(s.ready.filter (Task.belongsTo drain)) +
      ↑(s.ready.filter fun task => !task.belongsTo drain) :=
    (Multiset.coe_eq_coe.mpr (List.filter_append_perm _ _)).symm
  have sleeping : (↑s.sleeping : Multiset Sleeper) =
      ↑(s.sleeping.filter fun p => p.task.belongsTo drain) +
        ↑(s.sleeping.filter fun p => !p.task.belongsTo drain) :=
    (Multiset.coe_eq_coe.mpr (List.filter_append_perm _ _)).symm
  have waiting (l : List Drain) : (↑(l.flatMap fun d => d.jobs.map Phase.waiting) :
      Multiset Phase) = (↑l : Multiset Drain).bind fun d => ↑(d.jobs.map Phase.waiting) :=
    (Multiset.coe_bind _ _).symm
  have line : (↑s.waiting : Multiset Drain) = ↑(s.waiting.filter fun d => d.id == drain) +
      ↑(s.waiting.filter fun d => !(d.id == drain)) :=
    (Multiset.coe_eq_coe.mpr (List.filter_append_perm _ _)).symm
  have awake : (s.sleeping.map Sleeper.task).filter (Task.belongsTo drain) =
      (s.sleeping.filter fun p => p.task.belongsTo drain).map Sleeper.task := List.filter_map
  simp only [workload, underway, plusAll, tasks, waiting, line, ready, sleeping, List.filter_append,
    awake, ← Multiset.coe_add, ← Multiset.map_coe, Multiset.add_bind, Multiset.bind_map,
    Workload.mk.injEq, true_and, and_true]
  abel

theorem sound_abandonFlush {lost : List BucketKey}
    (h : Sound (s.workload.plusAll (unstartedCycles lost))) (drain : Nat) :
    Sound ((s.abandonFlush drain).workload.plusAll
      (unstartedCycles (lost ++ (s.unstartedOf drain).filterMap Job.cycle?))) := by
  have tasks : s.ready.filter (Task.belongsTo drain) ++
      (s.sleeping.map Sleeper.task).filter (Task.belongsTo drain) =
        s.tasks.filter (Task.belongsTo drain) := (List.filter_append _ _).symm
  rw [workload_eq_plusAll s drain, plusAll_plusAll, add_comm, add_assoc] at h
  have drains := sound_foldl (f := abandonDrain) (fun _ _ _ h => sound_dropJobs h) _ h
  rw [add_left_comm] at drains
  have all := sound_foldl (f := abandonTask) (fun _ _ _ h => sound_abandonTask h) _ drains
  unfold abandonFlush
  dsimp only
  rw [tasks, unstartedOf, List.filterMap_append, List.filterMap_flatMap, List.filterMap_flatMap,
    unstartedCycles_append, unstartedCycles_append]
  convert all using 2
  abel

/-- What gives up nothing that takes a batch takes none in all. -/
theorem takenIn_foldl {α : Type} {f : State → α → State} {key : BucketKey}
    (each : ∀ x s, takenIn key (f s x).events = takenIn key s.events) (xs : List α) (s : State) :
    takenIn key (xs.foldl f s).events = takenIn key s.events := by
  induction xs generalizing s with
  | nil => rfl
  | cons x xs ih => rw [List.foldl_cons, ih, each]

theorem takenIn_settleAll (key : BucketKey) (l : Ledger) (result : SaveResult)
    (saves : List Save) : takenIn key (l.settleAll result saves).events = takenIn key l.events := by
  rw [Ledger.events_settleAll, takenIn_append, takenIn_of_silent isWire_settled, List.append_nil]

theorem takenIn_dropJob (key : BucketKey) (s : State) (job : Job) :
    takenIn key (s.dropJob job).events = takenIn key s.events := by
  cases job with
  | cycle => rfl
  | update save => exact takenIn_settleAll key s.toLedger _ [save]

theorem takenIn_abortCycle (key other : BucketKey) (s : State) (batch : List Save) :
    takenIn key (s.abortCycle other batch).events = takenIn key s.events := by
  unfold abortCycle
  refine (takenIn_settleAll key _ _ batch).trans ?_
  split
  · rfl
  · split
    · exact takenIn_settleAll key _ _ _
    · change takenIn key (s.note (.queued (.cycle other))).events = takenIn key s.events
      simp [takenIn, Event.taken?]

theorem takenIn_abandonTask (key : BucketKey) (s : State) (task : Task) :
    takenIn key (s.abandonTask task).events = takenIn key s.events := by
  cases task with
  | countdown | due | flush => rfl
  | admitted drain =>
    rw [abandonTask, release_toLedger]
    exact takenIn_foldl (fun job s => takenIn_dropJob key s job) _ _
  | job id stage =>
    cases stage with
    | start job =>
      rw [abandonTask, abandonStage, release_toLedger]
      exact takenIn_dropJob key s job
    | depart cycle | arrive cycle =>
      rw [abandonTask, abandonStage, release_toLedger]
      exact takenIn_abortCycle key _ s _
    | saved save timer =>
      rw [abandonTask, abandonStage, release_toLedger]
      exact takenIn_settleAll key s.toLedger _ [save]

theorem takenIn_abandonFlush (key : BucketKey) (s : State) (drain : Nat) :
    takenIn key (s.abandonFlush drain).events = takenIn key s.events := by
  unfold abandonFlush
  dsimp only
  rw [takenIn_foldl fun task s => takenIn_abandonTask key s task]
  exact takenIn_foldl
    (fun (d : Drain) s => takenIn_foldl (fun job s => takenIn_dropJob key s job) d.jobs s) _ _

namespace Paced

variable {permits : Nat} {running : List Task}

theorem dropJobs (h : Paced permits running s) (jobs : List Job) :
    Paced permits running (s.dropJobs jobs) := by
  induction jobs generalizing s with
  | nil => exact h
  | cons job jobs ih =>
    refine ih ?_
    cases job with
    | cycle key => exact h
    | update save => exact h.of_pushed (.settleAll s _ [save])

/-- A task that is given up gives its permit back, if it has one. -/
theorem abandonTask {task : Task} {drain : Nat} (h : Paced permits (task :: running) s)
    (belongs : task.belongsTo drain = true) : Paced permits running (s.abandonTask task) := by
  cases task with
  | countdown | due => simp [Task.belongsTo] at belongs
  | flush id =>
    rw [State.abandonTask]
    refine ⟨by simpa [Task.holdsPermit] using h.permits, h.greedy, fun some => ?_⟩
    simpa [Task.endsQuiet] using h.timed some
  | admitted d => exact (h.dropJobs d.jobs).release rfl
  | job id stage =>
    cases stage with
    | start job => exact (h.dropJobs [job]).release rfl
    | depart cycle | arrive cycle =>
      obtain ⟨jobs, aborted, -⟩ := Pushed.abortCycle s cycle.key cycle.batch
      exact (h.of_pushed aborted).release rfl
    | saved save timer => exact (h.of_pushed (.settleAll s _ [save])).release rfl

theorem abandonTasks {tasks : List Task} {drain : Nat} (h : Paced permits tasks s)
    (belong : ∀ task ∈ tasks, task.belongsTo drain = true) :
    Paced permits [] (tasks.foldl State.abandonTask s) := by
  induction tasks generalizing s with
  | nil => exact h
  | cons task tasks ih =>
    have first := h.abandonTask (belong task List.mem_cons_self)
    exact ih first fun other mem => belong other (List.mem_cons_of_mem _ mem)

theorem abandonFlush (h : Paced permits [] s) (drain : Nat) :
    Paced permits [] (s.abandonFlush drain) := by
  let left : State := { s with
    ready := s.ready.filter fun task => !task.belongsTo drain
    sleeping := s.sleeping.filter fun p => !p.task.belongsTo drain
    waiting := s.waiting.filter fun d => !(d.id == drain) }
  have others : left.tasks = s.tasks.filter fun task => !task.belongsTo drain := by
    rw [tasks, tasks, List.filter_append, List.filter_map]
    rfl
  have parts : (s.tasks.filter (Task.belongsTo drain) ++ left.tasks).Perm s.tasks :=
    others ▸ List.filter_append_perm _ _
  have taken : Paced permits (s.tasks.filter (Task.belongsTo drain)) left := by
    refine ⟨?_, fun line => h.greedy fun none => ?_, fun some => ?_⟩
    · rw [parts.countP_eq]
      exact h.permits
    · simp [left, none] at line
    · obtain ⟨timer, mem, ends⟩ := h.timed some
      exact ⟨timer, parts.mem_iff.mpr mem, ends⟩
  have dropped (drains : List Drain) : ∀ {running : List Task} {s : State},
      Paced permits running s → Paced permits running (drains.foldl abandonDrain s) := by
    induction drains with
    | nil => exact fun h => h
    | cons d drains ih => exact fun h => ih (h.dropJobs d.jobs)
  have given := (dropped (s.waiting.filter fun d => d.id == drain) taken).abandonTasks
    fun task mem => (List.mem_filter.mp mem).2
  rwa [tasks, List.filter_append] at given

end Paced

/-- The cycles of a bucket that exist, and those that were dropped. -/
theorem count_keys_plusAll (s : State) (lost : List BucketKey) (key : BucketKey) :
    ((s.workload.plusAll (unstartedCycles lost)).underway.bind Phase.keys).count key =
      s.cycleCount key + lost.count key := by
  rw [plusAll, Multiset.add_bind, Multiset.count_add, bind_keys_unstartedCycles,
    Multiset.coe_count, add_comm]
  exact congrArg (· + lost.count key) (s.count_keys key)

end State

namespace ReachableDropping

variable {setup : Setup} {lost : List BucketKey} {s t : State} {key : BucketKey}

theorem sound (h : ReachableDropping setup lost s) :
    Sound (s.workload.plusAll (unstartedCycles lost)) := by
  induction h with
  | initial =>
    have start : Workload.Reachable 0 {} := .initial
    exact ⟨start.tokens, start.inLine⟩
  | turn _ turn ih => exact ih.steps ((turn.steps ⟨_, ih.tokens⟩).plusAll _)
  | drop drain _ ih => exact State.sound_abandonFlush ih drain

theorem paced (h : ReachableDropping setup lost s) :
    State.Paced setup.settings.permits [] s := by
  induction h with
  | initial => exact ⟨rfl, fun some => absurd rfl some, fun some => absurd rfl some⟩
  | turn _ turn ih => exact ih.turn turn
  | drop drain _ ih => exact ih.abandonFlush drain

theorem later (h : ReachableDropping setup lost s) (later : Later setup s t) :
    ReachableDropping setup lost t := by
  induction later with
  | refl => exact h
  | tail _ turn ih => exact ih.turn turn

theorem looseTurn (h : ReachableDropping setup lost s) (turn : LooseTurn setup s t) :
    ∃ more, ReachableDropping setup (lost ++ more) t := by
  cases turn with
  | turn turn =>
    refine ⟨[], ?_⟩
    rw [List.append_nil]
    exact h.turn turn
  | drop drain => exact ⟨_, h.drop drain⟩

/-- Once the cycle of a bucket was dropped, nothing is taken out of the bucket. -/
theorem takenIn_eq (h : ReachableDropping setup lost s) (mem : key ∈ lost)
    (later : Relation.ReflTransGen (LooseTurn setup) s t) :
    (∃ more, ReachableDropping setup (lost ++ more) t) ∧
      takenIn key t.events = takenIn key s.events := by
  induction later with
  | refl => exact ⟨⟨[], by rwa [List.append_nil]⟩, rfl⟩
  | tail _ turn ih =>
    obtain ⟨⟨more, before⟩, same⟩ := ih
    obtain ⟨last, after⟩ := before.looseTurn turn
    refine ⟨⟨more ++ last, by rwa [← List.append_assoc]⟩, ?_⟩
    rw [← same]
    cases turn with
    | turn turn =>
      have tokens := before.sound.tokens
      exact (turn.steps ⟨_, tokens⟩).takenIn_eq tokens (List.mem_append_left more mem)
    | drop drain => exact State.takenIn_abandonFlush key _ drain

/-- There is at most one cycle of a bucket, counting those that were dropped. -/
theorem cycleCount_le (h : ReachableDropping setup lost s) (key : BucketKey) :
    s.cycleCount key + lost.count key ≤ 1 := by
  rw [← State.count_keys_plusAll]
  exact h.sound.tokens.count_le_one key

theorem inFlight_iff (h : ReachableDropping setup lost s) {b : Bucket} (hb : b ∈ s.buckets) :
    b.inFlight = true ↔ s.cycleCount b.key = 1 ∨ b.key ∈ lost := by
  have one := h.sound.tokens.inFlight_iff (b := b) hb
  have le := h.cycleCount_le b.key
  rw [State.count_keys_plusAll] at one
  rw [one, ← List.count_pos_iff]
  omega

/-- A bucket whose cycle was dropped has no other, stays in flight, and has something to send. -/
theorem of_lost (h : ReachableDropping setup lost s) (mem : key ∈ lost) :
    s.cycleCount key = 0 ∧
      ∃ b ∈ s.buckets, b.key = key ∧ b.inFlight = true ∧ b.pending ≠ [] := by
  have tokens := h.sound.tokens
  have le := h.cycleCount_le key
  have some : 0 < lost.count key := List.count_pos_iff.mpr mem
  have there : .waiting (.cycle key) ∈ (s.workload.plusAll (unstartedCycles lost)).underway :=
    Multiset.mem_add.mpr (.inl (Multiset.mem_coe.mpr (List.mem_map_of_mem mem)))
  obtain ⟨b, hb, flying, rfl⟩ := tokens.exists_bucket there (Multiset.mem_singleton_self key)
  exact ⟨by omega, b, hb, rfl, flying, tokens.filled b hb there⟩

/-- When nothing is left to do, only buckets whose cycle was dropped have anything left. -/
theorem idle_of_quiescent (h : ReachableDropping setup lost s) (quiescent : s.Quiescent)
    {b : Bucket} (hb : b ∈ s.buckets) (kept : b.key ∉ lost) :
    b.inFlight = false ∧ b.pending = [] ∧ b.held = [] := by
  have pos := setup.settings.permits_pos
  obtain ⟨-, waiting, jobs⟩ := h.paced.of_quiescent pos quiescent
  have none : s.workload.underway = 0 := State.underway_of_quiescent quiescent waiting jobs
  have count := s.count_keys b.key
  have zero : s.underway = 0 := none
  rw [zero, Multiset.zero_bind, Multiset.count_zero] at count
  have idle : b.inFlight = false := by
    rw [Bool.eq_false_iff, ne_eq, h.inFlight_iff hb]
    rintro (one | dropped)
    · exact absurd (count.trans one) Nat.zero_ne_one
    · exact kept dropped
  exact ⟨idle, h.sound.tokens.idle b hb idle⟩

/-- What is pending in a bucket whose cycle is not dropped was taken by the time the queue is at
rest. -/
theorem taken_at_rest (h : ReachableDropping setup lost s) (later : Later setup s t)
    (quiescent : t.Quiescent) {b : Bucket} (hb : b ∈ s.buckets) (kept : b.key ∉ lost) :
    ∃ more, takenIn b.key t.events = takenIn b.key s.events ++ more ∧
      b.pending <+: more.flatten := by
  obtain ⟨news, events⟩ : ∃ news, t.events = s.events ++ news :=
    (later.steps ⟨_, h.sound.tokens⟩).exists_news
  have rest := h.later later
  have all : (takenIn b.key t.events).flatten = joinedIn b.key t.events :=
    rest.sound.inLine.flatten_takenIn fun c hc same =>
      (rest.idle_of_quiescent quiescent hc (same ▸ kept)).2.1
  have line : (takenIn b.key s.events).flatten ++ b.pending = joinedIn b.key s.events :=
    h.sound.inLine.line b.line (Multiset.mem_map_of_mem Bucket.line hb)
  rw [events, takenIn_append, joinedIn_append, ← line, List.flatten_append,
    List.append_assoc] at all
  refine ⟨takenIn b.key news, by rw [events, takenIn_append], joinedIn b.key news, ?_⟩
  exact (List.append_cancel_left all).symm

end ReachableDropping

/-- Where callers may give flushes up, a bucket is in flight exactly while there is a cycle of it
or after its cycle was dropped before it started, and never both. A bucket whose cycle was not
dropped is sent: the machine comes to rest, and by then all that was pending in the bucket was
taken, in order. From a bucket whose cycle was dropped nothing is taken any more, whatever
happens. -/
theorem ReachableDropping.left_behind_iff_dropped {setup : Setup} {lost : List BucketKey}
    {s : State} (h : ReachableDropping setup lost s) :
    (∀ b ∈ s.buckets,
        (b.inFlight = true ↔ s.cycleCount b.key = 1 ∨ b.key ∈ lost) ∧
        (b.inFlight = false → b.pending = [] ∧ b.held = []) ∧
        (b.key ∉ lost → ∀ t, Later setup s t → t.Quiescent →
          ∃ more, takenIn b.key t.events = takenIn b.key s.events ++ more ∧
            b.pending <+: more.flatten)) ∧
      (∃ t, Later setup s t ∧ t.Quiescent) ∧
      (∀ key, s.cycleCount key ≤ 1) ∧
      ∀ key ∈ lost, s.cycleCount key = 0 ∧
        (∃ b ∈ s.buckets, b.key = key ∧ b.inFlight = true ∧ b.pending ≠ []) ∧
        ∀ t, Relation.ReflTransGen (LooseTurn setup) s t →
          t.cycleCount key = 0 ∧ takenIn key t.events = takenIn key s.events := by
  refine ⟨fun b hb => ⟨h.inFlight_iff hb, h.sound.tokens.idle b hb, fun kept t later rest => ?_⟩,
    ⟨_, s.later_runUntil setup _, s.quiescent_runUntil setup⟩, fun key => ?_, fun key mem => ?_⟩
  · exact h.taken_at_rest later rest hb kept
  · have le := h.cycleCount_le key
    omega
  · obtain ⟨none, stays⟩ := h.of_lost mem
    refine ⟨none, stays, fun t later => ?_⟩
    obtain ⟨⟨more, after⟩, same⟩ := h.takenIn_eq mem later
    exact ⟨(after.of_lost (List.mem_append_left more mem)).1, same⟩

/-- Two new objects of different types, one permit, and a flush that is given up while the first
batch is out: the first bucket leaves flight, the second is left behind. -/
theorem second_type_left_behind :
    let setup : Setup :=
      { settings := { delayMs := 10, maxInstances := 1 }
        transport := .scripted { latency := 50 } }
    let records : List Record := [⟨{ model := ⟨"a", "as", "a"⟩ }, true, 0, none⟩,
      ⟨{ model := ⟨"b", "bs", "b"⟩ }, true, 0, none⟩]
    let s := ((setup.after records 0).flush.runSteps setup (fun _ => false) 3).abandonFlush 0
    (∀ b ∈ s.buckets, b.inFlight = true ↔ b.key = ⟨"b", false⟩) ∧ s.cycleCount ⟨"b", false⟩ = 0 ∧
      ∀ t, Relation.ReflTransGen (LooseTurn setup) s t →
        t.cycleCount ⟨"b", false⟩ = 0 ∧ takenIn ⟨"b", false⟩ t.events = [] := by
  intro setup records s
  have running : Reachable setup _ :=
    ((setup.reachable_after records 0).move (.flush _)).runSteps (fun _ => false) 3
  have dropped := running.dropping.drop 0
  have mem : (⟨"b", false⟩ : BucketKey) ∈ [] ++ ((State.runSteps setup (fun _ => false) 3
      (setup.after records 0).flush).unstartedOf 0).filterMap Job.cycle? := by decide +kernel
  obtain ⟨none, -, forever⟩ := dropped.left_behind_iff_dropped.2.2.2 _ mem
  refine ⟨by decide +kernel, none, fun t later => ?_⟩
  obtain ⟨still, same⟩ := forever t later
  exact ⟨still, same.trans (by decide +kernel)⟩

end Queue

end Writeback
