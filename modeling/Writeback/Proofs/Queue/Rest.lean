import Mathlib.Algebra.Order.BigOperators.Group.List
import Mathlib.Algebra.Order.Ring.Nat
import Writeback.Proofs.Queue.Simulation

/-!
# The machine comes to rest

Every step of the machine leaves less work than it found, whatever the state it is taken in. So
the machine that is let run, with nothing more asked of it, comes to rest after no more steps than
there is work, and `runUntil`, which allows itself so many, never stops short.
-/

namespace Writeback.Queue

/-- What one entry loses, the whole list loses. -/
theorem sum_map_add_le {α : Type} {less weight : α → Nat} (h : ∀ x, less x ≤ weight x) {x : α}
    {l : List α} (mem : x ∈ l) {lost : Nat} (loses : less x + lost ≤ weight x) :
    (l.map less).sum + lost ≤ (l.map weight).sum := by
  obtain ⟨before, after, rfl⟩ := List.append_of_mem mem
  have early := List.sum_le_sum fun x (_ : x ∈ before) => h x
  have late := List.sum_le_sum fun x (_ : x ∈ after) => h x
  simp only [List.map_append, List.map_cons, List.sum_append, List.sum_cons]
  omega

namespace State

variable {setup : Setup} {s t : State} {key : BucketKey}

/-- The work is a sum for each part of the queue. -/
theorem work_eq (s : State) : s.work = 4 * s.jobs.length +
    (s.buckets.map fun b => 10 * b.pending.length).sum +
    (s.waiting.map fun d => 1 + 4 * d.jobs.length).sum +
    (s.ready.map Task.work).sum +
    (s.sleeping.map fun p => 1 + p.task.work).sum :=
  rfl

@[simp] theorem work_onLedger (s : State) (f : Ledger → Ledger) : (s.onLedger f).work = s.work :=
  rfl

@[simp] theorem work_spawn (s : State) (task : Task) :
    (s.spawn task).work = s.work + task.work := by
  simp only [work_eq, spawn, List.map_append, List.map_singleton, List.sum_append,
    List.sum_singleton]
  omega

@[simp] theorem work_sleep (s : State) (duration : Nat) (task : Task) :
    (s.sleep duration task).work = s.work + (1 + task.work) := by
  simp only [work_eq, sleep, List.map_append, List.map_singleton, List.sum_append,
    List.sum_singleton]
  omega

theorem work_sleepThen_le {duration bound : Nat} {task : Task} {goOn : State → State}
    (asleep : s.work + (1 + task.work) ≤ bound) (next : (goOn s).work ≤ bound) :
    (s.sleepThen duration task goOn).work ≤ bound := by
  unfold sleepThen
  split
  · exact next
  · rwa [work_sleep]

/-- A job and the countdown of its quiet period. -/
@[simp] theorem work_pushJob (s : State) (job : Job) : (s.pushJob job).work = s.work + 8 := by
  rw [pushJob, work_spawn, work_onLedger]
  simp only [work_eq, List.length_append, List.length_singleton, Task.work]
  omega

@[simp] theorem work_release (s : State) : s.release.work = s.work := by
  unfold release
  split
  · rfl
  · next drain rest line =>
    rw [work_spawn]
    simp only [work_eq, line, List.map_cons, List.sum_cons, Task.work]
    omega

/-- Jobs that stand in line together weigh one more than apart. -/
theorem work_startJobs_le (id : Nat) (jobs : List Job) (s : State) :
    (startJobs id jobs s).work ≤ s.work + (1 + 4 * jobs.length) := by
  induction jobs generalizing s with
  | nil => exact Nat.le_add_right _ _
  | cons job rest ih =>
    unfold startJobs
    split
    · have started : (({ s with free := s.free - 1 } : State).spawn (.job id (.start job))).work =
          s.work + 3 := work_spawn _ _
      have others := ih (({ s with free := s.free - 1 } : State).spawn (.job id (.start job)))
      rw [List.length_cons]
      omega
    · simp only [work_eq, List.map_append, List.map_singleton, List.sum_append, List.sum_singleton]
      omega

theorem work_drain_le (id : Nat) (s : State) : (drain id s).work ≤ s.work + 1 := by
  have started := work_startJobs_le id s.jobs { s with jobs := [] }
  have taken : ({ s with jobs := [] } : State).work + 4 * s.jobs.length = s.work := by
    simp only [work_eq, List.length_nil]
    omega
  unfold drain
  omega

theorem work_endQuiet_le (s : State) (generation : Nat) :
    (s.endQuiet generation).work ≤ s.work + 1 := by
  unfold endQuiet
  split
  · exact work_drain_le _ _
  · exact Nat.le_add_right _ _

/-- The work left in the saves that wait in buckets. -/
def pendingWork (s : State) : Nat := (s.buckets.map fun b => 10 * b.pending.length).sum

theorem work_modifyBucket (s : State) (key : BucketKey) (f : Bucket → Bucket) :
    (s.modifyBucket key f).work + s.pendingWork =
      s.work + (s.modifyBucket key f).pendingWork := by
  simp only [work_eq, pendingWork, modifyBucket]
  omega

theorem work_modifyBucket_of_pending {f : Bucket → Bucket} (same : ∀ b, (f b).pending = b.pending)
    (s : State) (key : BucketKey) : (s.modifyBucket key f).work = s.work := by
  have kept : (s.modifyBucket key f).pendingWork = s.pendingWork := by
    rw [pendingWork, modifyBucket, List.map_map]
    refine congrArg List.sum (List.map_congr_left fun b _ => ?_)
    dsimp only [Function.comp_apply]
    split
    · rw [same]
    · rfl
  have both := s.work_modifyBucket key f
  omega

/-- A batch takes its objects out of the bucket. -/
theorem work_afterBatch_le {b : Bucket} (found : s.bucket? key = some b) (limit : Nat) :
    (s.modifyBucket key (·.afterBatch limit)).work + 10 * (b.nextBatch limit).length ≤ s.work := by
  have mem : b ∈ s.buckets := List.mem_of_find?_eq_some found
  have same : b.key = key := key_of_bucket? found
  have each (c : Bucket) : 10 * (if c.key = key then c.afterBatch limit else c).pending.length ≤
      10 * c.pending.length := by
    split
    · simp only [Bucket.afterBatch, List.length_drop]
      omega
    · exact Nat.le_refl _
  have here : 10 * (if b.key = key then b.afterBatch limit else b).pending.length +
      10 * (b.nextBatch limit).length ≤ 10 * b.pending.length := by
    simp only [same, if_true, Bucket.afterBatch, Bucket.nextBatch, List.length_drop,
      List.length_take]
    omega
  have less : (s.modifyBucket key (·.afterBatch limit)).pendingWork +
      10 * (b.nextBatch limit).length ≤ s.pendingWork := by
    rw [pendingWork, modifyBucket, List.map_map]
    exact sum_map_add_le each mem here
  have both := s.work_modifyBucket key (·.afterBatch limit)
  omega

theorem bucket?_modifyBucket {f : Bucket → Bucket} (keeps : ∀ b, (f b).key = b.key) (s : State)
    (key : BucketKey) : (s.modifyBucket key f).bucket? key = (s.bucket? key).map f := by
  have looks : ((fun b : Bucket => b.key == key) ∘ fun b => if b.key = key then f b else b) =
      fun b => b.key == key := by
    funext b
    by_cases same : b.key = key <;> simp [same, keeps]
  rw [bucket?, modifyBucket, List.find?_map, looks]
  apply Option.map_congr
  intro b found
  exact if_pos (key_of_bucket? found)

theorem work_closeCycle_le (s : State) (key : BucketKey) (response : Option HeldResponse) :
    (s.closeCycle key response).work ≤ s.work + 8 := by
  unfold closeCycle
  split
  · exact Nat.le_add_right _ _
  · dsimp only
    split
    · rw [work_onLedger, work_modifyBucket_of_pending]
      · exact Nat.le_add_right _ _
      · intro b
        rfl
    · rw [work_pushJob, work_modifyBucket_of_pending]
      intro b
      rfl

/-- A cycle that ends with nothing pending pushes no other. -/
theorem work_closeCycle_of_pending_eq_nil {b : Bucket} (found : s.bucket? key = some b)
    (empty : b.pending = []) (response : Option HeldResponse) :
    (s.closeCycle key response).work = s.work := by
  unfold closeCycle
  simp only [found, empty, List.isEmpty_nil, if_true, work_onLedger]
  apply work_modifyBucket_of_pending
  intro b
  rfl

theorem work_abortCycle_le (s : State) (key : BucketKey) (batch : List Save) :
    (s.abortCycle key batch).work ≤ s.work + 8 := by
  unfold abortCycle
  rw [work_onLedger]
  split
  · exact Nat.le_add_right _ _
  · split
    · rw [work_onLedger, work_modifyBucket_of_pending]
      · exact Nat.le_add_right _ _
      · intro b
        rfl
    · exact (work_pushJob _ _).le

theorem work_arrive_le (setup : Setup) (cycle : Cycle) (s : State) :
    (s.arrive setup cycle).work ≤ s.work + 8 := by
  unfold arrive
  dsimp only
  split
  · exact work_abortCycle_le _ _ _
  · exact work_closeCycle_le _ _ _
  · split <;> exact work_closeCycle_le _ _ _

theorem work_depart_le (setup : Setup) (id : Nat) (cycle : Cycle) (s : State) :
    (s.depart setup id cycle).work ≤ s.work + 10 := by
  unfold depart
  dsimp only
  generalize hr : ({ s with inFlight := s.inFlight + 1, peak := max s.peak (s.inFlight + 1) } :
    State).onLedger (·.note (.posted cycle.key cycle.batch cycle.request)) = r
  have same : r.work = s.work := by subst hr; rfl
  have arrived := work_arrive_le setup cycle r
  apply work_sleepThen_le
  · rw [same]
    exact Nat.le_refl _
  · rw [work_release]
    omega

/-- A cycle that starts takes a batch, whose objects weigh more than what the cycle may still do,
unless its bucket is empty. -/
theorem work_startCycle_le (setup : Setup) (id : Nat) (key : BucketKey) (s : State) :
    (s.startCycle setup id key).work ≤ s.work + 2 := by
  unfold startCycle
  cases found : s.bucket? key with
  | none => simp
  | some b =>
    have taken := work_afterBatch_le found setup.settings.batchLimit
    have left : (s.modifyBucket key (·.afterBatch setup.settings.batchLimit)).bucket? key =
        some (b.afterBatch setup.settings.batchLimit) := by
      rw [bucket?_modifyBucket, found, Option.map_some]
      intro c
      rfl
    dsimp only
    generalize hr : (s.modifyBucket key (·.afterBatch setup.settings.batchLimit)).onLedger
      (·.note (.taken key (b.nextBatch setup.settings.batchLimit))) = r
    have same : r.work = (s.modifyBucket key (·.afterBatch setup.settings.batchLimit)).work := by
      subst hr
      rfl
    have there : r.bucket? key = some (b.afterBatch setup.settings.batchLimit) := by
      subst hr
      exact left
    by_cases none : b.nextBatch setup.settings.batchLimit = []
    · have nothing : b.pending = [] := not_imp_not.mp (nextBatch_ne_nil setup.settings) none
      have empty : (b.afterBatch setup.settings.batchLimit).pending = [] := by
        simp [Bucket.afterBatch, nothing]
      have closed := work_closeCycle_of_pending_eq_nil there empty .none
      simp only [none, List.isEmpty_nil, if_true, work_release]
      omega
    · have pos := List.length_pos_iff.mpr none
      simp only [List.isEmpty_iff, none, if_false]
      split
      · have aborted := work_abortCycle_le r key (b.nextBatch setup.settings.batchLimit)
        rw [work_release]
        omega
      · apply work_sleepThen_le
        · simp only [Task.work, Stage.work]
          omega
        · refine (work_depart_le setup id _ r).trans ?_
          omega

theorem work_startUpdate_le (setup : Setup) (id : Nat) (save : Save) (s : State) :
    (s.startUpdate setup id save).work ≤ s.work + 2 := by
  unfold startUpdate
  apply work_sleepThen_le
  · exact Nat.le_refl _
  · rw [work_release]
    exact Nat.le_add_right _ 2

theorem work_runStage_lt (setup : Setup) (id : Nat) (stage : Stage) (s : State) :
    (s.runStage setup id stage).work < s.work + stage.work := by
  cases stage with
  | start job =>
    cases job with
    | cycle key => exact Nat.lt_succ_of_le (work_startCycle_le setup id key _)
    | update save => exact Nat.lt_succ_of_le (work_startUpdate_le setup id save _)
  | depart cycle => exact Nat.lt_succ_of_le (work_depart_le setup id cycle s)
  | arrive cycle =>
    rw [runStage, work_release]
    exact Nat.lt_succ_of_le (work_arrive_le setup cycle s)
  | saved save timer =>
    rw [runStage, work_release]
    exact Nat.lt_succ_of_le (Nat.le_refl s.work)

theorem work_runTask_lt (setup : Setup) (task : Task) (s : State) :
    (s.runTask setup task).work < s.work + task.work := by
  match task with
  | .countdown generation =>
    apply Nat.lt_succ_of_le
    apply work_sleepThen_le
    · exact Nat.le_refl _
    · exact Nat.le_trans (work_endQuiet_le s generation) (Nat.add_le_add_left (by decide) _)
  | .due generation => exact Nat.lt_succ_of_le (work_endQuiet_le s generation)
  | .flush id =>
    exact Nat.lt_succ_of_le (work_drain_le id { s with generation := s.generation + 1 })
  | .admitted ⟨id, []⟩ => simp [runTask, Task.work]
  | .admitted ⟨id, job :: rest⟩ =>
    have started := work_startJobs_le id rest (s.spawn (.job id (.start job)))
    simp only [work_spawn, Task.work, Stage.work] at started
    simp only [runTask, Task.work, List.length_cons]
    omega
  | .job id stage => exact work_runStage_lt setup id stage s

/-- Every sleeper that wakes sheds the weight of its sleep. -/
theorem work_wakeAt (s : State) (time : Nat) :
    (s.wakeAt time).work + (s.sleeping.filter fun p => p.due ≤ time).length = s.work := by
  have parts := ((List.filter_append_perm (fun p => p.due ≤ time) s.sleeping).map
    fun p : Sleeper => 1 + p.task.work).sum_eq
  rw [List.map_append, List.sum_append, List.sum_map_add, List.map_const', List.sum_replicate,
    Nat.nsmul_eq_mul, Nat.mul_one] at parts
  simp only [work_eq, wakeAt, List.map_append, List.map_map, Function.comp_def, List.sum_append]
  omega

/-- Every step leaves less work. -/
theorem work_step?_lt (step : s.step? setup = some t) : t.work < s.work := by
  unfold step? at step
  split at step
  · next task rest ready =>
    cases step
    have ran := work_runTask_lt setup task { s with ready := rest }
    have whole : s.work = ({ s with ready := rest } : State).work + task.work := by
      simp only [work_eq, ready, List.map_cons, List.sum_cons]
      omega
    rwa [whole]
  · obtain ⟨time, next, rfl⟩ := Option.map_eq_some_iff.mp step
    obtain ⟨p, asleep, due⟩ := List.mem_map.mp (List.min?_eq_some_iff.mp next).1
    have wakes : p ∈ s.sleeping.filter fun p => p.due ≤ time :=
      List.mem_filter.mpr ⟨asleep, by simp [due]⟩
    have some := List.length_pos_of_mem wakes
    have shed := s.work_wakeAt time
    omega

/-- As many steps as there is work bring the machine to where it was to stop, or to rest. -/
theorem finished_or_quiescent_runSteps (setup : Setup) (finished : State → Bool) {fuel : Nat}
    (s : State) (enough : s.work ≤ fuel) :
    finished (s.runSteps setup finished fuel) = true ∨
      (s.runSteps setup finished fuel).Quiescent := by
  induction fuel generalizing s with
  | zero =>
    right
    rw [runSteps]
    cases step : s.step? setup with
    | none => exact step?_eq_none_iff.mp step
    | some t => exact absurd (work_step?_lt step) (by omega)
  | succ fuel ih =>
    unfold runSteps
    split
    · next done => exact .inl done
    · cases step : s.step? setup with
      | none => exact .inr (step?_eq_none_iff.mp step)
      | some t =>
        have less := work_step?_lt step
        exact ih t (by omega)

/-- The machine that is let run comes to rest. -/
theorem quiescent_runUntil (setup : Setup) (s : State) :
    (s.runUntil setup fun _ => false).Quiescent :=
  (s.finished_or_quiescent_runSteps setup (fun _ => false) (Nat.le_refl _)).resolve_left (by simp)

theorem later_runUntil (setup : Setup) (s : State) (finished : State → Bool) :
    Later setup s (s.runUntil setup finished) :=
  Relation.ReflTransGen.mono (fun _ _ move => Turn.move move) _ _
    (s.moves_runSteps setup finished _)

end State

end Writeback.Queue
