import Writeback.Proofs.Queue.Moves

/-!
# Permits and quiet periods

Every permit is free or in the hands of one task; no drain stands in line while a permit is free;
and while jobs are in the queue, some task will end the quiet period that the last of them began.
These three facts hold between any two steps of the queue. While a task runs, they hold with that
task counted in: it keeps its permit until it sleeps or gives the permit back.
-/

namespace Writeback.Queue

namespace Task

/-- Whether a task works under a permit. -/
def holdsPermit : Task → Bool
  | admitted _ | job _ _ => true
  | countdown _ | due _ | flush _ => false

/-- Whether a task ends the quiet period of a generation. -/
def endsQuiet (generation : Nat) : Task → Bool
  | countdown g | due g => g == generation
  | flush _ | admitted _ | job _ _ => false

theorem endsQuiet_of_holdsPermit {task : Task} (h : task.holdsPermit = true) (generation : Nat) :
    task.endsQuiet generation = false := by
  cases task <;> simp_all [holdsPermit, endsQuiet]

end Task

namespace State

/-- Permits, the line for them and quiet periods are in order, with the tasks that run counted
in. -/
structure Paced (permits : Nat) (running : List Task) (s : State) : Prop where
  permits : s.free + (running ++ s.tasks).countP Task.holdsPermit = permits
  greedy : s.waiting ≠ [] → s.free = 0
  timed : s.jobs ≠ [] → ∃ task ∈ running ++ s.tasks, task.endsQuiet s.generation = true

namespace Paced

variable {permits : Nat} {running : List Task} {s : State}

/-- The tasks matter, not where they stand. -/
theorem of_perm (h : Paced permits running s) {t : State} (hfree : t.free = s.free)
    (hwaiting : t.waiting = s.waiting) (hjobs : t.jobs = s.jobs)
    (hgeneration : t.generation = s.generation) {running' : List Task}
    (tasks : (running' ++ t.tasks).Perm (running ++ s.tasks)) : Paced permits running' t := by
  constructor
  · rw [hfree, tasks.countP_eq]
    exact h.permits
  · rw [hfree, hwaiting]
    exact h.greedy
  · rw [hjobs, hgeneration]
    intro some
    obtain ⟨task, mem, ends⟩ := h.timed some
    exact ⟨task, tasks.mem_iff.mpr mem, ends⟩

theorem timed_rest {task : Task} (h : Paced permits (task :: running) s)
    (holds : task.holdsPermit = true) (some : s.jobs ≠ []) :
    ∃ timer ∈ running ++ s.tasks, timer.endsQuiet s.generation = true := by
  obtain ⟨timer, mem, ends⟩ := h.timed some
  rcases List.mem_cons.mp mem with rfl | mem
  · rw [Task.endsQuiet_of_holdsPermit holds] at ends
    exact absurd ends (by simp)
  · exact ⟨timer, mem, ends⟩

theorem goOn {task task' : Task} (h : Paced permits (task :: running) s)
    (holds : task.holdsPermit = true) (holds' : task'.holdsPermit = true) :
    Paced permits (task' :: running) s where
  permits := by
    have before := h.permits
    simp only [List.cons_append, List.countP_cons, holds, holds'] at before ⊢
    exact before
  greedy := h.greedy
  timed some := by
    obtain ⟨timer, mem, ends⟩ := h.timed_rest holds some
    exact ⟨timer, List.mem_cons_of_mem _ mem, ends⟩

theorem spawn {task : Task} (h : Paced permits (task :: running) s) :
    Paced permits running (s.spawn task) := by
  apply h.of_perm (t := s.spawn task) rfl rfl rfl rfl
  simp only [tasks, State.spawn, List.append_assoc, List.cons_append]
  exact (List.perm_middle.append_left running).trans List.perm_middle

theorem sleep {task : Task} (h : Paced permits [task] s) (duration : Nat) :
    Paced permits [] (s.sleep duration task) := by
  apply h.of_perm (t := s.sleep duration task) rfl rfl rfl rfl
  simp only [tasks, State.sleep, List.nil_append, List.map_append, List.map_singleton,
    ← List.append_assoc, List.singleton_append]
  exact List.perm_append_singleton _ _

theorem sleepThen {task : Task} {goOn : State → State} {duration : Nat}
    (h : Paced permits [task] s) (next : Paced permits [] (goOn s)) :
    Paced permits [] (s.sleepThen duration task goOn) := by
  unfold State.sleepThen
  split
  · exact next
  · exact h.sleep duration

/-- A push brings the countdown of the quiet period that it begins. -/
theorem of_pushed {jobs : List Job} {t : State} (h : Paced permits running s)
    (pushed : Pushed s jobs t) : Paced permits running t where
  permits := by
    have none : (Pushed.countdowns s jobs).countP Task.holdsPermit = 0 := by
      simp [Pushed.countdowns, List.countP_eq_zero, Task.holdsPermit]
    rw [pushed.free, List.countP_append, pushed.tasks_perm.countP_eq, List.countP_append, none,
      Nat.zero_add, ← List.countP_append]
    exact h.permits
  greedy := by
    rw [pushed.waiting, pushed.free]
    exact h.greedy
  timed some := by
    rcases jobs.eq_nil_or_concat with rfl | ⟨early, last, rfl⟩
    · obtain ⟨timer, mem, ends⟩ := h.timed (by simpa [pushed.jobs] using some)
      refine ⟨timer, ?_, by simpa [pushed.generation] using ends⟩
      simpa [tasks, pushed.ready, pushed.sleeping] using mem
    · refine ⟨.countdown t.generation, ?_, by simp [Task.endsQuiet]⟩
      simp only [tasks, pushed.ready, pushed.generation, List.mem_append, List.mem_map]
      exact .inr (.inl (.inr ⟨_, List.mem_range'_1.mpr (by simp), rfl⟩))

/-- A permit given back is free, or the drain in front of the line has it. -/
theorem release {task : Task} (h : Paced permits (task :: running) s)
    (holds : task.holdsPermit = true) : Paced permits running s.release := by
  unfold State.release
  split
  · next empty =>
    refine ⟨?_, fun line => absurd empty line, h.timed_rest holds⟩
    have before := h.permits
    rw [List.cons_append, List.countP_cons, if_pos holds] at before
    change s.free + 1 + (running ++ s.tasks).countP _ = permits
    omega
  · next drain rest line =>
    have admitted : Paced permits (.admitted drain :: running) s := h.goOn holds rfl
    refine spawn ⟨admitted.permits, fun _ => h.greedy (by simp [line]), admitted.timed⟩

theorem startJobs (h : Paced permits running s) (id : Nat) (jobs : List Job) :
    Paced permits running (State.startJobs id jobs s) := by
  induction jobs generalizing s with
  | nil => exact h
  | cons job rest ih =>
    unfold State.startJobs
    split
    · next some =>
      refine ih ⟨?_, fun line => ?_, fun queued => ?_⟩
      · have before := h.permits
        simp only [State.spawn, tasks, List.countP_append, List.countP_singleton,
          Task.holdsPermit, if_true] at before ⊢
        omega
      · have none : s.free = 0 := h.greedy line
        omega
      · obtain ⟨timer, mem, ends⟩ := h.timed queued
        refine ⟨timer, ?_, ends⟩
        simp only [State.spawn, tasks, List.mem_append] at mem ⊢
        exact mem.imp_right (Or.imp_left .inl)
    · next none => exact ⟨h.permits, fun _ => Nat.eq_zero_of_not_pos none, h.timed⟩

/-- With the queue taken away, no quiet period is needed. -/
theorem drain (permits_eq : s.free + (running ++ s.tasks).countP Task.holdsPermit = permits)
    (greedy : s.waiting ≠ [] → s.free = 0) (id : Nat) : Paced permits running (State.drain id s) :=
  startJobs (s := { s with jobs := [] }) ⟨permits_eq, greedy, fun some => absurd rfl some⟩ id s.jobs

/-- A job that runs keeps its permit until it sleeps or ends. -/
theorem of_ran {id : Nat} {stage : Stage} {job : Job} {t : State}
    (h : Paced permits [.job id stage] s) (ran : Ran id job s t) : Paced permits [] t := by
  have counted (inFlight peak : Nat) :
      Paced permits [.job id stage] { s with inFlight := inFlight, peak := peak } :=
    ⟨h.permits, h.greedy, h.timed⟩
  cases ran with
  | sleeps inFlight peak duration next pushed =>
    exact (((counted inFlight peak).of_pushed pushed).goOn rfl rfl).sleep duration
  | ends inFlight peak pushed => exact ((counted inFlight peak).of_pushed pushed).release rfl

theorem noteStart (h : Paced permits running s) (stage : Stage) :
    Paced permits running (s.noteStart stage) := by
  cases stage <;> exact ⟨h.permits, h.greedy, h.timed⟩

/-- The end of a quiet period takes the queue, unless the queue has a later quiet period. -/
theorem endQuiet {generation : Nat} (h : Paced permits [.due generation] s) :
    Paced permits [] (s.endQuiet generation) := by
  have permits_eq : s.free + ([] ++ s.tasks).countP Task.holdsPermit = permits := by
    simpa [Task.holdsPermit] using h.permits
  unfold State.endQuiet
  split
  · exact drain (s := { s with drains := s.drains + 1 }) permits_eq h.greedy s.drains
  · next later =>
    refine ⟨permits_eq, h.greedy, ?_⟩
    intro some
    obtain ⟨timer, mem, ends⟩ := h.timed some
    rcases List.mem_cons.mp mem with rfl | mem
    · exact absurd (by simpa [Task.endsQuiet] using ends) (Ne.symm later)
    · exact ⟨timer, mem, ends⟩

theorem runTask {task : Task} (h : Paced permits [task] s) (setup : Setup) :
    Paced permits [] (s.runTask setup task) := by
  match task with
  | .countdown generation =>
    have due : Paced permits [.due generation] s := by
      refine ⟨h.permits, h.greedy, ?_⟩
      intro some
      simpa [Task.endsQuiet] using h.timed some
    exact due.sleepThen due.endQuiet
  | .due generation => exact h.endQuiet
  | .flush id =>
    have permits_eq : s.free + ([] ++ s.tasks).countP Task.holdsPermit = permits := by
      simpa [Task.holdsPermit] using h.permits
    exact drain (s := { s with generation := s.generation + 1 }) permits_eq h.greedy id
  | .admitted ⟨id, []⟩ => exact h.release rfl
  | .admitted ⟨id, job :: rest⟩ =>
    have admitted : Paced permits [.job id (.start job)] s := h.goOn rfl rfl
    exact admitted.spawn.startJobs id rest
  | .job id stage => exact (h.noteStart stage).of_ran (runStage_ran setup id stage s)

theorem wakeAt (h : Paced permits [] s) (time : Nat) : Paced permits [] (s.wakeAt time) :=
  h.of_perm (t := s.wakeAt time) rfl rfl rfl rfl (s.tasks_wakeAt_perm time)

theorem step? {setup : Setup} {t : State} (h : Paced permits [] s)
    (step : s.step? setup = some t) : Paced permits [] t := by
  unfold State.step? at step
  split at step
  · next task rest ready =>
    cases step
    refine runTask (s := { s with ready := rest }) ⟨?_, h.greedy, ?_⟩ setup
    · simpa [tasks, ready] using h.permits
    · simpa [tasks, ready] using h.timed
  · obtain ⟨time, -, rfl⟩ := Option.map_eq_some_iff.mp step
    exact h.wakeAt time

theorem move {setup : Setup} {t : State} (h : Paced permits [] s) (move : Move setup s t) :
    Paced permits [] t := by
  cases move with
  | create record => exact ⟨h.permits, h.greedy, h.timed⟩
  | enqueue object =>
    obtain ⟨jobs, pushed, -⟩ := Pushed.enqueue s object
    exact h.of_pushed pushed
  | flush =>
    exact drain (s := { s with drains := s.drains + 1, generation := s.generation + 1 }) h.permits
      h.greedy s.drains
  | flushLater =>
    refine spawn (s := { s with drains := s.drains + 1 }) ⟨?_, h.greedy, fun some => ?_⟩
    · simpa [tasks, Task.holdsPermit] using h.permits
    · simpa [tasks, Task.endsQuiet] using h.timed some
  | step _ step => exact h.step? step
  | wait time => exact ⟨h.permits, h.greedy, h.timed⟩

theorem turn {setup : Setup} {t : State} (h : Paced permits [] s) (turn : Turn setup s t) :
    Paced permits [] t := by
  cases turn with
  | move move => exact h.move move
  | reorder tasks perm =>
    exact h.of_perm (t := { s with ready := tasks }) rfl rfl rfl rfl (perm.append_right _)
  | elapse time => exact h.wakeAt time

end Paced

end State

/-- Permits and quiet periods are in order, however the runtime orders its tasks. -/
theorem ReachableInAnyOrder.paced {setup : Setup} {s : State} (h : ReachableInAnyOrder setup s) :
    State.Paced setup.settings.permits [] s :=
  h.induction ⟨rfl, fun some => absurd rfl some, fun some => absurd rfl some⟩
    fun _ _ _ turn ih => ih.turn turn

end Writeback.Queue
