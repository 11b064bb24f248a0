import Writeback.Proofs.Queue.Flight
import Writeback.Proofs.Queue.Moves

/-!
# Every pushed job is in one place

A job that was pushed is in the queue, with a drain, or started, and in one of these places only.
-/

namespace Writeback.Queue

namespace State

/-- How often a job was pushed that is in the queue, with a drain, or started. -/
def placed (s : State) (job : Job) : Nat :=
  s.jobs.count job + s.drained.count job + (s.starts.map Prod.snd).count job

variable {s t : State} {job : Job}

theorem placed_of_pushed {jobs : List Job} (pushed : Pushed s jobs t) :
    t.placed job = s.placed job + jobs.count job := by
  have idle : ((List.range' (s.generation + 1) jobs.length).map Task.countdown).flatMap
      Task.unstarted = [] := by
    rw [List.flatMap_map]
    exact List.flatMap_eq_nil_iff.mpr fun _ _ => rfl
  simp only [placed, drained, tasks, pushed.jobs, pushed.waiting, pushed.ready, pushed.sleeping,
    pushed.starts, List.flatMap_append, List.count_append, idle, List.count_nil]
  omega

theorem placed_spawn (task : Task) :
    (s.spawn task).placed job = s.placed job + task.unstarted.count job := by
  simp only [placed, drained, tasks, spawn, List.flatMap_append, List.count_append,
    List.flatMap_singleton]
  omega

theorem placed_sleep (duration : Nat) (task : Task) :
    (s.sleep duration task).placed job = s.placed job + task.unstarted.count job := by
  simp only [placed, drained, tasks, sleep, List.flatMap_append, List.count_append, List.map_append,
    List.map_singleton, List.flatMap_singleton]
  omega

theorem placed_pop {task : Task} {rest : List Task} (ready : s.ready = task :: rest) :
    s.placed job = (s.pop rest).placed job + task.unstarted.count job := by
  simp only [placed, drained, tasks, pop, ready, List.flatMap_append, List.flatMap_cons,
    List.count_append]
  omega

theorem placed_release : s.release.placed job = s.placed job := by
  unfold release
  split
  · rfl
  · next drain rest line =>
    rw [placed_spawn]
    simp only [placed, drained, tasks, line, List.flatMap_append, List.flatMap_cons,
      List.count_append, Task.unstarted]
    omega

theorem placed_startJobs (id : Nat) (jobs : List Job) :
    (startJobs id jobs s).placed job = s.placed job + jobs.count job := by
  have standing (left : List Job) : (inLine id left).flatMap Drain.jobs = left := by
    cases left <;> simp [inLine]
  have starting (taken : List Job) :
      (taken.map fun job => Task.job id (.start job)).flatMap Task.unstarted = taken := by
    rw [List.flatMap_map]
    exact List.flatMap_singleton' taken
  have all := congrArg (List.count job) (List.take_append_drop s.free jobs)
  rw [List.count_append] at all
  rw [startJobs_eq]
  simp only [placed, drained, tasks, List.flatMap_append, List.count_append, standing, starting]
  omega

theorem placed_drain (id : Nat) : (drain id s).placed job = s.placed job := by
  unfold drain
  rw [placed_startJobs]
  simp only [placed, drained, tasks, List.count_nil]
  omega

theorem placed_wakeAt (time : Nat) : (s.wakeAt time).placed job = s.placed job := by
  have drained : (s.wakeAt time).drained.Perm s.drained :=
    ((s.tasks_wakeAt_perm time).flatMap_right Task.unstarted).append_left _
  rw [placed, drained.count_eq]
  rfl

theorem placed_noteStart (stage : Stage) :
    (s.noteStart stage).placed job = s.placed job + stage.starting?.toList.count job := by
  cases stage <;>
    simp [placed, drained, tasks, noteStart, onLedger, Event.started?, Stage.starting?,
      Nat.add_assoc]

/-- Each job was pushed as often as it is placed. -/
def Placed (s : State) : Prop := ∀ job, s.placed job = (s.pushes.map Prod.snd).count job

namespace Placed

theorem of_eq (h : Placed s) (placed : ∀ job, t.placed job = s.placed job)
    (pushes : t.pushes = s.pushes) : Placed t := by
  intro job
  rw [placed, pushes]
  exact h job

theorem of_pushed {jobs : List Job} (h : Placed s) (pushed : Pushed s jobs t) : Placed t := by
  intro job
  rw [placed_of_pushed pushed, pushed.pushes, List.map_append, List.count_append, List.map_map,
    show Prod.snd ∘ (fun job : Job => (s.clock, job)) = id from rfl, List.map_id, h job]

theorem of_ran {id : Nat} {job : Job} (h : Placed s) (ran : Ran id job s t) : Placed t := by
  have counted (inFlight peak : Nat) : Placed { s with inFlight := inFlight, peak := peak } := h
  cases ran with
  | sleeps inFlight peak duration next pushed _ _ started =>
    have none : (Task.job id next).unstarted = [] := by
      cases next <;> simp_all [Stage.starting?, Task.unstarted]
    refine ((counted inFlight peak).of_pushed pushed).of_eq (fun job => ?_) rfl
    rw [placed_sleep, none, List.count_nil, Nat.add_zero]
  | ends inFlight peak pushed =>
    exact ((counted inFlight peak).of_pushed pushed).of_eq (fun _ => placed_release)
      (congrArg Ledger.pushes (release_toLedger _))

theorem effect {setup : Setup} (h : Placed s) (effect : Effect setup s t) : Placed t := by
  -- A task without jobs that have not started.
  have popped {task : Task} {rest : List Task} (ready : s.ready = task :: rest)
      (none : task.unstarted = []) : Placed (s.pop rest) := by
    refine h.of_eq (fun job => ?_) rfl
    rw [placed_pop ready, none, List.count_nil, Nat.add_zero]
  cases effect with
  | pushed pushed => exact h.of_pushed pushed
  | passed time => exact h.of_eq (fun _ => rfl) rfl
  | woke time => exact h.of_eq (fun _ => placed_wakeAt time) rfl
  | flushed => exact h.of_eq (fun _ => placed_drain _) (congrArg Ledger.pushes (drain_toLedger _ _))
  | flushesLater => exact h.of_eq (fun _ => placed_spawn _) rfl
  | counts generation ready =>
    exact (popped ready rfl).of_eq (fun _ => placed_sleep _ _) rfl
  | ended generation ready timer =>
    have before := popped ready (by rcases timer with rfl | ⟨rfl, -⟩ <;> rfl)
    unfold endQuiet
    split
    · exact before.of_eq (fun _ => placed_drain _) (congrArg Ledger.pushes (drain_toLedger _ _))
    · exact before
  | flushes id ready =>
    exact (popped ready rfl).of_eq (fun _ => placed_drain _)
      (congrArg Ledger.pushes (drain_toLedger _ _))
  | returned id ready =>
    exact (popped ready rfl).of_eq (fun _ => placed_release)
      (congrArg Ledger.pushes (release_toLedger _))
  | admitted id first jobs ready =>
    refine h.of_eq (fun job => ?_) (by rw [startJobs_eq]; rfl)
    rw [placed_pop ready, placed_startJobs, placed_spawn]
    simp only [Task.unstarted, List.count_cons, List.count_nil]
    omega
  | ran id stage ready ran =>
    refine Placed.of_ran (h.of_eq (fun job => ?_) ?_) ran
    · rw [placed_pop ready, placed_noteStart]
      cases stage <;> rfl
    · simp [pop]

theorem turn {setup : Setup} (h : Placed s) (turn : Turn setup s t) : Placed t := by
  cases turn with
  | move move => exact h.effect move.effect
  | reorder tasks perm =>
    refine h.of_eq (fun job => ?_) rfl
    have drained : ({ s with ready := tasks } : State).drained.Perm s.drained :=
      ((perm.append_right _).flatMap_right Task.unstarted).append_left _
    rw [placed, drained.count_eq]
    rfl
  | elapse time => exact h.of_eq (fun _ => placed_wakeAt time) rfl

end Placed

end State

/-- The jobs that were pushed are those in the queue, those with drains and those that were
started. -/
theorem ReachableInAnyOrder.pushes_perm {setup : Setup} {s : State}
    (h : ReachableInAnyOrder setup s) :
    (s.pushes.map Prod.snd).Perm (s.jobs ++ s.drained ++ s.starts.map Prod.snd) := by
  have placed : State.Placed s := h.induction (fun _ => rfl) fun _ _ _ turn ih => ih.turn turn
  rw [List.perm_iff_count]
  intro job
  rw [← placed job, List.count_append, List.count_append]
  rfl

end Writeback.Queue
