import Writeback.Proofs.Queue.Outstanding
import Writeback.Proofs.Queue.Schedule

/-!
# The throttle

A job runs from the moment it has a permit until it gives the permit back, and a drain that was
given a permit has it for the job in front. So free permits and running jobs together are always as
many as the settings allow, and since every request belongs to a running job, no more requests are
out at any time.

The throttle holds no job back without need. Only tasks that can run, and drains in line, carry
jobs that have not started, and no drain stands in line while a permit is free. So when a job that a
drain took has not started and no task can run, all permits are taken.
-/

namespace Writeback

namespace Queue

namespace Task

/-- The job that runs under the permit of a task. A drain has its permit for the job in front. -/
def permitted : Task → List Job
  | .admitted drain => drain.jobs.take 1
  | .job _ stage => [stage.job]
  | .countdown _ | .due _ | .flush _ => []

theorem permitted_of_not_holdsPermit {task : Task} (h : task.holdsPermit = false) :
    task.permitted = [] := by
  cases task <;> simp_all [holdsPermit, permitted]

theorem length_permitted_le (task : Task) : task.permitted.length ≤ 1 := by
  cases task <;> simp [permitted]

theorem holdsPermit_of_isSome_cycle? {task : Task} (h : task.cycle?.isSome = true) :
    task.holdsPermit = true := by
  cases task <;> simp_all [cycle?, holdsPermit]

end Task

/-- A task for each permit, and a job for each task. -/
theorem length_flatMap_permitted {tasks : List Task}
    (carries : ∀ task ∈ tasks, task.holdsPermit = true → task.permitted ≠ []) :
    (tasks.flatMap Task.permitted).length = tasks.countP Task.holdsPermit := by
  induction tasks with
  | nil => rfl
  | cons task tasks ih =>
    rw [List.flatMap_cons, List.length_append, List.countP_cons,
      ih fun task mem => carries task (List.mem_cons_of_mem _ mem), Nat.add_comm]
    cases holds : task.holdsPermit with
    | false => simp [Task.permitted_of_not_holdsPermit holds]
    | true =>
      have some := List.length_pos_of_ne_nil (carries task List.mem_cons_self holds)
      have one := task.length_permitted_le
      simp only [if_true]
      omega

namespace State

/-- The jobs that run, each under a permit. -/
def runningJobs (s : State) : List Job := s.tasks.flatMap Task.permitted

/-- Every permit is for a job, sleepers carry no job that has not started, and the requests that
are out are counted. The tasks that run are counted in. -/
structure Throttled (limit : Nat) (running : List Task) (s : State) : Prop
    extends Paced limit running s where
  line : ∀ drain ∈ s.waiting, drain.jobs ≠ []
  carries : ∀ task ∈ running ++ s.tasks, task.holdsPermit = true → task.permitted ≠ []
  asleep : ∀ p ∈ s.sleeping, p.task.unstarted = []
  counted : s.inFlight = (running ++ s.tasks).countP Task.isSent
  bounded : s.peak ≤ limit

namespace Throttled

variable {limit : Nat} {running : List Task} {s t : State}

/-- The tasks matter, not where they stand, and tasks without a permit may be added. -/
theorem of_perm (h : Throttled limit running s) {running' : List Task} (idle : List Task)
    (paced : Paced limit running' t) (waiting : t.waiting = s.waiting)
    (asleep : ∀ p ∈ t.sleeping, p.task.unstarted = []) (inFlight : t.inFlight = s.inFlight)
    (peak : t.peak = s.peak) (free : ∀ task ∈ idle, task.holdsPermit = false)
    (tasks : (running' ++ t.tasks).Perm (idle ++ (running ++ s.tasks))) :
    Throttled limit running' t where
  toPaced := paced
  line := waiting ▸ h.line
  carries := by
    intro task mem holds
    rcases List.mem_append.mp (tasks.mem_iff.mp mem) with idle | old
    · exact absurd holds (by simp [free task idle])
    · exact h.carries task old holds
  asleep := asleep
  counted := by
    have none : idle.countP Task.isSent = 0 := by
      rw [List.countP_eq_zero]
      intro task mem sent
      have holds := Task.holdsPermit_of_isSome_cycle? (Task.isSome_cycle?_of_isSent sent)
      exact absurd holds (by simp [free task mem])
    rw [inFlight, tasks.countP_eq, List.countP_append, none, Nat.zero_add]
    exact h.counted
  bounded := peak ▸ h.bounded

theorem onLedger (h : Throttled limit running s) (f : Ledger → Ledger) :
    Throttled limit running (s.onLedger f) :=
  ⟨⟨h.permits, h.greedy, h.timed⟩, h.line, h.carries, h.asleep, h.counted, h.bounded⟩

theorem of_pushed {jobs : List Job} (h : Throttled limit running s) (pushed : Pushed s jobs t) :
    Throttled limit running t := by
  refine h.of_perm (Pushed.countdowns s jobs) (h.toPaced.of_pushed pushed) pushed.waiting
    (pushed.sleeping ▸ h.asleep) pushed.inFlight pushed.peak ?_ ?_
  · intro task mem
    obtain ⟨generation, -, rfl⟩ := List.mem_map.mp mem
    rfl
  · refine (pushed.tasks_perm.append_left _).trans ?_
    exact List.perm_append_comm_assoc _ _ _

theorem goOn {task task' : Task} (h : Throttled limit [task] s) (holds : task.holdsPermit = true)
    (holds' : task'.holdsPermit = true) (sent : task'.isSent = task.isSent)
    (carries : task'.permitted ≠ []) : Throttled limit [task'] s where
  toPaced := h.toPaced.goOn holds holds'
  line := h.line
  carries := by
    intro other mem
    rcases List.mem_cons.mp mem with rfl | mem
    · exact fun _ => carries
    · exact h.carries other (List.mem_cons_of_mem _ mem)
  asleep := h.asleep
  counted := by
    rw [h.counted, List.singleton_append, List.singleton_append, List.countP_cons, List.countP_cons,
      sent]
  bounded := h.bounded

theorem spawn {task : Task} (h : Throttled limit [task] s) : Throttled limit [] (s.spawn task) := by
  refine h.of_perm [] h.toPaced.spawn rfl h.asleep rfl rfl (by simp) ?_
  simp only [tasks, State.spawn, List.nil_append, List.append_assoc, List.singleton_append]
  exact List.perm_middle

theorem sleep {task : Task} (h : Throttled limit [task] s) (duration : Nat)
    (started : task.unstarted = []) : Throttled limit [] (s.sleep duration task) := by
  refine h.of_perm [] (h.toPaced.sleep duration) rfl ?_ rfl rfl (by simp) ?_
  · intro p mem
    rcases List.mem_append.mp mem with old | new
    · exact h.asleep p old
    · rw [List.mem_singleton.mp new]
      exact started
  · simp only [tasks, State.sleep, List.nil_append, List.map_append, List.map_singleton,
      ← List.append_assoc, List.singleton_append]
    exact List.perm_append_singleton _ _

theorem sleepThen {task : Task} {goOn : State → State} {duration : Nat}
    (h : Throttled limit [task] s) (started : task.unstarted = [])
    (next : Throttled limit [] (goOn s)) : Throttled limit [] (s.sleepThen duration task goOn) := by
  unfold State.sleepThen
  split
  · exact next
  · exact h.sleep duration started

theorem release {task : Task} (h : Throttled limit [task] s) (holds : task.holdsPermit = true)
    (unsent : task.isSent = false) : Throttled limit [] s.release := by
  have paced := h.toPaced.release holds
  cases line : s.waiting with
  | nil =>
    have back : s.release = { s with free := s.free + 1 } := by simp [State.release, line]
    rw [back] at paced ⊢
    refine ⟨paced, h.line, fun other mem => h.carries other (List.mem_cons_of_mem _ mem), h.asleep,
      ?_, h.bounded⟩
    have counted := h.counted
    rw [List.singleton_append, List.countP_cons, unsent] at counted
    exact counted
  | cons drain rest =>
    have onward : s.release = ({ s with waiting := rest } : State).spawn (.admitted drain) := by
      simp [State.release, line]
    have first : drain.jobs ≠ [] := h.line drain (line ▸ List.mem_cons_self)
    have admitted : Throttled limit [.admitted drain] s :=
      h.goOn holds rfl unsent.symm (by simpa [Task.permitted] using first)
    have greedy : rest ≠ [] → s.free = 0 := fun _ => h.greedy (by simp [line])
    rw [onward]
    exact spawn (s := { s with waiting := rest })
      ⟨⟨admitted.permits, greedy, admitted.timed⟩,
        fun other mem => h.line other (line ▸ List.mem_cons_of_mem _ mem), admitted.carries,
        h.asleep, admitted.counted, h.bounded⟩

theorem startJobs (h : Throttled limit running s) (id : Nat) (jobs : List Job) :
    Throttled limit running (State.startJobs id jobs s) := by
  induction jobs generalizing s with
  | nil => exact h
  | cons job rest ih =>
    have paced := h.toPaced.startJobs id [job]
    simp only [State.startJobs] at paced
    unfold State.startJobs
    split
    · next some =>
      rw [if_pos some] at paced
      refine ih ⟨paced, h.line, fun task mem holds => ?_, h.asleep, ?_, h.bounded⟩
      · simp only [State.spawn, tasks, List.mem_append, List.mem_singleton] at mem
        rcases mem with mem | (mem | rfl) | mem
        · exact h.carries task (List.mem_append_left _ mem) holds
        · exact h.carries task (by simp [tasks, mem]) holds
        · simp [Task.permitted]
        · exact h.carries task (List.mem_append_right _ (List.mem_append_right _ mem)) holds
      · have counted := h.counted
        simp only [State.spawn, tasks, List.countP_append, List.countP_singleton, Task.isSent,
          Bool.false_eq_true, if_false, Nat.add_zero] at counted ⊢
        exact counted
    · next none =>
      refine ⟨⟨h.permits, fun _ => Nat.eq_zero_of_not_pos none, h.timed⟩, ?_, h.carries, h.asleep,
        h.counted, h.bounded⟩
      intro drain mem
      rcases List.mem_append.mp mem with old | new
      · exact h.line drain old
      · rw [List.mem_singleton.mp new]
        exact List.cons_ne_nil _ _

/-- The answer to a request comes, and the job that waited for it is about to end. -/
theorem arrive {id : Nat} {cycle : Cycle} (h : Throttled limit [.job id (.arrive cycle)] s)
    (setup : Setup) : Throttled limit [.job id (.depart cycle)] (s.arrive setup cycle) := by
  have before : Paced limit [.job id (.depart cycle)] s := h.toPaced.goOn rfl rfl
  have answered : Throttled limit [.job id (.depart cycle)]
      { s with inFlight := s.inFlight - 1 } := by
    refine ⟨⟨before.permits, before.greedy, before.timed⟩, h.line, ?_, h.asleep, ?_, h.bounded⟩
    · intro task mem
      rcases List.mem_cons.mp mem with rfl | mem
      · exact fun _ => List.cons_ne_nil _ _
      · exact h.carries task (List.mem_cons_of_mem _ mem)
    · have counted := h.counted
      rw [List.singleton_append, List.countP_cons] at counted ⊢
      simp only [Task.isSent, if_true, Bool.false_eq_true, if_false] at counted ⊢
      rw [counted, Nat.add_sub_cancel]
      rfl
  obtain ⟨jobs, pushed, -⟩ := Pushed.arrive setup cycle s
  exact answered.of_pushed pushed

section Job

variable {id : Nat} {stage : Stage} (h : Throttled limit [.job id stage] s) (setup : Setup)
include h

theorem onward {stage' : Stage} (unsent : (Task.job id stage).isSent = false)
    (unsent' : (Task.job id stage').isSent = false) : Throttled limit [.job id stage'] s :=
  h.goOn rfl rfl (unsent'.trans unsent.symm) (List.cons_ne_nil _ _)

/-- While a job runs that has not sent its request, a permit is left over from the requests that
are out. -/
theorem inFlight_lt (unsent : (Task.job id stage).isSent = false) : s.inFlight < limit := by
  have sent : s.inFlight = s.tasks.countP Task.isSent := by
    have counted := h.counted
    rw [List.singleton_append, List.countP_cons, unsent] at counted
    exact counted
  have under : s.tasks.countP Task.isSent ≤ s.tasks.countP Task.holdsPermit := by
    apply List.countP_mono_left
    intro task _ sent
    exact Task.holdsPermit_of_isSome_cycle? (Task.isSome_cycle?_of_isSent sent)
  have permits := h.permits
  rw [List.singleton_append, List.countP_cons] at permits
  simp only [Task.holdsPermit, if_true] at permits
  omega

theorem depart (cycle : Cycle) (unsent : (Task.job id stage).isSent = false) :
    Throttled limit [] (s.depart setup id cycle) := by
  have room := h.inFlight_lt unsent
  have held : Paced limit [.job id (.arrive cycle)] s := h.toPaced.goOn rfl rfl
  have counted : Throttled limit [.job id (.arrive cycle)]
      ({ s with inFlight := s.inFlight + 1, peak := max s.peak (s.inFlight + 1) } : State) := by
    refine ⟨⟨held.permits, held.greedy, held.timed⟩, h.line, ?_, h.asleep, ?_, ?_⟩
    · intro task mem
      rcases List.mem_cons.mp mem with rfl | mem
      · exact fun _ => List.cons_ne_nil _ _
      · exact h.carries task (List.mem_cons_of_mem _ mem)
    · have counted := h.counted
      rw [List.singleton_append, List.countP_cons, unsent] at counted
      rw [List.singleton_append, List.countP_cons]
      exact congrArg (· + 1) counted
    · exact Nat.max_le.mpr ⟨h.bounded, room⟩
  have sent := counted.onLedger (·.note (.posted cycle.key cycle.batch cycle.request))
  unfold State.depart
  exact sent.sleepThen rfl ((sent.arrive setup).release rfl rfl)

theorem startCycle (key : BucketKey) (unsent : (Task.job id stage).isSent = false) :
    Throttled limit [] (s.startCycle setup id key) := by
  unfold State.startCycle
  split
  · exact h.release rfl unsent
  · next bucket _ =>
    have taken : Throttled limit [.job id stage]
        ((s.modifyBucket key (·.afterBatch setup.settings.batchLimit)).onLedger
          (·.note (.taken key (bucket.nextBatch setup.settings.batchLimit)))) :=
      (h.of_pushed (.modifyBucket s key _)).onLedger _
    dsimp only
    split
    · obtain ⟨jobs, closed, -⟩ := Pushed.closeCycle (State.onLedger _ _) key none
      exact (taken.of_pushed closed).release rfl unsent
    · split
      · obtain ⟨jobs, aborted, -⟩ := Pushed.abortCycle (State.onLedger _ _) key _
        exact (taken.of_pushed aborted).release rfl unsent
      · exact (taken.onward unsent rfl).sleepThen rfl (taken.depart setup _ unsent)

theorem finish (save : Save) (timer : Timer) (unsent : (Task.job id stage).isSent = false) :
    Throttled limit [] (s.finishUpdate setup save timer).release :=
  (h.of_pushed (.finishUpdate setup save timer s)).release rfl unsent

theorem startUpdate (save : Save) (unsent : (Task.job id stage).isSent = false) :
    Throttled limit [] (s.startUpdate setup id save) := by
  unfold State.startUpdate
  exact (h.onward unsent rfl).sleepThen rfl (h.finish setup save _ unsent)

theorem runStage : Throttled limit [] (s.runStage setup id stage) := by
  cases stage with
  | start job =>
    have started : Throttled limit [.job id (.start job)] (s.onLedger (·.note (.started job))) :=
      h.onLedger _
    cases job with
    | cycle key => exact started.startCycle setup key rfl
    | update save => exact started.startUpdate setup save rfl
  | depart cycle => exact h.depart setup cycle rfl
  | arrive cycle => exact (h.arrive setup).release rfl rfl
  | saved save timer => exact h.finish setup save timer rfl

end Job

/-- The tasks that began a drain or ended a quiet period hold no permit. -/
theorem drain (h : Throttled limit running s)
    (idle : ∀ task ∈ running, task.holdsPermit = false) (generation drains id : Nat) :
    Throttled limit []
      (State.drain id { s with generation := generation, drains := drains }) := by
  have permits : s.free + s.tasks.countP Task.holdsPermit = limit := by
    have before := h.permits
    rwa [List.countP_append, List.countP_eq_zero.mpr (by simpa using idle), Nat.zero_add] at before
  have counted : s.inFlight = s.tasks.countP Task.isSent := by
    have before := h.counted
    rwa [List.countP_append, List.countP_eq_zero.mpr, Nat.zero_add] at before
    intro task mem sent
    have holds := Task.holdsPermit_of_isSome_cycle? (Task.isSome_cycle?_of_isSent sent)
    exact absurd holds (by simp [idle task mem])
  unfold State.drain
  exact startJobs (s := { s with generation := generation, drains := drains, jobs := [] })
    ⟨⟨permits, h.greedy, fun some => absurd rfl some⟩, h.line,
      fun task mem => h.carries task (List.mem_append_right _ mem), h.asleep, counted, h.bounded⟩
    id s.jobs

theorem endQuiet {generation : Nat} (h : Throttled limit [.due generation] s) :
    Throttled limit [] (s.endQuiet generation) := by
  have paced := h.toPaced.endQuiet
  unfold State.endQuiet at paced ⊢
  split
  · exact h.drain (by simp [Task.holdsPermit]) s.generation (s.drains + 1) s.drains
  · next later =>
    rw [if_neg later] at paced
    exact ⟨paced, h.line, fun task mem => h.carries task (List.mem_cons_of_mem _ mem), h.asleep,
      by simpa [Task.isSent] using h.counted, h.bounded⟩

theorem runTask {task : Task} (h : Throttled limit [task] s) (setup : Setup) :
    Throttled limit [] (s.runTask setup task) := by
  match task with
  | .countdown generation =>
    have due : Throttled limit [.due generation] s := by
      refine ⟨⟨h.permits, h.greedy, ?_⟩, h.line, ?_, h.asleep, h.counted, h.bounded⟩
      · intro some
        simpa [Task.endsQuiet] using h.timed some
      · intro task mem holds
        rcases List.mem_cons.mp mem with rfl | mem
        · exact absurd holds (by simp [Task.holdsPermit])
        · exact h.carries task (List.mem_cons_of_mem _ mem) holds
    exact due.sleepThen rfl due.endQuiet
  | .due generation => exact h.endQuiet
  | .flush id => exact h.drain (by simp [Task.holdsPermit]) (s.generation + 1) s.drains id
  | .admitted ⟨id, []⟩ => exact h.release rfl rfl
  | .admitted ⟨id, job :: rest⟩ =>
    have first : Throttled limit [.job id (.start job)] s :=
      h.goOn rfl rfl rfl (List.cons_ne_nil _ _)
    exact first.spawn.startJobs id rest
  | .job id stage => exact h.runStage setup

theorem wakeAt (h : Throttled limit [] s) (time : Nat) : Throttled limit [] (s.wakeAt time) := by
  refine h.of_perm [] (h.toPaced.wakeAt time) rfl ?_ rfl rfl (by simp) ?_
  · intro p mem
    exact h.asleep p (List.mem_filter.mp mem).1
  · exact s.tasks_wakeAt_perm time

theorem step? {setup : Setup} (h : Throttled limit [] s) (step : s.step? setup = some t) :
    Throttled limit [] t := by
  unfold State.step? at step
  split at step
  · next task rest ready =>
    cases step
    have same : [task] ++ ({ s with ready := rest } : State).tasks = [] ++ s.tasks := by
      simp [tasks, ready]
    have running : Throttled limit [task] { s with ready := rest } := by
      refine ⟨⟨?_, h.greedy, ?_⟩, h.line, ?_, h.asleep, ?_, h.bounded⟩
      · rw [same]
        exact h.permits
      · rw [same]
        exact h.timed
      · rw [same]
        exact h.carries
      · rw [same]
        exact h.counted
    exact running.runTask setup
  · obtain ⟨time, -, rfl⟩ := Option.map_eq_some_iff.mp step
    exact h.wakeAt time

theorem move {setup : Setup} (h : Throttled limit [] s) (move : Move setup s t) :
    Throttled limit [] t := by
  cases move with
  | create record => exact h.onLedger _
  | enqueue object =>
    obtain ⟨jobs, pushed, -⟩ := Pushed.enqueue s object
    exact h.of_pushed pushed
  | flush => exact h.drain (by simp) (s.generation + 1) (s.drains + 1) s.drains
  | flushLater =>
    have paced : Paced limit [] s.flushLater := h.toPaced.move (.flushLater s : Move setup s _)
    refine h.of_perm [.flush s.drains] paced rfl h.asleep rfl rfl (by simp [Task.holdsPermit]) ?_
    simp only [State.flushLater, tasks, State.spawn, List.nil_append, List.append_assoc]
    exact List.perm_append_comm_assoc _ _ _
  | step _ step => exact h.step? step
  | wait time => exact h.onLedger _

end Throttled

end State

/-- Permits, running jobs and requests are in order, however the runtime orders its tasks. -/
theorem ReachableInAnyOrder.state_throttled {setup : Setup} {s : State}
    (h : ReachableInAnyOrder setup s) : State.Throttled setup.settings.permits [] s := by
  induction h with
  | initial =>
    refine ⟨⟨rfl, fun some => absurd rfl some, fun some => absurd rfl some⟩, ?_, ?_, ?_, rfl,
      Nat.zero_le _⟩
    · simp [State.initial]
    · simp [State.initial, State.tasks]
    · simp [State.initial]
  | move _ move ih => exact ih.move move
  | @reorder s tasks before perm ih =>
    exact ih.of_perm [] (before.reorder tasks perm).paced rfl ih.asleep rfl rfl (by simp)
      (perm.append_right _)
  | elapse time _ _ ih => exact ih.wakeAt time

namespace State.Throttled

variable {limit : Nat} {s : State}

theorem length_runningJobs (h : Throttled limit [] s) :
    s.runningJobs.length = s.tasks.countP Task.holdsPermit :=
  length_flatMap_permitted h.carries

theorem free_add_runningJobs (h : Throttled limit [] s) :
    s.free + s.runningJobs.length = limit := by
  rw [h.length_runningJobs]
  exact h.permits

theorem length_running_le (h : Throttled limit [] s) : s.running.length ≤ s.runningJobs.length := by
  rw [h.length_runningJobs, running, List.length_filterMap_eq_countP]
  exact List.countP_mono_left fun task _ => Task.holdsPermit_of_isSome_cycle?

theorem inFlight_le (h : Throttled limit [] s) : s.inFlight ≤ s.running.length := by
  rw [h.counted, running, List.length_filterMap_eq_countP]
  exact List.countP_mono_left fun task _ => Task.isSome_cycle?_of_isSent

/-- When no task can run, a job that was taken out of the queue and has not started stands with a
drain in line. -/
theorem waiting_ne_nil (h : Throttled limit [] s) (idle : s.ready = []) (some : s.drained ≠ []) :
    s.waiting ≠ [] := by
  intro none
  apply some
  rw [drained, tasks, none, idle, List.flatMap_nil, List.nil_append, List.nil_append,
    List.flatMap_map, List.flatMap_eq_nil_iff]
  exact h.asleep

theorem free_eq_zero (h : Throttled limit [] s) (idle : s.ready = []) (some : s.drained ≠ []) :
    s.free = 0 :=
  h.greedy (h.waiting_ne_nil idle some)

end State.Throttled

/-- Free permits and running jobs together are always as many as the settings allow, also when jobs
fail or crash: a cycle at a serialization, at the transport or at a hook, or a direct save. Each
request that is being sent or is out belongs to a running job; the counter of the transport counts
the requests that are out, and its peak stays within the permits. While a job that a drain took has
not started and no task can run, as many jobs run as may. -/
theorem ReachableInAnyOrder.running_within_permits {setup : Setup} {s : State}
    (h : ReachableInAnyOrder setup s) :
    s.free + s.runningJobs.length = max 1 setup.settings.maxInstances.toNat ∧
      s.running.length ≤ s.runningJobs.length ∧
      s.inFlight ≤ s.running.length ∧
      s.requests.length = s.answeredRequests.length + s.inFlight ∧
      s.peak ≤ max 1 setup.settings.maxInstances.toNat ∧
      (s.ready = [] → s.drained ≠ [] →
        s.runningJobs.length = max 1 setup.settings.maxInstances.toNat) := by
  have throttled := h.state_throttled
  have permits : s.free + s.runningJobs.length = max 1 setup.settings.maxInstances.toNat :=
    throttled.free_add_runningJobs
  have sent := congrArg Multiset.card h.workload.unanswered
  rw [Multiset.card_add, Multiset.coe_card, Multiset.coe_card] at sent
  refine ⟨permits, throttled.length_running_le, throttled.inFlight_le, ?_, throttled.bounded, ?_⟩
  · rw [Ledger.requests_eq_history, Ledger.answeredRequests_eq_history, List.length_reverse,
      throttled.counted, List.nil_append, ← State.card_unanswered]
    exact sent.symm
  · intro idle some
    have none := throttled.free_eq_zero idle some
    omega

/-- One permit, which a direct save gave back when it crashed: while the answer to a create is
awaited, another direct save stands in line. -/
theorem direct_save_in_line :
    let setup : Setup :=
      { settings := { maxInstances := 1 }, transport := .scripted { latency := 5 } }
    let s := setup.after [⟨{ saveReply := .crashed }, false, 0, none⟩, ⟨{}, true, 0, none⟩,
      ⟨{}, false, 0, none⟩] 10
    s.result? 0 = some (.error .cancelled) ∧ s.ready = [] ∧ s.drained ≠ [] ∧ s.inFlight = 1 ∧
      s.runningJobs.length = 1 := by
  intro setup s
  have idle : s.ready = [] := by decide +kernel
  have some : s.drained ≠ [] := by decide +kernel
  have reachable := (Setup.reachable_after _ _ _ : Reachable setup s).inAnyOrder
  exact ⟨by decide +kernel, idle, some, by decide +kernel,
    reachable.running_within_permits.2.2.2.2.2 idle some⟩

end Queue

end Writeback
