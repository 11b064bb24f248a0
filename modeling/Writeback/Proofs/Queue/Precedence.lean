import Writeback.Proofs.Queue.Conservation
import Writeback.Proofs.Queue.Placement
import Writeback.Proofs.Queue.Schedule

/-!
# Which job goes first

Permits are given in the order of the line, but a drain asks for one permit at a time and goes to
the end of the line with what is left. So a job that waits behind others of its drain can be
overtaken by the jobs of a drain that came later. A job cannot be overtaken by those behind it in
the queue or in its own drain, and once it is the next of its drain in line, by no job that has not
been asked for further ahead.
-/

namespace Writeback.Queue

namespace Task

/-- The jobs of a drain for which it will ask when it has started the one in front. -/
def unasked : Task → List Job
  | .admitted drain => drain.jobs.tail
  | .countdown _ | .due _ | .flush _ | .job _ _ => []

/-- The job that has a permit and is to start. -/
def startable : Task → List Job
  | .admitted drain => drain.jobs.take 1
  | .job _ stage => stage.starting?.toList
  | .countdown _ | .due _ | .flush _ => []

end Task

namespace State

/-- The jobs that have permits and are to start, each of a task that can run. -/
def startable (s : State) : List Job := s.ready.flatMap Task.startable

end State

/-- The job `x` gets a permit no later than `y`. Jobs that a drain has in hand while it runs are
counted in. -/
inductive Ahead (hand : List Job) (s : State) (x y : Job) : Prop where
  | inHand : [x, y].Sublist hand → Ahead hand s x y
  | queued : [x, y].Sublist s.jobs → Ahead hand s x y
  /-- One drain in line has both. -/
  | inLine {drain : Drain} : drain ∈ s.waiting → [x, y].Sublist drain.jobs → Ahead hand s x y
  /-- One drain that was given a permit has both, and will ask for them. -/
  | unasked {task : Task} : task ∈ s.ready → [x, y].Sublist task.unasked → Ahead hand s x y
  /-- The permit that a drain in line asks for is for `x`, and `y` has been asked for further back
  in the line or not at all. -/
  | next {before after : List Drain} {drain : Drain} : s.waiting = before ++ drain :: after →
      drain.jobs.head? = some x →
      y ∈ hand ++ s.jobs ++ after.flatMap Drain.jobs ++ s.ready.flatMap Task.unasked →
      Ahead hand s x y

namespace Ahead

open State

variable {hand : List Job} {s t : State} {x y : Job}

/-- Tasks without jobs come and go, and drains may join the line. -/
theorem mono (h : Ahead hand s x y) (jobs : s.jobs.Sublist t.jobs)
    (waiting : ∃ more, t.waiting = s.waiting ++ more)
    (ready : ∀ task ∈ s.ready, task.unasked ≠ [] → task ∈ t.ready) : Ahead hand t x y := by
  obtain ⟨more, waiting⟩ := waiting
  have kept {task : Task} (mem : task ∈ s.ready) {job : Job} (some : job ∈ task.unasked) :
      task ∈ t.ready := ready task mem (List.ne_nil_of_mem some)
  cases h with
  | inHand both => exact .inHand both
  | queued both => exact .queued (both.trans jobs)
  | inLine mem both => exact .inLine (waiting ▸ List.mem_append_left _ mem) both
  | unasked mem both => exact .unasked (kept mem (both.subset List.mem_cons_self)) both
  | @next before after drain line first behind =>
    have longer : t.waiting = before ++ drain :: (after ++ more) := by
      rw [waiting, line, List.append_assoc, List.cons_append]
    refine .next longer first ?_
    simp only [List.mem_append, List.mem_flatMap] at behind ⊢
    rcases behind with ((inHand | queued) | ⟨drain, mem, has⟩) | ⟨task, mem, has⟩
    · exact .inl (.inl (.inl inHand))
    · exact .inl (.inl (.inr (jobs.subset queued)))
    · exact .inl (.inr ⟨drain, .inl mem, has⟩)
    · exact .inr ⟨task, kept mem has, has⟩

/-- The second job has no permit yet. -/
theorem waits (h : Ahead [] s x y) :
    y ∈ s.jobs ++ s.waiting.flatMap Drain.jobs ++ s.ready.flatMap Task.unasked := by
  have second {jobs : List Job} (both : [x, y].Sublist jobs) : y ∈ jobs :=
    both.subset (List.mem_cons_of_mem _ List.mem_cons_self)
  simp only [List.mem_append, List.mem_flatMap]
  cases h with
  | inHand both => exact absurd (second both) List.not_mem_nil
  | queued both => exact .inl (.inl (second both))
  | inLine mem both => exact .inl (.inr ⟨_, mem, second both⟩)
  | unasked mem both => exact .inr ⟨_, mem, second both⟩
  | next line first behind =>
    simp only [List.nil_append, List.mem_append, List.mem_flatMap] at behind
    rcases behind with (queued | ⟨drain, mem, has⟩) | asked
    · exact .inl (.inl queued)
    · refine .inl (.inr ⟨drain, ?_, has⟩)
      rw [line]
      exact List.mem_append_right _ (List.mem_cons_of_mem _ mem)
    · exact .inr asked

/-- A permit given back goes to the first drain in line, for its first job. -/
theorem release (h : Ahead hand s x y) :
    Ahead hand s.release x y ∨ x ∈ s.release.startable := by
  unfold State.release
  cases line : s.waiting with
  | nil => exact .inl (h.mono (List.Sublist.refl _) ⟨[], by simp [line]⟩ fun _ mem _ => mem)
  | cons drain rest =>
    have given {job : Job} (first : job ∈ drain.jobs.take 1) :
        job ∈ ({ s with waiting := rest }.spawn (.admitted drain)).startable := by
      simp [startable, spawn, Task.startable, first]
    have stays {task : Task} (mem : task ∈ s.ready) :
        task ∈ ({ s with waiting := rest }.spawn (.admitted drain)).ready :=
      List.mem_append_left _ mem
    cases h with
    | inHand both => exact .inl (.inHand both)
    | queued both => exact .inl (.queued both)
    | unasked mem both => exact .inl (.unasked (stays mem) both)
    | @inLine other mem both =>
      rw [line] at mem
      rcases List.mem_cons.mp mem with rfl | mem
      · cases jobs : other.jobs with
        | nil => simp [jobs] at both
        | cons job tail =>
          rw [jobs] at both
          rcases List.sublist_cons_iff.mp both with behind | ⟨_, same, -⟩
          · have mem :=
              List.mem_append_right s.ready (List.mem_singleton_self (Task.admitted other))
            exact .inl (.unasked mem (by simpa [Task.unasked, jobs]))
          · rw [(List.cons.inj same).1] at *
            exact .inr (given (by simp [jobs]))
      · exact .inl (.inLine mem both)
    | @next before after other split first behind =>
      rw [line] at split
      cases before with
      | nil =>
        obtain ⟨rfl, -⟩ := List.cons.inj split
        exact .inr (given (by cases jobs : drain.jobs <;> simp_all))
      | cons ahead before =>
        refine .inl (.next (List.cons.inj split).2 first ?_)
        simp only [List.mem_append, List.mem_flatMap] at behind ⊢
        rcases behind with here | ⟨task, mem, has⟩
        · exact .inl here
        · exact .inr ⟨task, stays mem, has⟩

/-- A drain starts jobs that it has in hand, or stands in line with them. -/
theorem startJobs (h : Ahead hand s x y) (greedy : s.waiting ≠ [] → s.free = 0) (id : Nat) :
    Ahead [] (startJobs id hand s) x y ∨ x ∈ (State.startJobs id hand s).startable := by
  have standing {jobs : List Job} {job : Job} (mem : job ∈ jobs) :
      ⟨id, jobs⟩ ∈ State.inLine id jobs := by
    cases jobs with
    | nil => exact absurd mem List.not_mem_nil
    | cons => exact List.mem_cons_self
  rw [startJobs_eq]
  cases h with
  | inHand both =>
    rw [← List.take_append_drop s.free hand] at both
    obtain ⟨first, second, split, started, left⟩ := List.sublist_append_iff.mp both
    cases first with
    | nil =>
      have both : [x, y].Sublist (hand.drop s.free) := split ▸ left
      have mem := standing (both.subset List.mem_cons_self)
      exact .inl (.inLine (List.mem_append_right _ mem) both)
    | cons job rest =>
      obtain ⟨rfl, -⟩ := List.cons.inj split
      have taken : x ∈ hand.take s.free := started.subset List.mem_cons_self
      refine .inr (List.mem_flatMap.mpr ⟨.job id (.start x), ?_, List.mem_cons_self⟩)
      exact List.mem_append_right _ (List.mem_map_of_mem taken)
  | queued both => exact .inl (.queued both)
  | inLine mem both => exact .inl (.inLine (List.mem_append_left _ mem) both)
  | unasked mem both => exact .inl (.unasked (List.mem_append_left _ mem) both)
  | @next before after drain line first behind =>
    -- A drain stands in line, so no permit is free and this one goes behind it.
    have none : s.free = 0 := greedy (by simp [line])
    have longer : s.waiting ++ State.inLine id (hand.drop s.free) =
        before ++ drain :: (after ++ State.inLine id hand) := by
      rw [none, List.drop_zero, line, List.append_assoc, List.cons_append]
    refine .inl (.next longer first ?_)
    simp only [List.mem_append, List.mem_flatMap, List.nil_append] at behind ⊢
    rcases behind with ((inHand | queued) | ⟨drain, mem, has⟩) | ⟨task, mem, has⟩
    · exact .inl (.inr ⟨_, .inr (standing inHand), inHand⟩)
    · exact .inl (.inl queued)
    · exact .inl (.inr ⟨drain, .inl mem, has⟩)
    · exact .inr ⟨task, .inl mem, has⟩

theorem drain (h : Ahead [] s x y) (greedy : s.waiting ≠ [] → s.free = 0) (id : Nat) :
    Ahead [] (drain id s) x y ∨ x ∈ (State.drain id s).startable := by
  have taken : Ahead s.jobs { s with jobs := [] } x y := by
    cases h with
    | inHand both => exact absurd (both.subset List.mem_cons_self) List.not_mem_nil
    | queued both => exact .inHand both
    | inLine mem both => exact .inLine mem both
    | unasked mem both => exact .unasked mem both
    | next line first behind => exact .next line first (by simpa using behind)
  exact taken.startJobs greedy id

theorem of_pushed {jobs : List Job} (h : Ahead hand s x y) (pushed : Pushed s jobs t) :
    Ahead hand t x y := by
  refine h.mono ?_ ⟨[], ?_⟩ fun task mem _ => ?_
  · rw [pushed.jobs]
    exact List.sublist_append_left _ _
  · rw [pushed.waiting, List.append_nil]
  · rw [pushed.ready]
    exact List.mem_append_left _ mem

theorem of_ran {id : Nat} {job : Job} (h : Ahead [] s x y) (ran : Ran id job s t) :
    Ahead [] t x y ∨ x ∈ t.startable := by
  have counted (inFlight peak : Nat) :
      Ahead [] { s with inFlight := inFlight, peak := peak } x y :=
    h.mono (List.Sublist.refl _) ⟨[], (List.append_nil _).symm⟩ fun _ mem _ => mem
  cases ran with
  | sleeps inFlight peak duration next pushed =>
    have before := (counted inFlight peak).of_pushed pushed
    refine .inl (before.mono ?_ ⟨[], ?_⟩ fun _ mem _ => mem)
    · exact List.Sublist.refl _
    · exact (List.append_nil _).symm
  | ends inFlight peak pushed => exact ((counted inFlight peak).of_pushed pushed).release

/-- A drain that was given a permit has the jobs in hand for which it will ask. -/
theorem admitted {id : Nat} {job : Job} {jobs : List Job} {rest : List Task} (h : Ahead [] s x y)
    (ready : s.ready = .admitted ⟨id, job :: jobs⟩ :: rest) :
    Ahead jobs ((s.pop rest).spawn (.job id (.start job))) x y := by
  have stays {task : Task} (mem : task ∈ rest) :
      task ∈ ((s.pop rest).spawn (.job id (.start job))).ready := List.mem_append_left _ mem
  cases h with
  | inHand both => exact absurd (both.subset List.mem_cons_self) List.not_mem_nil
  | queued both => exact .queued both
  | inLine mem both => exact .inLine mem both
  | unasked mem both =>
    rw [ready] at mem
    rcases List.mem_cons.mp mem with rfl | mem
    · exact .inHand both
    · exact .unasked (stays mem) both
  | next line first behind =>
    refine .next line first ?_
    rw [ready, List.flatMap_cons] at behind
    simp only [List.mem_append, List.mem_flatMap, List.nil_append] at behind ⊢
    rcases behind with (queued | inLine) | (inHand | ⟨task, mem, has⟩)
    · exact .inl (.inl (.inr queued))
    · exact .inl (.inr inLine)
    · exact .inl (.inl (.inl inHand))
    · exact .inr ⟨task, stays mem, has⟩

/-- No move lets the second job get a permit before the first. -/
theorem effect {setup : Setup} (h : Ahead [] s x y) (greedy : s.waiting ≠ [] → s.free = 0)
    (effect : Effect setup s t) : Ahead [] t x y ∨ x ∈ t.startable := by
  have same {hand : List Job} {r u : State} (h : Ahead hand r x y) (jobs : u.jobs = r.jobs)
      (waiting : u.waiting = r.waiting) (ready : ∀ task ∈ r.ready, task ∈ u.ready) :
      Ahead hand u x y :=
    h.mono (jobs ▸ List.Sublist.refl _) ⟨[], by rw [waiting, List.append_nil]⟩ fun task mem _ =>
      ready task mem
  have popped {task : Task} {rest : List Task} (ready : s.ready = task :: rest)
      (none : task.unasked = []) : Ahead [] (s.pop rest) x y := by
    refine h.mono (List.Sublist.refl _) ⟨[], (List.append_nil _).symm⟩ fun other mem some => ?_
    rw [ready] at mem
    exact (List.mem_cons.mp mem).resolve_left fun same => some (same ▸ none)
  cases effect with
  | pushed pushed => exact .inl (h.of_pushed pushed)
  | passed time => exact .inl (same h rfl rfl fun _ mem => mem)
  | woke time => exact .inl (same h rfl rfl fun _ mem => List.mem_append_left _ mem)
  | flushed =>
    exact drain (s := { s with drains := s.drains + 1, generation := s.generation + 1 })
      (same h rfl rfl fun _ mem => mem) greedy s.drains
  | flushesLater => exact .inl (same h rfl rfl fun _ mem => List.mem_append_left _ mem)
  | counts generation ready =>
    exact .inl (same (popped ready rfl) rfl rfl fun _ mem => mem)
  | @ended generation timer rest ready ends =>
    have before := popped ready (by rcases ends with rfl | ⟨rfl, -⟩ <;> rfl)
    unfold endQuiet
    split
    · exact drain (s := { s.pop rest with drains := s.drains + 1 })
        (same before rfl rfl fun _ mem => mem) greedy s.drains
    · exact .inl before
  | @flushes id rest ready =>
    exact drain (s := { s.pop rest with generation := s.generation + 1 })
      (same (popped ready rfl) rfl rfl fun _ mem => mem) greedy id
  | returned id ready => exact (popped ready rfl).release
  | @admitted id job jobs rest ready => exact (h.admitted ready).startJobs greedy id
  | ran id stage ready ran =>
    refine of_ran (same (popped ready rfl) ?_ ?_ fun _ mem => ?_) ran
    · exact noteStart_jobs _ _
    · exact noteStart_waiting _ _
    · rwa [noteStart_ready]

theorem turn {setup : Setup} (h : Ahead [] s x y) (reachable : ReachableInAnyOrder setup s)
    (turn : Turn setup s t) : Ahead [] t x y ∨ x ∈ t.startable := by
  cases turn with
  | move move => exact h.effect reachable.paced.greedy move.effect
  | reorder tasks perm =>
    exact .inl (h.mono (List.Sublist.refl _) ⟨[], (List.append_nil _).symm⟩ fun _ mem _ =>
      perm.mem_iff.mpr mem)
  | elapse time =>
    exact .inl (h.mono (List.Sublist.refl _) ⟨[], (List.append_nil _).symm⟩ fun _ mem _ =>
      List.mem_append_left _ mem)

end Ahead

namespace State

theorem count_saves_jobs (jobs : List Job) (save : Save) :
    ((↑jobs : Multiset Job).bind fun job => (Phase.waiting job).saves).count save =
      jobs.count (.update save) := by
  induction jobs with
  | nil => rfl
  | cons job jobs ih =>
    rw [← Multiset.cons_coe, Multiset.cons_bind, Multiset.count_add, ih, List.count_cons]
    cases job with
    | cycle key => simp
    | update other =>
      rcases eq_or_ne other save with rfl | ne
      · simp [add_comm]
      · simp [ne, ne.symm]

theorem count_saves_tasks_le (tasks : List Task) (save : Save) :
    (tasks.flatMap Task.unstarted).count (.update save) ≤
      ((↑tasks : Multiset Task).bind fun task => task.phases.bind Phase.saves).count save := by
  induction tasks with
  | nil => exact le_rfl
  | cons task tasks ih =>
    have here : task.unstarted.count (.update save) ≤
        (task.phases.bind Phase.saves).count save := by
      cases task with
      | admitted drain =>
        rw [Task.phases, ← Multiset.map_coe, Multiset.bind_map]
        exact (count_saves_jobs drain.jobs save).ge
      | job id stage =>
        cases stage with
        | start next =>
          have one := count_saves_jobs [next] save
          rw [Multiset.coe_singleton, Multiset.singleton_bind] at one
          rw [Task.phases, Multiset.singleton_bind]
          exact one.ge
        | _ => exact Nat.zero_le _
      | _ => exact Nat.zero_le _
    rw [← Multiset.cons_coe, Multiset.cons_bind, Multiset.count_add, List.flatMap_cons,
      List.count_append]
    exact Nat.add_le_add here ih

/-- A direct save is under way at least as often as it waits. -/
theorem count_unstarted_le (s : State) (save : Save) :
    (s.jobs ++ s.drained).count (.update save) ≤ (s.underway.bind Phase.saves).count save := by
  have tasks := count_saves_tasks_le s.tasks save
  rw [bind_underway, Multiset.count_add, count_saves_jobs, drained, List.count_append,
    List.count_append, List.count_append]
  omega

end State

/-- No job waits twice. -/
theorem ReachableInAnyOrder.nodup_unstarted {setup : Setup} {s : State}
    (h : ReachableInAnyOrder setup s) : (s.jobs ++ s.drained).Nodup := by
  rw [List.nodup_iff_count_le_one]
  intro job
  cases job with
  | cycle key =>
    have one : s.cycleCount key ≤ 1 := s.count_keys key ▸ h.workload.tokens.count_le_one key
    rw [State.cycleCount] at one
    rw [List.count_append]
    omega
  | update save =>
    have once := Multiset.nodup_iff_count_le_one.mp h.workload.nodup_load save
    rw [Workload.load, Multiset.count_add, Multiset.count_add] at once
    have under : (s.workload.underway.bind Phase.saves).count save ≤ 1 := by omega
    exact (s.count_unstarted_le save).trans under

theorem Task.unstarted_perm (tasks : List Task) :
    (tasks.flatMap Task.unstarted).Perm
      (tasks.flatMap Task.startable ++ tasks.flatMap Task.unasked) := by
  have split (task : Task) : task.unstarted = task.startable ++ task.unasked := by
    cases task with
    | admitted drain =>
      obtain ⟨id, jobs⟩ := drain
      cases jobs <;> rfl
    | job id stage => cases stage <;> rfl
    | _ => rfl
  rw [funext split]
  exact (List.flatMap_append_perm tasks Task.startable Task.unasked).symm

/-- A job with a permit waits for no other. -/
theorem ReachableInAnyOrder.notMem_startable {setup : Setup} {s : State}
    (h : ReachableInAnyOrder setup s) {job : Job}
    (waits : job ∈ s.jobs ++ s.waiting.flatMap Drain.jobs ++ s.ready.flatMap Task.unasked) :
    job ∉ s.startable := by
  intro starts
  have nodup := h.nodup_unstarted
  have parts : (s.jobs ++ s.drained).Perm (s.startable ++
      (s.jobs ++ s.waiting.flatMap Drain.jobs ++ s.ready.flatMap Task.unasked ++
        (s.sleeping.map Sleeper.task).flatMap Task.unstarted)) := by
    rw [List.perm_iff_count]
    intro other
    have ready := (Task.unstarted_perm s.ready).count_eq other
    simp only [State.drained, State.tasks, State.startable, List.flatMap_append,
      List.count_append] at ready ⊢
    omega
  rw [parts.nodup_iff, List.nodup_append] at nodup
  exact nodup.2.2 job starts job (List.mem_append_left _ waits) rfl

namespace State

section Times

variable {setup : Setup} {s t : State}

/-- No sleeper is overdue. -/
def OnTime (s : State) : Prop := ∀ p ∈ s.sleeping, s.clock ≤ p.due

/-- All sleepers that are due wake. -/
theorem onTime_wakeAt (s : State) (time : Nat) : OnTime (s.wakeAt time) := by
  intro p mem
  have later := (List.mem_filter.mp mem).2
  simp only [Bool.not_eq_eq_eq_not, Bool.not_true, decide_eq_false_iff_not] at later
  exact (Nat.not_le.mp later).le

theorem OnTime.effect (h : OnTime s) (effect : Effect setup s t) : OnTime t := by
  have slept {r : State} (h : OnTime r) (duration : Nat) (task : Task) :
      OnTime (r.sleep duration task) := by
    intro p mem
    rcases List.mem_append.mp mem with old | new
    · exact h p old
    · rw [List.mem_singleton.mp new]
      exact Nat.le_add_right _ _
  have same {r u : State} (h : OnTime r) (clock : u.clock = r.clock)
      (sleeping : u.sleeping = r.sleeping) : OnTime u := by
    rw [OnTime, clock, sleeping]
    exact h
  cases effect with
  | pushed pushed => exact same h pushed.clock pushed.sleeping
  | passed time ready later asleep => exact asleep
  | woke time => exact onTime_wakeAt s time
  | flushed => exact same h (congrArg Ledger.clock (drain_toLedger _ _)) (drain_sleeping _ _)
  | flushesLater => exact same h rfl rfl
  | counts generation ready => exact slept (same h rfl rfl) _ _
  | ended generation ready =>
    unfold endQuiet
    split
    · exact same h (congrArg Ledger.clock (drain_toLedger _ _)) (drain_sleeping _ _)
    · exact same h rfl rfl
  | flushes id ready =>
    exact same h (congrArg Ledger.clock (drain_toLedger _ _)) (drain_sleeping _ _)
  | returned id ready =>
    exact same h (congrArg Ledger.clock (release_toLedger _)) (release_sleeping _)
  | admitted id job jobs ready =>
    exact same h (by rw [startJobs_eq]; rfl) (by rw [startJobs_eq]; rfl)
  | @ran id stage rest t ready ran =>
    have before : OnTime ((s.pop rest).noteStart stage) :=
      same h (noteStart_clock _ _) (noteStart_sleeping _ _)
    cases ran with
    | sleeps inFlight peak duration next pushed =>
      exact slept (same before pushed.clock pushed.sleeping) _ _
    | ends inFlight peak pushed =>
      refine same before ?_ ((release_sleeping _).trans pushed.sleeping)
      exact (congrArg Ledger.clock (release_toLedger _)).trans pushed.clock

/-- A move starts at most the job in front, and takes no time while a task can run. -/
theorem Effect.starts (onTime : OnTime s) (effect : Effect setup s t) :
    ∃ now : List Job, t.starts = s.starts ++ now.map (fun job => (s.clock, job)) ∧
      (∀ job ∈ now, ∃ id rest, s.ready = .job id (.start job) :: rest) ∧
      s.clock ≤ t.clock ∧ (s.ready ≠ [] → t.clock = s.clock) := by
  have none {t : State} (starts : t.starts = s.starts) (clock : t.clock = s.clock) :
      ∃ now : List Job, t.starts = s.starts ++ now.map (fun job => (s.clock, job)) ∧
        (∀ job ∈ now, ∃ id rest, s.ready = .job id (.start job) :: rest) ∧
        s.clock ≤ t.clock ∧ (s.ready ≠ [] → t.clock = s.clock) :=
    ⟨[], by rw [starts, List.map_nil, List.append_nil], by simp, clock.ge, fun _ => clock⟩
  have silent {t : State} (ledger : t.toLedger = s.toLedger) :=
    none (congrArg Ledger.starts ledger) (congrArg Ledger.clock ledger)
  cases effect with
  | pushed pushed => exact none pushed.starts pushed.clock
  | passed time ready later =>
    exact ⟨[], (List.append_nil _).symm, by simp, later, fun some => absurd ready some⟩
  | woke time ready first due =>
    obtain ⟨p, mem, rfl⟩ := due
    exact ⟨[], (List.append_nil _).symm, by simp, onTime p mem, fun some => absurd ready some⟩
  | flushed => exact silent (drain_toLedger _ _)
  | flushesLater | counts => exact silent rfl
  | ended generation ready =>
    unfold endQuiet
    split
    · exact silent (drain_toLedger _ _)
    · exact silent rfl
  | flushes id ready => exact silent (drain_toLedger _ _)
  | returned id ready => exact silent (release_toLedger _)
  | admitted id job jobs ready => exact silent (by rw [startJobs_eq]; rfl)
  | @ran id stage rest t ready ran =>
    have starts := ran.starts.trans (noteStart_starts _ _)
    have clock := ran.clock.trans (noteStart_clock _ _)
    refine ⟨stage.starting?.toList, ?_, ?_, clock.ge, fun _ => clock⟩
    · rw [starts]
      cases stage <;> rfl
    · intro job mem
      cases stage with
      | start next =>
        obtain rfl := List.mem_singleton.mp mem
        exact ⟨id, rest, ready⟩
      | _ => exact absurd mem List.not_mem_nil

theorem startable_of_append {x : Job} (has : x ∈ s.startable)
    (ready : ∃ more, t.ready = s.ready ++ more) : x ∈ t.startable := by
  obtain ⟨more, ready⟩ := ready
  rw [startable, ready, List.flatMap_append]
  exact List.mem_append_left _ has

/-- A job with a permit that is to start stays so, or is among those that start now. -/
theorem Effect.startable (effect : Effect setup s t) {now : List Job}
    (starts : t.starts = s.starts ++ now.map fun job => (s.clock, job)) {x : Job}
    (has : x ∈ s.startable) : x ∈ t.startable ∨ x ∈ now := by
  have popped {task : Task} {rest : List Task} (ready : s.ready = task :: rest) :
      x ∈ task.startable ∨ x ∈ (s.pop rest).startable := by
    rwa [State.startable, ready, List.flatMap_cons, List.mem_append] at has
  have idle {task : Task} {rest : List Task} (ready : s.ready = task :: rest)
      (none : task.startable = []) : x ∈ (s.pop rest).startable := by
    refine (popped ready).resolve_left fun mem => ?_
    rw [none] at mem
    exact List.not_mem_nil mem
  cases effect with
  | pushed pushed => exact .inl (startable_of_append has ⟨_, pushed.ready⟩)
  | passed => exact .inl has
  | woke | flushesLater => exact .inl (startable_of_append has ⟨_, rfl⟩)
  | flushed => exact .inl (startable_of_append has (drain_ready _ _))
  | counts generation ready => exact .inl (idle ready rfl)
  | ended generation ready ends =>
    have left := idle ready (by rcases ends with rfl | ⟨rfl, -⟩ <;> rfl)
    unfold endQuiet
    split
    · exact .inl (startable_of_append left (drain_ready _ _))
    · exact .inl left
  | flushes id ready => exact .inl (startable_of_append (idle ready rfl) (drain_ready _ _))
  | returned id ready => exact .inl (startable_of_append (idle ready rfl) (release_ready _))
  | @admitted id job jobs rest ready =>
    have spawned : x ∈ ((s.pop rest).spawn (.job id (.start job))).startable := by
      rcases popped ready with first | left
      · obtain rfl : x = job := List.mem_singleton.mp first
        refine List.mem_flatMap.mpr ⟨.job id (.start x), ?_, List.mem_cons_self⟩
        exact List.mem_append_right _ List.mem_cons_self
      · exact startable_of_append left ⟨_, rfl⟩
    exact .inl (startable_of_append spawned (by rw [startJobs_eq]; exact ⟨_, rfl⟩))
  | @ran id stage rest t ready ran =>
    rcases popped ready with front | left
    · cases stage with
      | start job =>
        obtain rfl : x = job := List.mem_singleton.mp front
        rw [ran.starts, noteStart_starts] at starts
        have only : [(s.clock, x)] = now.map fun job => (s.clock, job) :=
          List.append_cancel_left starts
        have mem : (s.clock, x) ∈ now.map fun job => (s.clock, job) :=
          only ▸ List.mem_cons_self
        simpa using Or.inr mem
      | _ => exact absurd front List.not_mem_nil
    · have noted : x ∈ ((s.pop rest).noteStart stage).startable := by
        rwa [State.startable, noteStart_ready]
      exact .inl (startable_of_append noted ran.ready)

end Times

end State

theorem ReachableInAnyOrder.onTime {setup : Setup} {s : State} (h : ReachableInAnyOrder setup s) :
    s.OnTime := by
  refine h.induction (fun p mem => absurd mem List.not_mem_nil) fun s t _ turn ih => ?_
  cases turn with
  | move move => exact ih.effect move.effect
  | reorder tasks => exact ih
  | elapse time => exact s.onTime_wakeAt time

/-- Time does not run backwards. -/
theorem ReachableInAnyOrder.clock_le {setup : Setup} {s t : State}
    (h : ReachableInAnyOrder setup s) (turn : Turn setup s t) : s.clock ≤ t.clock := by
  cases turn with
  | move move =>
    obtain ⟨-, -, -, later, -⟩ := move.effect.starts h.onTime
    exact later
  | reorder tasks => exact le_rfl
  | elapse time later => exact later

/-- What became of two jobs, of which `x` was ahead, since the run had come to these starts. -/
inductive InOrder (earlier : List (Nat × Job)) (x y : Job) (s : State) : Prop where
  | waiting {new : List (Nat × Job)} : s.starts = earlier ++ new → Ahead [] s x y →
      (∀ time, (time, y) ∉ new) → InOrder earlier x y s
  /-- The first has a permit and starts before time passes. -/
  | startable {new : List (Nat × Job)} : s.starts = earlier ++ new → x ∈ s.startable →
      (∀ time, (time, y) ∈ new → time = s.clock) → InOrder earlier x y s
  | started {new : List (Nat × Job)} (time : Nat) : s.starts = earlier ++ new → (time, x) ∈ new →
      time ≤ s.clock → (∀ later, (later, y) ∈ new → time ≤ later) → InOrder earlier x y s

theorem InOrder.effect {setup : Setup} {earlier : List (Nat × Job)} {x y : Job} {s t : State}
    (h : InOrder earlier x y s) (reachable : Reachable setup s)
    (effect : State.Effect setup s t) : InOrder earlier x y t := by
  obtain ⟨now, starts, front, later, idle⟩ := effect.starts reachable.inAnyOrder.onTime
  cases h with
  | @waiting new before ahead none =>
    have same : t.starts = earlier ++ (new ++ now.map fun job => (s.clock, job)) := by
      rw [starts, before, List.append_assoc]
    have none' (time : Nat) : (time, y) ∉ new ++ now.map fun job => (s.clock, job) := by
      intro mem
      rcases List.mem_append.mp mem with old | new
      · exact none time old
      · obtain ⟨job, started, eq⟩ := List.mem_map.mp new
        obtain ⟨-, rfl⟩ := Prod.mk.inj eq
        obtain ⟨id, rest, ready⟩ := front job started
        refine reachable.inAnyOrder.notMem_startable ahead.waits ?_
        refine List.mem_flatMap.mpr ⟨.job id (.start job), ?_, List.mem_cons_self⟩
        exact ready ▸ List.mem_cons_self
    rcases ahead.effect reachable.inAnyOrder.paced.greedy effect with ahead | starts
    · exact .waiting same ahead none'
    · exact .startable same starts fun time mem => absurd mem (none' time)
  | @startable new before has times =>
    have same : t.starts = earlier ++ (new ++ now.map fun job => (s.clock, job)) := by
      rw [starts, before, List.append_assoc]
    obtain ⟨task, some, -⟩ := List.mem_flatMap.mp has
    have clock : t.clock = s.clock := idle (List.ne_nil_of_mem some)
    have times' (time : Nat)
        (mem : (time, y) ∈ new ++ now.map fun job => (s.clock, job)) : time = s.clock := by
      rcases List.mem_append.mp mem with old | new
      · exact times time old
      · obtain ⟨job, -, eq⟩ := List.mem_map.mp new
        exact (Prod.mk.inj eq).1.symm
    rcases effect.startable starts has with has | started
    · exact .startable same has fun time mem => (times' time mem).trans clock.symm
    · refine .started s.clock same ?_ later fun time mem => (times' time mem).ge
      exact List.mem_append_right _ (List.mem_map_of_mem started)
  | @started new time before mem le times =>
    have same : t.starts = earlier ++ (new ++ now.map fun job => (s.clock, job)) := by
      rw [starts, before, List.append_assoc]
    refine .started time same (List.mem_append_left _ mem) (le.trans later) fun other mem => ?_
    rcases List.mem_append.mp mem with old | new
    · exact times other old
    · obtain ⟨job, -, eq⟩ := List.mem_map.mp new
      exact le.trans (Prod.mk.inj eq).1.le

theorem Reachable.inOrder {setup : Setup} {s t : State} {x y : Job} (h : Reachable setup s)
    (ahead : Ahead [] s x y) (moves : Relation.ReflTransGen (Move setup) s t) :
    InOrder s.starts x y t := by
  induction moves with
  | refl => exact .waiting (List.append_nil _).symm ahead fun _ => List.not_mem_nil
  | tail before move ih => exact ih.effect (h.moves before) move.effect

/-- A job that is pushed is behind all jobs in the queue, and behind the next job of each drain in
line. -/
theorem Ahead.of_push {s t : State} {jobs : List Job} {x y : Job} (pushed : Pushed s jobs t)
    (earlier : x ∈ s.jobs ∨ ∃ drain ∈ s.waiting, drain.jobs.head? = some x) (later : y ∈ jobs) :
    Ahead [] t x y := by
  rcases earlier with queued | ⟨drain, mem, first⟩
  · refine .queued ?_
    rw [pushed.jobs]
    exact (List.singleton_sublist.mpr queued).append (List.singleton_sublist.mpr later)
  · obtain ⟨before, after, line⟩ := List.append_of_mem mem
    refine .next (pushed.waiting.trans line) first ?_
    have queued : y ∈ t.jobs := pushed.jobs ▸ List.mem_append_right _ later
    simp [queued]

theorem Ahead.of_turn {setup : Setup} {s t : State} {jobs : List Job} {x y : Job}
    (turn : Turn setup s t) (pushed : t.jobs = s.jobs ++ jobs)
    (earlier : x ∈ s.jobs ∨ ∃ drain ∈ s.waiting, drain.jobs.head? = some x) (later : y ∈ jobs) :
    Ahead [] t x y ∨ x ∈ t.startable := by
  have kept (same : t.jobs = s.jobs) : Ahead [] t x y ∨ x ∈ t.startable := by
    rw [same, List.self_eq_append_right] at pushed
    exact absurd later (pushed ▸ List.not_mem_nil)
  have taken (none : t.jobs = []) : Ahead [] t x y ∨ x ∈ t.startable := by
    rw [none, eq_comm, List.append_eq_nil_iff] at pushed
    exact absurd later (pushed.2 ▸ List.not_mem_nil)
  cases turn with
  | reorder | elapse => exact kept rfl
  | move move =>
    cases move.effect with
    | pushed happened =>
      have same := List.append_cancel_left (pushed.symm.trans happened.jobs)
      exact .inl (.of_push happened earlier (same ▸ later))
    | passed | woke | flushesLater | counts => exact kept rfl
    | flushed | flushes => exact taken (State.drain_jobs _ _)
    | ended generation ready =>
      unfold State.endQuiet at taken kept ⊢
      split
      · next current =>
        rw [if_pos current] at taken
        exact taken (State.drain_jobs _ _)
      · next stale =>
        rw [if_neg stale] at kept
        exact kept rfl
    | returned => exact kept (State.release_jobs _)
    | admitted => exact kept (by rw [State.startJobs_eq]; rfl)
    | @ran id stage rest t ready ran =>
      have base : ((s.pop rest).noteStart stage).jobs = s.jobs ∧
          ((s.pop rest).noteStart stage).waiting = s.waiting :=
        ⟨State.noteStart_jobs _ _, State.noteStart_waiting _ _⟩
      rw [← base.1, ← base.2] at earlier
      rw [← base.1] at pushed
      cases ran with
      | sleeps inFlight peak duration next happened =>
        have same := List.append_cancel_left (pushed.symm.trans happened.jobs)
        have before : Ahead [] _ x y := .of_push happened earlier (same ▸ later)
        refine .inl (before.mono (List.Sublist.refl _) ⟨[], ?_⟩ fun _ mem _ => mem)
        exact (List.append_nil _).symm
      | ends inFlight peak happened =>
        rw [State.release_jobs] at pushed
        have same := List.append_cancel_left (pushed.symm.trans happened.jobs)
        exact (Ahead.of_push happened earlier (same ▸ later)).release

/-- Jobs get their permits in order: a job that is pushed is behind those in the queue and behind
the next job of each drain in line; of two jobs that wait, the one ahead gets a permit first, or
with the other; and on a runtime that keeps its order it starts no later, or will before any time
passes. -/
theorem ReachableInAnyOrder.permits_in_order {setup : Setup} {s : State}
    (h : ReachableInAnyOrder setup s) :
    (∀ t jobs x y, Turn setup s t → t.jobs = s.jobs ++ jobs → y ∈ jobs →
        (x ∈ s.jobs ∨ ∃ drain ∈ s.waiting, drain.jobs.head? = some x) →
        Ahead [] t x y ∨ x ∈ t.startable) ∧
      (∀ x y, Ahead [] s x y → y ∉ s.startable ∧
        ∀ t, Turn setup s t → Ahead [] t x y ∨ x ∈ t.startable) ∧
      (Reachable setup s → ∀ x y t, Ahead [] s x y → Relation.ReflTransGen (Move setup) s t →
        ∃ new, t.starts = s.starts ++ new ∧ ∀ later, (later, y) ∈ new →
          (∃ time ≤ later, (time, x) ∈ new) ∨ later = t.clock ∧ x ∈ t.startable) := by
  refine ⟨fun t jobs x y turn pushed later earlier => ?_, fun x y ahead => ⟨?_, fun t turn => ?_⟩,
    fun ordered x y t ahead moves => ?_⟩
  · exact Ahead.of_turn turn pushed earlier later
  · exact h.notMem_startable ahead.waits
  · exact ahead.turn h turn
  · cases ordered.inOrder ahead moves with
    | @waiting new starts _ none => exact ⟨new, starts, fun later mem => absurd mem (none later)⟩
    | @startable new starts has times =>
      exact ⟨new, starts, fun later mem => .inr ⟨times later mem, has⟩⟩
    | @started new time starts mem _ times =>
      exact ⟨new, starts, fun later mem' => .inl ⟨time, times later mem', mem⟩⟩

/-- Two direct saves under one permit: the second starts when the first has returned. -/
theorem second_save_starts_later :
    let setup : Setup :=
      { settings := { delayMs := 10, maxInstances := 1 }, transport := .scripted {} }
    let save : Record := ⟨{ saveTime := 50 }, false, 0, none⟩
    let t := (setup.after [save, save] 0).runSteps setup (fun _ => false) 10
    t.starts = [(10, .update ⟨0, 0⟩), (60, .update ⟨1, 1⟩)] ∧
      ((∃ time ≤ 60, (time, .update ⟨0, 0⟩) ∈ t.starts) ∨
        60 = t.clock ∧ .update ⟨0, 0⟩ ∈ t.startable) := by
  intro setup save t
  have reachable : Reachable setup (setup.after [save, save] 0) := setup.reachable_after _ _
  have ahead : Ahead [] (setup.after [save, save] 0) (.update ⟨0, 0⟩) (.update ⟨1, 1⟩) :=
    .queued (by decide +kernel)
  have starts : t.starts = [(10, .update ⟨0, 0⟩), (60, .update ⟨1, 1⟩)] := by decide +kernel
  obtain ⟨new, all, order⟩ := reachable.inAnyOrder.permits_in_order.2.2 reachable _ _ t ahead
    (State.moves_runSteps setup _ 10 _)
  obtain rfl : t.starts = new := all
  exact ⟨starts, order 60 (by rw [starts]; decide)⟩

/-- Three direct saves are drained under one permit. A fourth is drained while the first is out, and
starts before the third. -/
theorem later_save_overtakes :
    ¬ ∀ (setup : Setup) (s : State), Reachable setup s → ∀ first second : Save,
      [.update first, .update second].Sublist (s.pushes.map Prod.snd) →
      ∀ early late, (early, .update first) ∈ s.starts → (late, .update second) ∈ s.starts →
        early ≤ late := by
  intro inOrder
  let setup : Setup :=
    { settings := { delayMs := 10, maxInstances := 1 }, transport := .scripted {} }
  let save : Record := ⟨{ saveTime := 50 }, false, 0, none⟩
  let s := ((setup.after [save, save, save] 8).submit [save]).runSteps setup (fun _ => false) 16
  have reachable : Reachable setup s := ((setup.reachable_after _ _).submit _).runSteps _ _
  have pushed : [Job.update ⟨2, 2⟩, .update ⟨3, 3⟩].Sublist (s.pushes.map Prod.snd) := by
    decide +kernel
  have late : (160, .update ⟨2, 2⟩) ∈ s.starts := by decide +kernel
  have early : (110, .update ⟨3, 3⟩) ∈ s.starts := by decide +kernel
  exact absurd (inOrder setup s reachable _ _ pushed _ _ late early) (by decide)

end Writeback.Queue
