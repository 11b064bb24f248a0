import Mathlib.Data.List.Forall2
import Writeback.Proofs.Queue.Placement

/-!
# Quiet periods

Timers are never cancelled. Every push and every flush makes the generation grow, and a timer takes
the queue only if its generation is still that of the queue. This leaves exactly one timer that
counts while jobs are in the queue, and none while the queue is empty, in whatever order pushes,
flushes and timers come.
-/

namespace Writeback.Queue

/-- A timer: the generation of its quiet period, and when that ends. -/
structure Alarm where
  generation : Nat
  ends : Nat
deriving DecidableEq, Repr

/-- The timer that a task is, if it runs at this time. -/
def Task.alarm? (delay now : Nat) : Task → Option Alarm
  | .countdown generation => some ⟨generation, now + delay⟩
  | .due generation => some ⟨generation, now⟩
  | .flush _ | .admitted _ | .job _ _ => none

namespace State

/-- The timers, with the times at which they end if no time passes while a task can run. -/
def alarms (delay : Nat) (s : State) : List Alarm :=
  s.ready.filterMap (Task.alarm? delay s.clock) ++
    s.sleeping.filterMap fun p => p.task.alarm? delay p.due

/-- The timers that take the queue when they end, as things stand. -/
def live (delay : Nat) (s : State) : List Alarm :=
  (s.alarms delay).filter fun alarm => alarm.generation = s.generation

section Alarms

variable {delay : Nat} {s t : State}

theorem alarms_pop {task : Task} {rest : List Task} (ready : s.ready = task :: rest) :
    s.alarms delay = (task.alarm? delay s.clock).toList ++ (s.pop rest).alarms delay := by
  cases h : task.alarm? delay s.clock <;> simp [alarms, pop, ready, h]

theorem alarms_pushed {jobs : List Job} (pushed : Pushed s jobs t) :
    (t.alarms delay).Perm (s.alarms delay ++
      (List.range' (s.generation + 1) jobs.length).map fun g => ⟨g, s.clock + delay⟩) := by
  have started : ((List.range' (s.generation + 1) jobs.length).map Task.countdown).filterMap
      (Task.alarm? delay s.clock) =
        (List.range' (s.generation + 1) jobs.length).map fun g => ⟨g, s.clock + delay⟩ := by
    rw [List.filterMap_map, ← List.filterMap_eq_map]
    rfl
  rw [alarms, alarms, pushed.ready, pushed.clock, pushed.sleeping, List.filterMap_append, started,
    List.append_assoc, List.append_assoc]
  exact List.perm_append_comm.append_left _

theorem alarms_spawn {task : Task} (none : ∀ now, task.alarm? delay now = none) :
    (s.spawn task).alarms delay = s.alarms delay := by
  simp [alarms, spawn, none]

theorem alarms_sleep {task : Task} (none : ∀ now, task.alarm? delay now = none) (duration : Nat) :
    (s.sleep duration task).alarms delay = s.alarms delay := by
  simp [alarms, sleep, none]

theorem alarms_release : s.release.alarms delay = s.alarms delay := by
  unfold release
  split
  · rfl
  · exact alarms_spawn fun _ => rfl

theorem alarms_startJobs (id : Nat) (jobs : List Job) :
    (startJobs id jobs s).alarms delay = s.alarms delay := by
  have none : ((jobs.take s.free).map fun job => Task.job id (.start job)).filterMap
      (Task.alarm? delay s.clock) = [] := by
    rw [List.filterMap_map]
    exact List.filterMap_eq_nil_iff.mpr fun _ _ => rfl
  rw [startJobs_eq]
  simp only [alarms, List.filterMap_append, none, List.append_nil]

theorem alarms_drain (id : Nat) : (drain id s).alarms delay = s.alarms delay :=
  alarms_startJobs id s.jobs

/-- A timer that can run ends when time passes no earlier than the clock says. -/
theorem alarms_wakeAt (time : Nat) :
    ((s.wakeAt time).alarms delay).Perm (s.ready.filterMap (Task.alarm? delay time) ++
      s.sleeping.filterMap fun p => p.task.alarm? delay (max p.due time)) := by
  have parts := List.filter_append_perm (fun p : Sleeper => decide (p.due ≤ time)) s.sleeping
  have woken : ((s.sleeping.filter fun p => p.due ≤ time).map Sleeper.task).filterMap
      (Task.alarm? delay time) =
        (s.sleeping.filter fun p => p.due ≤ time).filterMap
          fun p => p.task.alarm? delay (max p.due time) := by
    rw [List.filterMap_map]
    refine List.filterMap_congr fun p mem => ?_
    rw [Function.comp_apply, Nat.max_eq_right (by simpa using (List.mem_filter.mp mem).2)]
  have asleep : (s.sleeping.filter fun p => !(p.due ≤ time)).filterMap
      (fun p => p.task.alarm? delay p.due) =
        (s.sleeping.filter fun p => !(p.due ≤ time)).filterMap
          fun p => p.task.alarm? delay (max p.due time) := by
    refine List.filterMap_congr fun p mem => ?_
    have later : time < p.due := by simpa using (List.mem_filter.mp mem).2
    rw [Nat.max_eq_left later.le]
  rw [alarms, wakeAt, List.filterMap_append, woken, asleep, List.append_assoc,
    ← List.filterMap_append]
  exact (parts.filterMap _).append_left _

/-- When the sleepers that are due first wake, no timer ends later for it. -/
theorem alarms_wakeAt_of_le {time : Nat} (ready : s.ready = [])
    (first : ∀ p ∈ s.sleeping, time ≤ p.due) :
    ((s.wakeAt time).alarms delay).Perm (s.alarms delay) := by
  have same : (s.sleeping.filterMap fun p => p.task.alarm? delay (max p.due time)) =
      s.sleeping.filterMap fun p => p.task.alarm? delay p.due :=
    List.filterMap_congr fun p mem => by rw [Nat.max_eq_left (first p mem)]
  have perm : ((s.wakeAt time).alarms delay).Perm _ := alarms_wakeAt time
  rw [same, ready, List.filterMap_nil, List.nil_append] at perm
  rwa [alarms.eq_1 delay s, ready, List.filterMap_nil, List.nil_append]

end Alarms

end State

/-- A timer that ends later than before, if not at the same time. -/
def Alarm.Late (before after : Alarm) : Prop :=
  after.generation = before.generation ∧ before.ends ≤ after.ends

theorem Task.alarm?_late {delay now later : Nat} (le : now ≤ later) (task : Task) :
    Option.Rel Alarm.Late (task.alarm? delay now) (task.alarm? delay later) := by
  cases task with
  | countdown generation => exact .some ⟨rfl, Nat.add_le_add_right le delay⟩
  | due generation => exact .some ⟨rfl, le⟩
  | _ => exact .none

theorem State.alarms_late {delay : Nat} {s : State} {time : Nat} (later : s.clock ≤ time) :
    ∃ alarms, ((s.wakeAt time).alarms delay).Perm alarms ∧
      List.Forall₂ Alarm.Late (s.alarms delay) alarms := by
  refine ⟨_, alarms_wakeAt time, List.rel_append ?_ ?_⟩
  · refine List.rel_filterMap (R := Eq) ?_ (List.forall₂_refl _)
    rintro task _ rfl
    exact task.alarm?_late later
  · refine List.rel_filterMap (R := Eq) ?_ (List.forall₂_refl _)
    rintro p _ rfl
    exact p.task.alarm?_late (Nat.le_max_left _ _)

/-- While jobs are in the queue exactly one timer counts, and while there are none no timer does.
How the time at which it ends compares to the time of the last push and the delay after it is a
parameter. -/
structure Debounced (delay : Nat) (compare : Nat → Nat → Prop) (s : State) : Prop where
  /-- The queue holds what was pushed last, in the order of the pushes. -/
  order : s.jobs <:+ s.pushes.map Prod.snd
  idle : s.jobs = [] → s.live delay = []
  live : s.jobs ≠ [] → ∃ push alarm, s.pushes.getLast? = some push ∧ s.live delay = [alarm] ∧
    compare (push.1 + delay) alarm.ends
  past : ∀ alarm ∈ s.alarms delay, alarm.generation ≤ s.generation

namespace Debounced

open State

variable {delay : Nat} {compare : Nat → Nat → Prop} {s t : State}

/-- Timers that do not count may end. -/
theorem of_live (h : Debounced delay compare s) (live : (t.live delay).Perm (s.live delay))
    (alarms : ∀ alarm ∈ t.alarms delay, alarm ∈ s.alarms delay) (jobs : t.jobs = s.jobs)
    (generation : t.generation = s.generation) (pushes : t.pushes = s.pushes) :
    Debounced delay compare t := by
  refine ⟨by rw [jobs, pushes]; exact h.order, fun none => ?_, fun some => ?_, ?_⟩
  · have idle := h.idle (jobs ▸ none)
    exact List.perm_nil.mp (idle ▸ live)
  · obtain ⟨push, alarm, last, one, time⟩ := h.live (jobs ▸ some)
    exact ⟨push, alarm, pushes ▸ last, List.perm_singleton.mp (one ▸ live), time⟩
  · rw [generation]
    exact fun alarm mem => h.past alarm (alarms alarm mem)

theorem of_perm (h : Debounced delay compare s) (alarms : (t.alarms delay).Perm (s.alarms delay))
    (jobs : t.jobs = s.jobs) (generation : t.generation = s.generation)
    (pushes : t.pushes = s.pushes) : Debounced delay compare t := by
  refine h.of_live ?_ (fun _ => alarms.mem_iff.mp) jobs generation pushes
  rw [State.live, generation]
  exact alarms.filter _

/-- When the generation grows, all timers are outdated. -/
theorem filter_outdated (h : Debounced delay compare s) {generation : Nat}
    (grown : s.generation < generation) :
    ((s.alarms delay).filter fun alarm => alarm.generation = generation) = [] := by
  rw [List.filter_eq_nil_iff]
  intro alarm mem
  have := h.past alarm mem
  simp only [decide_eq_true_eq]
  omega

/-- A push outdates all timers and brings one that counts. -/
theorem of_pushed {jobs : List Job} (h : Debounced delay compare s)
    (refl : ∀ time, compare time time) (pushed : Pushed s jobs t) : Debounced delay compare t := by
  have alarms : (t.alarms delay).Perm _ := alarms_pushed pushed
  rcases jobs.eq_nil_or_concat' with rfl | ⟨early, last, rfl⟩
  · refine h.of_perm ?_ ?_ pushed.generation ?_
    · simpa using alarms
    · simpa using pushed.jobs
    · simpa using pushed.pushes
  · have generation : t.generation = s.generation + 1 + early.length := by
      rw [pushed.generation, List.length_append, List.length_singleton]
      omega
    rw [List.length_append, List.length_singleton, List.range'_1_concat, List.map_append,
      List.map_singleton, ← generation] at alarms
    have earlier : (((List.range' (s.generation + 1) early.length).map fun g =>
        (⟨g, s.clock + delay⟩ : Alarm)).filter fun alarm => alarm.generation = t.generation) =
          [] := by
      simp only [List.filter_eq_nil_iff, List.forall_mem_map, List.mem_range'_1,
        decide_eq_true_eq]
      omega
    refine ⟨?_, fun none => ?_, fun _ => ?_, fun alarm mem => ?_⟩
    · obtain ⟨first, split⟩ := h.order
      refine ⟨first, ?_⟩
      rw [pushed.jobs, pushed.pushes, List.map_append, ← split]
      simp
    · simp [pushed.jobs] at none
    · refine ⟨(s.clock, last), ⟨t.generation, s.clock + delay⟩, ?_, ?_, refl _⟩
      · simp [pushed.pushes]
      · have live := alarms.filter fun alarm => alarm.generation = t.generation
        rw [List.filter_append, List.filter_append, h.filter_outdated (by omega), earlier] at live
        simpa [State.live] using live
    · rcases List.mem_append.mp (alarms.mem_iff.mp mem) with old | new
      · have := h.past alarm old
        omega
      · simp only [List.mem_append, List.mem_map, List.mem_range'_1, List.mem_singleton] at new
        rcases new with ⟨g, range, rfl⟩ | rfl
        · dsimp only
          omega
        · exact le_rfl

/-- A flush takes the queue and outdates all timers. -/
theorem of_flush (h : Debounced delay compare s) (alarms : t.alarms delay = s.alarms delay)
    (jobs : t.jobs = []) (generation : t.generation = s.generation + 1) :
    Debounced delay compare t := by
  refine ⟨jobs ▸ List.nil_suffix, fun _ => ?_, fun some => absurd jobs some, fun alarm mem => ?_⟩
  · rw [State.live, alarms]
    exact h.filter_outdated (by omega)
  · have := h.past alarm (alarms ▸ mem)
    omega

/-- The timer that counts ends and takes the queue. -/
theorem of_end (h : Debounced delay compare s)
    (alarms : ∃ ends, s.alarms delay = ⟨s.generation, ends⟩ :: t.alarms delay) (jobs : t.jobs = [])
    (generation : t.generation = s.generation) : Debounced delay compare t := by
  obtain ⟨ends, alarms⟩ := alarms
  have live : s.live delay = ⟨s.generation, ends⟩ :: t.live delay := by
    rw [State.live, alarms, List.filter_cons_of_pos (by simp), State.live, generation]
  refine ⟨jobs ▸ List.nil_suffix, fun _ => ?_, fun some => absurd jobs some, fun alarm mem => ?_⟩
  · have some : s.jobs ≠ [] := by
      intro none
      rw [h.idle none] at live
      exact List.cons_ne_nil _ _ live.symm
    obtain ⟨-, alarm, -, one, -⟩ := h.live some
    rw [live] at one
    exact (List.cons.inj one).2
  · rw [generation]
    exact h.past alarm (alarms ▸ List.mem_cons_of_mem _ mem)

theorem noteStart (h : Debounced delay compare s) (stage : Stage) :
    Debounced delay compare (s.noteStart stage) := by
  refine h.of_perm (.of_eq ?_) (s.noteStart_jobs stage) (s.noteStart_generation stage)
    (s.noteStart_pushes stage)
  simp [alarms]

theorem of_ran {id : Nat} {job : Job} (h : Debounced delay compare s)
    (refl : ∀ time, compare time time) (ran : Ran id job s t) : Debounced delay compare t := by
  have counted (inFlight peak : Nat) :
      Debounced delay compare { s with inFlight := inFlight, peak := peak } :=
    h.of_perm (.refl _) rfl rfl rfl
  cases ran with
  | sleeps inFlight peak duration next pushed =>
    have before := (counted inFlight peak).of_pushed refl pushed
    exact before.of_perm (.of_eq (alarms_sleep (fun _ => rfl) _)) rfl rfl rfl
  | ends inFlight peak pushed =>
    have before := (counted inFlight peak).of_pushed refl pushed
    exact before.of_perm (.of_eq alarms_release) (release_jobs _) (release_generation _)
      (congrArg Ledger.pushes (release_toLedger _))

theorem effect {setup : Setup} (h : Debounced setup.settings.delay compare s)
    (refl : ∀ time, compare time time) (effect : Effect setup s t) :
    Debounced setup.settings.delay compare t := by
  have popped {task : Task} {rest : List Task} (ready : s.ready = task :: rest)
      (none : task.alarm? setup.settings.delay s.clock = none) :
      Debounced setup.settings.delay compare (s.pop rest) := by
    refine h.of_perm ?_ rfl rfl rfl
    rw [alarms_pop ready, none]
    exact .refl _
  cases effect with
  | pushed pushed => exact h.of_pushed refl pushed
  | passed time ready => exact h.of_perm (by simp [alarms, ready, onLedger]) rfl rfl rfl
  | woke time ready first => exact h.of_perm (alarms_wakeAt_of_le ready first) rfl rfl rfl
  | flushed =>
    exact h.of_flush (alarms_drain _) (drain_jobs _ _) (drain_generation _ _)
  | flushesLater => exact h.of_perm (.of_eq (alarms_spawn fun _ => rfl)) rfl rfl rfl
  | counts generation ready =>
    refine h.of_perm ?_ rfl rfl rfl
    rw [alarms_pop ready]
    simp only [alarms, sleep, List.filterMap_append, ← List.append_assoc]
    exact List.perm_append_comm
  | @ended generation timer rest ready ends =>
    have alarms : s.alarms setup.settings.delay =
        ⟨generation, s.clock⟩ :: (s.pop rest).alarms setup.settings.delay := by
      rw [alarms_pop ready]
      rcases ends with rfl | ⟨rfl, none⟩
      · rfl
      · simp [Task.alarm?, none]
    unfold endQuiet
    split
    · next current =>
      obtain rfl : s.generation = generation := current
      refine h.of_end ⟨s.clock, ?_⟩ (drain_jobs _ _) (drain_generation _ _)
      rw [alarms, alarms_drain]
      rfl
    · next other =>
      have stale : ¬generation = s.generation := Ne.symm other
      refine h.of_live (.of_eq ?_) ?_ rfl rfl rfl
      · rw [State.live, State.live, alarms, List.filter_cons_of_neg (by simpa using stale)]
        rfl
      · rw [alarms]
        exact fun _ => List.mem_cons_of_mem _
  | flushes id ready =>
    exact (popped ready rfl).of_flush (alarms_drain _) (drain_jobs _ _) (drain_generation _ _)
  | returned id ready =>
    exact (popped ready rfl).of_perm (.of_eq alarms_release) (release_jobs _)
      (release_generation _) (congrArg Ledger.pushes (release_toLedger _))
  | admitted id job jobs ready =>
    refine (popped ready rfl).of_perm (.of_eq ?_) (by rw [startJobs_eq]; rfl)
      (by rw [startJobs_eq]; rfl) (by rw [startJobs_eq]; rfl)
    rw [alarms_startJobs, alarms_spawn fun _ => rfl]
  | ran id stage ready ran => exact ((popped ready rfl).noteStart stage).of_ran refl ran

theorem wakeAt (h : Debounced delay (· ≤ ·) s) {time : Nat} (later : s.clock ≤ time) :
    Debounced delay (· ≤ ·) (s.wakeAt time) := by
  obtain ⟨alarms, perm, late⟩ : ∃ alarms, ((s.wakeAt time).alarms delay).Perm alarms ∧
      List.Forall₂ Alarm.Late (s.alarms delay) alarms := alarms_late later
  have live : List.Forall₂ Alarm.Late (s.live delay)
      (alarms.filter fun alarm => alarm.generation = s.generation) := by
    refine List.rel_filter ?_ late
    intro before after late
    simp [late.1]
  have counts : ((s.wakeAt time).live delay).Perm
      (alarms.filter fun alarm => alarm.generation = s.generation) := perm.filter _
  refine ⟨h.order, fun none => ?_, fun some => ?_, fun alarm mem => ?_⟩
  · rw [h.idle none, List.forall₂_nil_left_iff] at live
    rw [live] at counts
    exact List.perm_nil.mp counts
  · obtain ⟨push, alarm, last, one, time⟩ := h.live some
    rw [one] at live
    obtain ⟨later, rest, late, none, all⟩ := List.forall₂_cons_left_iff.mp live
    rw [List.forall₂_nil_left_iff.mp none] at all
    rw [all] at counts
    exact ⟨push, later, last, List.perm_singleton.mp counts, time.trans late.2⟩
  · have same : alarms.map Alarm.generation = (s.alarms delay).map Alarm.generation := by
      rw [← List.forall₂_eq_eq_eq, List.forall₂_map_left_iff, List.forall₂_map_right_iff]
      exact late.flip.imp fun _ _ late => late.1
    have old := List.mem_map_of_mem (f := Alarm.generation) (perm.mem_iff.mp mem)
    rw [same] at old
    obtain ⟨before, mem, generation⟩ := List.mem_map.mp old
    exact generation ▸ h.past before mem

theorem initial (settings : Settings) : Debounced delay compare (.initial settings) := by
  refine ⟨List.nil_suffix, fun _ => rfl, fun some => absurd rfl some, ?_⟩
  simp [alarms, State.initial]

theorem reorder (h : Debounced delay compare s) {tasks : List Task} (perm : tasks.Perm s.ready) :
    Debounced delay compare { s with ready := tasks } :=
  h.of_perm ((perm.filterMap _).append_right _) rfl rfl rfl

end Debounced

/-- A drain took all jobs out of the queue. Those in front are about to start, in their order, as
many as there were permits; with the others the drain stands in line. -/
structure TookAll (id : Nat) (s t : State) : Prop where
  jobs : t.jobs = []
  started : ∃ rest, rest <:+ s.ready ∧
    t.ready = rest ++ (s.jobs.take s.free).map fun job => .job id (.start job)
  inLine : t.waiting = s.waiting ++ State.inLine id (s.jobs.drop s.free)

/-- What a turn does to the jobs that wait for the quiet period. -/
inductive QueueTurn (delay : Nat) (s t : State) : Prop where
  | kept : t.jobs = s.jobs → t.generation = s.generation → t.pushes = s.pushes → QueueTurn delay s t
  | pushed (jobs : List Job) : jobs ≠ [] → t.jobs = s.jobs ++ jobs →
      t.generation = s.generation + jobs.length →
      t.pushes = s.pushes ++ jobs.map (fun job => (s.clock, job)) → QueueTurn delay s t
  /-- A flush takes the queue. -/
  | flushed (id : Nat) : TookAll id s t → t.generation = s.generation + 1 → t.pushes = s.pushes →
      QueueTurn delay s t
  /-- The timer that counts takes the queue when it ends. -/
  | fired (id : Nat) (timer : Task) : s.ready.head? = some timer →
      timer.alarm? delay s.clock = some ⟨s.generation, s.clock⟩ →
      s.live delay = [⟨s.generation, s.clock⟩] → TookAll id s t → t.generation = s.generation →
      t.pushes = s.pushes → QueueTurn delay s t

namespace QueueTurn

open State

variable {delay : Nat} {s t : State}

theorem of_jobs (pushed : List Job) (jobs : t.jobs = s.jobs ++ pushed)
    (generation : t.generation = s.generation + pushed.length)
    (pushes : t.pushes = s.pushes ++ pushed.map fun job => (s.clock, job)) :
    QueueTurn delay s t := by
  rcases eq_or_ne pushed [] with rfl | some
  · exact .kept (by simpa using jobs) generation (by simpa using pushes)
  · exact .pushed pushed some jobs generation pushes

theorem tookAll_drain (id : Nat) {r : State} (jobs : r.jobs = s.jobs) (free : r.free = s.free)
    (waiting : r.waiting = s.waiting) (ready : r.ready <:+ s.ready) :
    TookAll id s (drain id r) ∧ (drain id r).generation = r.generation ∧
      (drain id r).pushes = r.pushes := by
  refine ⟨?_, drain_generation id r, congrArg Ledger.pushes (drain_toLedger id r)⟩
  rw [drain_eq, jobs, free, waiting]
  exact ⟨rfl, ⟨r.ready, ready, rfl⟩, rfl⟩

/-- A flush takes the whole queue at once, and outdates every timer. -/
theorem takes_flush (s : State) :
    TookAll s.drains s s.flush ∧ s.flush.generation = s.generation + 1 ∧
      s.flush.pushes = s.pushes :=
  tookAll_drain _ rfl rfl rfl List.suffix_rfl

/-- A flush that runs on its own does so when it starts. -/
theorem takes_startFlush {id : Nat} {rest : List Task} (ready : s.ready = .flush id :: rest) :
    TookAll id s ((s.pop rest).startFlush id) ∧
      ((s.pop rest).startFlush id).generation = s.generation + 1 ∧
      ((s.pop rest).startFlush id).pushes = s.pushes :=
  tookAll_drain _ rfl rfl rfl (ready ▸ List.suffix_cons _ _)

theorem of_ran {id : Nat} {stage : Stage} {rest : List Task}
    (ran : Ran id stage.job ((s.pop rest).noteStart stage) t) : QueueTurn delay s t := by
  have before (inFlight peak : Nat) {jobs : List Job} {u : State}
      (pushed : Pushed { (s.pop rest).noteStart stage with inFlight := inFlight, peak := peak }
        jobs u) :
      u.jobs = s.jobs ++ jobs ∧ u.generation = s.generation + jobs.length ∧
        u.pushes = s.pushes ++ jobs.map fun job => (s.clock, job) := by
    have h := And.intro pushed.jobs (And.intro pushed.generation pushed.pushes)
    simpa [pop] using h
  cases ran with
  | sleeps inFlight peak duration next happened =>
    obtain ⟨jobs, generation, pushes⟩ := before inFlight peak happened
    exact of_jobs [] jobs generation pushes
  | @ends pushed _ inFlight peak happened =>
    obtain ⟨jobs, generation, pushes⟩ := before inFlight peak happened
    refine of_jobs pushed ?_ ?_ ?_
    · rwa [release_jobs]
    · rwa [release_generation]
    · rwa [release_toLedger]

theorem of_effect {setup : Setup} {compare : Nat → Nat → Prop}
    (h : Debounced setup.settings.delay compare s) (effect : Effect setup s t) :
    QueueTurn setup.settings.delay s t := by
  cases effect with
  | pushed pushed => exact of_jobs _ pushed.jobs pushed.generation pushed.pushes
  | passed | woke | flushesLater | counts => exact .kept rfl rfl rfl
  | flushed =>
    obtain ⟨took, generation, pushes⟩ := takes_flush s
    exact .flushed s.drains took generation pushes
  | @ended generation timer rest ready ends =>
    have alarm : timer.alarm? setup.settings.delay s.clock = some ⟨generation, s.clock⟩ := by
      rcases ends with rfl | ⟨rfl, none⟩
      · rfl
      · simp [Task.alarm?, none]
    unfold endQuiet
    split
    · next current =>
      obtain rfl : s.generation = generation := current
      have counts : ⟨s.generation, s.clock⟩ ∈ s.live setup.settings.delay := by
        rw [State.live, alarms_pop ready, alarm]
        simp
      have some : s.jobs ≠ [] := fun none => by simp [h.idle none] at counts
      obtain ⟨-, only, -, one, -⟩ := h.live some
      rw [one, List.mem_singleton] at counts
      obtain ⟨took, generation, pushes⟩ := tookAll_drain (s := s) s.drains
        (r := { s.pop rest with drains := s.drains + 1 }) rfl rfl rfl (ready ▸ List.suffix_cons _ _)
      exact .fired s.drains timer (by simp [ready]) alarm (counts ▸ one) took generation pushes
    · exact .kept rfl rfl rfl
  | flushes id ready =>
    obtain ⟨took, generation, pushes⟩ := takes_startFlush ready
    exact .flushed id took generation pushes
  | returned id ready =>
    exact .kept (release_jobs _) (release_generation _)
      (congrArg Ledger.pushes (release_toLedger _))
  | admitted id job jobs ready =>
    exact .kept (by rw [startJobs_eq]; rfl) (by rw [startJobs_eq]; rfl) (by rw [startJobs_eq]; rfl)
  | ran id stage ready ran => exact of_ran ran

end QueueTurn

/-- In every run exactly one timer counts while jobs are in the queue, and it ends no earlier than
the delay after the last push. -/
theorem ReachableInAnyOrder.at_most_late {setup : Setup} {s : State}
    (h : ReachableInAnyOrder setup s) : Debounced setup.settings.delay (· ≤ ·) s := by
  refine h.induction (.initial _) fun s t _ turn ih => ?_
  cases turn with
  | move move => exact ih.effect Nat.le_refl move.effect
  | reorder tasks perm => exact ih.reorder perm
  | elapse time later => exact ih.wakeAt later

/-- On a runtime that keeps its order and needs no time for tasks, the timer that counts ends
exactly when the delay after the last push is over. -/
theorem Reachable.on_time {setup : Setup} {s : State} (h : Reachable setup s) :
    Debounced setup.settings.delay (· = ·) s := by
  induction h with
  | initial => exact .initial _
  | move _ move ih => exact ih.effect (fun _ => rfl) move.effect

theorem ReachableInAnyOrder.queueTurn {setup : Setup} {s t : State}
    (h : ReachableInAnyOrder setup s) (turn : Turn setup s t) :
    QueueTurn setup.settings.delay s t := by
  cases turn with
  | move move => exact .of_effect h.at_most_late move.effect
  | reorder | elapse => exact .kept rfl rfl rfl

/-- While the generation stays the same, nothing is pushed and nothing is flushed: the jobs stay in
the queue, unless the timer that counts ends. -/
theorem QueueTurn.generation_le {delay : Nat} {s t : State} (turn : QueueTurn delay s t) :
    s.generation ≤ t.generation ∧
      (t.generation = s.generation → t.pushes = s.pushes ∧ (t.jobs = s.jobs ∨ t.jobs = [])) := by
  cases turn with
  | kept jobs generation pushes => exact ⟨generation.ge, fun _ => ⟨pushes, .inl jobs⟩⟩
  | pushed jobs some _ generation =>
    have := List.length_pos_of_ne_nil some
    exact ⟨by omega, by omega⟩
  | flushed id took generation => exact ⟨by omega, by omega⟩
  | fired id timer _ _ _ took generation pushes =>
    exact ⟨generation.ge, fun _ => ⟨pushes, .inr took.jobs⟩⟩

theorem ReachableInAnyOrder.generation_le {setup : Setup} {s t : State}
    (h : ReachableInAnyOrder setup s) (later : Later setup s t) :
    s.generation ≤ t.generation ∧
      (t.generation = s.generation → t.pushes = s.pushes ∧ (t.jobs = s.jobs ∨ t.jobs = [])) := by
  induction later with
  | refl => exact ⟨le_rfl, fun _ => ⟨rfl, .inl rfl⟩⟩
  | @tail t u before turn ih =>
    obtain ⟨le, kept⟩ := ih
    obtain ⟨le', kept'⟩ := ((h.later before).queueTurn turn).generation_le
    refine ⟨le.trans le', fun same => ?_⟩
    obtain ⟨pushes, jobs⟩ := kept (le_antisymm (same ▸ le') le)
    obtain ⟨pushes', jobs'⟩ := kept' (le_antisymm (same ▸ le) le')
    refine ⟨pushes'.trans pushes, ?_⟩
    rcases jobs' with jobs' | jobs'
    · rwa [jobs']
    · exact .inr jobs'

/-- A timer that does not count takes nothing when it ends, and ends unheard or sleeps. -/
theorem State.step?_of_stale {setup : Setup} {s t : State} {timer : Task} {rest : List Task}
    {alarm : Alarm} (ready : s.ready = timer :: rest)
    (ends : timer.alarm? setup.settings.delay s.clock = some alarm)
    (stale : alarm.generation ≠ s.generation) (step : s.step? setup = some t) :
    t.jobs = s.jobs ∧ t.free = s.free ∧ t.waiting = s.waiting ∧ t.ready = rest := by
  have endQuiet (generation : Nat) (other : generation ≠ s.generation) :
      (s.pop rest).endQuiet generation = s.pop rest := if_neg (Ne.symm other)
  rw [step?, ready] at step
  obtain rfl := Option.some.inj step
  cases timer with
  | countdown generation =>
    obtain rfl := Option.some.inj ends
    simp only [runTask, sleepThen]
    split
    · exact (endQuiet generation stale).symm ▸ ⟨rfl, rfl, rfl, rfl⟩
    · exact ⟨rfl, rfl, rfl, rfl⟩
  | due generation =>
    obtain rfl := Option.some.inj ends
    have same : runTask setup (.due generation) (s.pop rest) = s.pop rest :=
      endQuiet generation stale
    exact same.symm ▸ ⟨rfl, rfl, rfl, rfl⟩
  | flush | admitted | job => cases ends

/-- The timer that counts takes the whole queue when it ends. -/
theorem State.step?_of_current {setup : Setup} {s t : State} {timer : Task} {rest : List Task}
    (ready : s.ready = timer :: rest)
    (ends : timer.alarm? setup.settings.delay s.clock = some ⟨s.generation, s.clock⟩)
    (step : s.step? setup = some t) :
    TookAll s.drains s t ∧ t.generation = s.generation ∧ t.pushes = s.pushes := by
  have endQuiet : (s.pop rest).endQuiet s.generation =
      drain s.drains { s.pop rest with drains := s.drains + 1 } := if_pos rfl
  have ran : t = (s.pop rest).endQuiet s.generation := by
    rw [step?, ready] at step
    obtain rfl := Option.some.inj step
    cases timer with
    | countdown generation =>
      obtain ⟨rfl, now⟩ := Alarm.mk.inj (Option.some.inj ends)
      have none : setup.settings.delay = 0 := by omega
      exact if_pos none
    | due generation =>
      obtain ⟨rfl, -⟩ := Alarm.mk.inj (Option.some.inj ends)
      rfl
    | flush | admitted | job => cases ends
  rw [ran, endQuiet]
  exact QueueTurn.tookAll_drain _ rfl rfl rfl (ready ▸ List.suffix_cons _ _)

/-- A new object that joins a bucket in flight pushes nothing, and leaves the timers alone. -/
theorem State.enqueue_of_inFlight {s : State} {object : Nat} {b : Bucket}
    (new : (s.record object).isNew = true)
    (found : s.bucket? (.ofSaveable (s.saveable object)) = some b) (flying : b.inFlight = true) :
    Pushed s [] (s.enqueue object) := by
  have counted : Pushed s [] { s with handles := s.handles + 1 } := { Pushed.refl s with }
  have busy : ((s.bucket? (.ofSaveable (s.saveable object))).map Bucket.inFlight).getD false =
      true := by
    rw [found]
    exact flying
  unfold enqueue
  dsimp only
  rw [if_pos new]
  split
  · exact ((counted.before (.ensureBucket _ _)).before (.note _ rfl rfl)).before
      (.modifyBucket _ _ _)
  · next idle => exact absurd busy idle

/-- While jobs are in the queue exactly one timer counts, and it ends the delay after the last push:
at that very time, or no earlier on a runtime that promises less. When it ends, one drain takes all
jobs, in the order of the pushes; no other timer takes anything when it ends. A flush takes all jobs
at once and makes the generation grow, which outdates every timer, and so does a flush that runs on
its own when it starts. Each turn keeps the jobs, pushes more, or has one drain take all of them;
that drain belongs to a flush or to the timer that counts, which ends then. While the generation
stays the same there is no push and no flush. A job is in the queue, with a drain or started as
often as it was pushed. A new object that joins a bucket in flight pushes nothing and leaves the
timers as they are. -/
theorem ReachableInAnyOrder.taken_after_quiet {setup : Setup} {s : State}
    (h : ReachableInAnyOrder setup s) :
    Debounced setup.settings.delay (· ≤ ·) s ∧
      (Reachable setup s → Debounced setup.settings.delay (· = ·) s) ∧
      (∀ timer rest alarm t, s.ready = timer :: rest →
        timer.alarm? setup.settings.delay s.clock = some alarm →
        alarm.generation ≠ s.generation → s.step? setup = some t →
        t.jobs = s.jobs ∧ t.free = s.free ∧ t.waiting = s.waiting ∧ t.ready = rest) ∧
      (∀ timer rest t, s.ready = timer :: rest →
        timer.alarm? setup.settings.delay s.clock = some ⟨s.generation, s.clock⟩ →
        s.step? setup = some t →
        TookAll s.drains s t ∧ t.generation = s.generation ∧ t.pushes = s.pushes) ∧
      (TookAll s.drains s s.flush ∧ s.flush.generation = s.generation + 1 ∧
        s.flush.pushes = s.pushes) ∧
      (∀ id rest t, s.ready = .flush id :: rest → s.step? setup = some t →
        TookAll id s t ∧ t.generation = s.generation + 1 ∧ t.pushes = s.pushes) ∧
      (∀ t, Turn setup s t → QueueTurn setup.settings.delay s t) ∧
      (∀ t, Later setup s t → s.generation ≤ t.generation ∧
        (t.generation = s.generation → t.pushes = s.pushes ∧ (t.jobs = s.jobs ∨ t.jobs = []))) ∧
      (s.pushes.map Prod.snd).Perm (s.jobs ++ s.drained ++ s.starts.map Prod.snd) ∧
      ∀ object b, (s.record object).isNew = true →
        s.bucket? (.ofSaveable (s.saveable object)) = some b → b.inFlight = true →
        Pushed s [] (s.enqueue object) := by
  refine ⟨h.at_most_late, fun ordered => ordered.on_time, ?_, ?_, QueueTurn.takes_flush s, ?_,
    fun t => h.queueTurn, fun t => h.generation_le, h.pushes_perm, ?_⟩
  · intro timer rest alarm t ready ends stale step
    exact State.step?_of_stale ready ends stale step
  · intro timer rest t ready ends step
    exact State.step?_of_current ready ends step
  · intro id rest t ready step
    rw [State.step?, ready] at step
    exact Option.some.inj step ▸ QueueTurn.takes_startFlush ready
  · intro object b new found flying
    exact State.enqueue_of_inFlight new found flying

/-- Two direct saves are enqueued at once: the first timer is outdated, and the second ends after
the delay. -/
theorem second_timer_counts :
    let setup := Setup.echoing { delayMs := 10 }
    let s := setup.after [⟨{}, false, 0, none⟩, ⟨{}, false, 0, none⟩] 2
    s.alarms 10 = [⟨1, 10⟩, ⟨2, 10⟩] ∧ ∃ push, s.pushes.getLast? = some push ∧
      s.live 10 = [⟨2, 10⟩] ∧ push.1 + 10 = 10 := by
  intro setup s
  have some : s.jobs ≠ [] := by decide +kernel
  have alarms : s.alarms 10 = [⟨1, 10⟩, ⟨2, 10⟩] := by decide +kernel
  have live : s.live 10 = [⟨2, 10⟩] := by decide +kernel
  have reachable : Reachable setup s := Setup.reachable_after _ _ _
  obtain ⟨push, alarm, last, one, time⟩ :=
    (reachable.inAnyOrder.taken_after_quiet.2.1 reachable).live some
  obtain rfl : alarm = ⟨2, 10⟩ := by
    rw [show setup.settings.delay = 10 from rfl, live] at one
    exact (List.cons.inj one).1.symm
  exact ⟨alarms, push, last, live, time⟩

end Writeback.Queue
