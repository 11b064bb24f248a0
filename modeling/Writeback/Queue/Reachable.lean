import Mathlib.Logic.Relation
import Writeback.Queue.Run
import Writeback.Queue.Shutdown

/-!
# The runs of the queue

A run is any finite sequence of moves: a caller creates, enqueues and flushes at any moment between
two steps of the machine, and time may pass as long as no task can run and no sleeper is overdue.
The transport, the hooks and the settings are those of the setup and of the objects, whatever they
are. Serializations, hooks and direct saves are assumed not to call back into the queue, so that a
caller's moves lie between two steps and never inside one. `Reachable` holds of the states in runs
whose flushes are all awaited; in `ReachableInAnyOrder` the runtime moreover keeps no order among
tasks and needs time for them.
-/

namespace Writeback.Queue

/-- One move of a run. -/
inductive Move (setup : Setup) : State → State → Prop where
  /-- An object comes into being. -/
  | create (s : State) (record : Record) : Move setup s (s.addRecord record)
  /-- An object is enqueued. -/
  | enqueue (s : State) (object : Nat) : object < s.records.length →
      Move setup s (s.enqueue object)
  /-- A caller flushes. -/
  | flush (s : State) : Move setup s s.flush
  /-- A caller has a flush run on its own. -/
  | flushLater (s : State) : Move setup s s.flushLater
  /-- The machine takes a step. -/
  | step (s t : State) : s.step? setup = some t → Move setup s t
  /-- Time passes while nothing can run. -/
  | wait (s : State) (time : Nat) : s.ready = [] → s.clock ≤ time →
      (∀ p ∈ s.sleeping, time ≤ p.due) →
      Move setup s (s.onLedger fun l => { l with clock := time })

/-- The states of the runs in which every flush is awaited. -/
inductive Reachable (setup : Setup) : State → Prop where
  | initial : Reachable setup (.initial setup.settings)
  | move {s t : State} : Reachable setup s → Move setup s t → Reachable setup t

/-- The states of the runs on a runtime that promises no order: every flush is awaited, the tasks
that can run stand in any order, and time passes while they do. -/
inductive ReachableInAnyOrder (setup : Setup) : State → Prop where
  | initial : ReachableInAnyOrder setup (.initial setup.settings)
  | move {s t : State} : ReachableInAnyOrder setup s → Move setup s t → ReachableInAnyOrder setup t
  /-- The tasks that can run change places. -/
  | reorder {s : State} (tasks : List Task) : ReachableInAnyOrder setup s → tasks.Perm s.ready →
      ReachableInAnyOrder setup { s with ready := tasks }
  /-- Time passes, and the sleepers that are due by then can run. -/
  | elapse {s : State} (time : Nat) : ReachableInAnyOrder setup s → s.clock ≤ time →
      ReachableInAnyOrder setup (s.wakeAt time)

/-- A move of a run on a runtime that promises no order. -/
inductive Turn (setup : Setup) : State → State → Prop where
  | move {s t : State} : Move setup s t → Turn setup s t
  | reorder (s : State) (tasks : List Task) : tasks.Perm s.ready →
      Turn setup s { s with ready := tasks }
  | elapse (s : State) (time : Nat) : s.clock ≤ time → Turn setup s (s.wakeAt time)

/-- The states that some number of turns leads to. -/
abbrev Later (setup : Setup) : State → State → Prop := Relation.ReflTransGen (Turn setup)

theorem ReachableInAnyOrder.turn {setup : Setup} {s t : State} (h : ReachableInAnyOrder setup s)
    (turn : Turn setup s t) : ReachableInAnyOrder setup t := by
  cases turn with
  | move move => exact h.move move
  | reorder tasks perm => exact h.reorder tasks perm
  | elapse time later => exact h.elapse time later

theorem ReachableInAnyOrder.later {setup : Setup} {s t : State} (h : ReachableInAnyOrder setup s)
    (later : Later setup s t) : ReachableInAnyOrder setup t := by
  induction later with
  | refl => exact h
  | tail _ turn ih => exact ih.turn turn

/-- What holds of the queue before anything happened and is kept by every turn holds in every
run. -/
theorem ReachableInAnyOrder.induction {setup : Setup} {P : State → Prop}
    (initial : P (.initial setup.settings))
    (turn : ∀ s t, ReachableInAnyOrder setup s → Turn setup s t → P s → P t) {s : State}
    (h : ReachableInAnyOrder setup s) : P s := by
  induction h with
  | initial => exact initial
  | move before move ih => exact turn _ _ before (.move move) ih
  | reorder tasks before perm ih => exact turn _ _ before (.reorder _ tasks perm) ih
  | elapse time before later ih => exact turn _ _ before (.elapse _ time later) ih

/-- A runtime that promises no order may keep one. -/
theorem Reachable.inAnyOrder {setup : Setup} {s : State} (h : Reachable setup s) :
    ReachableInAnyOrder setup s := by
  induction h with
  | initial => exact .initial
  | move _ step ih => exact .move ih step

theorem Reachable.moves {setup : Setup} {s t : State} (h : Reachable setup s)
    (moves : Relation.ReflTransGen (Move setup) s t) : Reachable setup t := by
  induction moves with
  | refl => exact h
  | tail _ move ih => exact ih.move move

/-- Letting the machine run is a number of moves. -/
theorem State.moves_runSteps (setup : Setup) (finished : State → Bool) (fuel : Nat) (s : State) :
    Relation.ReflTransGen (Move setup) s (s.runSteps setup finished fuel) := by
  induction fuel generalizing s with
  | zero => exact .refl
  | succ fuel ih =>
    unfold State.runSteps
    split
    · exact .refl
    · split
      · next t step => exact .head (.step s t step) (ih t)
      · exact .refl

theorem Reachable.runSteps {setup : Setup} {s : State} (h : Reachable setup s)
    (finished : State → Bool) (fuel : Nat) : Reachable setup (s.runSteps setup finished fuel) :=
  h.moves (s.moves_runSteps setup finished fuel)

/-- A caller creates objects and enqueues each. -/
def State.submit (s : State) (records : List Record) : State :=
  records.foldl (fun s record => (s.addRecord record).enqueue s.records.length) s

theorem Reachable.submit {setup : Setup} {s : State} (h : Reachable setup s)
    (records : List Record) : Reachable setup (s.submit records) := by
  induction records generalizing s with
  | nil => exact h
  | cons record rest ih =>
    refine ih (.move (.move h (.create s record)) (.enqueue (s.addRecord record) _ ?_))
    simp [State.addRecord, State.onLedger]

/-- A queue whose transport creates every item as it is. -/
def Setup.echoing (settings : Settings) : Setup where
  settings := settings
  transport := .scripted {}

/-- The state of the queue after objects were enqueued at once and so many steps were taken. -/
def Setup.after (setup : Setup) (records : List Record) (steps : Nat) : State :=
  ((State.initial setup.settings).submit records).runSteps setup (fun _ => false) steps

theorem Setup.reachable_after (setup : Setup) (records : List Record) (steps : Nat) :
    Reachable setup (setup.after records steps) :=
  (Reachable.initial.submit records).runSteps _ steps

/-- The tasks that can run and those that sleep. -/
def State.tasks (s : State) : List Task := s.ready ++ s.sleeping.map Sleeper.task

/-- Nothing is left to do: no task can run, sleeps, or waits for an answer. -/
def State.Quiescent (s : State) : Prop := s.ready = [] ∧ s.sleeping = []

instance (s : State) : Decidable s.Quiescent :=
  decidable_of_iff (s.ready.isEmpty = true ∧ s.sleeping.isEmpty = true)
    (by simp [State.Quiescent, List.isEmpty_iff])

theorem State.Quiescent.tasks {s : State} (quiescent : s.Quiescent) : s.tasks = [] := by
  simp [State.tasks, quiescent.1, quiescent.2]

/-- No step is left exactly when the queue is quiescent. -/
theorem State.step?_eq_none_iff {setup : Setup} {s : State} :
    s.step? setup = none ↔ s.Quiescent := by
  unfold State.step? State.Quiescent
  cases s.ready with
  | cons task rest => simp
  | nil =>
    cases hs : s.sleeping with
    | nil => simp [State.nextDue?, hs]
    | cons p rest => simp [State.nextDue?, hs, List.min?_cons]

end Writeback.Queue
