import Mathlib.Data.List.Induction
import Writeback.Queue.Reachable

/-!
# Runs by their actions

A run is settled by the setup and by what is chosen outside of the machine: what the callers ask
for, when the machine takes a step, in which order the tasks stand that can run, and how time
passes. A list of actions names these choices. So every run has one, and two queues can be given
the same.
-/

namespace Writeback.Queue

/-- What is chosen next in a run. -/
inductive Action where
  | create (record : Record)
  | enqueue (object : Nat)
  | flush
  | flushLater
  | step
  | wait (time : Nat)
  | reorder (tasks : List Task)
  | elapse (time : Nat)

/-- The state after an action, if that is possible. -/
def State.perform? (setup : Setup) (s : State) : Action → Option State
  | .create record => some (s.addRecord record)
  | .enqueue object => if object < s.records.length then some (s.enqueue object) else none
  | .flush => some s.flush
  | .flushLater => some s.flushLater
  | .step => s.step? setup
  | .wait time =>
    if s.ready = [] ∧ s.clock ≤ time ∧ ∀ p ∈ s.sleeping, time ≤ p.due then
      some (s.onLedger fun l => { l with clock := time })
    else none
  | .reorder tasks => if tasks.Perm s.ready then some { s with ready := tasks } else none
  | .elapse time => if s.clock ≤ time then some (s.wakeAt time) else none

/-- The state after some actions, if these are possible. -/
def Setup.run? (setup : Setup) (actions : List Action) : Option State :=
  actions.foldlM (State.perform? setup) (.initial setup.settings)

variable {setup : Setup}

theorem State.turn_iff {s t : State} :
    Turn setup s t ↔ ∃ action, s.perform? setup action = some t := by
  constructor
  · rintro (move | ⟨tasks, perm⟩ | ⟨time, later⟩)
    · cases move with
      | create record => exact ⟨.create record, rfl⟩
      | enqueue object known => exact ⟨.enqueue object, if_pos known⟩
      | flush => exact ⟨.flush, rfl⟩
      | flushLater => exact ⟨.flushLater, rfl⟩
      | step _ step => exact ⟨.step, step⟩
      | wait time ready later asleep => exact ⟨.wait time, if_pos ⟨ready, later, asleep⟩⟩
    · exact ⟨.reorder tasks, if_pos perm⟩
    · exact ⟨.elapse time, if_pos later⟩
  · rintro ⟨action, performed⟩
    cases action with
    | create record =>
      cases performed
      exact .move (.create s record)
    | enqueue object =>
      obtain ⟨known, performed⟩ := Option.ite_none_right_eq_some.mp performed
      cases performed
      exact .move (.enqueue s object known)
    | flush =>
      cases performed
      exact .move (.flush s)
    | flushLater =>
      cases performed
      exact .move (.flushLater s)
    | step => exact .move (.step s t performed)
    | wait time =>
      obtain ⟨⟨ready, later, asleep⟩, performed⟩ := Option.ite_none_right_eq_some.mp performed
      cases performed
      exact .move (.wait s time ready later asleep)
    | reorder tasks =>
      obtain ⟨perm, performed⟩ := Option.ite_none_right_eq_some.mp performed
      cases performed
      exact .reorder s tasks perm
    | elapse time =>
      obtain ⟨later, performed⟩ := Option.ite_none_right_eq_some.mp performed
      cases performed
      exact .elapse s time later

namespace Setup

theorem run?_concat (actions : List Action) (action : Action) :
    setup.run? (actions ++ [action]) =
      (setup.run? actions).bind fun s => s.perform? setup action := by
  simp [run?, List.foldlM_append]

/-- What holds before anything happened and is kept by every action holds after any actions. -/
theorem run?_induction {P : List Action → State → Prop} (initial : P [] (.initial setup.settings))
    (perform : ∀ actions s action t, setup.run? actions = some s → P actions s →
      s.perform? setup action = some t → P (actions ++ [action]) t)
    {actions : List Action} {s : State} (run : setup.run? actions = some s) : P actions s := by
  induction actions using List.reverseRecOn generalizing s with
  | nil =>
    cases run
    exact initial
  | append_singleton actions action ih =>
    rw [run?_concat] at run
    obtain ⟨r, before, performed⟩ := Option.bind_eq_some_iff.mp run
    exact perform actions r action s before (ih before) performed

/-- The states that actions lead to are those of the runs. -/
theorem reachable_iff {s : State} :
    ReachableInAnyOrder setup s ↔ ∃ actions, setup.run? actions = some s := by
  constructor
  · refine ReachableInAnyOrder.induction (P := fun s => ∃ actions, setup.run? actions = some s)
      ⟨[], rfl⟩ ?_
    rintro s t - turn ⟨actions, run⟩
    obtain ⟨action, performed⟩ := State.turn_iff.mp turn
    exact ⟨actions ++ [action], by rw [run?_concat, run, Option.bind_some, performed]⟩
  · rintro ⟨actions, run⟩
    refine run?_induction (P := fun _ => ReachableInAnyOrder setup) .initial ?_ run
    intro _ s action t _ reachable performed
    exact reachable.turn (State.turn_iff.mpr ⟨action, performed⟩)

end Setup

end Writeback.Queue
