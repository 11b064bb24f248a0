/-!
# Measuring network operations

A timer runs while a request or a direct save is out. Ending it with success or failure gives one
measurement, if the tracker in use keeps them; dropping it gives none. Nothing in the queue depends
on what a tracker does.
-/

namespace Writeback

inductive Action where
  /-- The creation of this many objects in one batch. -/
  | create (count : Nat)
  | update
deriving DecidableEq, Repr

def Action.text : Action → String
  | create count => "Create " ++ toString count ++ " object(s)"
  | update => "Update object"

/-- The name of the journey that all operations of the queue belong to. -/
def journeyText : String := "API"

structure Timer where
  label : String
  action : Action
  since : Nat
deriving DecidableEq, Repr

inductive Ending where
  | stopped
  | failed
  | dropped
deriving DecidableEq, Repr

structure Measurement where
  label : String
  action : Action
  failed : Bool
  since : Nat
  till : Nat
deriving DecidableEq, Repr

inductive Tracker where
  | recording
  /-- Measurements are discarded or only shown elsewhere. -/
  | silent
deriving DecidableEq, Repr

/-- The measurement kept when a timer ends at the given time. -/
def Tracker.finish? (tracker : Tracker) (timer : Timer) (ending : Ending) (now : Nat) :
    Option Measurement :=
  match tracker, ending with
  | recording, .stopped => some ⟨timer.label, timer.action, false, timer.since, now⟩
  | recording, .failed => some ⟨timer.label, timer.action, true, timer.since, now⟩
  | _, _ => none

/-- Timers numbered from zero in the order they were started, and what was kept so far. -/
structure Stopwatch where
  tracker : Tracker
  timers : List Timer := []
  log : List Measurement := []
deriving Repr

namespace Stopwatch

def start (w : Stopwatch) (timer : Timer) : Stopwatch :=
  { w with timers := w.timers ++ [timer] }

def finish (w : Stopwatch) (number : Nat) (ending : Ending) (now : Nat) : Stopwatch :=
  match w.timers[number]? with
  | some timer => { w with log := w.log ++ (w.tracker.finish? timer ending now).toList }
  | none => w

end Stopwatch

end Writeback
