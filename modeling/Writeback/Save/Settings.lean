import Writeback.Json.Shape

/-!
# Settings of the save queue

The queue waits for a quiet period before it sends anything, runs a limited number of jobs at the
same time, and puts a limited number of objects into a foreground batch. Both limits count as one
when they are set to zero. All three settings are unsigned 64-bit numbers.
-/

namespace Writeback

structure Settings where
  /-- The quiet period, in milliseconds. -/
  delayMs : UInt64 := 100
  /-- How many jobs may run at the same time. -/
  maxInstances : UInt64 := 3
  batchSize : UInt64 := 1000
deriving DecidableEq, Repr

instance : Inhabited Settings := ⟨{}⟩

namespace Settings

def delay (s : Settings) : Nat := s.delayMs.toNat

/-- The quiet period as whole seconds and the milliseconds that are left. -/
def delayParts (s : Settings) : Nat × Nat := (s.delay / 1000, s.delay % 1000)

/-- How many jobs run at the same time, at least one. -/
def permits (s : Settings) : Nat := max 1 s.maxInstances.toNat

/-- How many objects a foreground batch holds, at least one. -/
def batchLimit (s : Settings) : Nat := max 1 s.batchSize.toNat

theorem permits_pos (s : Settings) : 0 < s.permits :=
  Nat.lt_of_lt_of_le Nat.zero_lt_one (Nat.le_max_left _ _)

theorem batchLimit_pos (s : Settings) : 0 < s.batchLimit :=
  Nat.lt_of_lt_of_le Nat.zero_lt_one (Nat.le_max_left _ _)

def toJson (s : Settings) : Json :=
  .object [("delay_ms", .nat s.delayMs.toNat), ("max_instances", .nat s.maxInstances.toNat),
    ("batch_size", .nat s.batchSize.toNat)]

/-- Reads an unsigned 64-bit number that messages name by its width. -/
def readWord (width : Width) (x : Json) : Except ShapeError UInt64 := do
  return UInt64.ofNat (← Reader.natural width x)

/-- The record form: three numbers, each of which has a default. -/
def reader : RecordReader Settings Settings where
  name := "SaveQueueConfig"
  fields := [
    ("delay_ms", fun x s => do return { s with delayMs := ← readWord .unsigned64 x }),
    ("max_instances", fun x s => do return { s with maxInstances := ← readWord .count x }),
    ("batch_size", fun x s => do return { s with batchSize := ← readWord .count x })]
  empty := {}
  finish := .ok
  defaults := true

end Settings

end Writeback
