/-!
# Finite 64-bit floating-point numbers

A value is kept as sign, significand and unit, where the unit is a power of two counted from the
smallest one, `2 ^ (-1074)`. The fields are in canonical form, so equal fields mean the same
number and the same sign of zero. Infinities and not-a-number are not covered: no document can
hold them.

`ofMagnitude?` rounds an exact fraction to the nearest value, a tie to the even significand, and
refuses what is too large. Every number here is exact, so nothing depends on the hardware.
-/

namespace Writeback

/-- A finite number `± significand * 2 ^ (unit - 1074)`. -/
structure Binary64 where
  negative : Bool
  significand : Nat
  unit : Nat
  significand_lt : significand < Nat.pow 2 53
  normal : Nat.pow 2 52 ≤ significand ∨ unit = 0
  unit_le : unit ≤ 2045
deriving DecidableEq, Repr

namespace Binary64

/-- How many multiples of `2 ^ (-1074)` make one. -/
def scale : Nat := Nat.pow 2 1074

/-- The distance from zero, in multiples of `2 ^ (-1074)`. -/
def magnitude (x : Binary64) : Nat := x.significand * Nat.pow 2 x.unit

/-- The value, in multiples of `2 ^ (-1074)`. Both zeros have the value zero. -/
def scaled (x : Binary64) : Int :=
  if x.negative then -(x.magnitude : Int) else (x.magnitude : Int)

def zero (negative : Bool) : Binary64 where
  negative := negative
  significand := 0
  unit := 0
  significand_lt := by decide
  normal := .inr rfl
  unit_le := by decide

/-- The quotient rounded to the nearest natural number, a tie to the even one. -/
def roundDiv (num den : Nat) : Nat :=
  let q := num / den
  let r := num % den
  if 2 * r < den then q else if den < 2 * r then q + 1 else q + q % 2

/-- The unit of the largest significand that does not exceed `q` multiples of `2 ^ (-1074)`. -/
def unitFor (q : Nat) : Nat := Nat.log2 q - 52

/-- The number with these fields when they are canonical and in range. -/
def make? (negative : Bool) (significand unit : Nat) : Option Binary64 :=
  if h : significand < Nat.pow 2 53 ∧ (Nat.pow 2 52 ≤ significand ∨ unit = 0) ∧ unit ≤ 2045 then
    some ⟨negative, significand, unit, h.1, h.2.1, h.2.2⟩
  else
    none

/-- The nearest number to `num / den` multiples of `2 ^ (-1074)`; none when it is too large. -/
def ofMagnitude? (negative : Bool) (num den : Nat) : Option Binary64 :=
  let unit := unitFor (num / den)
  let significand := roundDiv num (den * Nat.pow 2 unit)
  -- Rounding up may reach the next power of two, which has the next unit.
  if significand = Nat.pow 2 53 then make? negative (Nat.pow 2 52) (unit + 1)
  else make? negative significand unit

/-- The nearest number to `± num / den`. -/
def ofRatio? (negative : Bool) (num den : Nat) : Option Binary64 :=
  ofMagnitude? negative (num * scale) den

/-- The value as an integer, when it is one. -/
def toInt? (x : Binary64) : Option Int :=
  if x.scaled % scale = 0 then some (x.scaled / scale) else none

end Binary64

end Writeback
