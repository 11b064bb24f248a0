import Writeback.Number.Binary64

/-!
# Decimal text of floating-point numbers

`Binary64.shortest` chooses the fewest significant digits that read back as the same number and,
among those, the nearest. It looks for a point of the decimal grid inside the interval of values
that round to the number, on coarser grids first; all comparisons are between natural numbers.

`FloatStyle` holds the decisions of the written form: where positional notation ends, and how an
exponent is written. `ofDecimal?` reads a decimal fraction with an exponent back.
-/

namespace Writeback

/-- The value `digits * 10 ^ exponent`. -/
structure Decimal where
  digits : Nat
  exponent : Int
deriving DecidableEq, Repr

namespace Decimal

/-- Trailing zeros moved into the exponent; the fuel bounds how many. -/
def trim (fuel : Nat) (d : Decimal) : Decimal :=
  match fuel with
  | 0 => d
  | fuel + 1 => if d.digits % 10 = 0 then trim fuel ⟨d.digits / 10, d.exponent + 1⟩ else d

end Decimal

namespace Binary64

/-- The interval of values that round to `x`, in multiples of `2 ^ (-1076)`. Just above a power of
two the numbers below are twice as dense as those above. -/
def interval (x : Binary64) : Nat × Nat :=
  let below := if x.significand = Nat.pow 2 52 ∧ 0 < x.unit then 1 else 2
  ((4 * x.significand - below) * Nat.pow 2 x.unit, (4 * x.significand + 2) * Nat.pow 2 x.unit)

/-- The factors that bring `x` and the grid of step `10 ^ k` to a common integer scale: a point
`d` of the grid stands at `d * grid` and `x` at `4 * magnitude * binary`. -/
def scales (k : Int) : Nat × Nat :=
  (Nat.pow 10 k.toNat * Nat.pow 2 1076, Nat.pow 10 (-k).toNat)

/-- Whether the grid point `d * 10 ^ k` rounds to `x`; the ends belong to an even significand. -/
def admits (x : Binary64) (k : Int) (d : Nat) : Bool :=
  let (grid, binary) := scales k
  let (low, high) := x.interval
  if x.significand % 2 = 0 then
    decide (low * binary ≤ d * grid ∧ d * grid ≤ high * binary)
  else
    decide (low * binary < d * grid ∧ d * grid < high * binary)

/-- The grid point nearest to `x` among its two neighbours that round to `x`; a tie goes to the
even point. -/
def onGrid? (x : Binary64) (k : Int) : Option Nat :=
  let (grid, binary) := scales k
  let exact := 4 * x.magnitude * binary
  let low := exact / grid
  let high := low + 1
  match x.admits k low, x.admits k high with
  | true, true =>
    let down := exact - low * grid
    let up := high * grid - exact
    if down < up then some low
    else if up < down then some high
    else some (if low % 2 = 0 then low else high)
  | true, false => some low
  | false, true => some high
  | false, false => none

/-- The largest `e` from a downward search with `10 ^ e` at most the magnitude. -/
def leadingFrom (x : Binary64) : Nat → Int → Int
  | 0, e => e
  | fuel + 1, e =>
    let (grid, binary) := scales e
    if grid ≤ 4 * x.magnitude * binary then e else leadingFrom x fuel (e - 1)

/-- The decimal exponent of the leading digit of a number other than zero. It is estimated from
the length of the binary form, from above, and then corrected downwards. -/
def leading (x : Binary64) : Int :=
  let bits : Int := (Nat.log2 x.magnitude : Int) - 1074
  leadingFrom x 3 (bits * 30103 / 100000 + 1)

/-- The first hit on the grids for `n`, `n + 1`, … significant digits. -/
def search (x : Binary64) (top : Int) : Nat → Nat → Decimal
  | 0, n => ⟨(x.onGrid? (top - n + 1)).getD 0, top - n + 1⟩
  | fuel + 1, n =>
    match x.onGrid? (top - n + 1) with
    | some d => ⟨d, top - n + 1⟩
    | none => search x top fuel (n + 1)

/-- The fewest digits that read back as a number other than zero. Seventeen always suffice. -/
def shortest (x : Binary64) : Decimal :=
  (search x x.leading 16 1).trim 20

end Binary64

/-- How a floating-point number is written. Exponents of the leading digit from `positionalFrom`
up to but not including `positionalTo` are written without an exponent. -/
structure FloatStyle where
  positionalFrom : Int
  positionalTo : Int
  wholeSuffix : String
  exponentMark : String
  plusSign : String

/-- Documents write floats positionally from `0.00001` up to sixteen whole digits, always with a
point or an exponent, and an exponent always has a sign. -/
def FloatStyle.document : FloatStyle where
  positionalFrom := -5
  positionalTo := 16
  wholeSuffix := ".0"
  exponentMark := "e"
  plusSign := "+"

namespace Decimal

/-- The text of a decimal other than zero. -/
def text (style : FloatStyle) (d : Decimal) : String :=
  let ds := Nat.toDigits 10 d.digits
  let lead : Int := d.exponent + ds.length - 1
  if style.positionalFrom ≤ lead ∧ lead < style.positionalTo then
    if 0 ≤ d.exponent then
      String.ofList (ds ++ List.replicate d.exponent.toNat '0') ++ style.wholeSuffix
    else if 0 ≤ lead then
      let whole := lead.toNat + 1
      String.ofList (ds.take whole) ++ "." ++ String.ofList (ds.drop whole)
    else
      "0." ++ String.ofList (List.replicate (-lead - 1).toNat '0' ++ ds)
  else
    let fraction := match ds.drop 1 with
      | [] => ""
      | rest => "." ++ String.ofList rest
    String.ofList (ds.take 1) ++ fraction ++ style.exponentMark ++
      (if lead < 0 then "-" else style.plusSign) ++ toString lead.natAbs

end Decimal

namespace Binary64

/-- The written form: the shortest digits, laid out by the style. -/
def text (x : Binary64) (style : FloatStyle) : String :=
  (if x.negative then "-" else "") ++
    (if x.significand = 0 then "0" ++ style.wholeSuffix else x.shortest.text style)

/-- The nearest number to `± digits * 10 ^ exponent`; none when it is too large. Far outside the
range the answer is known without computing the power. -/
def ofDecimal? (negative : Bool) (d : Decimal) : Option Binary64 :=
  let lead : Int := d.exponent + (Nat.log2 d.digits : Int) / 3
  if d.digits = 0 then some (zero negative)
  else if 400 < d.exponent then none
  else if lead < -400 then some (zero negative)
  else
    ofRatio? negative (d.digits * Nat.pow 10 d.exponent.toNat) (Nat.pow 10 (-d.exponent).toNat)

end Binary64

end Writeback
