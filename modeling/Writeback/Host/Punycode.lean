/-!
# Labels in ASCII

A label with characters outside ASCII is written by the letters, digits and hyphens that it holds,
a hyphen, and then the other characters in the order of their code points: for each the number of
steps from the one before it, where a step leads to the next place in the label, and past its end to
the next code point. The numbers are written in base 36, the lowest digit first. A digit below the
threshold of its place ends its number, and the thresholds adapt to the size of the numbers so far.
-/

namespace Writeback.Host.Punycode

/-- The first code point outside ASCII. -/
def firstPoint : Nat := 0x80

def firstBias : Nat := 72

/-- The characters of the digits: letters, then the ten digits. -/
def digitChar (d : Nat) : Char :=
  if d < 26 then Char.ofNat ('a'.toNat + d) else Char.ofNat ('0'.toNat + d - 26)

def digitValue? (c : Char) : Option Nat :=
  if 'a' ≤ c ∧ c ≤ 'z' then some (c.toNat - 'a'.toNat)
  else if c.isDigit then some (c.toNat - '0'.toNat + 26)
  else none

/-- The threshold of the digit in place `k / 36`, counted from one. -/
def threshold (bias k : Nat) : Nat :=
  if k ≤ bias then 1 else if bias + 26 ≤ k then 26 else k - bias

theorem threshold_pos (bias k : Nat) : 0 < threshold bias k := by
  unfold threshold
  split
  · omega
  · split <;> omega

/-- Scales a number down, at first by 35 for every place that it is long. -/
def scaled (d k : Nat) : Nat :=
  if h : 455 < d then scaled (d / 35) (k + 36) else k + 36 * d / (d + 38)
termination_by d
decreasing_by omega

/-- The bias after a number, when the label has `points` characters with the one it brought. -/
def adapted (delta points : Nat) (first : Bool) : Nat :=
  let d := if first then delta / 700 else delta / 2
  scaled (d + d / points) 0

/-- The digits of a number, from the place of `k` on. -/
def digits (bias k q : Nat) : List Char :=
  let t := threshold bias k
  if q < t then [digitChar q]
  else digitChar (t + (q - t) % (36 - t)) :: digits bias (k + 36) ((q - t) / (36 - t))
termination_by q
decreasing_by
  have := threshold_pos bias k
  have := Nat.div_le_self (q - threshold bias k) (36 - threshold bias k)
  omega

/-- What encoding carries along: the digits so far, the steps since the last character, the bias,
and the number of characters written. -/
structure Encoding where
  written : List Char := []
  delta : Nat
  bias : Nat := firstBias
  handled : Nat

/-- Passes one place of the label while the characters with code point `n` are written. -/
def Encoding.pass (basic n : Nat) (e : Encoding) (c : Char) : Encoding :=
  if c.toNat < n then { e with delta := e.delta + 1 }
  else if c.toNat = n then {
    written := e.written ++ digits e.bias 36 e.delta
    delta := 0
    bias := adapted e.delta (e.handled + 1) (e.handled == basic)
    handled := e.handled + 1 }
  else e

/-- Writes the characters with the given code points, which increase; the next one to consider
would be `next`. -/
def encodePoints (label : List Char) (basic : Nat) :
    (points : List Nat) → (next : Nat) → Encoding → List Char
  | [], _, e => e.written
  | n :: points, next, e =>
    let start := { e with delta := e.delta + (n - next) * (e.handled + 1) }
    let passed := label.foldl (Encoding.pass basic n) start
    encodePoints label basic points (n + 1) { passed with delta := passed.delta + 1 }

def encode (label : List Char) : List Char :=
  let isBasic (c : Char) : Bool := c.toNat < firstPoint
  let basic := label.filter isBasic
  let others := (label.filter fun c => !isBasic c).map Char.toNat
  let points := (others.mergeSort (· ≤ ·)).eraseDups
  basic ++ (if basic.isEmpty then [] else ['-']) ++
    encodePoints label basic.length points firstPoint { delta := 0, handled := basic.length }

/-- What decoding carries along: the label so far, the code point and the place that the last number
led to, the bias, and of the number that is being read where it began, the weight of its next digit,
and that digit's place. -/
structure Decoding where
  label : List Char
  point : Nat := firstPoint
  place : Nat := 0
  bias : Nat := firstBias
  start : Nat := 0
  weight : Nat := 1
  k : Nat := 36

/-- Numbers are kept within 32 bits. -/
def inWord (n : Nat) : Option Nat := if n < UInt32.size then some n else none

def Decoding.read? (d : Decoding) (c : Char) : Option Decoding := do
  let digit ← digitValue? c
  let sum ← inWord (d.place + digit * d.weight)
  let t := threshold d.bias d.k
  if t ≤ digit then
    let weight ← inWord (d.weight * (36 - t))
    some { d with place := sum, weight := weight, k := d.k + 36 }
  else
    let points := d.label.length + 1
    let point := d.point + sum / points
    let place := sum % points
    if point.isValidChar then
      some {
        label := d.label.take place ++ Char.ofNat point :: d.label.drop place
        point := point
        place := place + 1
        bias := adapted (sum - d.start) points (d.start == 0)
        start := place + 1 }
    else none

/-- Reads digits, which have to end with a whole number. -/
def decodeDigits? : Decoding → List Char → Option (List Char)
  | d, [] => if d.k = 36 then some d.label else none
  | d, c :: rest => (d.read? c).bind fun next => decodeDigits? next rest

/-- Decodes a label. What stands before its last hyphen are the characters of ASCII, unless the
hyphen comes first. -/
def decode? (code : List Char) : Option (List Char) :=
  let tail := (code.reverse.takeWhile fun c => c != '-').reverse
  let basic := code.take (code.length - tail.length - 1)
  if basic.isEmpty then decodeDigits? { label := [] } code
  else decodeDigits? { label := basic } tail

end Writeback.Host.Punycode
