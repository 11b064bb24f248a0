import Writeback.Json.Basic
import Writeback.Number.Decimal
import Writeback.Text.Hex

/-!
# Reading JSON text

`Json.parse?` reads one document and refuses everything that is not exactly one. A number without
a fraction and an exponent that is in the range of integers is an integer; any other number, also
`-0`, is the nearest float, and one that is too large for a float is refused. Of a repeated key the
last value counts. The two halves of an escaped surrogate pair make one character; half a pair is
refused.

The readers take the characters that are left and give back the rest. `fuel` bounds the calls; each
call consumes a character, so the length of the text is enough.
-/

namespace Writeback.Json

def isBlank (c : Char) : Bool := c = ' ' || c = '\t' || c = '\n' || c = '\r'

/-- The rest after any blanks. -/
def skipBlanks (cs : List Char) : List Char := cs.dropWhile isBlank

/-- Four hexadecimal digits. -/
def hexUnit? : List Char → Option (Nat × List Char)
  | a :: b :: c :: d :: rest => do
    let a ← Text.hexDigit? a
    let b ← Text.hexDigit? b
    let c ← Text.hexDigit? c
    let d ← Text.hexDigit? d
    some (((a * 16 + b) * 16 + c) * 16 + d, rest)
  | _ => none

/-- The character of an escape whose four digits come next, with a second escape when the first is
the upper half of a surrogate pair. -/
def unicodeEscape? (cs : List Char) : Option (Char × List Char) := do
  let (high, rest) ← hexUnit? cs
  if 0xD800 ≤ high ∧ high < 0xDC00 then
    match rest with
    | '\\' :: 'u' :: rest =>
      let (low, rest) ← hexUnit? rest
      if 0xDC00 ≤ low ∧ low < 0xE000 then
        some (Char.ofNat (0x10000 + (high - 0xD800) * 0x400 + (low - 0xDC00)), rest)
      else none
    | _ => none
  else if 0xDC00 ≤ high ∧ high < 0xE000 then none
  else some (Char.ofNat high, rest)

/-- The characters of a string up to its closing quote, in reverse order in front of `read`. -/
def stringTail? (fuel : Nat) (read : List Char) (cs : List Char) : Option (List Char × List Char) :=
  match fuel with
  | 0 => none
  | fuel + 1 =>
    match cs with
    | '"' :: rest => some (read, rest)
    | '\\' :: 'u' :: rest => do
      let (c, rest) ← unicodeEscape? rest
      stringTail? fuel (c :: read) rest
    | '\\' :: c :: rest =>
      match c with
      | '"' | '\\' | '/' => stringTail? fuel (c :: read) rest
      | 'b' => stringTail? fuel ('\x08' :: read) rest
      | 'f' => stringTail? fuel ('\x0c' :: read) rest
      | 'n' => stringTail? fuel ('\n' :: read) rest
      | 'r' => stringTail? fuel ('\r' :: read) rest
      | 't' => stringTail? fuel ('\t' :: read) rest
      | _ => none
    | c :: rest => if c.toNat < 0x20 then none else stringTail? fuel (c :: read) rest
    | [] => none

def string? (cs : List Char) : Option (String × List Char) :=
  (stringTail? (cs.length + 1) [] cs).map fun (read, rest) => (String.ofList read.reverse, rest)

/-- The number written by a run of decimal digits. -/
def digitsValue (ds : List Char) : Nat :=
  ds.foldl (fun n c => n * 10 + (c.toNat - '0'.toNat)) 0

/-- A nonempty run of decimal digits. -/
def digits? (cs : List Char) : Option (List Char × List Char) :=
  match cs.takeWhile Char.isDigit with
  | [] => none
  | ds => some (ds, cs.dropWhile Char.isDigit)

/-- The digits after a point, when there is one. -/
def fraction? : List Char → Option (List Char × List Char)
  | '.' :: rest => digits? rest
  | cs => some ([], cs)

def exponent? : List Char → Option (Option Int × List Char)
  | c :: rest =>
    if c = 'e' ∨ c = 'E' then
      match rest with
      | '-' :: rest => (digits? rest).map fun (ds, rest) => (some (-(digitsValue ds : Int)), rest)
      | '+' :: rest => (digits? rest).map fun (ds, rest) => (some (digitsValue ds : Int), rest)
      | rest => (digits? rest).map fun (ds, rest) => (some (digitsValue ds : Int), rest)
    else some (none, c :: rest)
  | [] => some (none, [])

def numberOf? (negative : Bool) (whole fraction : List Char) (exponent : Option Int) :
    Option Number :=
  let value : Int := if negative then -(digitsValue whole : Int) else digitsValue whole
  let asFloat := Number.float <$> Binary64.ofDecimal? negative
    ⟨digitsValue (whole ++ fraction), exponent.getD 0 - fraction.length⟩
  if fraction.isEmpty && exponent.isNone && !(negative && value == 0) then
    match Number.ofInt? value with
    | some n => some n
    | none => asFloat
  else asFloat

/-- A number; a leading zero stands alone. -/
def number? (cs : List Char) : Option (Number × List Char) := do
  let (negative, cs) := match cs with
    | '-' :: rest => (true, rest)
    | cs => (false, cs)
  let (whole, cs) ← digits? cs
  if whole.length > 1 && whole.head? == some '0' then none
  let (fraction, cs) ← fraction? cs
  let (exponent, cs) ← exponent? cs
  let n ← numberOf? negative whole fraction exponent
  some (n, cs)

mutual

/-- One document, after any blanks. -/
def value? (fuel : Nat) (cs : List Char) : Option (Json × List Char) :=
  match fuel with
  | 0 => none
  | fuel + 1 =>
    match skipBlanks cs with
    | 'n' :: 'u' :: 'l' :: 'l' :: rest => some (.null, rest)
    | 't' :: 'r' :: 'u' :: 'e' :: rest => some (.bool true, rest)
    | 'f' :: 'a' :: 'l' :: 's' :: 'e' :: rest => some (.bool false, rest)
    | '"' :: rest => (string? rest).map fun (s, rest) => (.str s, rest)
    | '[' :: rest =>
      match skipBlanks rest with
      | ']' :: rest => some (.arr [], rest)
      | rest => (items? fuel rest).map fun (xs, rest) => (.arr xs, rest)
    | '\x7b' :: rest =>
      match skipBlanks rest with
      | '\x7d' :: rest => some (.obj [], rest)
      | rest => (fields? fuel rest).map fun (ps, rest) => (.object ps, rest)
    | cs => (number? cs).map fun (n, rest) => (.num n, rest)

/-- The elements of an array up to its closing bracket. -/
def items? (fuel : Nat) (cs : List Char) : Option (List Json × List Char) :=
  match fuel with
  | 0 => none
  | fuel + 1 => do
    let (x, rest) ← value? fuel cs
    match skipBlanks rest with
    | ',' :: rest =>
      let (xs, rest) ← items? fuel rest
      some (x :: xs, rest)
    | ']' :: rest => some ([x], rest)
    | _ => none

/-- The fields of an object up to its closing brace, in the order written. -/
def fields? (fuel : Nat) (cs : List Char) : Option (List (String × Json) × List Char) :=
  match fuel with
  | 0 => none
  | fuel + 1 =>
    match skipBlanks cs with
    | '"' :: rest => do
      let (key, rest) ← string? rest
      match skipBlanks rest with
      | ':' :: rest =>
        let (x, rest) ← value? fuel rest
        match skipBlanks rest with
        | ',' :: rest =>
          let (ps, rest) ← fields? fuel rest
          some ((key, x) :: ps, rest)
        | '\x7d' :: rest => some ([(key, x)], rest)
        | _ => none
      | _ => none
    | _ => none

end

def parse? (text : String) : Option Json := do
  let cs := text.toList
  let (x, rest) ← value? (cs.length + 1) cs
  if (skipBlanks rest).isEmpty then some x else none

end Writeback.Json
