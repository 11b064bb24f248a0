import Writeback.Text.CodePoints
import Writeback.Text.Percent

/-!
# Numeric addresses

An address of four bytes is written as up to four numbers with dots between them, decimal, octal
after `0`, or hexadecimal after `0x`; the last number fills all bytes that are left. An address of
eight groups is written in hexadecimal with colons between the groups; two colons stand for groups
of zero, and its last two groups may be written as four decimal bytes. Each address has one form in
which it is shown.
-/

namespace Writeback.Host

/-- The number that digits of a base write; none when there is another character. -/
def number? (base : Nat) (digits : List Char) : Option Nat := do
  let values ← digits.mapM Text.hexDigit?
  if values.all fun d => d < base then some (values.foldl (fun n d => n * base + d) 0) else none

/-- A number of an address of four bytes. Without digits after its mark it is zero. -/
def addressNumber? : List Char → Option Nat
  | [] => none
  | '0' :: 'x' :: digits => number? 16 digits
  | '0' :: digits => number? 8 digits
  | digits => number? 10 digits

/-- The parts of a name between its dots, without an empty one at its end. -/
def dotParts (name : List Char) : List (List Char) :=
  let parts := Text.cutAt (fun c => c = '.') name
  if parts.getLast? = some [] then parts.dropLast else parts

/-- Whether a name ends in a number, so that it has to be an address. -/
def endsInNumber (name : List Char) : Bool :=
  match (dotParts name).getLast? with
  | none | some [] => false
  | some part => part.all Char.isDigit || (addressNumber? part).isSome

/-- Reads an address of four bytes from a name in lower case. -/
def ipv4? (name : List Char) : Option Nat := do
  let numbers ← (dotParts name).mapM addressNumber?
  let last ← numbers.getLast?
  let bytes := numbers.dropLast
  if bytes.length ≤ 3 && bytes.all (fun n => n < 256) && last < Nat.pow 256 (4 - bytes.length) then
    some (bytes.foldl (fun n b => n * 256 + b) 0 * Nat.pow 256 (4 - bytes.length) + last)
  else none

/-- The four bytes of an address in decimal. -/
def ipv4Text (address : Nat) : String :=
  ".".intercalate ([3, 2, 1, 0].map fun i => toString (address / Nat.pow 256 i % 256))

def group? (cs : List Char) : Option Nat :=
  if cs.isEmpty || 4 < cs.length then none else number? 16 cs

/-- A decimal byte without zeros before it. -/
def byte? (cs : List Char) : Option Nat :=
  if cs.isEmpty || (cs.head? = some '0' && 1 < cs.length) then none
  else (number? 10 cs).filter fun n => n < 256

def byteGroups? (cs : List Char) : Option (List Nat) :=
  match (Text.cutAt (fun c => c = '.') cs).mapM byte? with
  | some [a, b, c, d] => some [a * 256 + b, c * 256 + d]
  | _ => none

/-- The groups that parts between colons write. Only at the end of an address may two of them be
written as bytes. -/
def groups? (atEnd : Bool) : List (List Char) → Option (List Nat)
  | [] => some []
  | [last] =>
    if atEnd && last.contains '.' then byteGroups? last else (group? last).map fun n => [n]
  | part :: parts => do
    let n ← group? part
    let rest ← groups? atEnd parts
    some (n :: rest)

/-- The parts of a text between its colons; an empty text has none. -/
def colonParts (cs : List Char) : List (List Char) :=
  if cs.isEmpty then [] else Text.cutAt (fun c => c = ':') cs

/-- A text before and after the first two colons that follow each other. -/
def cutAtGap : List Char → Option (List Char × List Char)
  | [] => none
  | ':' :: ':' :: rest => some ([], rest)
  | c :: rest => (cutAtGap rest).map fun (front, back) => (c :: front, back)

def ipv6? (cs : List Char) : Option (List Nat) :=
  match cutAtGap cs with
  | none => (groups? true (colonParts cs)).filter fun groups => groups.length = 8
  | some (front, back) => do
    let first ← groups? false (colonParts front)
    let last ← groups? true (colonParts back)
    let given := first.length + last.length
    if given ≤ 7 then some (first ++ List.replicate (8 - given) 0 ++ last) else none

/-- The first of the longest runs of zeros, as its place and its length. -/
def longestZeros : List Nat → Nat × Nat
  | [] => (0, 0)
  | n :: rest =>
    let here := ((n :: rest).takeWhile fun m => m = 0).length
    let (place, length) := longestZeros rest
    if length ≤ here then (0, here) else (place + 1, length)

/-- The groups of an address in hexadecimal, with the longest run of zeros left out. -/
def ipv6Text (groups : List Nat) : String :=
  let written (gs : List Nat) : String :=
    ":".intercalate (gs.map fun n => String.ofList (Nat.toDigits 16 n))
  let (place, length) := longestZeros groups
  if length < 2 then written groups
  else written (groups.take place) ++ "::" ++ written (groups.drop (place + length))

end Writeback.Host
