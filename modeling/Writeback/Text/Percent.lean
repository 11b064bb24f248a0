import Writeback.Text.Hex

/-!
# Percent encoding

A character that may not stand in a part of an address is written as the bytes of its UTF-8, each as
a percent sign and two hexadecimal digits in upper case. Reading undoes this; a percent sign without
two digits stands for itself.
-/

namespace Writeback.Text

def utf8 (c : Char) : List UInt8 := (String.singleton c).toUTF8.toList

/-- A byte as a percent sign and two digits. -/
def percentByte (b : UInt8) : List Char :=
  let digit (n : Nat) : Char := (Nat.digitChar n).toUpper
  ['%', digit (b.toNat / 16), digit (b.toNat % 16)]

/-- Whether a character is a control character or outside ASCII. -/
def isBeyondPrint (c : Char) : Bool := c.toNat < 0x20 || 0x7e < c.toNat

/-- Encodes the characters that are listed, control characters, and all outside ASCII. -/
def percentEncode (listed : String) (cs : List Char) : List Char :=
  cs.flatMap fun c =>
    if isBeyondPrint c || listed.toList.contains c then (utf8 c).flatMap percentByte else [c]

/-- The bytes of a text in which some are percent encoded. -/
def percentBytes : List Char → List UInt8
  | [] => []
  | '%' :: a :: b :: rest =>
    match hexDigit? a, hexDigit? b with
    | some x, some y => UInt8.ofNat (16 * x + y) :: percentBytes rest
    | _, _ => '%'.toUInt8 :: percentBytes (a :: b :: rest)
  | c :: rest => utf8 c ++ percentBytes rest

/-- A text with its percent encoding undone; none when the bytes are no text. -/
def percentDecode? (cs : List Char) : Option (List Char) :=
  (String.fromUTF8? ⟨(percentBytes cs).toArray⟩).map String.toList

end Writeback.Text
