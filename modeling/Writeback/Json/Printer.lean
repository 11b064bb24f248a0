import Writeback.Json.Basic
import Writeback.Number.Decimal

/-!
# Writing JSON text

`Json.render` writes a document without blanks, the fields of an object in their order. In a
string only the quote, the backslash and the control characters below `0x20` are escaped; all
other characters stand for themselves. Integers are written in decimal, floats in the document
style of `FloatStyle`.
-/

namespace Writeback

/-- The text of a number, as documents and messages write it. -/
def Number.text : Number → String
  | .int n _ => toString n
  | .float x => x.text .document

namespace Json

def hexChar (n : Nat) : Char := Nat.digitChar n

/-- The escape of a character in a string, or the character itself. -/
def escapeChar (c : Char) : List Char :=
  match c with
  | '"' => ['\\', '"']
  | '\\' => ['\\', '\\']
  | '\x08' => ['\\', 'b']
  | '\x0c' => ['\\', 'f']
  | '\n' => ['\\', 'n']
  | '\r' => ['\\', 'r']
  | '\t' => ['\\', 't']
  | c =>
    if c.toNat < 0x20 then ['\\', 'u', '0', '0', hexChar (c.toNat / 16), hexChar (c.toNat % 16)]
    else [c]

def quote (s : String) : String :=
  "\"" ++ String.ofList (s.toList.flatMap escapeChar) ++ "\""

mutual

def render : Json → String
  | null => "null"
  | bool true => "true"
  | bool false => "false"
  | num n => n.text
  | str s => quote s
  | arr [] => "[]"
  | arr (x :: rest) => "[" ++ render x ++ renderItems rest ++ "]"
  | obj [] => "\x7b\x7d"
  | obj ((k, x) :: rest) => "\x7b" ++ quote k ++ ":" ++ render x ++ renderFields rest ++ "\x7d"

/-- The elements of an array after the first, each after a comma. -/
def renderItems : List Json → String
  | [] => ""
  | x :: rest => "," ++ render x ++ renderItems rest

/-- The fields of an object after the first, each after a comma. -/
def renderFields : List (String × Json) → String
  | [] => ""
  | (k, x) :: rest => "," ++ quote k ++ ":" ++ render x ++ renderFields rest

end

end Json

end Writeback
