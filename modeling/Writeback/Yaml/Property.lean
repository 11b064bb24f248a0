import Writeback.Text.Hex
import Writeback.Yaml.Cursor
import Writeback.Yaml.Token

/-!
# Properties of YAML nodes, and directives

An anchor names a node, and an alias repeats its name. A tag says what a node is: in full between
angle brackets, or as a handle and a suffix, where directives say what handles stand for. In a tag,
bytes may be percent encoded, and they have to form characters of UTF-8; a tag ends at a null byte.
A directive stands on a line of its own before a document.
-/

namespace Writeback.Yaml

def isNameChar (c : Char) : Bool := c.isAlphanum || c = '_' || c = '-'

/-- Reads the name of an anchor or an alias, and gives the rest. Only a gap or some indicators may
follow it. -/
def name? (cs : List Char) : Option (String × List Char) :=
  let name := cs.takeWhile isNameChar
  let rest := cs.drop name.length
  let ends := atGap rest || (match rest with
    | c :: _ => "?:,]\x7d%@`".toList.contains c
    | [] => true)
  if name.isEmpty || !ends then none else some (String.ofList name, rest)

/-- The characters of a tag; in one that is written in full, the marks of sequences may stand
too. -/
def isTagChar (inFull : Bool) (c : Char) : Bool :=
  isNameChar c || ";/?:@&=+$.%!~*'()".toList.contains c || (inFull && ",[]".toList.contains c)

/-- How many bytes follow the first one of a character in UTF-8. -/
def trailingBytes? (b : Nat) : Option Nat :=
  if b < 0x80 then some 0
  else if 0xc0 ≤ b ∧ b < 0xe0 then some 1
  else if 0xe0 ≤ b ∧ b < 0xf0 then some 2
  else if 0xf0 ≤ b ∧ b < 0xf8 then some 3
  else none

/-- Reads the characters of a tag, with each encoded byte as the character of its number, and gives
the rest. `bytes` counts those that have to follow for a character that was begun. -/
def tagText? (inFull : Bool) : (bytes : Nat) → List Char → Option (List Char × List Char)
  | bytes, [] => if bytes = 0 then some ([], []) else none
  | bytes, '%' :: a :: b :: rest => do
    let byte := (← Text.hexDigit? a) * 16 + (← Text.hexDigit? b)
    let left ←
      if bytes = 0 then trailingBytes? byte
      else if 0x80 ≤ byte ∧ byte < 0xc0 then some (bytes - 1) else none
    let (text, rest) ← tagText? inFull left rest
    some (Char.ofNat byte :: text, rest)
  | bytes, c :: rest =>
    if c = '%' || bytes != 0 then none
    else if isTagChar inFull c then
      (tagText? inFull 0 rest).map fun (text, rest) => (c :: text, rest)
    else some ([], c :: rest)

/-- A text up to a null byte. -/
def untilNull (cs : List Char) : String := String.ofList (cs.takeWhile fun c => c.toNat != 0)

/-- Reads at least one character of a tag. -/
def someTagText? (inFull : Bool) (cs : List Char) : Option (String × List Char) :=
  match tagText? inFull 0 cs with
  | some ([], _) | none => none
  | some (text, rest) => some (untilNull text, rest)

/-- Reads a handle between exclamation marks, of which the first is gone. -/
def handle? (cs : List Char) : Option (String × List Char) :=
  let name := cs.takeWhile isNameChar
  match cs.drop name.length with
  | '!' :: rest => some ("!" ++ String.ofList name ++ "!", rest)
  | _ => none

/-- Reads a tag after its exclamation mark: its handle, which is empty when there is none to look
up, its suffix, and the rest. A lone exclamation mark is a suffix. -/
def tag? (inFlow : Bool) (cs : List Char) : Option (Token × List Char) := do
  let (handle, suffix, rest) ← match cs with
    | '<' :: inner =>
      match someTagText? true inner with
      | some (suffix, '>' :: rest) => some ("", suffix, rest)
      | _ => none
    | _ =>
      match handle? cs with
      | some (handle, rest) =>
        (someTagText? false rest).map fun (suffix, rest) => (handle, suffix, rest)
      | none =>
        (tagText? false 0 cs).map fun (text, rest) =>
          if (untilNull text).isEmpty then ("", "!", rest) else ("!", untilNull text, rest)
  if atGap rest || (inFlow && rest.head? = some ',') then some (.tag handle suffix, rest) else none

/-- Reads a number of at most nine digits, and gives the rest. -/
def versionNumber? (cs : List Char) : Option (Nat × List Char) :=
  let digits := cs.takeWhile Char.isDigit
  if digits.isEmpty || 9 < digits.length then none
  else some (digits.foldl (fun n d => n * 10 + (d.toNat - '0'.toNat)) 0, cs.drop digits.length)

/-- Reads what stands in a version directive, and gives the rest. -/
def version? (cs : List Char) : Option (Token × List Char) := do
  let (major, rest) ← versionNumber? (cs.dropWhile isBlank)
  match rest with
  | '.' :: rest =>
    let (minor, rest) ← versionNumber? rest
    some (.version major minor, rest)
  | _ => none

/-- Reads what stands in a directive for a handle, and gives the rest. -/
def handleDirective? (cs : List Char) : Option (Token × List Char) := do
  let (name, rest) ← match cs.dropWhile isBlank with
    | '!' :: rest =>
      match handle? rest with
      | some found => some found
      | none => if rest.head?.any isNameChar then none else some ("!", rest)
    | _ => none
  if !(rest.head?.any isBlank) then none
  let (stands, rest) ← someTagText? true (rest.dropWhile isBlank)
  if atGap rest then some (.handle name stands, rest) else none

/-- Reads a directive after its percent sign, and gives the rest, which begins with the end of the
line. -/
def directive? (cs : List Char) : Option (Token × List Char) := do
  let name := cs.takeWhile isNameChar
  let rest := cs.drop name.length
  if !atGap rest then none
  let (token, rest) ←
    if name = "YAML".toList then version? rest
    else if name = "TAG".toList then handleDirective? rest
    else none
  let spaced := rest.dropWhile isBlank
  let line := if spaced.head? = some '#' then spaced.dropWhile (fun x => !isBreak x) else spaced
  if line.isEmpty || line.head?.any isBreak then some (token, line) else none

end Writeback.Yaml
