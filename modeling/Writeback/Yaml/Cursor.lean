/-!
# Places in a YAML text

A cursor is the text that is left, with the line and the column it starts at. `Cursor.gap` moves
over blanks, comments and line breaks to the next token.

Carriage returns and next-line characters are first made line feeds; line and paragraph separators
break lines too, but are kept, since a scalar may hold them. Characters that no text may hold are
refused.
-/

namespace Writeback.Yaml

/-- Every line break that no scalar can hold as a line feed. -/
def unifyBreaks : List Char → List Char
  | [] => []
  | '\r' :: '\n' :: rest => '\n' :: unifyBreaks rest
  | c :: rest => (if c = '\r' ∨ c = '\x85' then '\n' else c) :: unifyBreaks rest

def isAllowed (c : Char) : Bool :=
  c = '\t' || c = '\n' || c = '\r' || (' ' ≤ c && c ≤ '~') || c = '\x85' ||
    ('\xa0' ≤ c && c ≤ '\ufffd') || 0x10000 ≤ c.toNat

def isBlank (c : Char) : Bool := c = ' ' || c = '\t'

def isBreak (c : Char) : Bool := c = '\n' || c = '\u2028' || c = '\u2029'

/-- Whether a text begins with a blank or a line break, or has ended. -/
def atGap : List Char → Bool
  | [] => true
  | c :: _ => isBlank c || isBreak c

def isFlowMark (c : Char) : Bool := c = ',' || c = '[' || c = ']' || c = '\x7b' || c = '\x7d'

/-- Whether a text begins with three such characters that stand alone. -/
def startsWithMarker (mark : Char) : List Char → Bool
  | x :: y :: z :: rest => x = mark && y = mark && z = mark && atGap rest
  | _ => false

/-- Whether a line begins with what begins or ends a document. -/
def atBoundary (column : Nat) (cs : List Char) : Bool :=
  column = 0 && (startsWithMarker '-' cs || startsWithMarker '.' cs)

structure Cursor where
  rest : List Char
  line : Nat := 0
  column : Nat := 0
deriving DecidableEq, Repr

namespace Cursor

def advance (c : Cursor) (n : Nat) : Cursor :=
  { c with rest := c.rest.drop n, column := c.column + n }

/-- Moves to a later place of the same line, of which the rest is given. -/
def moveTo (c : Cursor) (rest : List Char) : Cursor :=
  { c with rest := rest, column := c.column + (c.rest.length - rest.length) }

/-- Moves over spaces, comments and line breaks, and over tabs where they count as blanks: inside
flow collections, and on a line on which no key may begin. A byte order mark may begin a line.
Also tells whether a key may begin at the next token; after a line break outside flow collections
it may. -/
def gap (inFlow : Bool) : (keyAllowed comment : Bool) → (line column : Nat) →
    List Char → Cursor × Bool
  | keyAllowed, _, line, column, [] => (⟨[], line, column⟩, keyAllowed)
  | keyAllowed, comment, line, column, c :: rest =>
    if isBreak c then gap inFlow (keyAllowed || !inFlow) false (line + 1) 0 rest
    else if comment || c = '#' then gap inFlow keyAllowed true line (column + 1) rest
    else if c = ' ' || (c = '\t' && (inFlow || !keyAllowed)) || (c = '\ufeff' && column = 0) then
      gap inFlow keyAllowed false line (column + 1) rest
    else (⟨c :: rest, line, column⟩, keyAllowed)

end Cursor

end Writeback.Yaml
