import Writeback.Yaml.Property
import Writeback.Yaml.Scalar

/-!
# Tokens of a YAML text

A text is read token by token. Outside flow collections the columns at which block collections stand
are remembered: a token that stands further left ends those it has left, and an entry or a key that
stands further right begins one.

A key without an indicator is known only when its colon comes, so the place where one may have begun
is remembered too, one for each collection that is open. It is forgotten when its line ends or after
1024 characters. Where only a key can stand, at the column of the block collection around it, it is
an error to forget it.
-/

namespace Writeback.Yaml

/-- Where a key may have begun: its place, how many tokens came before it, and whether nothing else
can stand there. -/
structure KeyStart where
  line : Nat
  column : Nat
  tokens : Nat
  required : Bool
deriving DecidableEq, Repr

structure Lexing where
  cursor : Cursor
  /-- The columns of the open block collections, the innermost first. -/
  columns : List Nat := []
  /-- Where a key of the innermost flow collection, or outside of all, may have begun. -/
  keyStart : Option KeyStart := none
  /-- The same for the collections around it; there is one for each open flow collection. -/
  outer : List (Option KeyStart) := []
  /-- Whether a key may begin at the next token. -/
  keyAllowed : Bool := true
  /-- The tokens so far, the last one first. -/
  tokens : List Token := []
deriving DecidableEq, Repr

namespace Lexing

def inFlow (s : Lexing) : Bool := !s.outer.isEmpty

/-- The least column of what stands inside the innermost block collection. -/
def level (s : Lexing) : Nat :=
  match s.columns with
  | [] => 0
  | column :: _ => column + 1

/-- Adds a token that has been read up to a cursor. -/
def add (s : Lexing) (token : Token) (next : Cursor) : Lexing :=
  { s with tokens := token :: s.tokens, cursor := next }

def addMark (s : Lexing) (token : Token) (width : Nat) : Lexing :=
  s.add token (s.cursor.advance width)

/-- The same state with keys allowed at the next token or not. -/
def allowing (s : Lexing) (keyAllowed : Bool) : Lexing := { s with keyAllowed := keyAllowed }

def atToken (s : Lexing) : Lexing :=
  let (next, keyAllowed) :=
    Cursor.gap s.inFlow s.keyAllowed false s.cursor.line s.cursor.column s.cursor.rest
  { s with cursor := next, keyAllowed := keyAllowed }

/-- Whether a key that may have begun at a place has none any more at a cursor. -/
def isPast (k : KeyStart) (c : Cursor) : Bool := k.line < c.line || k.column + 1024 < c.column

/-- Forgets a place where no key can have begun any more. -/
def current? (c : Cursor) : Option KeyStart → Option (Option KeyStart)
  | none => some none
  | some k => if isPast k c then if k.required then none else some none else some (some k)

/-- Forgets all places where no key can have begun any more. -/
def forgetPast? (s : Lexing) : Option Lexing := do
  let keyStart ← current? s.cursor s.keyStart
  let outer ← s.outer.mapM (current? s.cursor)
  some { s with keyStart := keyStart, outer := outer }

/-- Forgets where a key may have begun, since none did. -/
def forgetKey? (s : Lexing) : Option Lexing :=
  if s.keyStart.any KeyStart.required then none else some { s with keyStart := none }

/-- Remembers that a key may begin at the next token. -/
def rememberKey? (s : Lexing) : Option Lexing :=
  if s.keyAllowed then do
    let s ← s.forgetKey?
    some { s with
      keyStart := some {
        line := s.cursor.line
        column := s.cursor.column
        tokens := s.tokens.length
        required := !s.inFlow && s.columns.head? = some s.cursor.column } }
  else some s

/-- Ends the block collections that stand at a column or further right. -/
def endBlocks (s : Lexing) (column : Nat) : Lexing :=
  if s.inFlow then s
  else
    let kept := s.columns.dropWhile fun c => column ≤ c
    { s with
      columns := kept
      tokens := List.replicate (s.columns.length - kept.length) .blockEnd ++ s.tokens }

/-- Begins a block collection at the next token if it stands further right than those around it. -/
def beginBlock (s : Lexing) (token : Token) : Lexing :=
  if !s.inFlow && s.level ≤ s.cursor.column then
    { s with columns := s.cursor.column :: s.columns, tokens := token :: s.tokens }
  else s

/-- Marks a key at the place where it began, and a block mapping if it is the first key of one. -/
def markKey (s : Lexing) (k : KeyStart) : Lexing :=
  let later := s.tokens.length - k.tokens
  if !s.inFlow && s.level ≤ k.column then
    { s with
      columns := k.column :: s.columns
      tokens := s.tokens.take later ++ .key :: .blockMapping :: s.tokens.drop later }
  else { s with tokens := s.tokens.take later ++ .key :: s.tokens.drop later }

def blockEntry? (s : Lexing) : Option Lexing :=
  if s.inFlow || s.keyAllowed then do
    let s ← (s.beginBlock .blockSequence).forgetKey?
    some ((s.allowing true).addMark .blockEntry 1)
  else none

def key? (s : Lexing) : Option Lexing :=
  if s.inFlow || s.keyAllowed then do
    let s ← (s.beginBlock .blockMapping).forgetKey?
    some ((s.allowing !s.inFlow).addMark .key 1)
  else none

/-- The colon before a value: after a key without an indicator, or on its own. -/
def value? (s : Lexing) : Option Lexing :=
  match s.keyStart with
  | some k =>
    let s := s.markKey k
    some (({ s with keyStart := none }.allowing false).addMark .value 1)
  | none =>
    if s.inFlow || s.keyAllowed then
      let s := s.beginBlock .blockMapping
      some ((s.allowing !s.inFlow).addMark .value 1)
    else none

def beginFlow? (s : Lexing) (token : Token) : Option Lexing := do
  let s ← s.rememberKey?
  some (({ s with keyStart := none, outer := s.keyStart :: s.outer }.allowing true).addMark token 1)

def endFlow? (s : Lexing) (token : Token) : Option Lexing := do
  let s ← s.forgetKey?
  let s := match s.outer with
    | keyStart :: outer => { s with keyStart := keyStart, outer := outer }
    | [] => s
  some ((s.allowing false).addMark token 1)

def flowEntry? (s : Lexing) : Option Lexing := do
  some (((← s.forgetKey?).allowing true).addMark .flowEntry 1)

def boundary? (s : Lexing) (token : Token) : Option Lexing := do
  some (((← (s.endBlocks 0).forgetKey?).allowing false).addMark token 3)

def directive? (s : Lexing) : Option Lexing := do
  let s ← (s.endBlocks 0).forgetKey?
  let (token, line) ← Yaml.directive? (s.cursor.rest.drop 1)
  some ((s.allowing false).add token ⟨line.drop 1, s.cursor.line + 1, 0⟩)

def name? (s : Lexing) (token : String → Token) : Option Lexing := do
  let s ← s.rememberKey?
  let (name, rest) ← Yaml.name? (s.cursor.rest.drop 1)
  some ((s.allowing false).add (token name) (s.cursor.moveTo rest))

def tag? (s : Lexing) : Option Lexing := do
  let s ← s.rememberKey?
  let (token, rest) ← Yaml.tag? s.inFlow (s.cursor.rest.drop 1)
  some ((s.allowing false).add token (s.cursor.moveTo rest))

def quoted? (s : Lexing) (style : Style)
    (read : (line column : Nat) → List Char → Option (List Char × Cursor)) : Option Lexing := do
  let s ← s.rememberKey?
  let (text, next) ← read s.cursor.line (s.cursor.column + 1) (s.cursor.rest.drop 1)
  some ((s.allowing false).add (.scalar style (String.ofList text)) next)

/-- A plain scalar. After one that ends with its line a key may begin. -/
def plain? (s : Lexing) : Option Lexing := do
  let s ← s.rememberKey?
  let (text, next, crossed) ←
    Yaml.plain? s.inFlow s.level {} s.cursor.line s.cursor.column s.cursor.rest
  some ((s.allowing crossed).add (.scalar .plain (String.ofList text)) next)

def blockScalar? (s : Lexing) (style : Style) : Option Lexing := do
  let s ← s.forgetKey?
  let (text, next) ← Yaml.blockScalar? (style = .folded) s.level (s.cursor.advance 1)
  some ((s.allowing true).add (.scalar style (String.ofList text)) next)

def token? (s : Lexing) (c : Char) (rest : List Char) : Option Lexing :=
  if s.cursor.column = 0 && c = '%' then s.directive?
  else if s.cursor.column = 0 && startsWithMarker '-' (c :: rest) then s.boundary? .documentStart
  else if s.cursor.column = 0 && startsWithMarker '.' (c :: rest) then s.boundary? .documentEnd
  else if c = '[' then s.beginFlow? .flowSequence
  else if c = '\x7b' then s.beginFlow? .flowMapping
  else if c = ']' then s.endFlow? .flowSequenceEnd
  else if c = '\x7d' then s.endFlow? .flowMappingEnd
  else if c = ',' then s.flowEntry?
  else if c = '-' && atGap rest then s.blockEntry?
  else if c = '?' && (s.inFlow || atGap rest) then s.key?
  else if c = ':' && (s.inFlow || atGap rest) then s.value?
  else if c = '*' then s.name? .alias
  else if c = '&' then s.name? .anchor
  else if c = '!' then s.tag?
  else if c = '|' && !s.inFlow then s.blockScalar? .literal
  else if c = '>' && !s.inFlow then s.blockScalar? .folded
  else if c = '\'' then s.quoted? .singleQuoted (singleQuoted? {})
  else if c = '"' then s.quoted? .doubleQuoted (doubleQuoted? none {})
  else if startsPlain s.inFlow (c :: rest) then s.plain?
  else none

/-- Reads the tokens that are left, and gives all of them. Each takes a character at least. -/
def tokens? : (left : Nat) → Lexing → Option (List Token)
  | 0, _ => none
  | left + 1, s => do
    let s ← s.atToken.forgetPast?
    match s.cursor.rest with
    | [] =>
      let s ← (s.endBlocks 0).forgetKey?
      some s.tokens.reverse
    | c :: rest =>
      let s ← (s.endBlocks (s.cursor.column + 1)).token? c rest
      tokens? left s

end Lexing

def tokens? (text : String) : Option (List Token) :=
  if text.toList.all isAllowed then
    let cs := unifyBreaks text.toList
    Lexing.tokens? (cs.length + 1) { cursor := { rest := cs } }
  else none

end Writeback.Yaml
