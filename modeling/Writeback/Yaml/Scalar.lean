import Writeback.Text.Hex
import Writeback.Yaml.Cursor

/-!
# YAML scalars

A plain scalar runs to a comment, to a colon before a gap, or to a mark of a flow collection.
Between single quotes a quote is written twice; between double quotes a backslash begins an escape.
All three may go on over line breaks: one break becomes a space, more of them become one break less,
and the blanks around them are dropped. A plain scalar ends before a line that is indented no more
than what surrounds it.

A block scalar holds lines that are indented alike. They are kept, or joined where neither of two
lines is indented further; the header says what becomes of the breaks at the end.
-/

namespace Writeback.Yaml

/-- What was passed since the last character of a scalar: blanks of one line, or line breaks, the
first of which a backslash may have taken away. -/
structure Gap where
  blanks : List Char := []
  breaks : List Char := []
  escaped : Bool := false
deriving DecidableEq, Repr

namespace Gap

def crossed (g : Gap) : Bool := g.escaped || !g.breaks.isEmpty

def isEmpty (g : Gap) : Bool := g.blanks.isEmpty && !g.crossed

/-- Passes a blank. It counts only on the line of the last character. -/
def addBlank (g : Gap) (c : Char) : Gap :=
  if g.crossed then g else { g with blanks := g.blanks ++ [c] }

def addBreak (g : Gap) (c : Char) : Gap := { g with blanks := [], breaks := g.breaks ++ [c] }

def text (g : Gap) : List Char :=
  if g.escaped then g.breaks
  else match g.breaks with
    | [] => g.blanks
    | ['\n'] => [' ']
    | '\n' :: more => more
    | breaks => breaks

end Gap

/-- Whether a colon comes next that ends a plain scalar. -/
def endsAtColon (c : Char) (rest : List Char) : Bool := c = ':' && atGap rest

/-- Whether a colon comes next that may not stand in a plain scalar of a flow collection. -/
def breaksAtColon (c : Char) (rest : List Char) : Bool :=
  c = ':' && (match rest with
    | next :: _ => isFlowMark next || next = '?'
    | [] => false)

/-- Reads a plain scalar: its text after a gap, the next place, and whether a line has ended before
that place. A line outside flow collections belongs to it when it is indented by `level` columns at
least, and may not begin with a tab before them. -/
def plain? (inFlow : Bool) (level : Nat) : Gap → (line column : Nat) → List Char →
    Option (List Char × Cursor × Bool)
  | g, line, column, [] => some ([], ⟨[], line, column⟩, g.crossed)
  | g, line, column, c :: rest =>
    if isBlank c then
      if c = '\t' && g.crossed && column < level then none
      else plain? inFlow level (g.addBlank c) line (column + 1) rest
    else if isBreak c then plain? inFlow level (g.addBreak c) (line + 1) 0 rest
    else if !g.isEmpty &&
        (c = '#' || atBoundary column (c :: rest) || (g.crossed && !inFlow && column < level)) then
      some ([], ⟨c :: rest, line, column⟩, g.crossed)
    else if inFlow && breaksAtColon c rest then none
    else if endsAtColon c rest || (inFlow && isFlowMark c) then
      some ([], ⟨c :: rest, line, column⟩, g.crossed)
    else
      (plain? inFlow level {} line (column + 1) rest).map fun (text, next) =>
        (g.text ++ c :: text, next)

def startsPlain (inFlow : Bool) : List Char → Bool
  | [] => false
  | c :: rest =>
    if c = '-' then !atGap rest
    else if c = '?' || c = ':' then !inFlow && !atGap rest
    else !(isBlank c || isBreak c || isFlowMark c || "#&*!|>'\"%@`".toList.contains c)

/-- Reads what follows a single quote: the text up to the closing quote, and the place after it. -/
def singleQuoted? : Gap → (line column : Nat) → List Char → Option (List Char × Cursor)
  | _, _, _, [] => none
  | g, line, column, c :: rest =>
    if isBlank c then singleQuoted? (g.addBlank c) line (column + 1) rest
    else if isBreak c then singleQuoted? (g.addBreak c) (line + 1) 0 rest
    else if atBoundary column (c :: rest) then none
    else if c = '\'' then
      match rest with
      | '\'' :: rest =>
        (singleQuoted? {} line (column + 2) rest).map fun (text, next) =>
          (g.text ++ '\'' :: text, next)
      | _ => some (g.text, ⟨rest, line, column + 1⟩)
    else
      (singleQuoted? {} line (column + 1) rest).map fun (text, next) => (g.text ++ c :: text, next)

def simpleEscape? (c : Char) : Option Char :=
  match c with
  | '0' => some '\x00'
  | 'a' => some '\x07'
  | 'b' => some '\x08'
  | 't' | '\t' => some '\t'
  | 'n' => some '\n'
  | 'v' => some '\x0b'
  | 'f' => some '\x0c'
  | 'r' => some '\r'
  | 'e' => some '\x1b'
  | ' ' => some ' '
  | '"' => some '"'
  | '/' => some '/'
  | '\\' => some '\\'
  | 'N' => some '\x85'
  | '_' => some '\xa0'
  | 'L' => some '\u2028'
  | 'P' => some '\u2029'
  | _ => none

/-- How many hexadecimal digits an escape takes. -/
def escapeWidth? (c : Char) : Option Nat :=
  match c with
  | 'x' => some 2
  | 'u' => some 4
  | 'U' => some 8
  | _ => none

def charOf? (n : Nat) : Option Char := if n.isValidChar then some (Char.ofNat n) else none

/-- Reads what follows a double quote: the text up to the closing quote, and the place after it.
Inside an escape by number, `digits` holds how many digits are left and what those before them
write. -/
def doubleQuoted? : (digits : Option (Nat × Nat)) → Gap → (line column : Nat) → List Char →
    Option (List Char × Cursor)
  | _, _, _, _, [] => none
  | some (left, n), g, line, column, c :: rest => do
    let n := n * 16 + (← Text.hexDigit? c)
    if left ≤ 1 then
      let x ← charOf? n
      let (text, next) ← doubleQuoted? none {} line (column + 1) rest
      some (x :: text, next)
    else doubleQuoted? (some (left - 1, n)) g line (column + 1) rest
  | none, g, line, column, c :: rest =>
    if isBlank c then doubleQuoted? none (g.addBlank c) line (column + 1) rest
    else if isBreak c then doubleQuoted? none (g.addBreak c) (line + 1) 0 rest
    else if atBoundary column (c :: rest) then none
    else if c = '"' then some (g.text, ⟨rest, line, column + 1⟩)
    else if c = '\\' then
      match rest with
      | [] => none
      | e :: rest =>
        if isBreak e then
          (doubleQuoted? none { escaped := true } (line + 1) 0 rest).map fun (text, next) =>
            (g.text ++ text, next)
        else match simpleEscape? e, escapeWidth? e with
          | some x, _ =>
            (doubleQuoted? none {} line (column + 2) rest).map fun (text, next) =>
              (g.text ++ x :: text, next)
          | none, some width =>
            (doubleQuoted? (some (width, 0)) {} line (column + 2) rest).map fun (text, next) =>
              (g.text ++ text, next)
          | none, none => none
    else
      (doubleQuoted? none {} line (column + 1) rest).map fun (text, next) =>
        (g.text ++ c :: text, next)

/-- What becomes of the line breaks at the end of a block scalar: all are dropped, one is kept, or
all are. -/
inductive Chomp where
  | strip
  | clip
  | keep
deriving DecidableEq, Repr

/-- What stands after the mark of a block scalar: the indentation of its lines, if it is stated, and
what becomes of its end. -/
structure BlockHeader where
  chomp : Chomp := .clip
  indent : Option Nat := none
deriving DecidableEq, Repr

namespace BlockHeader

/-- The sign that says what becomes of the end, and the rest. -/
def sign : List Char → Option Chomp × List Char
  | '+' :: rest => (some .keep, rest)
  | '-' :: rest => (some .strip, rest)
  | cs => (none, cs)

/-- The indentation, if there is a digit, and the rest. It is never zero. -/
def digit? : List Char → Option (Option Nat × List Char)
  | c :: rest =>
    if c = '0' then none
    else if c.isDigit then some (some (c.toNat - '0'.toNat), rest)
    else some (none, c :: rest)
  | [] => some (none, [])

/-- Reads a header, with its sign before the indentation or after it, and gives the rest. -/
def read? (cs : List Char) : Option (BlockHeader × List Char) :=
  match sign cs with
  | (some chomp, rest) => do
    let (indent, rest) ← digit? rest
    some ({ chomp := chomp, indent := indent }, rest)
  | (none, _) => do
    match ← digit? cs with
    | (some indent, rest) =>
      let (chomp, rest) := sign rest
      some ({ chomp := chomp.getD .clip, indent := some indent }, rest)
    | (none, rest) => some ({}, rest)

end BlockHeader

/-- The greatest indentation of lines up to the first one that holds more than spaces, if it is
greater than `least`. That line may not begin with a tab after its spaces. -/
def leadingIndent? : (lines : Nat) → (least : Nat) → List Char → Option Nat
  | 0, least, _ => some least
  | lines + 1, least, cs =>
    let spaces := cs.takeWhile fun c => c = ' '
    let most := max least spaces.length
    match cs.drop spaces.length with
    | [] => some most
    | c :: rest =>
      if c = '\t' then none
      else if isBreak c then leadingIndent? lines most rest
      else some most

/-- A line of a block scalar without its indentation, and the break at its end, if there is one. -/
inductive BlockLine where
  | blank (ending : List Char)
  | filled (text ending : List Char)
deriving DecidableEq, Repr

/-- The lines that are indented by `indent` columns or blank, and the place after them. A tab may
not stand within the indentation. -/
def blockLines? (indent : Nat) : (lines : Nat) → Cursor → Option (List BlockLine × Cursor)
  | 0, c => some ([], c)
  | lines + 1, c =>
    let spaces := (c.rest.take indent).takeWhile fun x => x = ' '
    let inner := c.rest.drop spaces.length
    match inner with
    | [] => some ([], c.moveTo [])
    | x :: after =>
      if isBreak x then
        (blockLines? indent lines ⟨after, c.line + 1, 0⟩).map fun (more, next) =>
          (.blank [x] :: more, next)
      else if spaces.length < indent then if x = '\t' then none else some ([], c)
      else
        let text := inner.takeWhile fun x => !isBreak x
        match inner.drop text.length with
        | [] => some ([.filled text []], c.moveTo [])
        | ending :: after =>
          (blockLines? indent lines ⟨after, c.line + 1, 0⟩).map fun (more, next) =>
            (.filled text [ending] :: more, next)

/-- The text of lines. `ending` is the break of the last filled line, `blanks` are those of the
blank lines after it, and `indented` tells whether it began with a blank. When lines are joined, the
break between two that do not begin with a blank becomes a space, or nothing before blank lines. -/
def blockText (joined : Bool) (chomp : Chomp) : (ending blanks : List Char) → (indented : Bool) →
    List BlockLine → List Char
  | ending, blanks, _, [] =>
    match chomp with
    | .strip => []
    | .clip => ending
    | .keep => ending ++ blanks
  | ending, blanks, indented, .blank b :: rest =>
    blockText joined chomp ending (blanks ++ b) indented rest
  | ending, blanks, indented, .filled text b :: rest =>
    let begins := text.head?.any isBlank
    let joint :=
      if joined && ending = ['\n'] && !indented && !begins then
        if blanks.isEmpty then [' '] else []
      else ending
    joint ++ blanks ++ text ++ blockText joined chomp b [] begins rest

/-- Reads what follows the mark of a block scalar: its text, and the place after it. What surrounds
it is indented by less than `level` columns. -/
def blockScalar? (joined : Bool) (level : Nat) (c : Cursor) : Option (List Char × Cursor) := do
  let (header, rest) ← BlockHeader.read? c.rest
  let spaced := rest.dropWhile isBlank
  let line := if spaced.head? = some '#' then spaced.dropWhile (fun x => !isBreak x) else spaced
  let start ← match line with
    | [] => some (c.moveTo [])
    | x :: after => if isBreak x then some ⟨after, c.line + 1, 0⟩ else none
  let indent ← match header.indent with
    | some n => some (level - 1 + n)
    | none =>
      (leadingIndent? (start.rest.length + 1) 0 start.rest).map fun n => max (max n level) 1
  let (lines, next) ← blockLines? indent (start.rest.length + 1) start
  some (blockText joined header.chomp [] [] false lines, next)

/-- A number without a sign, as a plain scalar writes it: decimal without a leading zero, or
hexadecimal, octal or binary after `0x`, `0o` or `0b`; a plus sign may come first. -/
def unsigned? (text : List Char) : Option Nat :=
  let digits := match text with
    | '+' :: rest => rest
    | cs => cs
  let inBase (base : Nat) (ds : List Char) : Option Nat := do
    if ds.isEmpty then none
    let values ← ds.mapM Text.hexDigit?
    if values.all fun d => d < base then some (values.foldl (fun n d => n * base + d) 0) else none
  match digits with
  | '0' :: 'x' :: ds => inBase 16 ds
  | '0' :: 'o' :: ds => inBase 8 ds
  | '0' :: 'b' :: ds => inBase 2 ds
  | ['0'] => some 0
  | '0' :: _ => none
  | ds => inBase 10 ds

end Writeback.Yaml
