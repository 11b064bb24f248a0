import Writeback.Yaml.Lexing
import Writeback.Yaml.Node

/-!
# YAML documents

`Yaml.document?` reads a text that holds at most one document. Before it may stand directives, which
need a marker after them; after it may stand markers of its end.

Anchors are numbered in the order of the text: a name takes the count of the names that came before
it as its number, and a name that comes again takes the count of all names so far. So two names may
share a number, and what a number stands for is what was named by it last.

`fuel` bounds the calls. For each token there are at most four of them.
-/

namespace Writeback.Yaml

/-- How far the tokens have been read: those that are left, what handles of tags stand for, the
numbers of the anchors so far, and what they name. -/
structure Reading where
  tokens : List Token
  handles : List (String × String)
  anchors : List (String × Nat) := []
  named : List (Nat × Option Scalar) := []

/-- What stands in front of the content of a node. -/
structure Properties where
  anchor : Option String := none
  tag : Option String := none
deriving DecidableEq, Repr

namespace Reading

def moved (r : Reading) (tokens : List Token) : Reading := { r with tokens := tokens }

/-- Gives a name to a node, of which the scalar is kept if it is one. -/
def bind (r : Reading) (name : Option String) (node : Option Scalar) : Reading :=
  match name with
  | none => r
  | some name =>
    let number := r.anchors.length
    { r with
      anchors := (name, number) :: r.anchors.filter fun entry => entry.1 != name
      named := (number, node) :: r.named }

/-- The text of a tag. An empty handle adds nothing to it. -/
def tagText? (r : Reading) (handle suffix : String) : Option String :=
  if handle.isEmpty then some suffix else (r.handles.lookup handle).map fun s => s ++ suffix

/-- Reads an anchor and a tag in either order, each at most once. -/
def properties? (r : Reading) : Option (Properties × Reading) :=
  match r.tokens with
  | .anchor name :: .tag handle suffix :: rest | .tag handle suffix :: .anchor name :: rest =>
    (r.tagText? handle suffix).map fun tag =>
      ({ anchor := some name, tag := some tag }, r.moved rest)
  | .anchor name :: rest => some ({ anchor := some name }, r.moved rest)
  | .tag handle suffix :: rest =>
    (r.tagText? handle suffix).map fun tag => ({ tag := some tag }, r.moved rest)
  | _ => some ({}, r)

/-- A scalar as a node. A tag of a lone exclamation mark says nothing. -/
def scalar (r : Reading) (p : Properties) (style : Style) (text : String) : Node × Reading :=
  let s : Scalar := { style := style, tag := p.tag.filter fun tag => tag != "!", text := text }
  (.scalar s, r.bind p.anchor (some s))

/-- A node of which only properties are written. -/
def bare? (r : Reading) (p : Properties) : Option (Node × Reading) :=
  if p.anchor.isSome || p.tag.isSome then some (r.scalar p .plain "") else none

/-- The token before an entry of a flow collection is gone: a comma, unless it is the first one. -/
def afterComma? (first : Bool) (r : Reading) : Option Reading :=
  match first, r.tokens with
  | true, _ => some r
  | false, .flowEntry :: rest => some (r.moved rest)
  | false, _ => none

end Reading

def Node.empty : Node := .scalar .empty

/-- Whether the tokens go on with what may follow a node that is not written. -/
def endsAt (ends : Token → Bool) (tokens : List Token) : Bool := tokens.head?.any ends

mutual

/-- Reads a node. Where block collections may stand, `block` is set, and `indentless` where a block
sequence may stand at the column of the mapping around it. -/
def node? (fuel : Nat) (block indentless : Bool) (r : Reading) : Option (Node × Reading) :=
  match fuel with
  | 0 => none
  | fuel + 1 =>
    match r.tokens with
    | .alias name :: rest => (r.anchors.lookup name).map fun number => (.alias number, r.moved rest)
    | _ => do
      let (p, r) ← r.properties?
      match r.tokens, block, indentless with
      | .scalar style text :: rest, _, _ => some ((r.moved rest).scalar p style text)
      | .flowSequence :: rest, _, _ =>
        let (items, r) ← flowItems? fuel true ((r.bind p.anchor none).moved rest)
        some (.sequence items, r)
      | .flowMapping :: rest, _, _ =>
        let (entries, r) ← flowEntries? fuel true ((r.bind p.anchor none).moved rest)
        some (.mapping entries, r)
      | .blockEntry :: _, _, true =>
        let (items, r) ← indentlessItems? fuel (r.bind p.anchor none)
        some (.sequence items, r)
      | .blockSequence :: rest, true, _ =>
        let (items, r) ← blockItems? fuel ((r.bind p.anchor none).moved rest)
        some (.sequence items, r)
      | .blockMapping :: rest, true, _ =>
        let (entries, r) ← blockEntries? fuel ((r.bind p.anchor none).moved rest)
        some (.mapping entries, r)
      | _, _, _ => r.bare? p

def blockItems? (fuel : Nat) (r : Reading) : Option (List Node × Reading) :=
  match fuel with
  | 0 => none
  | fuel + 1 =>
    match r.tokens with
    | .blockEntry :: rest => do
      let (item, r) ←
        if endsAt (fun t => t = .blockEntry || t = .blockEnd) rest then
          some (Node.empty, r.moved rest)
        else node? fuel true false (r.moved rest)
      let (items, r) ← blockItems? fuel r
      some (item :: items, r)
    | .blockEnd :: rest => some ([], r.moved rest)
    | _ => none

/-- The items of a block sequence at the column of the mapping around it. -/
def indentlessItems? (fuel : Nat) (r : Reading) : Option (List Node × Reading) :=
  match fuel with
  | 0 => none
  | fuel + 1 =>
    match r.tokens with
    | .blockEntry :: rest => do
      let (item, r) ←
        if endsAt (fun t => t = .blockEntry || t.endsBlockNode) rest then
          some (Node.empty, r.moved rest)
        else node? fuel true false (r.moved rest)
      let (items, r) ← indentlessItems? fuel r
      some (item :: items, r)
    | _ => some ([], r)

/-- A key or a value of a block mapping. -/
def blockPart? (fuel : Nat) (r : Reading) : Option (Node × Reading) :=
  match fuel with
  | 0 => none
  | fuel + 1 =>
    if endsAt Token.endsBlockNode r.tokens then some (.empty, r) else node? fuel true true r

def blockEntries? (fuel : Nat) (r : Reading) : Option (List (Node × Node) × Reading) :=
  match fuel with
  | 0 => none
  | fuel + 1 =>
    match r.tokens with
    | .key :: rest => do
      let (key, r) ← blockPart? fuel (r.moved rest)
      let (value, r) ← match r.tokens with
        | .value :: rest => blockPart? fuel (r.moved rest)
        | _ => some (.empty, r)
      let (entries, r) ← blockEntries? fuel r
      some ((key, value) :: entries, r)
    | .blockEnd :: rest => some ([], r.moved rest)
    | _ => none

/-- A key or a value in a flow collection. -/
def flowPart? (fuel : Nat) (ends : Token → Bool) (r : Reading) : Option (Node × Reading) :=
  match fuel with
  | 0 => none
  | fuel + 1 => if endsAt ends r.tokens then some (.empty, r) else node? fuel false false r

/-- The key of a single entry in a flow sequence. One that is not written takes the place of the
token that comes next. -/
def singleKey? (fuel : Nat) (r : Reading) : Option (Node × Reading) :=
  match fuel with
  | 0 => none
  | fuel + 1 =>
    if endsAt (fun t => t = .value || t.endsFlowItem) r.tokens then
      some (.empty, r.moved (r.tokens.drop 1))
    else node? fuel false false r

/-- The items of a flow sequence. A single entry of a mapping may be an item. -/
def flowItems? (fuel : Nat) (first : Bool) (r : Reading) : Option (List Node × Reading) :=
  match fuel with
  | 0 => none
  | fuel + 1 =>
    match r.tokens with
    | .flowSequenceEnd :: rest => some ([], r.moved rest)
    | _ => do
      let r ← r.afterComma? first
      match r.tokens with
      | .flowSequenceEnd :: rest => some ([], r.moved rest)
      | .key :: rest =>
        let (key, r) ← singleKey? fuel (r.moved rest)
        let (value, r) ← match r.tokens with
          | .value :: rest => flowPart? fuel Token.endsFlowItem (r.moved rest)
          | _ => some (.empty, r)
        let (items, r) ← flowItems? fuel false r
        some (.mapping [(key, value)] :: items, r)
      | _ =>
        let (item, r) ← node? fuel false false r
        let (items, r) ← flowItems? fuel false r
        some (item :: items, r)

def flowEntries? (fuel : Nat) (first : Bool) (r : Reading) :
    Option (List (Node × Node) × Reading) :=
  match fuel with
  | 0 => none
  | fuel + 1 =>
    match r.tokens with
    | .flowMappingEnd :: rest => some ([], r.moved rest)
    | _ => do
      let r ← r.afterComma? first
      match r.tokens with
      | .flowMappingEnd :: rest => some ([], r.moved rest)
      | .key :: rest =>
        let (key, r) ←
          flowPart? fuel (fun t => t = .value || t.endsFlowEntry) (r.moved rest)
        let (value, r) ← match r.tokens with
          | .value :: rest => flowPart? fuel Token.endsFlowEntry (r.moved rest)
          | _ => some (.empty, r)
        let (entries, r) ← flowEntries? fuel false r
        some ((key, value) :: entries, r)
      | _ =>
        let (key, r) ← node? fuel false false r
        let (entries, r) ← flowEntries? fuel false r
        some ((key, .empty) :: entries, r)

end

/-- What directives say: whether a version was stated, and what handles stand for. -/
structure Directives where
  versioned : Bool := false
  handles : List (String × String) := []

/-- What handles stand for without a directive. -/
def defaultHandles : List (String × String) := [("!", "!"), ("!!", "tag:yaml.org,2002:")]

/-- Reads directives, and gives the rest. A version is 1.1 or 1.2; neither the version nor a handle
may come twice. -/
def directives? : Directives → List Token → Option (Directives × List Token)
  | d, .version major minor :: rest =>
    if d.versioned || major != 1 || (minor != 1 && minor != 2) then none
    else directives? { d with versioned := true } rest
  | d, .handle name stands :: rest =>
    if (d.handles.lookup name).isSome then none
    else directives? { d with handles := (name, stands) :: d.handles } rest
  | d, tokens => some (d, tokens)

/-- Reads the root of a document, which may be empty after a marker. -/
def root? (tokens : List Token) : Option (Node × Reading) := do
  let fuel := 4 * tokens.length + 4
  let marked := endsAt Token.startsDocument tokens
  let (d, rest) ← directives? {} tokens
  let r : Reading := { tokens := rest, handles := d.handles ++ defaultHandles }
  match marked, rest with
  | false, _ => node? fuel true false r
  | true, .documentStart :: content =>
    if content.isEmpty || endsAt (fun t => t.startsDocument || t = .documentEnd) content then
      some (.empty, r.moved content)
    else node? fuel true false (r.moved content)
  | true, _ => none

/-- Reads the document of a text; `some none` when there is none in it. -/
def document? (text : String) : Option (Option Document) := do
  let tokens ← tokens? text
  if tokens.isEmpty then some none
  else
    let (root, r) ← root? tokens
    if r.tokens.all fun t => t = .documentEnd then some (some { root := root, named := r.named })
    else none

end Writeback.Yaml
