/-!
# YAML nodes

A node is a scalar, a sequence, a mapping, or an alias. Of a scalar it matters how it was written:
plain scalars stand for numbers, and so does one that keeps its lines under the tag of integers.
An alias holds the number of its anchor; a document holds what its anchors name.
-/

namespace Writeback.Yaml

inductive Style where
  | plain
  | singleQuoted
  | doubleQuoted
  | literal
  | folded
deriving DecidableEq, Repr

/-- A scalar. The tag is none if there is none, or one that says nothing. -/
structure Scalar where
  style : Style
  tag : Option String := none
  text : String
deriving DecidableEq, Repr

def Scalar.empty : Scalar := { style := .plain, text := "" }

def integerTag : String := "tag:yaml.org,2002:int"

def Scalar.mayBeNumber (s : Scalar) : Bool :=
  s.style = .plain || (s.style = .literal && s.tag = some integerTag)

inductive Node where
  | scalar (s : Scalar)
  | sequence (items : List Node)
  | mapping (entries : List (Node × Node))
  | alias (anchor : Nat)
deriving Repr, Inhabited

/-- A document: its root, and what stands under each anchor, with none for a collection. -/
structure Document where
  root : Node
  named : List (Nat × Option Scalar)
deriving Repr

/-- The scalar that a node is, or that it is an alias of. -/
def Document.scalar? (d : Document) : Node → Option Scalar
  | .scalar s => some s
  | .alias anchor => (d.named.lookup anchor).join
  | _ => none

end Writeback.Yaml
