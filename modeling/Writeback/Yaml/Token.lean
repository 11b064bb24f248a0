import Writeback.Yaml.Node

/-!
# YAML tokens

What a text consists of: the marks of documents and collections, the properties of nodes, and the
scalars. Block collections, which are written by indentation, have marks of their own for where
they begin and end, and each key is marked, also one that has no indicator.
-/

namespace Writeback.Yaml

inductive Token where
  | version (major minor : Nat)
  | handle (name stands : String)
  | documentStart
  | documentEnd
  | blockSequence
  | blockMapping
  | blockEnd
  | flowSequence
  | flowSequenceEnd
  | flowMapping
  | flowMappingEnd
  | blockEntry
  | flowEntry
  | key
  | value
  | alias (name : String)
  | anchor (name : String)
  | tag (handle suffix : String)
  | scalar (style : Style) (text : String)
deriving DecidableEq, Repr

namespace Token

/-- Whether a token goes on with a block mapping, or ends it, where a node is not written. -/
def endsBlockNode : Token → Bool
  | key | value | blockEnd => true
  | _ => false

/-- Whether a token ends an item of a flow sequence. -/
def endsFlowItem : Token → Bool
  | flowEntry | flowSequenceEnd => true
  | _ => false

/-- Whether a token ends an entry of a flow mapping. -/
def endsFlowEntry : Token → Bool
  | flowEntry | flowMappingEnd => true
  | _ => false

/-- Whether a token stands before the content of a document. -/
def startsDocument : Token → Bool
  | version _ _ | Token.handle _ _ | documentStart => true
  | _ => false

end Token

end Writeback.Yaml
