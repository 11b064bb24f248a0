import Writeback.Yaml.Document
import Writeback.Yaml.Scalar

/-!
# Records of numbers as YAML text

`Codec` is what a library for YAML has to do for a record of unsigned 64-bit numbers: it tells the
entries of the mapping that a text holds, and it writes a record as a text. What is done with the
entries is no concern of the library. `Yaml.codec` is the one that programs run with.
-/

namespace Writeback.Yaml

/-- A library that reads and writes records of unsigned 64-bit numbers. -/
structure Codec where
  /-- The entries of the mapping that a text holds: the key of each as text, and the number that its
  value stands for, if it is one. An empty document has no entries; there are none to be told of a
  text that is something else. -/
  entries? : String → Option (List (String × Option UInt64))
  /-- The text of a record. -/
  text : List (String × UInt64) → String

def word? (n : Nat) : Option UInt64 := if n < UInt64.size then some (UInt64.ofNat n) else none

/-- The unsigned 64-bit number that a scalar stands for. -/
def Scalar.word? (s : Scalar) : Option UInt64 :=
  if s.mayBeNumber then (unsigned? s.text.toList).bind Yaml.word? else none

def Document.entries? (d : Document) : Option (List (String × Option UInt64)) :=
  match d.root with
  | .scalar s => if s.style = .plain && s.text.isEmpty then some [] else none
  | .mapping entries => entries.mapM fun (key, value) =>
    (d.scalar? key).map fun name => (name.text, (d.scalar? value).bind Scalar.word?)
  | _ => none

/-- A block mapping of numbers, a line for each. -/
def mappingText (entries : List (String × Nat)) : String :=
  String.join (entries.map fun (name, n) => name ++ ": " ++ toString n ++ "\n")

def codec : Codec where
  entries? text :=
    match document? text with
    | none => none
    | some none => some []
    | some (some document) => document.entries?
  text entries := mappingText (entries.map fun (name, value) => (name, value.toNat))

end Writeback.Yaml
