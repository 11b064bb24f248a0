import Writeback.Proofs.Yaml.BlockMapping
import Writeback.Proofs.Yaml.Decimals
import Writeback.Yaml.Codec

/-!
# What is assumed of a library for YAML

A lawful codec reads a block mapping that has a plain key and a decimal number on each line, and
writes records as such mappings. The codec that programs run with is lawful.
-/

namespace Writeback.Yaml

/-- Whether a name consists of small letters and underscores, with an underscore among them. No such
name stands for anything but itself, so that it needs no quotes. -/
def isFieldName (name : String) : Bool :=
  name.toList.all (fun c => c.isLower || c = '_') && name.toList.contains '_'

/-- How a codec treats block mappings of one line for each entry. -/
structure Codec.Lawful (yaml : Codec) : Prop where
  /-- They are read entry by entry, in order; a number that is too large is none of 64 bits. -/
  reads : ∀ entries : List (String × Nat),
    (∀ entry ∈ entries, isPlainKey entry.1.toList = true) →
    yaml.entries? (mappingText entries) = some (entries.map fun (name, n) => (name, word? n))
  /-- A record is written as one, in the order of its fields. -/
  writes : ∀ fields : List (String × UInt64), fields ≠ [] →
    (∀ field ∈ fields, isFieldName field.1 = true) →
    yaml.text fields = mappingText (fields.map fun (name, value) => (name, value.toNat))

theorem word?_of_lt {n : Nat} (small : n < 2 ^ 64) : word? n = some (UInt64.ofNat n) := if_pos small

theorem word?_of_not_lt {n : Nat} (large : ¬ n < 2 ^ 64) : word? n = none := if_neg large

theorem toList_mappingText (entries : List (String × Nat)) :
    (mappingText entries).toList =
      entryLines (entries.map fun entry => (entry.1, toString entry.2)) := by
  simp [mappingText, entryLines, List.flatMap_map]

/-- The digits of a number are read as an unsigned 64-bit number if it is one. -/
theorem Scalar.word?_toString (n : Nat) :
    word? { style := .plain, text := toString n } = Yaml.word? n := by
  have number : mayBeNumber { style := .plain, text := toString n } = true := rfl
  rw [word?, if_pos number, unsigned?_toString, Option.bind_some]

theorem Document.entries?_plain {d : Document} {entries : List (String × Nat)}
    (root : d.root = .mapping (entries.map fun entry =>
      (plainNode entry.1, plainNode (toString entry.2)))) :
    d.entries? = some (entries.map fun (name, n) => (name, word? n)) := by
  have read (entry : String × Nat) :
      ((d.scalar? (plainNode entry.1)).map fun name => (name.text,
        (d.scalar? (plainNode (toString entry.2))).bind Scalar.word?)) =
          some (entry.1, word? entry.2) := by
    rw [plainNode, plainNode, scalar?, scalar?, Option.map_some, Option.bind_some,
      Scalar.word?_toString]
  simp only [entries?, root, List.mapM_map, Function.comp_def, read]
  exact List.mapM_pure

theorem lawful_codec : codec.Lawful where
  reads entries plain := by
    rcases eq_or_ne entries [] with rfl | filled
    · simp only [codec, document?, tokens?_of_empty (toList_mappingText [])]
      rfl
    · have lines : ∀ entry ∈ entries.map fun e => (e.1, toString e.2), IsPlainEntry entry := by
        intro entry mem
        obtain ⟨source, inside, rfl⟩ := List.mem_map.mp mem
        exact ⟨plain source inside, isPlainLine_toString '\n' source.2⟩
      have read := document?_entryLines (by simpa using filled) lines (toList_mappingText entries)
      simp only [codec, read]
      exact Document.entries?_plain (by rw [List.map_map]; rfl)
  writes _ _ _ := rfl

end Writeback.Yaml
