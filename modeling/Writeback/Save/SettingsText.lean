import Writeback.Save.Settings
import Writeback.Yaml.Codec

/-!
# Settings as YAML text

The settings are a record of three numbers, which a library for YAML reads and writes. Reading takes
any mapping in which the keys that are settings have numbers as values, each key at most once; keys
that are missing keep their defaults, and unknown keys are passed over.
-/

namespace Writeback.Settings

def toYaml (s : Settings) (yaml : Yaml.Codec := Yaml.codec) : String :=
  yaml.text [("delay_ms", s.delayMs), ("max_instances", s.maxInstances),
    ("batch_size", s.batchSize)]

/-- The settings that a text can give values to. -/
inductive Key where
  | delayMs
  | maxInstances
  | batchSize
deriving DecidableEq, Repr

def Key.ofName? (name : String) : Option Key :=
  if name = "delay_ms" then some delayMs
  else if name = "max_instances" then some maxInstances
  else if name = "batch_size" then some batchSize
  else none

def put (s : Settings) (key : Key) (value : UInt64) : Settings :=
  match key with
  | .delayMs => { s with delayMs := value }
  | .maxInstances => { s with maxInstances := value }
  | .batchSize => { s with batchSize := value }

/-- The settings after the entries of a mapping, visited one by one. `seen` holds the settings that
have a value already. -/
def ofEntries? : List (String × Option UInt64) → (seen : List Key) → Settings → Option Settings
  | [], _, s => some s
  | (name, value) :: rest, seen, s =>
    match Key.ofName? name with
    | none => ofEntries? rest seen s
    | some key =>
      if seen.contains key then none
      else value.bind fun n => ofEntries? rest (key :: seen) (s.put key n)

def ofYaml? (text : String) (yaml : Yaml.Codec := Yaml.codec) : Option Settings :=
  (yaml.entries? text).bind fun entries => ofEntries? entries [] {}

end Writeback.Settings
