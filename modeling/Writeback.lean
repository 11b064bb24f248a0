import Writeback.Http.Endpoint
import Writeback.Json.Lemmas
import Writeback.Json.Parser
import Writeback.Merge.Snapshot
import Writeback.Queue.Reachable
import Writeback.Queue.Scenario
import Writeback.Save.SettingsText
import Writeback.Proofs.Merge.AttributeEdits
import Writeback.Proofs.Queue.Answers
import Writeback.Proofs.Queue.Creates
import Writeback.Proofs.Queue.Flight
import Writeback.Proofs.Queue.Settlement
import Writeback.Proofs.Queue.Throttle
import Writeback.Proofs.Queue.Crashes
import Writeback.Proofs.Queue.Debounce
import Writeback.Proofs.Queue.Dropping
import Writeback.Proofs.Queue.Precedence
import Writeback.Proofs.Merge.FieldOrder
import Writeback.Proofs.Merge.Unedited
import Writeback.Proofs.Queue.Actions
import Writeback.Proofs.Queue.Termination
import Writeback.Proofs.Queue.Isolation
import Writeback.Proofs.Merge.Entries
import Writeback.Proofs.Merge.Decomposition
import Writeback.Proofs.Merge.Rebasing
import Writeback.Proofs.Merge.Roots
import Writeback.Proofs.Merge.ValueFields
import Writeback.Proofs.Merge.Conflicts
import Writeback.Proofs.Json.Lens
import Writeback.Proofs.Json.Values
import Writeback.Proofs.Merge.Comparison
import Writeback.Proofs.Save.Redistribution
import Writeback.Proofs.Save.NumberForms
import Writeback.Proofs.Queue.Calls
import Writeback.Proofs.Queue.Courses
import Writeback.Proofs.Queue.Landing
import Writeback.Proofs.Queue.Legs
import Writeback.Proofs.Queue.Measurements
import Writeback.Proofs.Merge.RoundTrip
import Writeback.Proofs.Queue.Silence
import Writeback.Proofs.Queue.Flushes
import Writeback.Proofs.Queue.Chunks
import Writeback.Proofs.Merge.Ancestors
import Writeback.Proofs.Save.SettingsText
import Writeback.Proofs.Json.Collisions
import Writeback.Proofs.Yaml.Codec
