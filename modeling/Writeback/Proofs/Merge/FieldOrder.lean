import Writeback.Proofs.Json.Lens
import Writeback.Proofs.Merge.Fields

/-!
# The order of the listed fields

Every safe edit brings what the local document has at its field, so any two of them are made in
either order, and none needs to be made twice. Carrying out a list of edits after another list that
contains it therefore changes nothing, and two lists of the same fields come to the same document.
-/

namespace Writeback

open Json

namespace Snapshot

section Pair

variable {s : Snapshot} (h : s.Ordered) {merged : Json} (ordered : merged.Ordered)
include h ordered

theorem applyTo_comm {field other : String}
    (spelled : ¬ Respelled (segments field) (segments other)) :
    (s.resolveField field).applyTo ((s.resolveField other).applyTo merged) =
      (s.resolveField other).applyTo ((s.resolveField field).applyTo merged) := by
  by_cases here : s.IsSafe field
  · by_cases there : s.IsSafe other
    · apply Option.some.inj
      rw [applyTo_of_isSafe here, applyTo_of_isSafe there, applyTo_of_isSafe there,
        applyTo_of_isSafe here, some_set, some_set, some_set, some_set]
      exact edit_comm h.current.place ordered.place spelled
    · rw [applyTo_of_not_isSafe there, applyTo_of_not_isSafe there]
  · rw [applyTo_of_not_isSafe here, applyTo_of_not_isSafe here]

end Pair

section Lists

variable {s : Snapshot} (h : s.Ordered) {fields others : List String} {merged : Json}
  (ordered : merged.Ordered)
include h ordered

theorem Ordered.writeFields : (s.writeFields fields merged).Ordered :=
  writeFields_induction (P := Json.Ordered) ordered fun field _ _ => h.applyTo field

theorem applyTo_writeFields {field : String}
    (spelled : ∀ other ∈ others, ¬ Respelled (segments field) (segments other)) :
    (s.resolveField field).applyTo (s.writeFields others merged) =
      s.writeFields others ((s.resolveField field).applyTo merged) := by
  induction others generalizing merged with
  | nil => rfl
  | cons other others ih =>
    obtain ⟨first, later⟩ := List.forall_mem_cons.mp spelled
    have rest := ih (h.applyTo other ordered) later
    rwa [applyTo_comm h ordered first] at rest

/-- Two lists of edits are carried out in either order. -/
theorem writeFields_comm
    (spelled : ∀ field ∈ fields, ∀ other ∈ others, ¬ Respelled (segments field) (segments other)) :
    s.writeFields fields (s.writeFields others merged) =
      s.writeFields others (s.writeFields fields merged) := by
  induction fields generalizing merged with
  | nil => rfl
  | cons field fields ih =>
    obtain ⟨first, later⟩ := List.forall_mem_cons.mp spelled
    have rest := ih (h.applyTo field ordered) later
    rwa [← applyTo_writeFields h ordered first] at rest

/-- An edit that was made is not made again. -/
theorem applyTo_writeFields_of_mem {field : String} (mem : field ∈ others)
    (spelled : ∀ other ∈ others, ¬ Respelled (segments field) (segments other)) :
    (s.resolveField field).applyTo (s.writeFields others merged) =
      s.writeFields others merged := by
  obtain ⟨before, after, rfl⟩ := List.append_of_mem mem
  have early : (s.writeFields before merged).Ordered := h.writeFields ordered
  have last := applyTo_writeFields h (h.applyTo field early) fun other there =>
    spelled other (List.mem_append_right _ (List.mem_cons_of_mem _ there))
  rw [applyTo_applyTo early] at last
  rwa [writeFields, List.foldl_append, List.foldl_cons]

theorem writeFields_of_subset (sub : fields ⊆ others)
    (spelled : ∀ field ∈ fields, ∀ other ∈ others, ¬ Respelled (segments field) (segments other)) :
    s.writeFields fields (s.writeFields others merged) = s.writeFields others merged := by
  induction fields with
  | nil => rfl
  | cons field fields ih =>
    obtain ⟨first, later⟩ := List.forall_mem_cons.mp spelled
    obtain ⟨mem, sub⟩ := List.cons_subset.mp sub
    rw [writeFields, List.foldl_cons, applyTo_writeFields_of_mem h ordered mem first]
    exact ih sub later

end Lists

/-- Lists of the same fields come to the same document. -/
theorem mergeFields_congr {s : Snapshot} (h : s.Ordered) {fields others : List String}
    (same : ∀ field, field ∈ fields ↔ field ∈ others)
    (spelled : ∀ field ∈ fields, ∀ other ∈ fields, ¬ Respelled (segments field) (segments other)) :
    s.mergeFields fields = s.mergeFields others := by
  have there : ∀ field ∈ fields, ∀ other ∈ others,
      ¬ Respelled (segments field) (segments other) :=
    fun field mem other mem' => spelled field mem other ((same other).mpr mem')
  have back : ∀ field ∈ others, ∀ other ∈ fields,
      ¬ Respelled (segments field) (segments other) :=
    fun field mem other mem' => spelled field ((same field).mpr mem) other mem'
  calc s.writeFields fields s.remote
      = s.writeFields others (s.writeFields fields s.remote) :=
        (writeFields_of_subset h h.remote (fun field mem => (same field).mpr mem) back).symm
    _ = s.writeFields fields (s.writeFields others s.remote) :=
        writeFields_comm h h.remote back
    _ = s.writeFields others s.remote :=
        writeFields_of_subset h h.remote (fun field mem => (same field).mp mem) there

theorem mem_fieldConflicts_congr {s : Snapshot} {fields others : List String}
    (same : ∀ field, field ∈ fields ↔ field ∈ others) (name : String) :
    name ∈ s.fieldConflicts fields ↔ name ∈ s.fieldConflicts others := by
  rw [fieldConflicts, fieldConflicts, List.mem_filter, List.mem_filter, same]

/-- Neither the order of the listed fields nor their repetition matters: lists of the same fields
give the same merged document, and conflicts of the same names. The fields may overlap, and lie
within the custom attribute values. -/
theorem resolve_congr {s : Snapshot} (h : s.Ordered) {fields others : List String}
    (same : ∀ field, field ∈ fields ↔ field ∈ others)
    (spelled : ∀ field ∈ fields, ∀ other ∈ fields, ¬ Respelled (segments field) (segments other)) :
    (s.resolve fields).merged = (s.resolve others).merged ∧
      ∀ name, name ∈ (s.resolve fields).conflicts ↔ name ∈ (s.resolve others).conflicts := by
  have named := mem_fieldConflicts_congr (s := s) same
  unfold resolve
  dsimp only
  rw [mergeFields_congr h same spelled]
  split
  · exact ⟨rfl, named⟩
  · split
    · exact ⟨rfl, fun name => by rw [List.mem_append, List.mem_append, named]⟩
    · refine ⟨rfl, fun name => ?_⟩
      split
      · rw [List.mem_append, List.mem_append, named]
      · exact named name

/-- The address becomes an object locally, its street is listed apart, and an attribute of a list
that does not have the right shape is renamed. -/
theorem resolve_congr_of_address :
    let effort (name : String) : Json := .obj [("custom_attribute_id", .int 7), ("name", .str name)]
    let card (address : Json) (name : String) : Json :=
      .obj [("address", address), (attributeKey, .arr [.null, effort name])]
    let s : Snapshot :=
      ⟨card .null "a", card (.obj [("city", .str "Bern"), ("street", .str "Aare")]) "b",
        card (.int 1) "a"⟩
    let fields := ["address", "custom_attribute_values.1.name", "address.street"]
    let others := ["address.street", "custom_attribute_values.1.name", "address", "address"]
    s.Ordered ∧ (∀ field, field ∈ fields ↔ field ∈ others) ∧
      (s.resolve fields).merged = (s.resolve others).merged ∧
      ∀ name, name ∈ (s.resolve fields).conflicts ↔ name ∈ (s.resolve others).conflicts := by
  intro effort card s fields others
  have ordered : s.Ordered := by decide
  have same : ∀ field, field ∈ fields ↔ field ∈ others := by
    intro field
    simp only [fields, others, List.mem_cons, List.not_mem_nil, or_false]
    tauto
  exact ⟨ordered, same, resolve_congr ordered same (by decide)⟩

end Snapshot

end Writeback
