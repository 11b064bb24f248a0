import Writeback.Proofs.Json.Commuting
import Writeback.Proofs.Merge.Entries

/-!
# The value of an entry as a field

The plain value of an entry is decided among entries, and it could be decided among documents: it is
a field of the written entry, and the field has a rule of its own. The two rules agree. A written
entry has the field exactly when the entry has a value, be it an explicit null, so that an absent
value is an absent field; writing the field, or removing it, comes to the entry with the new value,
or without one.
-/

namespace Writeback

open Json AttributeValue AttributeResolution

namespace AttributeValue

/-- The field of a written entry that holds its plain value. -/
def valueField : String := "attribute_value"

theorem segments_valueField : segments valueField = [valueField] := by decide

theorem get?_valueField (document : Json) :
    document.get? valueField = document.child? valueField := by
  rw [Json.get?, segments_valueField, at?_singleton]

theorem set_valueField (fields : Fields) (update : Option Json) :
    (obj fields).set valueField update = obj (Fields.put valueField update fields) := by
  apply Option.some.inj
  rw [some_set, segments_valueField, edit_cons, edit, replace]

/-! ### Written entries -/

theorem WellFormed.withValue {v : AttributeValue} (h : v.WellFormed) (value : Option Json) :
    { v with value }.WellFormed :=
  ⟨h.sorted, h.fresh, h.objects⟩

theorem get?_toJson {v : AttributeValue} (h : v.WellFormed) :
    v.toJson.get? valueField = v.value := by
  rw [get?_valueField, toJson_eq_obj]
  exact (get?_writtenFields h valueField).trans (if_pos rfl)

/-- Writing the field of the value, or removing it, gives the entry with that value. -/
theorem set_toJson {v : AttributeValue} (h : v.WellFormed) (value : Option Json) :
    v.toJson.set valueField value = { v with value }.toJson := by
  have sorted := pairwise_keys_writtenFields h
  rw [toJson_eq_obj, toJson_eq_obj, set_valueField]
  congr 1
  apply Fields.ext (Fields.pairwise_keys_put sorted valueField value)
    (pairwise_keys_writtenFields (h.withValue value))
  intro key
  rw [Fields.get?_put sorted, get?_writtenFields h, get?_writtenFields (h.withValue value)]
  by_cases same : "attribute_value" = key
  · rw [valueField, if_pos same, if_pos same]
  · rw [valueField, if_neg same, if_neg same, if_neg same]

/-- The entry for a definition as it is written. A missing entry is an object without fields. -/
def written (values : List AttributeValue) (definition : Identifier) : Json :=
  match find? values definition with
  | some v => v.toJson
  | none => obj []

theorem get?_written {values : List AttributeValue} (h : ∀ v ∈ values, v.WellFormed)
    (definition : Identifier) :
    (written values definition).get? valueField = heldValue values definition := by
  cases found : find? values definition with
  | none =>
    rw [written, found, heldValue_of_find?_eq_none found, get?_valueField]
    rfl
  | some v =>
    rw [written, found, heldValue_of_find? found]
    exact get?_toJson (h v (mem_of_find? found))

/-- The entries were read from a document. -/
def AreRead (values : List AttributeValue) : Prop :=
  ∃ document : Json, document.Ordered ∧
    Reader.list AttributeValue.read document = .ok values

theorem AreRead.wellFormed {values : List AttributeValue} (h : AreRead values) :
    ∀ v ∈ values, v.WellFormed := by
  obtain ⟨document, ordered, read⟩ := h
  intro v mem
  obtain ⟨item, fine, read⟩ := Reader.exists_ordered_of_list ordered read v mem
  exact wellFormed_of_read fine read

end AttributeValue

/-! ### The two rules -/

/-- The plain value for a definition, decided as a field of the written entries. -/
def resolveValue (previous current remote : List AttributeValue) (definition : Identifier) :
    FieldResolution :=
  resolveField (written previous definition) (written current definition)
    (written remote definition) valueField none

section Rules

variable {previous current remote : List AttributeValue}
  (hp : ∀ v ∈ previous, v.WellFormed) (hc : ∀ v ∈ current, v.WellFormed)
  (hr : ∀ v ∈ remote, v.WellFormed)
include hp hc hr

theorem conflict_resolveValue {item : AttributeValue}
    (loaded : find? previous item.definition = some item) :
    (resolveValue previous current remote item.definition).conflict =
      (valueChange current remote item).conflict := by
  rw [resolveValue, resolveField]
  dsimp only
  rw [get?_written hp, get?_written hc, get?_written hr, heldValue_of_find? loaded]
  rfl

/-- What the rule of the field makes of a written entry is the entry with the value that the rule of
the entries gives it. -/
theorem applyTo_resolveValue {item target : AttributeValue} (ht : target.WellFormed)
    (loaded : find? previous item.definition = some item) :
    (resolveValue previous current remote item.definition).applyTo target.toJson =
      { target with value := (mergeEntry current remote item target).value }.toJson := by
  have base := get?_written hp item.definition
  have here := get?_written hc item.definition
  have there := get?_written hr item.definition
  rw [heldValue_of_find? loaded] at base
  rw [value_mergeEntry]
  by_cases safe : SafelyEdited item.value (heldValue current item.definition)
      (heldValue remote item.definition)
  · rw [if_pos safe]
    rw [← base, ← here, ← there] at safe
    have update := update_of_safelyEdited none safe
    rw [Option.getD_none, here] at update
    have applied := FieldResolution.applyTo_of_update update target.toJson
    exact applied.trans (set_toJson ht _)
  · rw [if_neg safe]
    rw [← base, ← here, ← there] at safe
    exact FieldResolution.applyTo_of_none (update_of_not_safelyEdited none safe) target.toJson

end Rules

/-- The merge of entries leaves in the container's entry for a loaded definition the value that the
rule of a field comes to: the entries of the definition are written, with an object without fields
for one that is missing, and the update of the field is written into the container's. There is a
conflict when one of the loaded entries has a field in conflict. -/
theorem resolveAttributes_agrees_with_field
    {previous current remote container : List AttributeValue} (hp : AreRead previous)
    (hc : AreRead current) (hr : AreRead remote) (ht : AreRead container)
    (once : (previous.map AttributeValue.definition).Nodup) :
    let resolution := resolveAttributes previous current remote container
    (∀ definition ∈ previous.map AttributeValue.definition,
        ∀ target, find? container definition = some target →
        let document :=
          (resolveValue previous current remote definition).applyTo target.toJson
        ∃ merged, find? resolution.values definition = some merged ∧
          document.get? valueField = merged.value ∧
          document = { target with value := merged.value }.toJson) ∧
      resolution.conflict =
        previous.any fun item =>
          (resolveValue previous current remote item.definition).conflict := by
  intro resolution
  constructor
  · intro definition mem target there document
    obtain ⟨item, inside, rfl⟩ := List.mem_map.mp mem
    have loaded := find?_of_mem once inside
    have fine := ht.wellFormed target (mem_of_find? there)
    have merged := find?_resolveAttributes once current remote container item.definition
    rw [loaded, there] at merged
    have written : document = _ :=
      applyTo_resolveValue hp.wellFormed hc.wellFormed hr.wellFormed fine loaded
    refine ⟨mergeEntry current remote item target, merged, ?_, written⟩
    rw [written]
    exact get?_toJson (fine.withValue _)
  · have agree : ∀ item ∈ previous,
        (resolveValue previous current remote item.definition).conflict =
          (valueChange current remote item).conflict := fun item mem =>
      conflict_resolveValue hp.wellFormed hc.wellFormed hr.wellFormed (find?_of_mem once mem)
    rw [Bool.eq_iff_iff, conflict_resolveAttributes_iff, List.any_eq_true]
    refine exists_congr fun item => and_congr_right fun mem => ?_
    rw [agree item mem]

/-- One value diverged. The other was loaded as null and is absent locally, and the server dropped
the entry, so that the value is removed from the container's. -/
theorem agrees_with_field_of_removed_null :
    let effort : Identifier := ⟨7, by decide⟩
    let owner : Identifier := ⟨8, by decide⟩
    let previous : List AttributeValue := [.ofValue effort (.str "low"), .ofValue owner .null]
    let current : List AttributeValue := [⟨owner, none, none, []⟩, .ofValue effort (.str "high")]
    let remote : List AttributeValue := [.ofValue effort (.int 5)]
    let container : List AttributeValue := [⟨owner, some (.str "Ann"), none, [("note", .null)]⟩]
    let resolution := resolveAttributes previous current remote container
    AreRead previous ∧ AreRead current ∧ AreRead remote ∧ AreRead container ∧
      (previous.map AttributeValue.definition).Nodup ∧ resolution.conflict = true ∧
      ∃ merged, find? resolution.values owner = some merged ∧ merged.value = none := by
  intro effort owner previous current remote container resolution
  have read (values : List AttributeValue)
      (ordered : (Json.arr (values.map AttributeValue.toJson)).Ordered)
      (back : Reader.list AttributeValue.read (.arr (values.map AttributeValue.toJson)) =
        .ok values) : AreRead values := ⟨_, ordered, back⟩
  have hp : AreRead previous := read previous (by decide) rfl
  have hc : AreRead current := read current (by decide) rfl
  have hr : AreRead remote := read remote (by decide) rfl
  have ht : AreRead container := read container (by decide) rfl
  have once : (previous.map AttributeValue.definition).Nodup := by decide
  obtain ⟨values, conflict⟩ := resolveAttributes_agrees_with_field hp hc hr ht once
  obtain ⟨merged, found, value, -⟩ := values owner (by decide) _ rfl
  have reported : resolution.conflict = true := conflict.trans (by decide)
  have removed : merged.value = none := value.symm.trans (by decide)
  exact ⟨hp, hc, hr, ht, once, reported, merged, found, removed⟩

end Writeback
