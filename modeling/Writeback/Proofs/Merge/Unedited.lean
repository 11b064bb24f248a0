import Writeback.Proofs.Merge.AttributeEdits

/-!
# Merging without local edits

When the local version is the loaded one, no field is edited and none is in conflict, so the merge
has nothing to carry over and comes to the server's version. Custom attribute values take a detour:
the server's list is read and written back, which gives every entry the key of its objects and an
object without a list an empty one. A list that cannot be read is named as a conflict and left
alone.

Entries of the loaded list are compared with the first local entry of their definition. So a list
that has two entries of one definition counts as edited unless they agree.
-/

namespace Writeback

theorem Change.between_of_equal {α : Type} [DeepEq α] {previous current : α}
    (same : deepEq previous current = true) (remote : α) :
    between previous current remote = ⟨false, false⟩ := by
  simp [between, same]

/-! ### Lists of entries -/

namespace AttributeValue

/-- Every entry has the value and the objects of the first entry of its definition. -/
def Consistent (values : List AttributeValue) : Prop :=
  ∀ item ∈ values, deepEq item.value (heldValue values item.definition) = true ∧
    deepEq item.objects (heldObjects values item.definition) = true

instance (values : List AttributeValue) : Decidable (Consistent values) :=
  inferInstanceAs (Decidable (∀ item ∈ values, _))

end AttributeValue

open Json AttributeValue AttributeResolution

theorem AttributeResolution.updateFirst_of_fixed {definition : Identifier}
    {f : AttributeValue → AttributeValue} (fixed : ∀ v, f v = v) (values : List AttributeValue) :
    updateFirst definition f values = values := by
  induction values with
  | nil => rfl
  | cons v rest ih => rw [updateFirst, fixed, ih, ite_self]

section Entry

variable {current : List AttributeValue} {item : AttributeValue}
  (value : deepEq item.value (heldValue current item.definition) = true)
  (remote : List AttributeValue)
include value

theorem AttributeResolution.valueChange_of_unedited :
    valueChange current remote item = ⟨false, false⟩ :=
  Change.between_of_equal value _

/-- An entry that was not edited leaves the one it is merged into. -/
theorem AttributeResolution.mergeEntry_of_unedited
    (objects : deepEq item.objects (heldObjects current item.definition) = true)
    (target : AttributeValue) : mergeEntry current remote item target = target := by
  have unchanged (there : Option (List MappedObject)) :
      Change.between item.objects ((find? current item.definition).bind AttributeValue.objects)
        there = ⟨false, false⟩ := Change.between_of_equal objects there
  rw [mergeEntry, valueChange_of_unedited value, unchanged]
  rfl

end Entry

theorem resolveAttributes_unedited {loaded : List AttributeValue} (h : Consistent loaded)
    (remote container : List AttributeValue) :
    resolveAttributes loaded loaded remote container = ⟨false, container⟩ := by
  let Same (values : List AttributeValue) : Prop := values = container
  have values : Same (resolveAttributes loaded loaded remote container).values := by
    refine resolveAttributes_induction (P := Same) rfl fun item mem values same => ?_
    obtain ⟨value, objects⟩ := h item mem
    exact (updateFirst_of_fixed (mergeEntry_of_unedited value remote objects) values).trans same
  have conflict : (resolveAttributes loaded loaded remote container).conflict = false := by
    refine List.any_eq_false.mpr fun item mem => ?_
    rw [valueChange_of_unedited (h item mem).1]
    exact Bool.false_ne_true
  exact congrArg₂ AttributeResolution.mk conflict values

/-! ### Whole documents -/

namespace Snapshot

/-- A list that was read is consistent when it has at most one entry for each definition. -/
theorem consistent_of_nodup {attrs : Json} (h : attrs.Ordered) {values : List AttributeValue}
    (read : attributeValues attrs = .ok values)
    (once : (values.map AttributeValue.definition).Nodup) : Consistent values := by
  intro item mem
  obtain ⟨source, ordered, read⟩ := exists_of_attributeValues h read item mem
  rw [heldValue, heldObjects, find?_of_mem once mem]
  have ordered := AttributeValue.ordered_of_read ordered read
  exact ⟨ordered.equal_value, ordered.equal_objects⟩

/-- The entries of a document as they stand in it; there are none when the list is absent or
null. -/
def attributeItems (attrs : Json) : List Json :=
  match attrs.field? attributeKey with
  | some (.arr items) => items
  | _ => []

theorem toJson_of_attributeValues {attrs : Json} (h : attrs.Ordered) {values : List AttributeValue}
    (read : attributeValues attrs = .ok values) :
    values.map AttributeValue.toJson = (attributeItems attrs).map completeEntry := by
  unfold attributeValues at read
  unfold attributeItems
  split at read
  · next none =>
    cases read
    rw [none]
    rfl
  · next null =>
    cases read
    rw [null]
    rfl
  · next x _ found =>
    obtain ⟨items, rfl, -⟩ := Reader.exists_of_list read
    rw [found]
    have ordered := Json.ordered_arr.mp (h.field? _ found)
    exact Reader.map_of_list read fun item inside v =>
      AttributeValue.toJson_of_read (ordered item inside)

/-- An object with a list of entries, all with the key of their objects. -/
def completed : Json → Json
  | .obj fields =>
    .obj (Fields.insert attributeKey
      (.arr ((attributeItems (.obj fields)).map completeEntry)) fields)
  | x => x

theorem putAttributes_eq_completed {attrs : Json} (h : attrs.Ordered)
    {values : List AttributeValue} (read : attributeValues attrs = .ok values) :
    putAttributes values attrs = completed attrs := by
  have written := toJson_of_attributeValues h read
  cases attrs with
  | obj fields => rw [putAttributes, completed, written]
  | _ => rfl

/-- A document that has the list, and the key of its objects in every entry, is complete. -/
theorem completed_of_complete {attrs : Json} (h : attrs.Ordered) {items : List Json}
    (list : attrs.field? attributeKey = some (.arr items))
    (keyed : ∀ item ∈ items, item.field? "attribute_objects" ≠ none) : completed attrs = attrs := by
  cases attrs with
  | obj fields =>
    have sorted := (Json.ordered_obj.mp h).1
    have complete : ∀ item ∈ items, completeEntry item = item := by
      intro item inside
      have ordered := Json.ordered_arr.mp (h.field? _ list) item inside
      obtain ⟨objects, found⟩ := Option.ne_none_iff_exists'.mp (keyed item inside)
      exact completeEntry_of_field? ordered found
    have same : (attributeItems (.obj fields)).map completeEntry = items := by
      rw [attributeItems, list]
      exact (List.map_congr_left complete).trans (List.map_id items)
    rw [completed, same, Fields.insert_of_get? sorted list]
  | _ => rfl

/-! ### Whole snapshots -/

section Unedited

variable {base remote : Json} (hb : base.Ordered) (fields : List String)
include hb

theorem equal_get?_self (field : String) : deepEq (base.get? field) (base.get? field) = true :=
  equal_at? hb (equal_refl hb) _

theorem mergeFields_unedited : mergeFields ⟨base, base, remote⟩ fields = remote := by
  let Same (merged : Json) : Prop := merged = remote
  have kept : Same (writeFields ⟨base, base, remote⟩ fields remote) := by
    refine writeFields_induction (P := Same) rfl fun field _ merged same => ?_
    have unedited : ¬ IsSafe ⟨base, base, remote⟩ field := by
      intro safe
      rw [IsSafe, equal_get?_self hb] at safe
      exact Bool.false_ne_true safe.1.symm
    rw [applyTo_of_not_isSafe unedited]
    exact same
  exact kept

theorem fieldConflicts_unedited : fieldConflicts ⟨base, base, remote⟩ fields = [] := by
  refine List.filter_eq_nil_iff.mpr fun field _ => ?_
  have unchanged := Change.between_of_equal (equal_get?_self hb field) (remote.get? field)
  rw [resolveField, Writeback.resolveField]
  dsimp only
  rw [unchanged]
  exact Bool.false_ne_true

end Unedited

/-- Without local edits the merge comes to the server's version and names no conflict, as long as
the loaded object has no list of custom attribute values. If it has one, the list of the server's
version is completed, and one of the two that cannot be read is a conflict. -/
theorem resolve_unedited {base remote : Json} (hb : base.Ordered) (hr : remote.Ordered)
    (fields : List String) :
    let resolution := resolve ⟨base, base, remote⟩ fields
    (base.field? attributeKey = none → resolution = ⟨remote, []⟩) ∧
      (base.field? attributeKey ≠ none →
        (∀ loaded values, attributeValues base = .ok loaded → attributeValues remote = .ok values →
          Consistent loaded → resolution = ⟨completed remote, []⟩) ∧
        (∀ error, attributeValues base = .error error ∨ attributeValues remote = .error error →
          resolution = ⟨remote, [attributeKey]⟩)) ∧
      ∀ items, remote.field? attributeKey = some (.arr items) →
        (∀ item ∈ items, item.field? "attribute_objects" ≠ none) → completed remote = remote := by
  intro resolution
  have merged : mergeFields ⟨base, base, remote⟩ fields = remote := mergeFields_unedited hb fields
  have conflicts : fieldConflicts ⟨base, base, remote⟩ fields = [] :=
    fieldConflicts_unedited hb fields
  have resolved : resolution = resolve ⟨base, base, remote⟩ fields := rfl
  unfold resolve at resolved
  dsimp only at resolved
  rw [merged, conflicts] at resolved
  refine ⟨fun absent => ?_, fun present => ⟨?_, ?_⟩, fun items => completed_of_complete hr⟩
  · rw [resolved, absent]
  · intro loaded values readBase readRemote consistent
    obtain ⟨list, there⟩ := Option.ne_none_iff_exists'.mp present
    have lists : attributeLists? ⟨base, base, remote⟩ = some (loaded, loaded, values) := by
      rw [attributeLists?, readBase, readRemote]
    rw [resolved, there, lists]
    dsimp only
    rw [resolveAttributes_unedited consistent, putAttributes_eq_completed hr readRemote]
    rfl
  · intro error unread
    obtain ⟨list, there⟩ := Option.ne_none_iff_exists'.mp present
    have lists : attributeLists? ⟨base, base, remote⟩ = none := by
      rcases unread with readBase | readRemote
      · rw [attributeLists?, readBase]
      · rw [attributeLists?, readRemote]
        cases attributeValues base <;> rfl
    rw [resolved, there, lists]
    rfl

/-- The server added a second entry to a list of one, without the key of its objects. -/
theorem resolve_unedited_of_added_entry :
    let entry (id : Int) (h : -0x8000000000000000 ≤ id ∧ id < 0x10000000000000000) : Json :=
      .obj [("custom_attribute_id", .int id h)]
    let base : Json := .obj [(attributeKey, .arr [entry 7 (by decide)])]
    let remote : Json := .obj [(attributeKey, .arr [entry 7 (by decide), entry 8 (by decide)])]
    base.Ordered ∧ remote.Ordered ∧
      resolve ⟨base, base, remote⟩ ["title"] = ⟨completed remote, []⟩ := by
  intro entry base remote
  have hb : base.Ordered := by decide
  have hr : remote.Ordered := by decide
  have read : attributeValues base = .ok [⟨⟨7, by decide⟩, none, none, []⟩] := rfl
  obtain ⟨-, present, -⟩ := resolve_unedited hb hr ["title"]
  exact ⟨hb, hr, (present (by decide)).1 _ _ read rfl
    (consistent_of_nodup hb read (List.nodup_singleton _))⟩

/-- Without a local edit a conflict is named, or the server's version is changed. -/
def DisturbsUnedited (base remote : Json) : Prop :=
  base.Ordered ∧ remote.Ordered ∧
    ¬ ((resolve ⟨base, base, remote⟩ []).conflicts = [] ∧
      deepEq (resolve ⟨base, base, remote⟩ []).merged remote = true)

/-- A list that cannot be read is in conflict, an absent list comes back empty, an entry comes back
with the key of its objects, and a definition that is loaded with two values is edited. -/
theorem disturbs_unedited_attributes :
    let card (list : Json) : Json := .obj [(attributeKey, list)]
    let effort (value : String) : Json :=
      .obj [("attribute_objects", .null), ("attribute_value", .str value),
        ("custom_attribute_id", .int 7)]
    DisturbsUnedited (card (.str "x")) (card (.str "x")) ∧
      DisturbsUnedited (card (.arr [])) (.obj []) ∧
      DisturbsUnedited (card (.arr [])) (card (.arr [.obj [("custom_attribute_id", .int 7)]])) ∧
      DisturbsUnedited (card (.arr [effort "low", effort "high"]))
        (card (.arr [effort "high"])) := by
  refine ⟨?_, ?_, ?_, ?_⟩ <;> unfold DisturbsUnedited <;> decide

end Snapshot

end Writeback
