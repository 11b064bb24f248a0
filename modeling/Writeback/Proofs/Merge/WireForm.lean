import Writeback.Merge.AttributeValue
import Writeback.Proofs.Json.Equality
import Writeback.Proofs.Json.Readers

/-!
# Custom attribute values written and read back

The further fields of an entry, or of a mapped object, stand by increasing key and are none of the
fields that are kept apart. Entries that are read from an ordered document are of this form, and an
entry of this form is read back as it was written.
-/

namespace Writeback

theorem Fields.erase_insert {fields : Fields} (h : (keys fields).Pairwise (· < ·)) {key : String}
    (fresh : get? fields key = none) (value : Json) :
    erase key (insert key value fields) = fields := by
  have inserted := pairwise_keys_insert h key value
  apply ext (pairwise_keys_erase inserted key) h
  intro other
  rw [get?_erase inserted, get?_insert]
  split
  · next same => rw [← same, fresh]
  · rfl

theorem Fields.insert_erase {fields : Fields} (h : (keys fields).Pairwise (· < ·)) {key : String}
    {value : Json} (found : get? fields key = some value) :
    insert key value (erase key fields) = fields := by
  apply ext (pairwise_keys_insert (pairwise_keys_erase h key) key value) h
  intro other
  rw [get?_insert, get?_erase h]
  split
  · next same => rw [← same, found]
  · rfl

theorem Identifier.read_toJson (i : Identifier) : Identifier.read i.toJson = .ok i := by
  rw [toJson, read, dif_pos i.range]

theorem Identifier.toJson_of_read {x : Json} {i : Identifier} (h : read x = .ok i) :
    i.toJson = x := by
  unfold read at h
  split at h
  · split at h
    · cases h
      rfl
    · cases h
  · cases h

namespace MappedObject

structure WellFormed (o : MappedObject) : Prop where
  sorted : (Fields.keys o.extra).Pairwise (· < ·)
  fresh : Fields.get? o.extra "id" = none

theorem read_toJson {o : MappedObject} (h : o.WellFormed) : read o.toJson = .ok o := by
  rw [toJson, read, Fields.get?_insert, if_pos rfl]
  dsimp only
  rw [Identifier.read_toJson, Fields.erase_insert h.sorted h.fresh]
  rfl

theorem wellFormed_of_read {x : Json} (hx : x.Ordered) {o : MappedObject} (h : read x = .ok o) :
    o.WellFormed := by
  cases x with
  | obj fields =>
    have sorted := (Json.ordered_obj.mp hx).1
    rw [read] at h
    split at h
    · obtain ⟨id, -, h⟩ := Reader.bind_eq_ok.mp h
      cases h
      exact ⟨Fields.pairwise_keys_erase sorted "id", Fields.get?_erase_self sorted "id"⟩
    · cases h
  | _ => cases h

theorem ordered_of_read {x : Json} (hx : x.Ordered) {o : MappedObject} (h : read x = .ok o) :
    (Json.obj o.extra).Ordered := by
  cases x with
  | obj fields =>
    rw [read] at h
    split at h
    · obtain ⟨id, -, h⟩ := Reader.bind_eq_ok.mp h
      cases h
      exact hx.erase "id"
    · cases h
  | _ => cases h

theorem equal_self {o : MappedObject} (h : (Json.obj o.extra).Ordered) : deepEq o o = true := by
  have others := Json.equal_refl h
  exact Bool.and_eq_true_iff.mpr ⟨beq_self_eq_true o.id, others⟩

/-- A mapped object is written as it was read. -/
theorem toJson_of_read {x : Json} (hx : x.Ordered) {o : MappedObject} (h : read x = .ok o) :
    o.toJson = x := by
  cases x with
  | obj fields =>
    rw [read] at h
    split at h
    · next found =>
      obtain ⟨id, hid, h⟩ := Reader.bind_eq_ok.mp h
      cases h
      rw [toJson, Identifier.toJson_of_read hid,
        Fields.insert_erase (Json.ordered_obj.mp hx).1 found]
    · cases h
  | _ => cases h

end MappedObject

namespace AttributeValue

/-- The fields of an entry that are kept apart from the others. -/
def reserved : List String := ["custom_attribute_id", "attribute_value", "attribute_objects"]

structure WellFormed (v : AttributeValue) : Prop where
  sorted : (Fields.keys v.extra).Pairwise (· < ·)
  fresh : ∀ key ∈ reserved, Fields.get? v.extra key = none
  objects : ∀ objects ∈ v.objects, ∀ o ∈ objects, o.WellFormed

/-- The objects of an entry as they are written. -/
def objectsJson (objects : Option (List MappedObject)) : Json :=
  match objects with
  | some objects => .arr (objects.map MappedObject.toJson)
  | none => .null

theorem readObjects_objectsJson {objects : Option (List MappedObject)}
    (h : ∀ list ∈ objects, ∀ o ∈ list, o.WellFormed) :
    readObjects (some (objectsJson objects)) = .ok objects := by
  cases objects with
  | none => rfl
  | some list =>
    have read := Reader.list_arr_map fun o mem => MappedObject.read_toJson (h list rfl o mem)
    rw [readObjects, objectsJson, Reader.optional, read]
    · rfl
    · nofun

/-- The fields of an entry as they are written. -/
def writtenFields (v : AttributeValue) : Fields :=
  let others := Fields.insert "custom_attribute_id" v.definition.toJson
    (Fields.insert "attribute_objects" (objectsJson v.objects) v.extra)
  match v.value with
  | some x => Fields.insert "attribute_value" x others
  | none => others

theorem toJson_eq_obj (v : AttributeValue) : v.toJson = .obj v.writtenFields := rfl

theorem pairwise_keys_writtenFields {v : AttributeValue} (h : v.WellFormed) :
    (Fields.keys v.writtenFields).Pairwise (· < ·) := by
  have others := Fields.pairwise_keys_insert
    (Fields.pairwise_keys_insert h.sorted "attribute_objects" (objectsJson v.objects))
    "custom_attribute_id" v.definition.toJson
  unfold writtenFields
  dsimp only
  split
  · exact Fields.pairwise_keys_insert others _ _
  · exact others

theorem get?_writtenFields {v : AttributeValue} (h : v.WellFormed) (key : String) :
    Fields.get? v.writtenFields key =
      if "attribute_value" = key then v.value
      else if "custom_attribute_id" = key then some v.definition.toJson
      else if "attribute_objects" = key then some (objectsJson v.objects)
      else Fields.get? v.extra key := by
  have others : "attribute_value" = key →
      Fields.get? (Fields.insert "custom_attribute_id" v.definition.toJson
        (Fields.insert "attribute_objects" (objectsJson v.objects) v.extra)) key = none := by
    rintro rfl
    rw [Fields.get?_insert, if_neg (by decide), Fields.get?_insert, if_neg (by decide)]
    exact h.fresh _ (by simp [reserved])
  unfold writtenFields
  dsimp only
  cases value : v.value with
  | none =>
    dsimp only
    split
    · next same => exact others same
    · rw [Fields.get?_insert, Fields.get?_insert]
  | some x => rw [Fields.get?_insert, Fields.get?_insert, Fields.get?_insert]

/-- What is left of fields without those that are kept apart. -/
def unreserved (fields : Fields) : Fields :=
  Fields.erase "attribute_objects"
    (Fields.erase "attribute_value" (Fields.erase "custom_attribute_id" fields))

theorem pairwise_keys_unreserved {fields : Fields} (h : (Fields.keys fields).Pairwise (· < ·)) :
    (Fields.keys (unreserved fields)).Pairwise (· < ·) :=
  Fields.pairwise_keys_erase (Fields.pairwise_keys_erase (Fields.pairwise_keys_erase h _) _) _

theorem get?_unreserved {fields : Fields} (h : (Fields.keys fields).Pairwise (· < ·))
    (key : String) :
    Fields.get? (unreserved fields) key =
      if key ∈ reserved then none else Fields.get? fields key := by
  have once := Fields.pairwise_keys_erase h "custom_attribute_id"
  have twice := Fields.pairwise_keys_erase once "attribute_value"
  rw [unreserved, Fields.get?_erase twice, Fields.get?_erase once, Fields.get?_erase h]
  simp only [reserved, List.mem_cons, List.not_mem_nil, or_false, eq_comm (a := key)]
  by_cases definition : "custom_attribute_id" = key
  · simp [definition]
  · by_cases value : "attribute_value" = key <;> simp [definition, value]

/-- An entry is read back as it was written. -/
theorem read_toJson {v : AttributeValue} (h : v.WellFormed) : read v.toJson = .ok v := by
  have sorted := pairwise_keys_writtenFields h
  have extra : unreserved v.writtenFields = v.extra := by
    apply Fields.ext (pairwise_keys_unreserved sorted) h.sorted
    intro key
    rw [get?_unreserved sorted]
    split
    · next kept => exact (h.fresh key kept).symm
    · next free =>
      rw [get?_writtenFields h]
      simp only [reserved, List.mem_cons, List.not_mem_nil, or_false, not_or] at free
      rw [if_neg (Ne.symm free.2.1), if_neg (Ne.symm free.1), if_neg (Ne.symm free.2.2)]
  have objects := get?_writtenFields h "attribute_objects"
  have definition := get?_writtenFields h "custom_attribute_id"
  have value := get?_writtenFields h "attribute_value"
  simp only [String.reduceEq, if_true, if_false] at objects definition value
  rw [unreserved] at extra
  rw [toJson_eq_obj, read, objects, definition, value, extra, readObjects_objectsJson h.objects]
  dsimp only
  rw [Identifier.read_toJson]
  rfl

theorem exists_of_readObjects {x : Option Json} (hx : ∀ y ∈ x, y.Ordered)
    {list : List MappedObject} (h : readObjects x = .ok (some list)) :
    ∀ o ∈ list, ∃ item, item.Ordered ∧ MappedObject.read item = .ok o := by
  intro o mem
  cases x with
  | none => cases h
  | some y => exact Reader.exists_ordered_of_list (hx y rfl) (Reader.eq_ok_of_optional h) o mem

theorem wellFormed_of_readObjects {x : Option Json} (hx : ∀ y ∈ x, y.Ordered)
    {objects : Option (List MappedObject)} (h : readObjects x = .ok objects) :
    ∀ list ∈ objects, ∀ o ∈ list, o.WellFormed := by
  rintro list ⟨⟩ o mem
  obtain ⟨item, ordered, read⟩ := exists_of_readObjects hx h o mem
  exact MappedObject.wellFormed_of_read ordered read

/-- What an entry has that was read from an object. -/
theorem parts_of_read {fields : Fields} {v : AttributeValue} (h : read (.obj fields) = .ok v) :
    readObjects (Fields.get? fields "attribute_objects") = .ok v.objects ∧
      Fields.get? fields "custom_attribute_id" = some v.definition.toJson ∧
      Fields.get? fields "attribute_value" = v.value ∧ unreserved fields = v.extra := by
  rw [read] at h
  obtain ⟨objects, found, h⟩ := Reader.bind_eq_ok.mp h
  dsimp only at h
  split at h
  · next there =>
    obtain ⟨definition, hd, h⟩ := Reader.bind_eq_ok.mp h
    cases h
    exact ⟨found, by rw [there, Identifier.toJson_of_read hd], rfl, rfl⟩
  · cases h

theorem wellFormed_of_read {x : Json} (hx : x.Ordered) {v : AttributeValue} (h : read x = .ok v) :
    v.WellFormed := by
  cases x with
  | obj fields =>
    have sorted := (Json.ordered_obj.mp hx).1
    obtain ⟨found, -, -, extra⟩ := parts_of_read h
    refine ⟨extra ▸ pairwise_keys_unreserved sorted, ?_, wellFormed_of_readObjects hx.value found⟩
    intro key kept
    rw [← extra, get?_unreserved sorted, if_pos kept]
  | _ => cases h

/-- The value and the objects of an entry are ordered documents. -/
structure Ordered (v : AttributeValue) : Prop where
  value : ∀ x ∈ v.value, x.Ordered
  objects : ∀ list ∈ v.objects, ∀ o ∈ list, (Json.obj o.extra).Ordered

instance (v : AttributeValue) : Decidable v.Ordered :=
  decidable_of_iff ((∀ x ∈ v.value, x.Ordered) ∧
      ∀ list ∈ v.objects, ∀ o ∈ list, (Json.obj o.extra).Ordered)
    ⟨fun ⟨value, objects⟩ => ⟨value, objects⟩, fun h => ⟨h.value, h.objects⟩⟩

theorem ordered_of_read {x : Json} (hx : x.Ordered) {v : AttributeValue} (h : read x = .ok v) :
    v.Ordered := by
  cases x with
  | obj fields =>
    obtain ⟨found, -, value, -⟩ := parts_of_read h
    refine ⟨fun y there => hx.value y (value ▸ there), fun list there o mem => ?_⟩
    obtain ⟨item, ordered, read⟩ := exists_of_readObjects hx.value (there ▸ found) o mem
    exact MappedObject.ordered_of_read ordered read
  | _ => cases h

theorem Ordered.equal_value {v : AttributeValue} (h : v.Ordered) :
    deepEq v.value v.value = true :=
  DeepEq.option_refl fun x there => Json.equal_refl (h.value x there)

theorem Ordered.equal_objects {v : AttributeValue} (h : v.Ordered) :
    deepEq v.objects v.objects = true :=
  DeepEq.option_refl fun list there => DeepEq.list_refl fun o mem =>
    MappedObject.equal_self (h.objects list there o mem)

/-- The objects of an entry are written as they were read; absent ones are written as null. -/
theorem objectsJson_of_readObjects {x : Option Json} (hx : ∀ y ∈ x, y.Ordered)
    {objects : Option (List MappedObject)} (h : readObjects x = .ok objects) :
    objectsJson objects = x.getD .null := by
  cases x with
  | none =>
    cases h
    rfl
  | some y =>
    cases objects with
    | none => rw [Reader.eq_null_of_optional h, objectsJson, Option.getD_some]
    | some list =>
      have read := Reader.eq_ok_of_optional h
      obtain ⟨items, rfl, -⟩ := Reader.exists_of_list read
      have ordered := Json.ordered_arr.mp (hx _ rfl)
      have back : list.map MappedObject.toJson = items.map id := Reader.map_of_list read
        fun item inside o => MappedObject.toJson_of_read (ordered item inside)
      rw [objectsJson, back, List.map_id, Option.getD_some]

/-- An entry with the key of its objects, which is written whether or not there are any. -/
def completeEntry : Json → Json
  | .obj fields =>
    .obj (Fields.insert "attribute_objects"
      ((Fields.get? fields "attribute_objects").getD .null) fields)
  | x => x

theorem completeEntry_of_field? {x : Json} (hx : x.Ordered) {objects : Json}
    (found : x.field? "attribute_objects" = some objects) : completeEntry x = x := by
  cases x with
  | obj fields =>
    have there : Fields.get? fields "attribute_objects" = some objects := found
    rw [completeEntry, there, Option.getD_some,
      Fields.insert_of_get? (Json.ordered_obj.mp hx).1 there]
  | _ => rfl

/-- An entry is written as it was read, apart from the key of its objects. -/
theorem toJson_of_read {x : Json} (hx : x.Ordered) {v : AttributeValue} (h : read x = .ok v) :
    v.toJson = completeEntry x := by
  have wellFormed := wellFormed_of_read hx h
  cases x with
  | obj fields =>
    have sorted := (Json.ordered_obj.mp hx).1
    obtain ⟨found, definition, value, extra⟩ := parts_of_read h
    have objects := objectsJson_of_readObjects hx.value found
    rw [toJson_eq_obj, completeEntry]
    congr 1
    apply Fields.ext (pairwise_keys_writtenFields wellFormed)
      (Fields.pairwise_keys_insert sorted _ _)
    intro key
    rw [get?_writtenFields wellFormed, Fields.get?_insert, objects, ← extra,
      get?_unreserved sorted, ← value, ← definition]
    by_cases same : "attribute_value" = key
    · subst same
      rw [if_pos rfl, if_neg (by decide)]
    · by_cases same' : "custom_attribute_id" = key
      · subst same'
        rw [if_neg same, if_pos rfl, if_neg (by decide)]
      · rw [if_neg same, if_neg same']
        split
        · rfl
        · next free =>
          rw [if_neg]
          simp [reserved, Ne.symm same, Ne.symm same', Ne.symm free]
  | _ => cases h

end AttributeValue

end Writeback
