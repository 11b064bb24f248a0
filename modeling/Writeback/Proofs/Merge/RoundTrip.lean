import Writeback.Proofs.Merge.WireForm

/-!
# Which documents are entries

A document is read as a mapped object exactly when it has an id, and as an entry exactly when it has
the id of its definition and its objects, if it has any, are a list of mapped objects. Nothing else
about it matters, and nothing else is changed when it is written back: an entry without the key of
its objects gets that key with null, and is read again as it was.
-/

namespace Writeback

namespace Json

/-- Whether a document is an integer in the signed 64-bit range. -/
def isIdentifier : Json → Bool
  | .num (.int n _) => decide (-0x8000000000000000 ≤ n ∧ n < 0x8000000000000000)
  | _ => false

def isMappedObject (x : Json) : Bool := (x.field? "id").any isIdentifier

/-- Whether a document is a list of mapped objects, or null in its place. -/
def isObjectList : Json → Bool
  | .null => true
  | .arr items => items.all isMappedObject
  | _ => false

def isEntry (x : Json) : Bool :=
  (x.field? "custom_attribute_id").any isIdentifier &&
    (x.field? "attribute_objects").all isObjectList

end Json

theorem Identifier.exists_read_iff {x : Json} :
    (∃ i, Identifier.read x = .ok i) ↔ x.isIdentifier = true := by
  constructor
  · rintro ⟨i, h⟩
    rw [← Identifier.toJson_of_read h]
    exact decide_eq_true i.range
  · intro h
    unfold Json.isIdentifier at h
    split at h
    · next n range => exact ⟨⟨n, of_decide_eq_true h⟩, dif_pos (of_decide_eq_true h)⟩
    · cases h

/-- Objects alone are read as mapped objects, and an id is all that they need. -/
theorem MappedObject.exists_read_iff {x : Json} :
    (∃ o, MappedObject.read x = .ok o) ↔ x.isMappedObject = true := by
  cases x with
  | obj fields =>
    simp only [read, Json.isMappedObject, Json.field?]
    cases Fields.get? fields "id" with
    | none => simp
    | some id =>
      rw [Option.any_some, ← Identifier.exists_read_iff]
      constructor
      · rintro ⟨o, h⟩
        obtain ⟨i, found, -⟩ := Reader.bind_eq_ok.mp h
        exact ⟨i, found⟩
      · rintro ⟨i, found⟩
        exact ⟨_, Reader.bind_eq_ok.mpr ⟨i, found, rfl⟩⟩
  | _ => simp [read, Json.isMappedObject, Json.field?]

namespace AttributeValue

theorem exists_readObjects_iff {x : Option Json} :
    (∃ objects, readObjects x = .ok objects) ↔ x.all Json.isObjectList = true := by
  cases x with
  | none => simp [readObjects]
  | some y =>
    cases y with
    | null => simp [readObjects, Reader.optional, Json.isObjectList]
    | arr items =>
      have elements : (∃ values, Reader.list MappedObject.read (.arr items) = .ok values) ↔
          items.all Json.isMappedObject = true := by
        simp only [Reader.exists_list_arr_iff, MappedObject.exists_read_iff, List.all_eq_true]
      rw [Option.all_some, Json.isObjectList, ← elements, readObjects, Reader.optional]
      · cases Reader.list MappedObject.read (.arr items) <;> simp [Except.map]
      · simp
    | _ => simp [readObjects, Reader.optional, Reader.list, Json.isObjectList, Except.map]

theorem exists_read_iff {x : Json} : (∃ v, AttributeValue.read x = .ok v) ↔ x.isEntry = true := by
  cases x with
  | obj fields =>
    rw [Json.isEntry, Bool.and_eq_true, Json.field?, Json.field?, ← exists_readObjects_iff, read]
    constructor
    · rintro ⟨v, h⟩
      obtain ⟨objects, found, h⟩ := Reader.bind_eq_ok.mp h
      dsimp only at h
      split at h
      · next id there =>
        obtain ⟨definition, hd, -⟩ := Reader.bind_eq_ok.mp h
        rw [there, Option.any_some]
        exact ⟨Identifier.exists_read_iff.mp ⟨definition, hd⟩, objects, found⟩
      · cases h
    · rintro ⟨identified, objects, found⟩
      obtain ⟨id, there, identifier⟩ := (Option.any_eq_true _ _).mp identified
      obtain ⟨definition, hd⟩ := Identifier.exists_read_iff.mpr identifier
      rw [found, there]
      exact ⟨_, Reader.bind_eq_ok.mpr ⟨objects, rfl, Reader.bind_eq_ok.mpr ⟨definition, hd, rfl⟩⟩⟩
  | _ => simp [read, Json.isEntry, Json.field?]

/-- A document is read as an entry exactly when it has the id of a definition and its objects, if it
has the key, are null or a list of objects with ids. An entry is written back as it was: without the
key of its objects it gets that key with null, and otherwise nothing at all is changed, at any
depth. So its plain value is there exactly when it was, null included; and it is read again as it
was. A document is read as a mapped object exactly when it has an id, and is written back
unchanged. -/
theorem written_back {x : Json} (hx : x.Ordered) :
    ((∃ v, AttributeValue.read x = .ok v) ↔ x.isEntry = true) ∧
      (∀ v, AttributeValue.read x = .ok v →
        v.value = x.field? "attribute_value" ∧
        (∀ objects, x.field? "attribute_objects" = some objects → v.toJson = x) ∧
        (x.field? "attribute_objects" = none → ∃ fields, x = .obj fields ∧
          v.toJson = .obj (Fields.insert "attribute_objects" .null fields)) ∧
        (∀ key, v.toJson.field? key =
          if key = "attribute_objects" then some ((x.field? key).getD .null) else x.field? key) ∧
        AttributeValue.read v.toJson = .ok v) ∧
      ((∃ o, MappedObject.read x = .ok o) ↔ x.isMappedObject = true) ∧
      ∀ o, MappedObject.read x = .ok o → o.toJson = x ∧ MappedObject.read o.toJson = .ok o := by
  refine ⟨exists_read_iff, fun v h => ?_, MappedObject.exists_read_iff, fun o h => ?_⟩
  · have written := toJson_of_read hx h
    refine ⟨?_, fun objects there => ?_, fun none => ?_, fun key => ?_,
      read_toJson (wellFormed_of_read hx h)⟩
    · cases x with
      | obj fields => exact (parts_of_read h).2.2.1.symm
      | _ => cases h
    · rw [written, completeEntry_of_field? hx there]
    · cases x with
      | obj fields =>
        refine ⟨fields, rfl, ?_⟩
        rw [written, completeEntry, show Fields.get? fields "attribute_objects" = _ from none,
          Option.getD_none]
      | _ => cases h
    · cases x with
      | obj fields =>
        rw [written, completeEntry, Json.field?, Fields.get?_insert, Json.field?]
        by_cases same : key = "attribute_objects"
        · rw [if_pos same.symm, if_pos same, same]
        · rw [if_neg (Ne.symm same), if_neg same]
      | _ => cases h
  · have written := MappedObject.toJson_of_read hx h
    exact ⟨written, written.symm ▸ h⟩

/-- An entry with an explicit null for its value, no key for its objects and a key of its own. -/
theorem written_back_of_null :
    let x : Json := .obj [("attribute_value", .null), ("custom_attribute_id", .int 7),
      ("note", .obj [("at", .int 1)])]
    x.Ordered ∧ x.isEntry = true ∧ ∃ v, AttributeValue.read x = .ok v ∧ v.value = some .null ∧
      v.toJson = .obj [("attribute_objects", .null), ("attribute_value", .null),
        ("custom_attribute_id", .int 7), ("note", .obj [("at", .int 1)])] := by
  intro x
  have ordered : x.Ordered := by decide
  have entry : x.isEntry = true := by decide
  obtain ⟨readable, written, -⟩ := written_back ordered
  obtain ⟨v, read⟩ := readable.mpr entry
  obtain ⟨value, -, completed, -⟩ := written v read
  obtain ⟨fields, same, back⟩ := completed (by decide)
  rw [← Json.obj.inj same] at back
  exact ⟨ordered, entry, v, read, value, back⟩

end AttributeValue

end Writeback
