import Writeback.Proofs.Merge.Attributes

/-!
# Local edits of custom attribute values

The listed fields are kept under other keys, so the entries of the merged document are the merged
entries: they are written in a form that is read back. What the merge of entries carries over is
therefore what a reader of the merged document finds.
-/

namespace Writeback

open Json AttributeValue AttributeResolution

theorem wellFormed_mergeEntry {current remote : List AttributeValue} {item target : AttributeValue}
    (hc : ∀ v ∈ current, v.WellFormed) (hr : ∀ v ∈ remote, v.WellFormed) (ht : target.WellFormed) :
    (mergeEntry current remote item target).WellFormed := by
  have locals := forall_heldObjects (fun v mem => (hc v mem).objects) item.definition
  have others := forall_heldObjects (fun v mem => (hr v mem).objects) item.definition
  exact ⟨ht.sorted, ht.fresh, forall_objects_mergeEntry locals others ht.objects⟩

theorem wellFormed_resolveAttributes (previous : List AttributeValue)
    {current remote container : List AttributeValue}
    (hc : ∀ v ∈ current, v.WellFormed) (hr : ∀ v ∈ remote, v.WellFormed)
    (h : ∀ v ∈ container, v.WellFormed) :
    ∀ v ∈ (resolveAttributes previous current remote container).values, v.WellFormed := by
  let Fine (values : List AttributeValue) : Prop := ∀ v ∈ values, v.WellFormed
  apply resolveAttributes_induction (P := Fine) h
  intro item _ values fine v mem
  rcases mem_updateFirst mem with old | ⟨w, old, rfl⟩
  · exact fine v old
  · exact wellFormed_mergeEntry hc hr (fine w old)

theorem resolveAttributes_nil (previous current remote : List AttributeValue) :
    (resolveAttributes previous current remote []).values = [] := by
  apply resolveAttributes_induction (P := (· = [])) rfl
  rintro item _ _ rfl
  rfl

namespace Snapshot

theorem index?_attributeKey : index? attributeKey = none := by decide

theorem child?_attributeKey (x : Json) : x.child? attributeKey = x.field? attributeKey := by
  cases x with
  | arr items => simp [child?, index?_attributeKey, field?]
  | _ => rfl

theorem field?_set {path : String} (elsewhere : (segments path).head? ≠ some attributeKey)
    (root : Json) (update : Option Json) :
    (root.set path update).field? attributeKey = root.field? attributeKey := by
  rw [← child?_attributeKey, ← child?_attributeKey, ← at?_singleton, ← at?_singleton, ← lookup_some,
    ← lookup_some root, some_set]
  cases split : segments path with
  | nil => exact absurd split (segments_ne_nil path)
  | cons segment rest =>
    rw [split] at elsewhere
    have ne : segment ≠ attributeKey := fun same => elsewhere (congrArg some same)
    have apart : ¬ SameIndex segment attributeKey := by
      rintro ⟨-, some, same⟩
      exact some (same.trans index?_attributeKey)
    rw [edit_cons, lookup_replace_of_ne ne _ fun _ => apart]

theorem field?_mergeFields (s : Snapshot) {fields : List String}
    (elsewhere : ∀ field ∈ fields, (segments field).head? ≠ some attributeKey) :
    (s.mergeFields fields).field? attributeKey = s.remote.field? attributeKey := by
  let Same (merged : Json) : Prop := merged.field? attributeKey = s.remote.field? attributeKey
  apply writeFields_induction (P := Same) rfl
  intro field mem merged same
  by_cases safe : s.IsSafe field
  · rw [applyTo_of_isSafe safe]
    exact (field?_set (elsewhere field mem) merged _).trans same
  · rw [applyTo_of_not_isSafe safe]
    exact same

theorem exists_of_attributeValues {attrs : Json} (h : attrs.Ordered)
    {values : List AttributeValue} (read : attributeValues attrs = .ok values) :
    ∀ v ∈ values, ∃ item, item.Ordered ∧ AttributeValue.read item = .ok v := by
  unfold attributeValues at read
  split at read
  · cases read
    simp
  · cases read
    simp
  · next x _ found => exact Reader.exists_ordered_of_list (h.field? x found) read

theorem wellFormed_of_attributeValues {attrs : Json} (h : attrs.Ordered)
    {values : List AttributeValue} (read : attributeValues attrs = .ok values) :
    ∀ v ∈ values, v.WellFormed := by
  intro v mem
  obtain ⟨item, ordered, read⟩ := exists_of_attributeValues h read v mem
  exact AttributeValue.wellFormed_of_read ordered read

theorem attributeValues_putAttributes {values : List AttributeValue}
    (h : ∀ v ∈ values, v.WellFormed) (fields : Fields) :
    attributeValues (putAttributes values (.obj fields)) = .ok values := by
  have read := Reader.list_arr_map fun v mem => AttributeValue.read_toJson (h v mem)
  have found : (putAttributes values (.obj fields)).field? attributeKey =
      some (.arr (values.map AttributeValue.toJson)) :=
    (Fields.get?_insert _ _ _ _).trans (if_pos rfl)
  rw [attributeValues, found]
  exact read

/-- Without a list of loaded entries there is nothing to decide. -/
theorem eq_nil_of_absent {attrs : Json} (absent : attrs.field? attributeKey = none)
    {values : List AttributeValue} (read : attributeValues attrs = .ok values) : values = [] := by
  rw [attributeValues, absent] at read
  cases read
  rfl

section Resolve

variable {s : Snapshot} {previous current remote : List AttributeValue}
  (hp : attributeValues s.base = .ok previous) (hc : attributeValues s.current = .ok current)
  (hr : attributeValues s.remote = .ok remote)
include hp hc hr

theorem attributeLists?_eq : s.attributeLists? = some (previous, current, remote) := by
  rw [attributeLists?, hp, hc, hr]

/-- The entries of the merged document are the merged entries. -/
theorem attributeValues_merged (h : s.Ordered) {fields : List String}
    (elsewhere : ∀ field ∈ fields, (segments field).head? ≠ some attributeKey) :
    attributeValues (s.resolve fields).merged =
      .ok (resolveAttributes previous current remote remote).values := by
  have outside := s.field?_mergeFields elsewhere
  have unread : attributeValues (s.mergeFields fields) = .ok remote := by
    rw [attributeValues, outside]
    exact hr
  by_cases absent : s.base.field? attributeKey = none
  · rw [resolve_of_absent absent, unread, eq_nil_of_absent absent hp]
    rfl
  · rw [resolve_of_attributeLists? absent (attributeLists?_eq hp hc hr)]
    dsimp only
    have fine := wellFormed_resolveAttributes previous (wellFormed_of_attributeValues h.current hc)
      (wellFormed_of_attributeValues h.remote hr) (wellFormed_of_attributeValues h.remote hr)
    cases merged : s.mergeFields fields with
    | obj fields => exact attributeValues_putAttributes fine fields
    | _ =>
      rw [merged] at unread
      obtain rfl := eq_nil_of_absent rfl unread
      rw [resolveAttributes_nil]
      rfl

theorem attributeKey_mem_conflicts (fields : List String)
    (conflict : (resolveAttributes previous current remote remote).conflict = true) :
    attributeKey ∈ (s.resolve fields).conflicts := by
  by_cases absent : s.base.field? attributeKey = none
  · rw [eq_nil_of_absent absent hp] at conflict
    cases conflict
  · rw [resolve_of_attributeLists? absent (attributeLists?_eq hp hc hr)]
    dsimp only
    rw [if_pos conflict]
    exact List.mem_append_right _ List.mem_cons_self

end Resolve

/-- What merged entries make of the local edits of one definition. -/
structure Carries (previous current remote merged : List AttributeValue) (conflict : Prop)
    (definition : Identifier) : Prop where
  /-- An entry that was not loaded is as the server has it. -/
  unloaded : find? previous definition = none →
    find? merged definition = find? remote definition
  /-- An edited value is kept or in conflict, unless there was none and the server dropped the
  entry. -/
  value : find? previous definition ≠ none →
    deepEq (heldValue previous definition) (heldValue current definition) = false →
      conflict ∨ heldValue merged definition = heldValue current definition ∨
        heldValue previous definition = none ∧ find? remote definition = none
  removed : ∀ object, holds previous definition object = true →
    holds current definition object = false → holds merged definition object = false
  /-- An added object is kept if the server has the entry. -/
  added : find? previous definition ≠ none → find? remote definition ≠ none →
    ∀ object, holds previous definition object = false → holds current definition object = true →
      holds merged definition object = true

/-- The merged document has a list of entries that carries the local edits of each definition. -/
theorem resolve_carries_attributes {s : Snapshot} (h : s.Ordered) {fields : List String}
    (elsewhere : ∀ field ∈ fields, (segments field).head? ≠ some attributeKey)
    {previous current remote : List AttributeValue}
    (hp : attributeValues s.base = .ok previous) (hc : attributeValues s.current = .ok current)
    (hr : attributeValues s.remote = .ok remote)
    (once : (previous.map AttributeValue.definition).Nodup) :
    ∃ merged, attributeValues (s.resolve fields).merged = .ok merged ∧
      ∀ definition, Carries previous current remote merged
        (attributeKey ∈ (s.resolve fields).conflicts) definition := by
  refine ⟨_, attributeValues_merged hp hc hr h elsewhere, fun definition => ?_⟩
  constructor
  · intro unloaded
    rw [find?_resolveAttributes once, unloaded]
  · intro loaded edited
    rcases heldValue_kept once loaded edited with conflict | kept
    · exact Or.inl (attributeKey_mem_conflicts hp hc hr fields conflict)
    · exact Or.inr kept
  · exact fun object => not_holds_removed once
  · exact fun loaded there object => holds_added once loaded there

/-- The server mapped another object while the value was edited and an object replaced locally. -/
theorem carries_edits_of_entry :
    let effort : Identifier := ⟨7, by decide⟩
    let ann : MappedObject := .ofId ⟨1, by decide⟩
    let bea : MappedObject := .ofId ⟨2, by decide⟩
    let cid : MappedObject := .ofId ⟨3, by decide⟩
    let card (v : AttributeValue) : Json := .obj [(attributeKey, .arr [v.toJson])]
    let base : AttributeValue := ⟨effort, some (.str "low"), some [ann], []⟩
    let current : AttributeValue := ⟨effort, some (.str "high"), some [bea], []⟩
    let remote : AttributeValue := ⟨effort, some (.str "low"), some [ann, cid], []⟩
    let s : Snapshot := ⟨card base, card current, card remote⟩
    s.Ordered ∧ ∃ merged, attributeValues (s.resolve ["title"]).merged = .ok merged ∧
      ∀ definition, Carries [base] [current] [remote] merged
        (attributeKey ∈ (s.resolve ["title"]).conflicts) definition := by
  intro effort ann bea cid card base current remote s
  have ordered : s.Ordered := by decide
  exact ⟨ordered, resolve_carries_attributes ordered (by decide) rfl rfl rfl (by decide)⟩

/-- A local edit of a custom attribute value that is lost silently: no conflict is named, and the
value of a definition, or an object that was added for it, is not in the merged document. -/
def LosesAttribute (s : Snapshot) (fields : List String) (definition : Identifier) : Prop :=
  s.Ordered ∧ (∀ field ∈ fields, (segments field).head? ≠ some attributeKey) ∧
    ∃ previous current remote merged,
      attributeValues s.base = .ok previous ∧ attributeValues s.current = .ok current ∧
      attributeValues s.remote = .ok remote ∧
      attributeValues (s.resolve fields).merged = .ok merged ∧
      (previous.map AttributeValue.definition).Nodup ∧
      (current.map AttributeValue.definition).Nodup ∧
      (remote.map AttributeValue.definition).Nodup ∧
      attributeKey ∉ (s.resolve fields).conflicts ∧
      (deepEq (heldValue previous definition) (heldValue current definition) = false ∧
          deepEq (heldValue merged definition) (heldValue current definition) = false ∨
        ∃ object, holds previous definition object = false ∧
          holds current definition object = true ∧ holds merged definition object = false)

/-- Edits are lost silently for an entry that was not loaded, for a loaded entry without a value
that the server dropped, and when an object is added to an entry that the server dropped. -/
theorem loses_attributes_of_missing_entries :
    let effort : Identifier := ⟨7, by decide⟩
    let ann : MappedObject := .ofId ⟨1, by decide⟩
    let bea : MappedObject := .ofId ⟨2, by decide⟩
    let card (values : List AttributeValue) : Json :=
      .obj [(attributeKey, .arr (values.map AttributeValue.toJson))]
    LosesAttribute ⟨.obj [], card [.ofValue effort (.str "high")], .obj []⟩ ["title"] effort ∧
      LosesAttribute
        ⟨card [⟨effort, none, none, []⟩], card [.ofValue effort (.str "high")], card []⟩
        ["title"] effort ∧
      LosesAttribute
        ⟨card [.ofObjects effort [ann]], card [.ofObjects effort [ann, bea]], card []⟩
        ["title"] effort := by
  intro effort ann bea card
  refine ⟨?_, ?_, ?_⟩
  · exact ⟨by decide, by decide, [], [.ofValue effort (.str "high")], [], [], rfl, rfl, rfl, rfl,
      by decide, by decide, by decide, by decide, Or.inl (by decide)⟩
  · exact ⟨by decide, by decide, [⟨effort, none, none, []⟩], [.ofValue effort (.str "high")], [],
      [], rfl, rfl, rfl, rfl, by decide, by decide, by decide, by decide, Or.inl (by decide)⟩
  · exact ⟨by decide, by decide, [.ofObjects effort [ann]], [.ofObjects effort [ann, bea]], [], [],
      rfl, rfl, rfl, rfl, by decide, by decide, by decide, by decide, Or.inr ⟨bea.id, by decide⟩⟩

end Snapshot

end Writeback
