import Writeback.Proofs.Merge.Attributes

/-!
# The merge, entry by entry

The loaded entries are walked one after another, and each of them rewrites the container's entry for
its definition. Where no definition is repeated, no entry is rewritten twice, and the walk comes to
one decision for every entry of the container. Its value is the local one if that was edited and the
server has the loaded or the local one; its objects are merged by id if all three versions differ.
Diverged values are a conflict whether or not the container has an entry for them.
-/

namespace Writeback

open AttributeValue AttributeResolution

/-! ### One entry of the container -/

/-- What the entry that was loaded for a definition, if any, makes of the container's entry. -/
def mergedEntry (previous current remote : List AttributeValue) (target : AttributeValue) :
    AttributeValue :=
  match find? previous target.definition with
  | some item => mergeEntry current remote item target
  | none => target

section Entry

variable {previous : List AttributeValue} (current remote : List AttributeValue)
  {target : AttributeValue}

theorem mergedEntry_of_find? {item : AttributeValue}
    (loaded : find? previous target.definition = some item) :
    mergedEntry previous current remote target = mergeEntry current remote item target := by
  rw [mergedEntry, loaded]

theorem mergedEntry_of_find?_eq_none (unloaded : find? previous target.definition = none) :
    mergedEntry previous current remote target = target := by
  rw [mergedEntry, unloaded]

variable (previous target)

@[simp] theorem definition_mergedEntry :
    (mergedEntry previous current remote target).definition = target.definition := by
  unfold mergedEntry
  split <;> rfl

@[simp] theorem extra_mergedEntry :
    (mergedEntry previous current remote target).extra = target.extra := by
  unfold mergedEntry
  split <;> rfl

theorem value_mergeEntry (item : AttributeValue) :
    (mergeEntry current remote item target).value =
      if SafelyEdited item.value (heldValue current item.definition)
          (heldValue remote item.definition)
      then heldValue current item.definition else target.value :=
  if_congr Change.isSafe_between rfl rfl

theorem objects_mergeEntry (item : AttributeValue) :
    (mergeEntry current remote item target).objects =
      if Diverged item.objects (heldObjects current item.definition)
          (heldObjects remote item.definition)
      then resolveObjects (item.objects.getD []) ((heldObjects current item.definition).getD [])
        ((heldObjects remote item.definition).getD [])
      else if deepEq item.objects (heldObjects current item.definition) = false
      then heldObjects current item.definition else target.objects :=
  if_congr Change.conflict_between rfl (if_congr Change.isLocal_between rfl rfl)

end Entry

/-! ### The whole container -/

theorem AttributeResolution.map_definition_updateFirst (definition : Identifier)
    {f : AttributeValue → AttributeValue} (keeps : ∀ v, (f v).definition = v.definition)
    (values : List AttributeValue) :
    (updateFirst definition f values).map AttributeValue.definition =
      values.map AttributeValue.definition := by
  induction values with
  | nil => rfl
  | cons v rest ih =>
    rw [updateFirst]
    split
    · rw [List.map_cons, List.map_cons, keeps]
    · rw [List.map_cons, List.map_cons, ih]

/-- Where no definition is repeated, every entry for it is the first one. -/
theorem AttributeResolution.updateFirst_eq_map {values : List AttributeValue}
    (once : (values.map AttributeValue.definition).Nodup) (definition : Identifier)
    (f : AttributeValue → AttributeValue) :
    updateFirst definition f values =
      values.map fun v => if v.definition = definition then f v else v := by
  induction values with
  | nil => rfl
  | cons v rest ih =>
    rw [List.map_cons, List.nodup_cons] at once
    rw [updateFirst, List.map_cons, ih once.2]
    split
    · next first =>
      have others : ∀ w ∈ rest, w.definition ≠ definition := fun w mem same =>
        once.1 (first ▸ same ▸ List.mem_map_of_mem mem)
      rw [List.map_congr_left fun w mem => if_neg (others w mem), List.map_id']
    · rfl

/-- An entry that one item rewrites is left alone by the rest of the walk. -/
theorem mergedEntry_cons {item : AttributeValue} {rest : List AttributeValue}
    (fresh : item.definition ∉ rest.map AttributeValue.definition)
    (current remote : List AttributeValue) (target : AttributeValue) :
    mergedEntry (item :: rest) current remote target =
      mergedEntry rest current remote
        (if target.definition = item.definition then mergeEntry current remote item target
        else target) := by
  by_cases same : target.definition = item.definition
  · have loaded : find? (item :: rest) target.definition = some item := by
      rw [find?_cons, if_pos same.symm]
    have later : find? rest item.definition = none := find?_eq_none_iff.mpr fresh
    rw [if_pos same, mergedEntry_of_find? current remote loaded]
    exact (mergedEntry_of_find?_eq_none current remote (same ▸ later)).symm
  · rw [if_neg same, mergedEntry, mergedEntry, find?_cons, if_neg (Ne.symm same)]

theorem values_resolveAttributes {previous : List AttributeValue}
    (once : (previous.map AttributeValue.definition).Nodup) (current remote : List AttributeValue)
    {container : List AttributeValue}
    (single : (container.map AttributeValue.definition).Nodup) :
    (resolveAttributes previous current remote container).values =
      container.map (mergedEntry previous current remote) := by
  rw [resolveAttributes]
  dsimp only
  induction previous generalizing container with
  | nil => exact (List.map_id container).symm
  | cons item rest ih =>
    rw [List.map_cons, List.nodup_cons] at once
    have updated := map_definition_updateFirst item.definition
      (definition_mergeEntry current remote item) container
    rw [List.foldl_cons, ih once.2 (updated ▸ single), updateFirst_eq_map single, List.map_map]
    exact List.map_congr_left fun v _ => (mergedEntry_cons once.1 current remote v).symm

/-- The merged entry for a definition is what becomes of the container's. -/
theorem find?_values_resolveAttributes {previous : List AttributeValue}
    (once : (previous.map AttributeValue.definition).Nodup)
    (current remote container : List AttributeValue) (definition : Identifier) :
    find? (resolveAttributes previous current remote container).values definition =
      (find? container definition).map (mergedEntry previous current remote) := by
  rw [find?_resolveAttributes once]
  cases there : find? container definition with
  | none => cases find? previous definition <;> rfl
  | some target =>
    rw [← definition_of_find? there, Option.map_some, mergedEntry]
    cases find? previous target.definition <;> rfl

/-- Values are in conflict when they diverged for a loaded definition. -/
theorem conflict_resolveAttributes {previous : List AttributeValue}
    (once : (previous.map AttributeValue.definition).Nodup)
    (current remote container : List AttributeValue) :
    (resolveAttributes previous current remote container).conflict = true ↔
      ∃ definition ∈ previous.map AttributeValue.definition,
        Diverged (heldValue previous definition) (heldValue current definition)
          (heldValue remote definition) := by
  have diverged : ∀ item ∈ previous, (valueChange current remote item).conflict = true ↔
      Diverged (heldValue previous item.definition) (heldValue current item.definition)
        (heldValue remote item.definition) := by
    intro item mem
    rw [heldValue_of_find? (find?_of_mem once mem)]
    exact Change.conflict_between
  rw [conflict_resolveAttributes_iff]
  constructor
  · rintro ⟨item, mem, conflict⟩
    exact ⟨item.definition, List.mem_map_of_mem mem, (diverged item mem).mp conflict⟩
  · rintro ⟨definition, mem, apart⟩
    obtain ⟨item, loaded, rfl⟩ := List.mem_map.mp mem
    exact ⟨item, loaded, (diverged item loaded).mpr apart⟩

/-- What becomes of an entry of the container. -/
structure IsMerged (previous current remote : List AttributeValue)
    (target merged : AttributeValue) : Prop where
  definition : merged.definition = target.definition
  extra : merged.extra = target.extra
  unloaded : target.definition ∉ previous.map AttributeValue.definition → merged = target
  value : target.definition ∈ previous.map AttributeValue.definition →
    let held (values : List AttributeValue) : Option Json := heldValue values target.definition
    merged.value =
      if SafelyEdited (held previous) (held current) (held remote) then held current
      else target.value
  objects : target.definition ∈ previous.map AttributeValue.definition →
    let held (values : List AttributeValue) : Option (List MappedObject) :=
      heldObjects values target.definition
    merged.objects =
      if Diverged (held previous) (held current) (held remote) then
        resolveObjects ((held previous).getD []) ((held current).getD []) ((held remote).getD [])
      else if deepEq (held previous) (held current) = false then held current
      else target.objects

theorem isMerged_mergedEntry (previous current remote : List AttributeValue)
    (target : AttributeValue) :
    IsMerged previous current remote target (mergedEntry previous current remote target) := by
  cases loaded : find? previous target.definition with
  | none =>
    have absent := find?_eq_none_iff.mp loaded
    rw [mergedEntry_of_find?_eq_none current remote loaded]
    exact ⟨rfl, rfl, fun _ => rfl, fun mem => absurd mem absent, fun mem => absurd mem absent⟩
  | some item =>
    have same := definition_of_find? loaded
    have value : heldValue previous target.definition = item.value := heldValue_of_find? loaded
    have objects : heldObjects previous target.definition = item.objects := by
      rw [heldObjects, loaded, Option.bind_some]
    have present : target.definition ∈ previous.map AttributeValue.definition :=
      same ▸ List.mem_map_of_mem (mem_of_find? loaded)
    rw [mergedEntry_of_find? current remote loaded]
    refine ⟨rfl, rfl, fun absent => absurd present absent, fun _ => ?_, fun _ => ?_⟩
    · rw [value_mergeEntry, same, ← value]
    · rw [objects_mergeEntry, same, ← objects]

/-- The merge of lists in which no definition is repeated: the container's entries one by one, in
their order, and a conflict when the values of a loaded definition diverged. -/
theorem resolveAttributes_entrywise {previous container : List AttributeValue}
    (once : (previous.map AttributeValue.definition).Nodup)
    (single : (container.map AttributeValue.definition).Nodup)
    (current remote : List AttributeValue) :
    let resolution := resolveAttributes previous current remote container
    List.Forall₂ (IsMerged previous current remote) container resolution.values ∧
      (resolution.conflict = true ↔
        ∃ definition ∈ previous.map AttributeValue.definition,
          Diverged (heldValue previous definition) (heldValue current definition)
            (heldValue remote definition)) := by
  intro resolution
  refine ⟨?_, conflict_resolveAttributes once current remote container⟩
  have values := values_resolveAttributes once current remote single
  rw [values, List.forall₂_map_right_iff, List.forall₂_same]
  exact fun target _ => isMerged_mergedEntry previous current remote target

/-- The container has one loaded entry, with a value of its own, and one that was not loaded. The
values that diverged are of an entry that it does not have. -/
theorem entrywise_of_missing_entry :
    let effort : Identifier := ⟨7, by decide⟩
    let owner : Identifier := ⟨8, by decide⟩
    let team : Identifier := ⟨9, by decide⟩
    let person (id : Int) (h : -0x8000000000000000 ≤ id ∧ id < 0x8000000000000000) : MappedObject :=
      .ofId ⟨id, h⟩
    let previous : List AttributeValue :=
      [⟨effort, some (.str "low"), some [person 1 (by decide)], []⟩, .ofValue owner (.str "Ann")]
    let current : List AttributeValue :=
      [.ofValue owner (.str "Bea"), ⟨effort, some (.str "high"), some [person 2 (by decide)], []⟩]
    let remote : List AttributeValue :=
      [⟨effort, some (.str "low"), some [person 3 (by decide)], []⟩, .ofValue owner .null]
    let container : List AttributeValue :=
      [.ofValue team (.str "red"), ⟨effort, none, none, [("note", .str "kept")]⟩]
    let resolution := resolveAttributes previous current remote container
    (previous.map AttributeValue.definition).Nodup ∧
      (container.map AttributeValue.definition).Nodup ∧
      List.Forall₂ (IsMerged previous current remote) container resolution.values ∧
      resolution.conflict = true := by
  intro effort owner team person previous current remote container resolution
  have once : (previous.map AttributeValue.definition).Nodup := by decide
  have single : (container.map AttributeValue.definition).Nodup := by decide
  obtain ⟨entries, conflict⟩ := resolveAttributes_entrywise once single current remote
  exact ⟨once, single, entries, conflict.mpr ⟨owner, by decide, by decide⟩⟩

end Writeback
