import Writeback.Proofs.Merge.Entries

/-!
# Merging again into what was merged

A save that is tried again meets its own merge on the server's side: the merged entries take the
place of the remote ones and of the container. A value that was carried over is there already, a
conflict stays one, and merged objects lack nothing that was added and hold nothing that was
removed. So the second merge reports what the first reported and changes nothing, except that it may
take a list of objects in the form in which it stands locally.
-/

namespace Writeback

open AttributeValue AttributeResolution

/-! ### One value -/

/-- The local version when it was edited and is safe to carry over, and else the server's. -/
def mergedValue {α : Type} [DeepEq α] (previous current remote : α) : α :=
  if SafelyEdited previous current remote then current else remote

section Value

variable {α : Type} [DeepEq α] {current : α} (self : deepEq current current = true)
  (previous remote : α)
include self

theorem mergedValue_mergedValue :
    mergedValue previous current (mergedValue previous current remote) =
      mergedValue previous current remote := by
  by_cases safe : SafelyEdited previous current remote
  · have again : SafelyEdited previous current current := ⟨safe.1, Or.inr self⟩
    have first : mergedValue previous current remote = current := if_pos safe
    rw [first]
    exact if_pos again
  · have first : mergedValue previous current remote = remote := if_neg safe
    rw [first, first]

theorem diverged_mergedValue :
    Diverged previous current (mergedValue previous current remote) ↔
      Diverged previous current remote := by
  by_cases safe : SafelyEdited previous current remote
  · have first : mergedValue previous current remote = current := if_pos safe
    rw [first]
    constructor
    · rintro ⟨-, -, apart⟩
      rw [self] at apart
      cases apart
    · rintro ⟨-, loaded, agreed⟩
      rcases safe.2 with same | same
      · rw [loaded] at same
        cases same
      · rw [agreed] at same
        cases same
  · have first : mergedValue previous current remote = remote := if_neg safe
    rw [first]

end Value

/-! ### Objects -/

section Objects

variable {previous current remote : Option (List MappedObject)}

theorem mergedObjects_eq :
    mergedObjects previous current remote =
      if Diverged previous current remote then
        resolveObjects (previous.getD []) (current.getD []) (remote.getD [])
      else if deepEq previous current = false then current else remote :=
  if_congr Change.conflict_between rfl (if_congr Change.isLocal_between rfl rfl)

/-- Diverged objects do not come to the loaded ones. They would have to hold the same objects
locally, so that the merge comes to the server's. -/
theorem not_equal_resolveObjects (apart : Diverged previous current remote) :
    deepEq previous (resolveObjects (previous.getD []) (current.getD []) (remote.getD [])) =
      false := by
  by_contra equal
  rw [Bool.not_eq_false] at equal
  have same : ∀ id, hasId (previous.getD []) id = hasId (current.getD []) id := by
    refine hasId_eq_of_mergeObjects (remote.getD []) fun id => ?_
    rw [← getD_resolveObjects]
    exact hasId_eq_of_deepEq equal id
  have merged : mergeObjects (previous.getD []) (current.getD []) (remote.getD []) =
      remote.getD [] := by
    refine mergeObjects_eq_remote (fun o _ loaded => same o.id ▸ loaded) fun o mem fresh => ?_
    rw [same, hasId_of_mem mem] at fresh
    cases fresh
  rw [resolveObjects, merged] at equal
  obtain ⟨edited, loaded, different⟩ := apart
  match remote with
  | none | some (_ :: _) => exact Bool.false_ne_true (loaded.symm.trans equal)
  | some [] =>
    obtain rfl := eq_none_of_deepEq equal
    match current with
    | none => cases edited
    | some objects =>
      have empty : objects = [] := eq_nil_of_hasId fun id => (same id).symm
      subst empty
      cases different

theorem mergedObjects_mergedObjects (self : deepEq current current = true)
    (previous remote : Option (List MappedObject)) :
    let merged := mergedObjects previous current remote
    mergedObjects previous current merged = merged ∨
      mergedObjects previous current merged = current ∧ deepEq current merged = true := by
  intro merged
  have first : merged = _ := mergedObjects_eq
  by_cases edited : deepEq previous current = false
  · by_cases apart : Diverged previous current remote
    · rw [if_pos apart] at first
      rw [mergedObjects_eq]
      by_cases still : Diverged previous current merged
      · left
        rw [if_pos still, first, getD_resolveObjects, resolveObjects, mergeObjects_mergeObjects]
        rfl
      · right
        have loaded : deepEq previous merged = false := first ▸ not_equal_resolveObjects apart
        rw [if_neg still, if_pos edited]
        refine ⟨rfl, ?_⟩
        by_contra different
        exact still ⟨edited, loaded, Bool.eq_false_iff.mpr different⟩
    · rw [if_neg apart, if_pos edited] at first
      left
      have agreed : ¬ Diverged previous current current := fun h => by
        rw [Diverged, self] at h
        cases h.2.2
      rw [first, mergedObjects_eq, if_neg agreed, if_pos edited]
  · left
    have unedited (there : Option (List MappedObject)) :
        mergedObjects previous current there = there := by
      rw [mergedObjects_eq, if_neg fun h => edited h.1, if_neg edited]
    exact unedited merged

end Objects

/-! ### Entries -/

namespace AttributeValue

/-- The same entry, up to the form in which its objects are written. -/
structure AgreesWith (v w : AttributeValue) : Prop where
  definition : v.definition = w.definition
  value : v.value = w.value
  objects : deepEq v.objects w.objects = true
  extra : v.extra = w.extra

theorem Ordered.agreesWith_self {v : AttributeValue} (h : v.Ordered) : v.AgreesWith v :=
  ⟨rfl, rfl, h.equal_objects, rfl⟩

theorem equal_heldValue {values : List AttributeValue} (h : ∀ v ∈ values, v.Ordered)
    (definition : Identifier) :
    deepEq (heldValue values definition) (heldValue values definition) = true := by
  cases found : find? values definition with
  | none =>
    rw [heldValue_of_find?_eq_none found]
    rfl
  | some v =>
    rw [heldValue_of_find? found]
    exact (h v (mem_of_find? found)).equal_value

theorem equal_heldObjects {values : List AttributeValue} (h : ∀ v ∈ values, v.Ordered)
    (definition : Identifier) :
    deepEq (heldObjects values definition) (heldObjects values definition) = true := by
  rw [heldObjects]
  cases found : find? values definition with
  | none => rfl
  | some v => exact (h v (mem_of_find? found)).equal_objects

end AttributeValue

theorem ordered_mergedEntry (previous : List AttributeValue)
    {current remote : List AttributeValue} (hc : ∀ v ∈ current, v.Ordered)
    (hr : ∀ v ∈ remote, v.Ordered) {target : AttributeValue} (ht : target.Ordered) :
    (mergedEntry previous current remote target).Ordered := by
  unfold mergedEntry
  split
  · next item _ =>
    have locals := forall_heldObjects (fun v mem => (hc v mem).objects) item.definition
    have others := forall_heldObjects (fun v mem => (hr v mem).objects) item.definition
    refine ⟨?_, forall_objects_mergeEntry locals others ht.objects⟩
    rw [value_mergeEntry]
    split
    · intro x held
      obtain ⟨v, found, there⟩ := Option.bind_eq_some_iff.mp held
      exact (hc v (mem_of_find? found)).value x there
    · exact ht.value
  · exact ht

section Rebased

variable {previous current remote : List AttributeValue}

/-- What becomes of a server's entry that a loaded one is merged into. -/
theorem value_mergedEntry {item target : AttributeValue}
    (loaded : find? previous target.definition = some item)
    (there : find? remote target.definition = some target) :
    (mergedEntry previous current remote target).value =
      mergedValue item.value (heldValue current target.definition) target.value := by
  have same := definition_of_find? loaded
  rw [mergedEntry_of_find? current remote loaded, value_mergeEntry, same, heldValue_of_find? there]
  rfl

theorem objects_mergedEntry {item target : AttributeValue}
    (loaded : find? previous target.definition = some item)
    (there : find? remote target.definition = some target) :
    (mergedEntry previous current remote target).objects =
      mergedObjects item.objects (heldObjects current target.definition) target.objects := by
  have same := definition_of_find? loaded
  rw [← same] at there ⊢
  rw [mergedEntry_of_find? current remote loaded, objects_mergeEntry_of_find? there]

variable (hc : ∀ v ∈ current, v.Ordered)
include hc

/-- An entry that is merged again into the merged one. -/
theorem agreesWith_mergedEntry (hr : ∀ v ∈ remote, v.Ordered) {merged : List AttributeValue}
    {target : AttributeValue} (there : find? remote target.definition = some target)
    (again : find? merged target.definition = some (mergedEntry previous current remote target)) :
    (mergedEntry previous current merged
        (mergedEntry previous current remote target)).AgreesWith
      (mergedEntry previous current remote target) := by
  have ordered := ordered_mergedEntry previous hc hr (hr target (mem_of_find? there))
  cases loaded : find? previous target.definition with
  | none =>
    have untouched : mergedEntry previous current remote target = target :=
      mergedEntry_of_find?_eq_none current remote loaded
    rw [untouched] at ordered ⊢
    rw [mergedEntry_of_find?_eq_none current merged loaded]
    exact ordered.agreesWith_self
  | some item =>
    have same := definition_mergedEntry previous current remote target
    refine ⟨definition_mergedEntry previous current merged _, ?_, ?_,
      extra_mergedEntry previous current merged _⟩
    · rw [value_mergedEntry (same ▸ loaded) (same ▸ again), same, value_mergedEntry loaded there]
      exact mergedValue_mergedValue (equal_heldValue hc _) _ _
    · have stable := mergedObjects_mergedObjects (equal_heldObjects hc target.definition)
        item.objects target.objects
      rw [objects_mergedEntry (same ▸ loaded) (same ▸ again), same]
      rw [← objects_mergedEntry loaded there] at stable
      rcases stable with kept | ⟨taken, equal⟩
      · rw [kept]
        exact ordered.equal_objects
      · rw [taken]
        exact equal

/-- A value that was merged is in conflict when it was before. -/
theorem diverged_heldValue_merged (once : (previous.map AttributeValue.definition).Nodup)
    {definition : Identifier} (mem : definition ∈ previous.map AttributeValue.definition) :
    Diverged (heldValue previous definition) (heldValue current definition)
        (heldValue (resolveAttributes previous current remote remote).values definition) ↔
      Diverged (heldValue previous definition) (heldValue current definition)
        (heldValue remote definition) := by
  have merged := find?_values_resolveAttributes once current remote remote definition
  cases there : find? remote definition with
  | none =>
    rw [there] at merged
    rw [heldValue_of_find?_eq_none there, heldValue_of_find?_eq_none merged]
  | some target =>
    obtain rfl := definition_of_find? there
    rw [there] at merged
    obtain ⟨item, loaded⟩ := Option.ne_none_iff_exists'.mp fun none =>
      find?_eq_none_iff.mp none mem
    rw [heldValue_of_find? there, heldValue_of_find? merged, value_mergedEntry loaded there,
      heldValue_of_find? loaded]
    exact diverged_mergedValue (equal_heldValue hc _) _ _

end Rebased

/-- Merging again, with the merged entries as the server's and as the container, reports a conflict
if the first merge did, and comes to the same entries. -/
theorem resolveAttributes_rebased {previous current remote : List AttributeValue}
    (hc : ∀ v ∈ current, v.Ordered) (hr : ∀ v ∈ remote, v.Ordered)
    (once : (previous.map AttributeValue.definition).Nodup)
    (single : (remote.map AttributeValue.definition).Nodup) :
    let first := resolveAttributes previous current remote remote
    let second := resolveAttributes previous current first.values first.values
    second.conflict = first.conflict ∧
      List.Forall₂ AttributeValue.AgreesWith second.values first.values := by
  intro first second
  constructor
  · rw [Bool.eq_iff_iff, conflict_resolveAttributes once, conflict_resolveAttributes once]
    exact exists_congr fun definition => and_congr_right fun mem =>
      diverged_heldValue_merged hc once mem
  · have entries : first.values = remote.map (mergedEntry previous current remote) :=
      values_resolveAttributes once current remote single
    have apart : (first.values.map AttributeValue.definition).Nodup := by
      rw [entries, List.map_map]
      simpa [Function.comp_def] using single
    have again : second.values = first.values.map (mergedEntry previous current first.values) :=
      values_resolveAttributes once current first.values apart
    rw [again, List.forall₂_map_left_iff, List.forall₂_same]
    intro v mem
    obtain ⟨target, inside, rfl⟩ := List.mem_map.mp (entries ▸ mem)
    have there := find?_of_mem single inside
    have merged := find?_values_resolveAttributes once current remote remote target.definition
    rw [there, Option.map_some] at merged
    exact agreesWith_mergedEntry hc hr there merged

/-- The value was edited on one side and the objects on both, and another value diverged. -/
theorem rebased_of_diverged :
    let effort : Identifier := ⟨7, by decide⟩
    let owner : Identifier := ⟨8, by decide⟩
    let person (id : Int) (h : -0x8000000000000000 ≤ id ∧ id < 0x8000000000000000) : MappedObject :=
      .ofId ⟨id, h⟩
    let previous : List AttributeValue :=
      [⟨effort, some (.str "low"), some [person 1 (by decide)], []⟩, .ofValue owner (.str "Ann")]
    let current : List AttributeValue :=
      [⟨effort, some (.str "high"), some [person 2 (by decide)], []⟩, .ofValue owner (.str "Bea")]
    let remote : List AttributeValue :=
      [⟨effort, some (.str "low"), some [person 3 (by decide)], []⟩, .ofValue owner .null]
    let first := resolveAttributes previous current remote remote
    let second := resolveAttributes previous current first.values first.values
    (∀ v ∈ current, v.Ordered) ∧ (∀ v ∈ remote, v.Ordered) ∧
      (previous.map AttributeValue.definition).Nodup ∧
      (remote.map AttributeValue.definition).Nodup ∧ second.conflict = first.conflict ∧
      List.Forall₂ AttributeValue.AgreesWith second.values first.values := by
  intro effort owner person previous current remote first second
  have hc : ∀ v ∈ current, v.Ordered := by decide
  have hr : ∀ v ∈ remote, v.Ordered := by decide
  have once : (previous.map AttributeValue.definition).Nodup := by decide
  have single : (remote.map AttributeValue.definition).Nodup := by decide
  exact ⟨hc, hr, once, single, resolveAttributes_rebased hc hr once single⟩

end Writeback
