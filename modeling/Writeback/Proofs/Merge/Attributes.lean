import Writeback.Proofs.Merge.Fields
import Writeback.Proofs.Merge.ObjectList
import Writeback.Proofs.Merge.WireForm

/-!
# What becomes of custom attribute values

The merge decides each loaded entry by itself and writes into the server's entry for the same
definition. So a local edit of a loaded entry is carried over or named as a conflict, with two
exceptions: when the server dropped the entry, an added object goes with it, and so does a value
that the loaded entry did not have. An entry that was not loaded is as the server has it.
-/

namespace Writeback

/-! ### The objects of one entry -/

/-- What the merge leaves in an entry that the server has: merged objects when both sides changed
them, and otherwise those of the side that did. -/
def mergedObjects (previous current remote : Option (List MappedObject)) :
    Option (List MappedObject) :=
  let change := Change.between previous current remote
  if change.conflict then
    resolveObjects (previous.getD []) (current.getD []) (remote.getD [])
  else if change.isLocal then current
  else remote

section Objects

variable {previous current remote : Option (List MappedObject)} {id : Identifier}

/-- A removed object does not come back. Unless both sides changed the list, it is gone from the
local one, and a list that did not change locally lost no object. -/
theorem not_hasId_of_removed (loaded : hasId (previous.getD []) id = true)
    (removed : hasId (current.getD []) id = false) :
    hasId ((mergedObjects previous current remote).getD []) id = false := by
  unfold mergedObjects
  dsimp only
  split
  · rw [getD_resolveObjects, Bool.eq_false_iff, ne_eq, hasId_mergeObjects]
    simp [loaded, removed]
  · split
    · exact removed
    · next unchanged =>
      have same := hasId_eq_of_deepEq (Change.not_isLocal_between.mp unchanged) id
      rw [loaded, removed] at same
      cases same

theorem hasId_of_added (before : hasId (previous.getD []) id = false)
    (added : hasId (current.getD []) id = true) :
    hasId ((mergedObjects previous current remote).getD []) id = true := by
  unfold mergedObjects
  dsimp only
  split
  · rw [getD_resolveObjects, hasId_mergeObjects]
    exact Or.inr ⟨added, by simp [before]⟩
  · split
    · exact added
    · next unchanged =>
      have same := hasId_eq_of_deepEq (Change.not_isLocal_between.mp unchanged) id
      rw [before, added] at same
      cases same

end Objects

/-! ### Lists of entries -/

namespace AttributeValue

/-- The plain value held for a definition; no entry holds none. -/
def heldValue (values : List AttributeValue) (definition : Identifier) : Option Json :=
  (find? values definition).bind value

theorem heldValue_of_find? {values : List AttributeValue} {definition : Identifier}
    {v : AttributeValue} (h : find? values definition = some v) :
    heldValue values definition = v.value := by
  rw [heldValue, h, Option.bind_some]

theorem heldValue_of_find?_eq_none {values : List AttributeValue} {definition : Identifier}
    (h : find? values definition = none) : heldValue values definition = none := by
  rw [heldValue, h, Option.bind_none]

/-- The list of objects held for a definition; no entry holds none. -/
def heldObjects (values : List AttributeValue) (definition : Identifier) :
    Option (List MappedObject) :=
  (find? values definition).bind objects

/-- What all objects of all entries are, the ones held for a definition are. -/
theorem forall_heldObjects {P : MappedObject → Prop} {values : List AttributeValue}
    (h : ∀ v ∈ values, ∀ list ∈ v.objects, ∀ o ∈ list, P o) (definition : Identifier) :
    ∀ o ∈ (heldObjects values definition).getD [], P o := by
  intro o mem
  cases held : heldObjects values definition with
  | none =>
    rw [held] at mem
    cases mem
  | some list =>
    rw [held, Option.getD_some] at mem
    obtain ⟨v, found, objects⟩ := Option.bind_eq_some_iff.mp held
    exact h v (List.mem_of_find?_eq_some found) list objects o mem

/-- Whether an object is held for a definition. -/
def holds (values : List AttributeValue) (definition object : Identifier) : Bool :=
  hasId ((heldObjects values definition).getD []) object

theorem find?_cons (v : AttributeValue) (rest : List AttributeValue) (definition : Identifier) :
    find? (v :: rest) definition =
      if v.definition = definition then some v else find? rest definition := by
  rw [find?, List.find?_cons]
  by_cases same : v.definition = definition
  · rw [if_pos same, beq_iff_eq.mpr same]
  · rw [if_neg same, beq_eq_false_iff_ne.mpr same]
    rfl

theorem find?_eq_none_iff {values : List AttributeValue} {definition : Identifier} :
    find? values definition = none ↔ definition ∉ values.map AttributeValue.definition := by
  simp [find?, List.find?_eq_none]

theorem definition_of_find? {values : List AttributeValue} {definition : Identifier}
    {v : AttributeValue} (h : find? values definition = some v) : v.definition = definition := by
  rw [find?] at h
  have found := List.find?_some h
  exact beq_iff_eq.mp found

theorem mem_of_find? {values : List AttributeValue} {definition : Identifier} {v : AttributeValue}
    (h : find? values definition = some v) : v ∈ values :=
  List.mem_of_find?_eq_some h

/-- Where no definition is repeated, every entry is found. -/
theorem find?_of_mem {values : List AttributeValue}
    (once : (values.map AttributeValue.definition).Nodup) {v : AttributeValue} (mem : v ∈ values) :
    find? values v.definition = some v := by
  induction values with
  | nil => cases mem
  | cons first rest ih =>
    rw [List.map_cons, List.nodup_cons] at once
    rw [find?_cons]
    rcases List.mem_cons.mp mem with rfl | mem
    · rw [if_pos rfl]
    · have ne : first.definition ≠ v.definition := fun same =>
        once.1 (same ▸ List.mem_map_of_mem mem)
      rw [if_neg ne, ih once.2 mem]

end AttributeValue

open AttributeValue

namespace AttributeResolution

theorem definition_mergeEntry (current remote : List AttributeValue)
    (item target : AttributeValue) :
    (mergeEntry current remote item target).definition = target.definition := rfl

/-- An update of the first entry for a definition is seen under that definition only. -/
theorem find?_updateFirst (definition : Identifier) {f : AttributeValue → AttributeValue}
    (keeps : ∀ v, (f v).definition = v.definition) (values : List AttributeValue)
    (other : Identifier) :
    find? (updateFirst definition f values) other =
      if definition = other then (find? values other).map f else find? values other := by
  induction values with
  | nil =>
    rw [updateFirst]
    split <;> rfl
  | cons v rest ih =>
    rw [updateFirst]
    by_cases first : v.definition = definition
    · rw [if_pos first, find?_cons, find?_cons, keeps, first]
      split <;> rfl
    · rw [if_neg first, find?_cons, find?_cons, ih]
      by_cases same : definition = other
      · subst same
        rw [if_pos rfl, if_pos rfl, if_neg first, if_neg first]
      · rw [if_neg same, if_neg same]

theorem mem_updateFirst {definition : Identifier} {f : AttributeValue → AttributeValue}
    {values : List AttributeValue} {v : AttributeValue}
    (mem : v ∈ updateFirst definition f values) : v ∈ values ∨ ∃ w ∈ values, v = f w := by
  induction values with
  | nil => exact Or.inl mem
  | cons first rest ih =>
    rw [updateFirst] at mem
    split at mem
    · rcases List.mem_cons.mp mem with rfl | mem
      · exact Or.inr ⟨first, List.mem_cons_self, rfl⟩
      · exact Or.inl (List.mem_cons_of_mem _ mem)
    · rcases List.mem_cons.mp mem with rfl | mem
      · exact Or.inl List.mem_cons_self
      · rcases ih mem with old | ⟨w, old, rfl⟩
        · exact Or.inl (List.mem_cons_of_mem _ old)
        · exact Or.inr ⟨w, List.mem_cons_of_mem _ old, rfl⟩

/-- The objects of a merged entry come from the local entry, the server's or the container's. -/
theorem forall_objects_mergeEntry {P : MappedObject → Prop} {current remote : List AttributeValue}
    {item target : AttributeValue}
    (hc : ∀ o ∈ (heldObjects current item.definition).getD [], P o)
    (hr : ∀ o ∈ (heldObjects remote item.definition).getD [], P o)
    (ht : ∀ list ∈ target.objects, ∀ o ∈ list, P o) :
    ∀ list ∈ (mergeEntry current remote item target).objects, ∀ o ∈ list, P o := by
  intro list held o mem
  unfold mergeEntry at held
  dsimp only at held
  split at held
  · have merged : o ∈ mergeObjects (item.objects.getD [])
        ((heldObjects current item.definition).getD [])
        ((heldObjects remote item.definition).getD []) := by
      rw [← getD_resolveObjects, heldObjects, heldObjects, Option.mem_def.mp held]
      exact mem
    rcases mem_mergeObjects merged with old | new
    · exact hr o old
    · exact hc o new
  · split at held
    · apply hc o
      rw [heldObjects, Option.mem_def.mp held]
      exact mem
    · exact ht list held o mem

end AttributeResolution

open AttributeResolution

/-- What every merge of an entry keeps holds of the merged list. -/
theorem resolveAttributes_induction {P : List AttributeValue → Prop}
    {previous current remote container : List AttributeValue} (start : P container)
    (step : ∀ item ∈ previous, ∀ values, P values →
      P (updateFirst item.definition (mergeEntry current remote item) values)) :
    P (resolveAttributes previous current remote container).values :=
  List.foldlRecOn previous _ start fun values h item mem => step item mem values h

/-- There is a conflict when the value of a loaded entry is in conflict. -/
theorem conflict_resolveAttributes_iff {previous current remote container : List AttributeValue} :
    (resolveAttributes previous current remote container).conflict = true ↔
      ∃ item ∈ previous, (valueChange current remote item).conflict = true :=
  List.any_eq_true

/-- The merged entry for a definition: the container's, decided by the loaded entry if there is
one. -/
theorem find?_resolveAttributes {previous : List AttributeValue}
    (once : (previous.map AttributeValue.definition).Nodup)
    (current remote container : List AttributeValue) (definition : Identifier) :
    find? (resolveAttributes previous current remote container).values definition =
      match find? previous definition with
      | some item => (find? container definition).map (mergeEntry current remote item)
      | none => find? container definition := by
  rw [resolveAttributes]
  dsimp only
  induction previous generalizing container with
  | nil => rfl
  | cons item rest ih =>
    rw [List.map_cons, List.nodup_cons] at once
    rw [List.foldl_cons, ih once.2, find?_cons,
      find?_updateFirst _ (definition_mergeEntry current remote item)]
    by_cases same : item.definition = definition
    · subst same
      rw [if_pos rfl, if_pos rfl, find?_eq_none_iff.mpr once.1]
    · rw [if_neg same, if_neg same]

/-! ### One loaded entry -/

theorem eq_none_of_deepEq {α : Type} [DeepEq α] {a : Option α} (h : deepEq a none = true) :
    a = none := by
  cases a with
  | none => rfl
  | some x => cases h

/-- The objects of a server's entry that a loaded one is merged into. -/
theorem objects_mergeEntry_of_find? {current remote : List AttributeValue}
    {item target : AttributeValue} (there : find? remote item.definition = some target) :
    (mergeEntry current remote item target).objects =
      mergedObjects item.objects (heldObjects current item.definition) target.objects := by
  rw [mergeEntry, there]
  rfl

section Entry

variable {previous current remote : List AttributeValue}
  (once : (previous.map AttributeValue.definition).Nodup)
include once

/-- An edited value is kept or in conflict, unless the loaded entry had none and the server dropped
the entry. -/
theorem heldValue_kept {definition : Identifier} (loaded : find? previous definition ≠ none)
    (edited : deepEq (heldValue previous definition) (heldValue current definition) = false) :
    (resolveAttributes previous current remote remote).conflict = true ∨
      heldValue (resolveAttributes previous current remote remote).values definition =
        heldValue current definition ∨
      heldValue previous definition = none ∧ find? remote definition = none := by
  obtain ⟨item, found⟩ := Option.ne_none_iff_exists'.mp loaded
  obtain rfl := definition_of_find? found
  have merged := find?_resolveAttributes once current remote remote item.definition
  rw [found] at merged
  rw [heldValue_of_find? found] at edited ⊢
  rcases Change.conflict_or_isSafe edited (heldValue remote item.definition) with conflict | safe
  · exact Or.inl (conflict_resolveAttributes_iff.mpr ⟨item, mem_of_find? found, conflict⟩)
  · right
    rw [heldValue, merged]
    cases there : find? remote item.definition with
    | none =>
      rw [heldValue_of_find?_eq_none there] at safe
      rcases (Change.isSafe_between.mp safe).2 with none | none
      · exact Or.inr ⟨eq_none_of_deepEq none, rfl⟩
      · exact Or.inl (eq_none_of_deepEq none).symm
    | some target => exact Or.inl (if_pos safe)

theorem heldObjects_resolveAttributes {item target : AttributeValue}
    (found : find? previous item.definition = some item)
    (there : find? remote item.definition = some target) :
    heldObjects (resolveAttributes previous current remote remote).values item.definition =
      mergedObjects item.objects (heldObjects current item.definition) target.objects := by
  have merged := find?_resolveAttributes once current remote remote item.definition
  rw [found, there] at merged
  rw [heldObjects, merged]
  dsimp only
  rw [Option.map_some, Option.bind_some, objects_mergeEntry_of_find? there]

/-- An object that was removed locally from a loaded entry is not in the merged one. -/
theorem not_holds_removed {definition object : Identifier}
    (loaded : holds previous definition object = true)
    (removed : holds current definition object = false) :
    holds (resolveAttributes previous current remote remote).values definition object = false := by
  cases found : find? previous definition with
  | none =>
    rw [holds, heldObjects, found] at loaded
    cases loaded
  | some item =>
    obtain rfl := definition_of_find? found
    rw [holds, heldObjects, found] at loaded
    cases there : find? remote item.definition with
    | none =>
      have merged := find?_resolveAttributes once current remote remote item.definition
      rw [found, there] at merged
      rw [holds, heldObjects, merged]
      rfl
    | some target =>
      rw [holds, heldObjects_resolveAttributes once found there]
      exact not_hasId_of_removed loaded removed

/-- An object that was added locally to a loaded entry is in the merged one, if the server still has
the entry. -/
theorem holds_added {definition object : Identifier} (loaded : find? previous definition ≠ none)
    (there : find? remote definition ≠ none) (before : holds previous definition object = false)
    (added : holds current definition object = true) :
    holds (resolveAttributes previous current remote remote).values definition object = true := by
  obtain ⟨item, found⟩ := Option.ne_none_iff_exists'.mp loaded
  obtain ⟨target, there⟩ := Option.ne_none_iff_exists'.mp there
  obtain rfl := definition_of_find? found
  rw [holds, heldObjects, found] at before
  rw [holds, heldObjects_resolveAttributes once found there]
  exact hasId_of_added before added

end Entry

end Writeback
