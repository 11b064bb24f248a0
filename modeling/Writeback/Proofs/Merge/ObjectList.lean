import Mathlib.Data.Finset.Basic
import Mathlib.Tactic.Tauto
import Writeback.Merge.ObjectList

/-!
# Which objects a merge of lists holds

Lists of mapped objects are merged by their ids: an object is in the merged list when the server has
it and it was not removed locally, or when it was added locally. As a set of ids the result does not
distinguish the two sides; the order and the other fields do, as the server's objects come first.
No object is repeated that neither side repeats.

The merged list is stable: merged again in the place of either side it comes to itself, and a side
that changed nothing, or made the same change, leaves the list of the other.
-/

namespace Writeback

theorem hasId_of_mem {objects : List MappedObject} {o : MappedObject} (mem : o ∈ objects) :
    hasId objects o.id = true :=
  List.any_eq_true.mpr ⟨o, mem, beq_self_eq_true o.id⟩

theorem eq_nil_of_hasId {objects : List MappedObject} (h : ∀ id, hasId objects id = false) :
    objects = [] := by
  refine List.eq_nil_iff_forall_not_mem.mpr fun o mem => ?_
  have there := hasId_of_mem mem
  rw [h] at there
  cases there

theorem hasId_append (a b : List MappedObject) (id : Identifier) :
    hasId (a ++ b) id = (hasId a id || hasId b id) :=
  List.any_append

theorem hasId_filter (objects : List MappedObject) (keep : Identifier → Bool) (id : Identifier) :
    hasId (objects.filter fun o => keep o.id) id = (hasId objects id && keep id) := by
  rw [Bool.eq_iff_iff, Bool.and_eq_true, hasId, hasId, List.any_filter]
  simp only [List.any_eq_true, Bool.and_eq_true, beq_iff_eq]
  constructor
  · rintro ⟨o, mem, kept, rfl⟩
    exact ⟨⟨o, mem, rfl⟩, kept⟩
  · rintro ⟨⟨o, mem, rfl⟩, kept⟩
    exact ⟨o, mem, kept, rfl⟩

/-- The server's objects that were not removed locally. -/
def keptObjects (previous current remote : List MappedObject) : List MappedObject :=
  remote.filter fun o => !(hasId previous o.id && !hasId current o.id)

/-- The objects that were added locally and that the server does not have. -/
def addedObjects (previous current remote : List MappedObject) : List MappedObject :=
  current.filter fun o => !hasId previous o.id && !hasId remote o.id

theorem mergeObjects_eq_append (previous current remote : List MappedObject) :
    mergeObjects previous current remote =
      keptObjects previous current remote ++ addedObjects previous current remote := rfl

theorem mem_addedObjects {previous current remote : List MappedObject} {o : MappedObject} :
    o ∈ addedObjects previous current remote ↔
      o ∈ current ∧ hasId previous o.id = false ∧ hasId remote o.id = false := by
  simp [addedObjects]

theorem addedObjects_append (previous first second remote : List MappedObject) :
    addedObjects previous (first ++ second) remote =
      addedObjects previous first remote ++ addedObjects previous second remote :=
  List.filter_append first second

/-- An object is in the merged list when the server has it and it was not deleted locally, or when
it was added locally. -/
theorem hasId_mergeObjects (previous current remote : List MappedObject) (id : Identifier) :
    hasId (mergeObjects previous current remote) id = true ↔
      (hasId remote id = true ∧ (hasId previous id = true → hasId current id = true)) ∨
        (hasId current id = true ∧ ¬ hasId previous id = true) := by
  have kept := hasId_filter remote (fun id => !(hasId previous id && !hasId current id)) id
  have added := hasId_filter current (fun id => !hasId previous id && !hasId remote id) id
  rw [mergeObjects, hasId_append, kept, added]
  cases hasId previous id <;> cases hasId current id <;> cases hasId remote id <;> simp

theorem mem_mergeObjects {previous current remote : List MappedObject} {o : MappedObject}
    (mem : o ∈ mergeObjects previous current remote) : o ∈ remote ∨ o ∈ current := by
  rcases List.mem_append.mp mem with kept | added
  · exact Or.inl (List.mem_filter.mp kept).1
  · exact Or.inr (List.mem_filter.mp added).1

theorem getD_resolveObjects (previous current remote : List MappedObject) :
    (resolveObjects previous current remote).getD [] = mergeObjects previous current remote := by
  unfold resolveObjects
  split
  · next none => rw [none, Option.getD_none]
  · rfl

theorem hasId_eq_of_listEqual {a b : List MappedObject} (h : DeepEq.listEqual a b = true)
    (id : Identifier) : hasId a id = hasId b id := by
  induction a generalizing b with
  | nil =>
    cases b with
    | nil => rfl
    | cons y ys => cases h
  | cons x xs ih =>
    cases b with
    | nil => cases h
    | cons y ys =>
      rw [DeepEq.listEqual, Bool.and_eq_true] at h
      have same : x.id = y.id := by
        have both := Bool.and_eq_true_iff.mp h.1
        exact beq_iff_eq.mp both.1
      rw [hasId, hasId, List.any_cons, List.any_cons, same]
      exact congrArg _ (ih h.2)

/-- Equal lists, or none and none, hold the same objects. -/
theorem hasId_eq_of_deepEq {a b : Option (List MappedObject)} (h : deepEq a b = true)
    (id : Identifier) : hasId (a.getD []) id = hasId (b.getD []) id := by
  cases a with
  | none => cases b with
    | none => rfl
    | some ys => cases h
  | some xs => cases b with
    | none => cases h
    | some ys => exact hasId_eq_of_listEqual h id

/-- A merge leaves a list that holds nothing that was removed and all that was added. -/
theorem mergeObjects_eq_remote {previous current remote : List MappedObject}
    (kept : ∀ o ∈ remote, hasId previous o.id = true → hasId current o.id = true)
    (added : ∀ o ∈ current, hasId previous o.id = false → hasId remote o.id = true) :
    mergeObjects previous current remote = remote := by
  have all : ∀ o ∈ remote, (!(hasId previous o.id && !hasId current o.id)) = true := by
    intro o mem
    cases loaded : hasId previous o.id with
    | false => rfl
    | true => rw [kept o mem loaded]; rfl
  have none : ∀ o ∈ current, ¬ (!hasId previous o.id && !hasId remote o.id) = true := by
    intro o mem
    cases loaded : hasId previous o.id with
    | false => rw [added o mem loaded]; exact Bool.false_ne_true
    | true => exact Bool.false_ne_true
  rw [mergeObjects, List.filter_eq_self.mpr all, List.filter_eq_nil_iff.mpr none, List.append_nil]

/-- Merging into a merged list changes nothing. -/
theorem mergeObjects_mergeObjects (previous current remote : List MappedObject) :
    mergeObjects previous current (mergeObjects previous current remote) =
      mergeObjects previous current remote := by
  apply mergeObjects_eq_remote
  · intro o mem loaded
    rcases (hasId_mergeObjects previous current remote o.id).mp (hasId_of_mem mem) with old | new
    · exact old.2 loaded
    · exact new.1
  · intro o mem fresh
    rw [hasId_mergeObjects, fresh]
    exact Or.inr ⟨hasId_of_mem mem, Bool.false_ne_true⟩

theorem hasId_mergeObjects_of_loaded {previous remote : List MappedObject}
    (current : List MappedObject) {id : Identifier} (loaded : hasId previous id = true)
    (there : hasId remote id = true) :
    hasId (mergeObjects previous current remote) id = hasId current id := by
  rw [Bool.eq_iff_iff, hasId_mergeObjects]
  simp [loaded, there]

/-- Merging a merged list into the server's changes nothing. What the server has and the merged list
has not was removed, and the merged list has beyond the server's what was added. -/
theorem mergeObjects_mergeObjects_remote (previous current remote : List MappedObject) :
    mergeObjects previous (mergeObjects previous current remote) remote =
      mergeObjects previous current remote := by
  have kept : keptObjects previous (mergeObjects previous current remote) remote =
      keptObjects previous current remote := by
    refine List.filter_congr fun o mem => ?_
    cases loaded : hasId previous o.id with
    | false => rfl
    | true => rw [hasId_mergeObjects_of_loaded current loaded (hasId_of_mem mem)]
  have old : addedObjects previous (keptObjects previous current remote) remote = [] := by
    refine List.eq_nil_iff_forall_not_mem.mpr fun o mem => ?_
    obtain ⟨there, -, absent⟩ := mem_addedObjects.mp mem
    rw [hasId_of_mem (List.mem_of_mem_filter there)] at absent
    cases absent
  have new : addedObjects previous (addedObjects previous current remote) remote =
      addedObjects previous current remote := by
    simp only [addedObjects, List.filter_filter, Bool.and_self]
  calc mergeObjects previous (mergeObjects previous current remote) remote
      = keptObjects previous current remote ++
          (addedObjects previous (keptObjects previous current remote) remote ++
            addedObjects previous (addedObjects previous current remote) remote) := by
        rw [mergeObjects_eq_append, kept, mergeObjects_eq_append, addedObjects_append]
    _ = mergeObjects previous current remote := by
        rw [old, new, List.nil_append, mergeObjects_eq_append]

/-- Without a local change the merged list is the server's. -/
theorem mergeObjects_unedited (previous remote : List MappedObject) :
    mergeObjects previous previous remote = remote := by
  apply mergeObjects_eq_remote
  · intro o _ loaded
    exact loaded
  · intro o mem fresh
    rw [hasId_of_mem mem] at fresh
    cases fresh

/-- When both sides have the same list, it is the merged one. -/
theorem mergeObjects_agreed (previous current : List MappedObject) :
    mergeObjects previous current current = current := by
  apply mergeObjects_eq_remote
  · intro o mem _
    exact hasId_of_mem mem
  · intro o mem _
    exact hasId_of_mem mem

/-- When the merge holds the loaded objects, nothing was removed and nothing added. -/
theorem hasId_eq_of_mergeObjects {previous current : List MappedObject}
    (remote : List MappedObject)
    (loaded : ∀ id, hasId previous id = hasId (mergeObjects previous current remote) id)
    (id : Identifier) : hasId previous id = hasId current id := by
  have there := hasId_mergeObjects previous current remote id
  rw [← loaded] at there
  cases before : hasId previous id <;> cases held : hasId current id <;>
    simp [before, held] at there ⊢

/-! ### Sets of ids -/

/-- The ids of the objects in a list. -/
def idSet (objects : List MappedObject) : Finset Identifier :=
  (objects.map MappedObject.id).toFinset

theorem mem_idSet {objects : List MappedObject} {id : Identifier} :
    id ∈ idSet objects ↔ hasId objects id = true := by
  simp [idSet, hasId]

theorem idSet_eq_empty {objects : List MappedObject} : idSet objects = ∅ ↔ objects = [] := by
  rw [idSet, List.toFinset_eq_empty_iff, List.map_eq_nil_iff]

theorem idSet_mergeObjects (previous current remote : List MappedObject) :
    idSet (mergeObjects previous current remote) =
      (idSet previous ∩ idSet current ∩ idSet remote) ∪
        ((idSet current ∪ idSet remote) \ idSet previous) := by
  ext id
  rw [mem_idSet, hasId_mergeObjects]
  simp only [Finset.mem_union, Finset.mem_inter, Finset.mem_sdiff, mem_idSet]
  tauto

theorem mergeObjects_eq_filter (previous current remote : List MappedObject) :
    mergeObjects previous current remote =
      (remote.filter fun o => o.id ∉ idSet previous \ idSet current) ++
        (current.filter fun o => o.id ∉ idSet previous ∪ idSet remote) := by
  rw [mergeObjects]
  congr 1
  · refine List.filter_congr fun o _ => ?_
    simp [mem_idSet]
  · refine List.filter_congr fun o _ => ?_
    simp [mem_idSet]

/-- An object that was added has none of the ids that the server has, so nothing is repeated that
neither side repeats. -/
theorem nodup_mergeObjects (previous : List MappedObject) {current remote : List MappedObject}
    (onceCurrent : (current.map MappedObject.id).Nodup)
    (onceRemote : (remote.map MappedObject.id).Nodup) :
    ((mergeObjects previous current remote).map MappedObject.id).Nodup := by
  rw [mergeObjects_eq_append, List.map_append, List.nodup_append']
  refine ⟨onceRemote.sublist (List.filter_sublist.map _),
    onceCurrent.sublist (List.filter_sublist.map _), ?_⟩
  intro id kept added
  obtain ⟨o, old, rfl⟩ := List.mem_map.mp kept
  obtain ⟨o', new, same⟩ := List.mem_map.mp added
  obtain ⟨-, -, absent⟩ := mem_addedObjects.mp new
  rw [same, hasId_of_mem (List.mem_of_mem_filter old)] at absent
  cases absent

theorem resolveObjects_eq (previous current remote : List MappedObject) :
    resolveObjects previous current remote =
      if (mergeObjects previous current remote).isEmpty then none
      else some (mergeObjects previous current remote) := by
  unfold resolveObjects
  split
  · next nothing =>
    rw [nothing]
    rfl
  · next left =>
    rw [if_neg fun empty => left (List.isEmpty_iff.mp empty)]

/-! ### What the merge comes to -/

/-- The merged list by its ids: those that all three versions have, or one of the sides has beyond
the loaded version. First come the server's objects that were not removed locally, then the local
ones that neither the loaded version nor the server has, all as they were and in their order. There
is no list when there is no id. -/
theorem resolveObjects_spec (previous current remote : List MappedObject) :
    let P := idSet previous
    let C := idSet current
    let R := idSet remote
    let merged := (resolveObjects previous current remote).getD []
    idSet merged = (P ∩ C ∩ R) ∪ ((C ∪ R) \ P) ∧
      idSet ((resolveObjects previous remote current).getD []) = idSet merged ∧
      merged = (remote.filter fun o => o.id ∉ P \ C) ++ (current.filter fun o => o.id ∉ P ∪ R) ∧
      ((remote.map MappedObject.id).Nodup → (current.map MappedObject.id).Nodup →
        (merged.map MappedObject.id).Nodup) ∧
      (resolveObjects previous current remote = none ↔ (P ∩ C ∩ R) ∪ ((C ∪ R) \ P) = ∅) := by
  intro P C R merged
  have list : merged = mergeObjects previous current remote :=
    getD_resolveObjects previous current remote
  have ids : idSet merged = (P ∩ C ∩ R) ∪ ((C ∪ R) \ P) := by
    rw [list]
    exact idSet_mergeObjects previous current remote
  refine ⟨ids, ?_, ?_, ?_, ?_⟩
  · rw [ids, getD_resolveObjects, idSet_mergeObjects, Finset.inter_right_comm,
      Finset.union_comm R C]
  · rw [list]
    exact mergeObjects_eq_filter previous current remote
  · intro onceRemote onceCurrent
    rw [list]
    exact nodup_mergeObjects previous onceCurrent onceRemote
  · rw [← ids, idSet_eq_empty, list, resolveObjects_eq]
    simp

/-- An object that was removed locally came back on the server, behind one that both sides kept. -/
theorem resolveObjects_spec_of_returned_object :
    let object (id : Int) (h : -0x8000000000000000 ≤ id ∧ id < 0x8000000000000000) : MappedObject :=
      .ofId ⟨id, h⟩
    let previous := [object 1 (by decide), object 4 (by decide)]
    let current := [object 2 (by decide), object 4 (by decide)]
    let remote := [object 3 (by decide), object 4 (by decide), object 1 (by decide)]
    let merged := (resolveObjects previous current remote).getD []
    (remote.map MappedObject.id).Nodup ∧ (current.map MappedObject.id).Nodup ∧
      (merged.map MappedObject.id).Nodup ∧
      merged = [object 3 (by decide), object 4 (by decide), object 2 (by decide)] := by
  intro object previous current remote merged
  have onceRemote : (remote.map MappedObject.id).Nodup := by decide
  have onceCurrent : (current.map MappedObject.id).Nodup := by decide
  obtain ⟨-, -, list, once, -⟩ := resolveObjects_spec previous current remote
  exact ⟨onceRemote, onceCurrent, once onceRemote onceCurrent, list.trans (by decide)⟩

/-- The merged list in the place of either side is merged into itself. Without a local change the
result is the server's list, and with the same list on both sides it is that one, whatever was
loaded; an empty list comes back as none. -/
theorem resolveObjects_stable (previous current remote : List MappedObject) :
    let merged := resolveObjects previous current remote
    resolveObjects previous current (merged.getD []) = merged ∧
      resolveObjects previous (merged.getD []) remote = merged ∧
      resolveObjects previous previous remote = (if remote.isEmpty then none else some remote) ∧
      resolveObjects previous current current =
        (if current.isEmpty then none else some current) := by
  intro merged
  have list : merged.getD [] = mergeObjects previous current remote :=
    getD_resolveObjects previous current remote
  have resolved : merged = _ := resolveObjects_eq previous current remote
  refine ⟨?_, ?_, ?_, ?_⟩
  · rw [list, resolved, resolveObjects_eq, mergeObjects_mergeObjects]
  · rw [list, resolved, resolveObjects_eq, mergeObjects_mergeObjects_remote]
  · rw [resolveObjects_eq, mergeObjects_unedited]
  · rw [resolveObjects_eq, mergeObjects_agreed]

end Writeback
