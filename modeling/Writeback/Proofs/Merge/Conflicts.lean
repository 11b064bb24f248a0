import Writeback.Proofs.Merge.AttributeEdits

/-!
# Which conflicts are named

A listed field is in conflict when no two of its three versions are equal, and that is read from the
three documents as they came: what was written for the fields before it has no say, whether or not
the fields overlap. The custom attribute values are named last and at most once, if the loaded
object has them. They are in conflict when a loaded value is, and also when one of the three lists
does not have the right shape; then the lists are left alone, and the merged document is the
server's with the safe edits of the listed fields.
-/

namespace Writeback

open Json AttributeValue AttributeResolution

namespace Snapshot

/-! ### Listed fields -/

/-- The listed fields whose three versions differ pairwise, in their order. -/
def divergedFields (s : Snapshot) (fields : List String) : List String :=
  fields.filter fun field =>
    Diverged (s.base.get? field) (s.current.get? field) (s.remote.get? field)

/-- The listed fields with a safe local edit, in their order. -/
def safeFields (s : Snapshot) (fields : List String) : List String :=
  fields.filter fun field => s.IsSafe field

theorem fieldConflicts_eq_divergedFields (s : Snapshot) (fields : List String) :
    s.fieldConflicts fields = s.divergedFields fields := by
  refine List.filter_congr fun field _ => ?_
  rw [Bool.eq_iff_iff, decide_eq_true_iff]
  exact Change.conflict_between

theorem mem_safeFields {s : Snapshot} {fields : List String} {field : String} :
    field ∈ s.safeFields fields ↔ field ∈ fields ∧ s.IsSafe field := by
  rw [safeFields, List.mem_filter, decide_eq_true_iff]

/-- The safe edits are written one after another, and nothing else is. -/
theorem mergeFields_eq_foldl (s : Snapshot) (fields : List String) :
    s.mergeFields fields =
      (s.safeFields fields).foldl (fun merged field => merged.set field (s.current.get? field))
        s.remote := by
  rw [mergeFields, safeFields, List.foldl_filter]
  congr 1
  funext merged field
  by_cases safe : s.IsSafe field
  · rw [applyTo_of_isSafe safe, if_pos (decide_eq_true safe)]
  · rw [applyTo_of_not_isSafe safe, if_neg (mt of_decide_eq_true safe)]

/-- A path leads to a field or on from it, or it spells an array index on the way in another way. -/
def Touches (path field : String) : Prop :=
  segments path <+: segments field ∨ segments field <+: segments path ∨
    Respelled (segments field) (segments path)

instance (path field : String) : Decidable (Touches path field) :=
  inferInstanceAs (Decidable (_ ∨ _ ∨ _))

theorem get?_mergeFields_of_untouched {s : Snapshot} (h : s.Ordered) {fields : List String}
    {path : String} (untouched : ∀ field ∈ s.safeFields fields, ¬ Touches path field) :
    (s.mergeFields fields).get? path = s.remote.get? path := by
  let Kept (merged : Json) : Prop := merged.Ordered ∧ merged.get? path = s.remote.get? path
  suffices Kept (s.mergeFields fields) from this.2
  apply writeFields_induction (P := Kept) ⟨h.remote, rfl⟩
  intro field mem merged ⟨ordered, same⟩
  refine ⟨h.applyTo field ordered, ?_⟩
  by_cases safe : s.IsSafe field
  · have apart := untouched field (mem_safeFields.mpr ⟨mem, safe⟩)
    rw [Touches, not_or, not_or] at apart
    obtain ⟨off, beyond, spelled⟩ := apart
    rw [applyTo_of_isSafe safe, get?_eq_lookup, some_set]
    rcases lookup_edit ordered.place (s.current.get? field) spelled off with
      kept | ⟨rest, split, -⟩
    · exact kept.trans same
    · exact absurd ⟨rest, split.symm⟩ beyond
  · rw [applyTo_of_not_isSafe safe]
    exact same

/-! ### Custom attribute values -/

/-- One of the three lists of custom attribute values does not have the right shape. -/
def Unreadable (s : Snapshot) : Prop :=
  ∃ attrs ∈ [s.base, s.current, s.remote], ∃ error, attributeValues attrs = .error error

/-- All three lists have the right shape, and a loaded value differs pairwise from the values of the
first local and the first remote entry for its definition. -/
def ValueDiverged (s : Snapshot) : Prop :=
  ∃ previous current remote, attributeValues s.base = .ok previous ∧
    attributeValues s.current = .ok current ∧ attributeValues s.remote = .ok remote ∧
    ∃ item ∈ previous, Diverged item.value (heldValue current item.definition)
      (heldValue remote item.definition)

/-- The loaded object has custom attribute values, and they are in conflict. -/
def AttributesInConflict (s : Snapshot) : Prop :=
  s.base.field? attributeKey ≠ none ∧ (s.Unreadable ∨ s.ValueDiverged)

theorem attributeLists?_eq_none_iff {s : Snapshot} : s.attributeLists? = none ↔ s.Unreadable := by
  rw [attributeLists?, Unreadable]
  cases base : attributeValues s.base <;> cases current : attributeValues s.current <;>
    cases remote : attributeValues s.remote <;> simp [base, current, remote]

theorem of_attributeLists? {s : Snapshot} {previous current remote : List AttributeValue}
    (lists : s.attributeLists? = some (previous, current, remote)) :
    attributeValues s.base = .ok previous ∧ attributeValues s.current = .ok current ∧
      attributeValues s.remote = .ok remote := by
  unfold attributeLists? at lists
  split at lists
  · next hp hc hr =>
    cases lists
    exact ⟨hp, hc, hr⟩
  · cases lists

/-- When the lists have the right shape, the conflict is the one that their merge reports. -/
theorem attributesInConflict_iff {s : Snapshot} (present : s.base.field? attributeKey ≠ none)
    {previous current remote : List AttributeValue}
    (lists : s.attributeLists? = some (previous, current, remote)) :
    s.AttributesInConflict ↔
      (resolveAttributes previous current remote remote).conflict = true := by
  obtain ⟨hp, hc, hr⟩ := of_attributeLists? lists
  rw [conflict_resolveAttributes_iff]
  constructor
  · rintro ⟨-, unreadable | ⟨_, _, _, hp', hc', hr', item, mem, apart⟩⟩
    · rw [attributeLists?_eq_none_iff.mpr unreadable] at lists
      cases lists
    · cases hp.symm.trans hp'
      cases hc.symm.trans hc'
      cases hr.symm.trans hr'
      exact ⟨item, mem, Change.conflict_between.mpr apart⟩
  · rintro ⟨item, mem, conflict⟩
    have apart := Change.conflict_between.mp conflict
    exact ⟨present, Or.inr ⟨previous, current, remote, hp, hc, hr, item, mem, apart⟩⟩

/-! ### Whole snapshots -/

section Resolve

variable {s : Snapshot} (fields : List String)

theorem conflicts_of_attributesInConflict (conflict : s.AttributesInConflict) :
    (s.resolve fields).conflicts = s.divergedFields fields ++ [attributeKey] := by
  rw [← fieldConflicts_eq_divergedFields]
  cases lists : s.attributeLists? with
  | none => rw [resolve_of_unreadable conflict.1 lists]
  | some triple =>
    obtain ⟨previous, current, remote⟩ := triple
    have reported := (attributesInConflict_iff conflict.1 lists).mp conflict
    rw [resolve_of_attributeLists? conflict.1 lists]
    exact if_pos reported

theorem conflicts_of_not_attributesInConflict (free : ¬ s.AttributesInConflict) :
    (s.resolve fields).conflicts = s.divergedFields fields := by
  rw [← fieldConflicts_eq_divergedFields]
  by_cases absent : s.base.field? attributeKey = none
  · rw [resolve_of_absent absent]
  · cases lists : s.attributeLists? with
    | none => exact absurd ⟨absent, Or.inl (attributeLists?_eq_none_iff.mp lists)⟩ free
    | some triple =>
      obtain ⟨previous, current, remote⟩ := triple
      rw [attributesInConflict_iff absent lists] at free
      rw [resolve_of_attributeLists? absent lists]
      exact if_neg free

theorem merged_of_unread (unread : s.base.field? attributeKey = none ∨ s.Unreadable) :
    (s.resolve fields).merged = s.mergeFields fields := by
  by_cases absent : s.base.field? attributeKey = none
  · rw [resolve_of_absent absent]
  · have unreadable := attributeLists?_eq_none_iff.mpr (unread.resolve_left absent)
    rw [resolve_of_unreadable absent unreadable]

end Resolve

/-- The conflicts are the listed fields that differ pairwise in the three documents, in their order
and as often as they are listed, and then the custom attribute values if they are in conflict. When
the loaded object has none, or a list does not have the right shape, the merged document is the
server's with the safe edits of the listed fields, written one after another, and whatever they do
not touch is as the server has it. -/
theorem resolve_names_conflicts (s : Snapshot) (fields : List String) :
    let resolution := s.resolve fields
    (s.AttributesInConflict →
        resolution.conflicts = s.divergedFields fields ++ [attributeKey]) ∧
      (¬ s.AttributesInConflict → resolution.conflicts = s.divergedFields fields) ∧
      (s.base.field? attributeKey = none ∨ s.Unreadable →
        resolution.merged =
            (s.safeFields fields).foldl
              (fun merged field => merged.set field (s.current.get? field)) s.remote ∧
          (s.Ordered → ∀ path, (∀ field ∈ s.safeFields fields, ¬ Touches path field) →
            resolution.merged.get? path = s.remote.get? path)) := by
  intro resolution
  refine ⟨conflicts_of_attributesInConflict fields, conflicts_of_not_attributesInConflict fields,
    fun unread => ?_⟩
  have merged : resolution.merged = s.mergeFields fields := merged_of_unread fields unread
  rw [merged]
  constructor
  · exact mergeFields_eq_foldl s fields
  · intro ordered path untouched
    exact get?_mergeFields_of_untouched ordered untouched

/-- The address was edited on both sides, its street is listed apart and twice, the title was edited
locally, and the server's list of custom attribute values does not have the right shape. -/
theorem names_conflicts_of_unreadable_list :
    let card (street title : String) (list : Json) : Json :=
      .obj [("address", .obj [("city", .str "Bern"), ("street", .str street)]),
        (attributeKey, list), ("title", .str title)]
    let s : Snapshot :=
      ⟨card "Aare" "draft" (.arr []), card "Ring" "final" .null, card "Kram" "draft" (.str "x")⟩
    let fields := ["address.street", "title", "address", "address.street"]
    let resolution := s.resolve fields
    s.AttributesInConflict ∧ s.Unreadable ∧ s.Ordered ∧
      resolution.conflicts = ["address.street", "address", "address.street", attributeKey] ∧
      resolution.merged = s.remote.set "title" (some (.str "final")) ∧
      resolution.merged.get? "address.city" = some (.str "Bern") := by
  intro card s fields resolution
  have unreadable : s.Unreadable := ⟨s.remote, by simp, _, rfl⟩
  have conflict : s.AttributesInConflict := ⟨by decide, Or.inl unreadable⟩
  have ordered : s.Ordered := by decide
  obtain ⟨named, -, left⟩ := resolve_names_conflicts s fields
  obtain ⟨merged, kept⟩ := left (Or.inr unreadable)
  have city := kept ordered "address.city" (by decide)
  exact ⟨conflict, unreadable, ordered, (named conflict).trans (by decide),
    merged.trans (by decide), city.trans (by decide)⟩

end Snapshot

end Writeback
