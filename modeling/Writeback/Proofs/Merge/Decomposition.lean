import Mathlib.Data.List.Perm.Basic
import Writeback.Proofs.Merge.Attributes

/-!
# The merge, definition by definition

Current and remote entries are only ever looked up under the definition of a loaded entry, and a
loaded entry rewrites the container for its own definition only. So the merge of whole lists comes
to the merges of their entries for each definition, and no entry has a say in another definition.
Where no definition is repeated, the order of the three versions does not matter either.
-/

namespace Writeback

open AttributeValue AttributeResolution

namespace AttributeValue

/-- The entries of one definition. -/
def entriesOf (definition : Identifier) (values : List AttributeValue) : List AttributeValue :=
  values.filter fun v => v.definition = definition

theorem entriesOf_cons (definition : Identifier) (v : AttributeValue)
    (rest : List AttributeValue) :
    entriesOf definition (v :: rest) =
      if v.definition = definition then v :: entriesOf definition rest
      else entriesOf definition rest := by
  simp [entriesOf, List.filter_cons]

theorem mem_entriesOf {definition : Identifier} {values : List AttributeValue}
    {v : AttributeValue} :
    v ∈ entriesOf definition values ↔ v ∈ values ∧ v.definition = definition := by
  simp [entriesOf]

theorem find?_entriesOf (values : List AttributeValue) (definition : Identifier) :
    find? (entriesOf definition values) definition = find? values definition := by
  induction values with
  | nil => rfl
  | cons v rest ih =>
    rw [entriesOf_cons, find?_cons]
    split
    · next same => rw [find?_cons, if_pos same]
    · exact ih

/-- Where no definition is repeated, lookups do not see the order. -/
theorem find?_perm {values others : List AttributeValue}
    (once : (values.map AttributeValue.definition).Nodup) (same : values.Perm others)
    (definition : Identifier) : find? values definition = find? others definition := by
  have single : (others.map AttributeValue.definition).Nodup :=
    (same.map AttributeValue.definition).nodup_iff.mp once
  cases found : find? others definition with
  | none =>
    rw [find?_eq_none_iff] at found ⊢
    exact fun mem => found ((same.map AttributeValue.definition).mem_iff.mp mem)
  | some v =>
    obtain rfl := definition_of_find? found
    exact find?_of_mem once (same.mem_iff.mpr (mem_of_find? found))

end AttributeValue

/-! ### What the merge looks up -/

section Lookups

variable {current current' remote remote' : List AttributeValue}

theorem AttributeResolution.mergeEntry_congr {item : AttributeValue}
    (hc : find? current item.definition = find? current' item.definition)
    (hr : find? remote item.definition = find? remote' item.definition) :
    mergeEntry current remote item = mergeEntry current' remote' item := by
  funext target
  rw [mergeEntry, mergeEntry, valueChange, valueChange, hc, hr]

theorem AttributeResolution.valueChange_congr {item : AttributeValue}
    (hc : find? current item.definition = find? current' item.definition)
    (hr : find? remote item.definition = find? remote' item.definition) :
    valueChange current remote item = valueChange current' remote' item := by
  rw [valueChange, valueChange, hc, hr]

/-- Lists in which the same entries are found for the loaded definitions are merged alike. -/
theorem resolveAttributes_congr {previous : List AttributeValue}
    (hc : ∀ item ∈ previous, find? current item.definition = find? current' item.definition)
    (hr : ∀ item ∈ previous, find? remote item.definition = find? remote' item.definition)
    (container : List AttributeValue) :
    resolveAttributes previous current remote container =
      resolveAttributes previous current' remote' container := by
  unfold resolveAttributes
  congr 1
  · rw [Bool.eq_iff_iff, List.any_eq_true, List.any_eq_true]
    refine exists_congr fun item => and_congr_right fun mem => ?_
    rw [valueChange_congr (hc item mem) (hr item mem)]
  · refine List.foldl_ext _ _ _ fun values item mem => ?_
    rw [mergeEntry_congr (hc item mem) (hr item mem)]

end Lookups

/-! ### The entries of one definition -/

/-- An update is one of the entries of its definition, and leaves the others alone. -/
theorem entriesOf_updateFirst (definition other : Identifier) {f : AttributeValue → AttributeValue}
    (keeps : ∀ v, (f v).definition = v.definition) (values : List AttributeValue) :
    entriesOf definition (updateFirst other f values) =
      if other = definition then updateFirst other f (entriesOf definition values)
      else entriesOf definition values := by
  induction values with
  | nil =>
    rw [updateFirst]
    split <;> rfl
  | cons v rest ih =>
    rw [updateFirst]
    by_cases first : v.definition = other
    · rw [if_pos first, entriesOf_cons, entriesOf_cons, keeps, first]
      split
      · rw [updateFirst, if_pos first]
      · rfl
    · rw [if_neg first, entriesOf_cons, entriesOf_cons, ih]
      by_cases same : other = definition
      · rw [if_pos same, if_pos same]
        split
        · rw [updateFirst, if_neg first]
        · rfl
      · rw [if_neg same, if_neg same]

/-- Only the loaded entries of a definition have a say in it. -/
theorem entriesOf_resolveAttributes (definition : Identifier)
    (previous current remote container : List AttributeValue) :
    entriesOf definition (resolveAttributes previous current remote container).values =
      (resolveAttributes (entriesOf definition previous) current remote
        (entriesOf definition container)).values := by
  unfold resolveAttributes
  dsimp only
  induction previous generalizing container with
  | nil => rfl
  | cons item rest ih =>
    have keeps := definition_mergeEntry current remote item
    rw [List.foldl_cons, ih, entriesOf_updateFirst definition item.definition keeps,
      entriesOf_cons]
    split
    · rw [List.foldl_cons]
    · rfl

/-- Among the loaded entries of a definition the merge looks up that definition only. -/
theorem resolveAttributes_entriesOf (definition : Identifier)
    (previous current remote container : List AttributeValue) :
    resolveAttributes (entriesOf definition previous) (entriesOf definition current)
        (entriesOf definition remote) container =
      resolveAttributes (entriesOf definition previous) current remote container := by
  apply resolveAttributes_congr
  · intro item mem
    rw [(mem_entriesOf.mp mem).2, find?_entriesOf]
  · intro item mem
    rw [(mem_entriesOf.mp mem).2, find?_entriesOf]

/-- The merge of the entries of one definition. -/
def resolveDefinition (definition : Identifier)
    (previous current remote container : List AttributeValue) : AttributeResolution :=
  resolveAttributes (entriesOf definition previous) (entriesOf definition current)
    (entriesOf definition remote) (entriesOf definition container)

theorem values_resolveDefinition (definition : Identifier)
    (previous current remote container : List AttributeValue) :
    (resolveDefinition definition previous current remote container).values =
      entriesOf definition (resolveAttributes previous current remote container).values := by
  rw [resolveDefinition, resolveAttributes_entriesOf, entriesOf_resolveAttributes]

theorem conflict_resolveDefinition {definition : Identifier}
    {previous current remote container : List AttributeValue} :
    (resolveDefinition definition previous current remote container).conflict = true ↔
      ∃ item ∈ previous, item.definition = definition ∧
        (valueChange current remote item).conflict = true := by
  rw [resolveDefinition, resolveAttributes_entriesOf, conflict_resolveAttributes_iff]
  refine exists_congr fun item => ?_
  rw [mem_entriesOf, and_assoc]

/-! ### The order of the entries -/

/-- Updates of two definitions are made in either order. -/
theorem AttributeResolution.updateFirst_comm {a b : Identifier} (ne : a ≠ b)
    {f g : AttributeValue → AttributeValue} (hf : ∀ v, (f v).definition = v.definition)
    (hg : ∀ v, (g v).definition = v.definition) (values : List AttributeValue) :
    updateFirst a f (updateFirst b g values) = updateFirst b g (updateFirst a f values) := by
  induction values with
  | nil => rfl
  | cons v rest ih =>
    by_cases first : v.definition = a
    · simp only [updateFirst, first, hf, if_true, if_false, ne]
    · by_cases second : v.definition = b
      · simp only [updateFirst, second, hg, if_true, if_false, Ne.symm ne]
      · simp only [updateFirst, first, second, if_false, ih]

/-- Loaded entries of different definitions are walked in any order. -/
theorem resolveAttributes_perm {previous others : List AttributeValue}
    (once : (previous.map AttributeValue.definition).Nodup) (same : previous.Perm others)
    (current remote container : List AttributeValue) :
    resolveAttributes previous current remote container =
      resolveAttributes others current remote container := by
  unfold resolveAttributes
  congr 1
  · exact same.any_eq
  · refine same.foldl_eq' (fun x hx y hy values => ?_) container
    by_cases ne : x.definition = y.definition
    · have found := find?_of_mem once hx
      rw [ne, find?_of_mem once hy] at found
      cases found
      rfl
    · exact updateFirst_comm (Ne.symm ne) (definition_mergeEntry current remote y)
        (definition_mergeEntry current remote x) values

/-- The merge decides every definition by itself: the merged entries of a definition are those that
its entries alone come to, and there is a conflict when one of the definitions has one. So what
becomes of a definition depends on its entries only, and where no definition is repeated, not on the
order of the three versions. -/
theorem resolveAttributes_by_definition (previous current remote container : List AttributeValue) :
    let resolution := resolveAttributes previous current remote container
    (∀ definition, entriesOf definition resolution.values =
        (resolveDefinition definition previous current remote container).values) ∧
      (resolution.conflict = true ↔
        ∃ definition,
          (resolveDefinition definition previous current remote container).conflict = true) ∧
      (∀ definition previous' current' remote' container',
        entriesOf definition previous' = entriesOf definition previous →
        entriesOf definition current' = entriesOf definition current →
        entriesOf definition remote' = entriesOf definition remote →
        entriesOf definition container' = entriesOf definition container →
        entriesOf definition (resolveAttributes previous' current' remote' container').values =
          entriesOf definition resolution.values) ∧
      ∀ previous' current' remote', (previous.map AttributeValue.definition).Nodup →
        (current.map AttributeValue.definition).Nodup →
        (remote.map AttributeValue.definition).Nodup →
        previous.Perm previous' → current.Perm current' → remote.Perm remote' →
        resolveAttributes previous' current' remote' container = resolution := by
  intro resolution
  refine ⟨fun definition => ?_, ?_, ?_, ?_⟩
  · exact (values_resolveDefinition definition previous current remote container).symm
  · simp only [conflict_resolveDefinition]
    refine List.any_eq_true.trans ⟨?_, ?_⟩
    · rintro ⟨item, mem, apart⟩
      exact ⟨item.definition, item, mem, rfl, apart⟩
    · rintro ⟨_, item, mem, _, apart⟩
      exact ⟨item, mem, apart⟩
  · intro definition previous' current' remote' container' hp hc hr ht
    rw [← values_resolveDefinition, ← values_resolveDefinition, resolveDefinition, hp, hc, hr, ht]
    rfl
  · intro previous' current' remote' once onceCurrent onceRemote hp hc hr
    rw [← resolveAttributes_perm once hp]
    exact (resolveAttributes_congr (fun item _ => find?_perm onceCurrent hc item.definition)
      (fun item _ => find?_perm onceRemote hr item.definition) container).symm

/-- Three versions in another order, and a local version without the other definition. -/
theorem by_definition_of_two :
    let effort : Identifier := ⟨7, by decide⟩
    let owner : Identifier := ⟨8, by decide⟩
    let card (name : String) : AttributeValue := .ofValue owner (.str name)
    let rated (value : String) : AttributeValue := .ofValue effort (.str value)
    let previous := [rated "low", card "Ann"]
    let current := [card "Bea", rated "high"]
    let remote := [rated "low", card "Cid"]
    (previous.map AttributeValue.definition).Nodup ∧
      (current.map AttributeValue.definition).Nodup ∧
      (remote.map AttributeValue.definition).Nodup ∧
      resolveAttributes [card "Ann", rated "low"] [rated "high", card "Bea"]
          [card "Cid", rated "low"] remote = resolveAttributes previous current remote remote ∧
      entriesOf effort (resolveAttributes previous [rated "high"] remote remote).values =
        entriesOf effort (resolveAttributes previous current remote remote).values := by
  intro effort owner card rated previous current remote
  have once : (previous.map AttributeValue.definition).Nodup := by decide
  have onceCurrent : (current.map AttributeValue.definition).Nodup := by decide
  have onceRemote : (remote.map AttributeValue.definition).Nodup := by decide
  obtain ⟨-, -, alone, order⟩ := resolveAttributes_by_definition previous current remote remote
  exact ⟨once, onceCurrent, onceRemote,
    order _ _ _ once onceCurrent onceRemote (List.Perm.swap _ _ _) (List.Perm.swap _ _ _)
      (List.Perm.swap _ _ _),
    alone effort _ _ _ _ rfl (by decide) rfl rfl⟩

end Writeback
