import Mathlib.Data.List.Nodup
import Writeback.Json.Lemmas
import Writeback.Json.Parser
import Writeback.Json.Path

/-!
# Ordered documents

In an ordered document an object is the function that its keys make of it: two lists of fields with
the same value under every key are one list. So inserting what is there already, or erasing what is
not, leaves an object as it was.

Every document that is read from a text is ordered, and lookups and edits stay within ordered
documents.
-/

namespace Writeback

namespace Fields

theorem pairwise_of_pairwise_keys {fields : Fields} (h : (keys fields).Pairwise (· < ·)) :
    fields.Pairwise (·.1 < ·.1) :=
  List.pairwise_map.mp h

theorem nodup_keys {fields : Fields} (h : (keys fields).Pairwise (· < ·)) :
    (keys fields).Nodup := by
  refine h.imp ?_
  rintro k _ lt rfl
  exact String.lt_irrefl k lt

/-- Under increasing keys the fields are what lookups find. -/
theorem get?_eq_some_iff {fields : Fields} (h : (keys fields).Pairwise (· < ·)) {key : String}
    {value : Json} : get? fields key = some value ↔ (key, value) ∈ fields := by
  induction fields with
  | nil => simp
  | cons field rest ih =>
    obtain ⟨k, v⟩ := field
    rw [keys, List.map_cons, List.pairwise_cons] at h
    rw [get?_cons, List.mem_cons]
    split
    · next same =>
      subst same
      have fresh : (k, value) ∉ rest := by
        intro mem
        exact String.lt_irrefl k (h.1 k (List.mem_map_of_mem (f := Prod.fst) mem))
      simp [fresh, eq_comm]
    · next ne =>
      rw [ih h.2]
      simp [Ne.symm ne]

theorem mem_of_get? {fields : Fields} {key : String} {value : Json}
    (found : get? fields key = some value) : (key, value) ∈ fields := by
  induction fields with
  | nil => cases found
  | cons field rest ih =>
    obtain ⟨k, v⟩ := field
    rw [get?_cons] at found
    split at found
    · next same =>
      cases found
      exact same ▸ List.mem_cons_self
    · exact List.mem_cons_of_mem _ (ih found)

theorem get?_eq_none_iff {fields : Fields} {key : String} :
    get? fields key = none ↔ key ∉ keys fields := by
  refine ⟨fun absent mem => ?_, get?_eq_none_of_notMem⟩
  induction fields with
  | nil => cases mem
  | cons field rest ih =>
    rw [get?_cons] at absent
    split at absent
    · cases absent
    · next ne => exact ih absent ((List.mem_cons.mp mem).resolve_left (Ne.symm ne))

/-- Fields by increasing key are determined by what is under each key. -/
theorem ext {a b : Fields} (ha : (keys a).Pairwise (· < ·)) (hb : (keys b).Pairwise (· < ·))
    (same : ∀ key, get? a key = get? b key) : a = b := by
  have perm : a.Perm b := by
    rw [List.perm_ext_iff_of_nodup (nodup_keys ha).of_map (nodup_keys hb).of_map]
    intro (key, value)
    rw [← get?_eq_some_iff ha, ← get?_eq_some_iff hb, same]
  refine perm.eq_of_pairwise ?_ (pairwise_of_pairwise_keys ha) (pairwise_of_pairwise_keys hb)
  intro p q _ _ less more
  exact absurd (String.lt_trans less more) (String.lt_irrefl _)

theorem get?_erase {fields : Fields} (h : (keys fields).Pairwise (· < ·)) (key other : String) :
    get? (erase key fields) other = if key = other then none else get? fields other := by
  split
  · next same => exact same ▸ get?_erase_self h key
  · next ne => exact get?_erase_of_ne ne fields

theorem insert_of_get? {fields : Fields} (h : (keys fields).Pairwise (· < ·)) {key : String}
    {value : Json} (found : get? fields key = some value) : insert key value fields = fields := by
  apply ext (pairwise_keys_insert h key value) h
  intro other
  rw [get?_insert]
  split
  · next same => rw [← same, found]
  · rfl

theorem erase_of_get?_eq_none {fields : Fields} {key : String} (absent : get? fields key = none) :
    erase key fields = fields := by
  induction fields with
  | nil => rfl
  | cons field rest ih =>
    obtain ⟨k, v⟩ := field
    rw [get?_cons] at absent
    unfold erase
    split at absent
    · cases absent
    · next ne => rw [if_neg ne, ih absent]

theorem mem_insert {key : String} {value : Json} {fields : Fields} {field : String × Json}
    (mem : field ∈ insert key value fields) : field = (key, value) ∨ field ∈ fields := by
  induction fields with
  | nil => exact Or.inl (List.mem_singleton.mp mem)
  | cons first rest ih =>
    obtain ⟨k, v⟩ := first
    unfold insert at mem
    split at mem
    · exact List.mem_cons.mp mem
    · split at mem
      · exact (List.mem_cons.mp mem).imp_right (List.mem_cons_of_mem _)
      · rcases List.mem_cons.mp mem with rfl | mem
        · exact Or.inr List.mem_cons_self
        · exact (ih mem).imp_right (List.mem_cons_of_mem _)

theorem mem_of_mem_erase {key : String} {fields : Fields} {field : String × Json}
    (mem : field ∈ erase key fields) : field ∈ fields := by
  induction fields with
  | nil => exact mem
  | cons first rest ih =>
    unfold erase at mem
    split at mem
    · exact List.mem_cons_of_mem _ mem
    · rcases List.mem_cons.mp mem with rfl | mem
      · exact List.mem_cons_self
      · exact List.mem_cons_of_mem _ (ih mem)

end Fields

namespace Json

theorem orderedItems_iff {items : List Json} : OrderedItems items ↔ ∀ x ∈ items, Ordered x := by
  induction items with
  | nil => simp [OrderedItems]
  | cons x rest ih => simp [OrderedItems, ih]

theorem orderedFields_iff {fields : Fields} :
    OrderedFields fields ↔ ∀ field ∈ fields, Ordered field.2 := by
  induction fields with
  | nil => simp [OrderedFields]
  | cons field rest ih => simp [OrderedFields, ih]

theorem ordered_arr {items : List Json} : Ordered (arr items) ↔ ∀ x ∈ items, Ordered x := by
  rw [Ordered, orderedItems_iff]

theorem ordered_obj {fields : Fields} :
    Ordered (obj fields) ↔
      (Fields.keys fields).Pairwise (· < ·) ∧ ∀ field ∈ fields, Ordered field.2 := by
  rw [Ordered, orderedFields_iff]

mutual

instance decidableOrdered : (x : Json) → Decidable (Ordered x)
  | arr items =>
    have := decidableOrderedItems items
    decidable_of_iff (OrderedItems items) (by rw [Ordered])
  | obj fields =>
    have := decidableOrderedFields fields
    decidable_of_iff ((Fields.keys fields).Pairwise (· < ·) ∧ OrderedFields fields)
      (by rw [Ordered])
  | null => .isTrue trivial
  | bool _ => .isTrue trivial
  | num _ => .isTrue trivial
  | str _ => .isTrue trivial

instance decidableOrderedItems : (items : List Json) → Decidable (OrderedItems items)
  | [] => .isTrue trivial
  | x :: rest =>
    have := decidableOrdered x
    have := decidableOrderedItems rest
    decidable_of_iff (Ordered x ∧ OrderedItems rest) (by rw [OrderedItems])

instance decidableOrderedFields :
    (fields : List (String × Json)) → Decidable (OrderedFields fields)
  | [] => .isTrue trivial
  | (_, x) :: rest =>
    have := decidableOrdered x
    have := decidableOrderedFields rest
    decidable_of_iff (Ordered x ∧ OrderedFields rest) (by rw [OrderedFields])

end

theorem Ordered.place {x : Json} (h : Ordered x) : ∀ y ∈ some x, Ordered y := by
  rintro _ ⟨⟩
  exact h

theorem Ordered.value {fields : Fields} (h : Ordered (obj fields)) {key : String} :
    ∀ x ∈ Fields.get? fields key, Ordered x :=
  fun _ found => (ordered_obj.mp h).2 _ (Fields.mem_of_get? found)

theorem Ordered.field? {root : Json} (h : Ordered root) {key : String} :
    ∀ x ∈ root.field? key, Ordered x := by
  cases root with
  | obj fields => exact h.value
  | _ => nofun

theorem Ordered.item? {root : Json} (h : Ordered root) {i : Nat} :
    ∀ x ∈ root.item? i, Ordered x := by
  cases root with
  | arr items => exact fun x found => ordered_arr.mp h x (List.mem_of_getElem? found)
  | _ => nofun

theorem Ordered.insert {fields : Fields} (h : Ordered (obj fields)) (key : String) {value : Json}
    (hv : Ordered value) : Ordered (obj (Fields.insert key value fields)) := by
  rw [ordered_obj] at h ⊢
  refine ⟨Fields.pairwise_keys_insert h.1 key value, ?_⟩
  intro field mem
  rcases Fields.mem_insert mem with rfl | mem
  · exact hv
  · exact h.2 field mem

theorem Ordered.erase {fields : Fields} (h : Ordered (obj fields)) (key : String) :
    Ordered (obj (Fields.erase key fields)) := by
  rw [ordered_obj] at h ⊢
  refine ⟨Fields.pairwise_keys_erase h.1 key, ?_⟩
  intro field mem
  exact h.2 field (Fields.mem_of_mem_erase mem)

theorem ordered_object {pairs : List (String × Json)} (h : ∀ pair ∈ pairs, Ordered pair.2) :
    Ordered (object pairs) := by
  let Fine (fields : Fields) : Prop := Ordered (obj fields)
  suffices Fine (Fields.ofList pairs) from this
  refine List.foldlRecOn pairs _ (ordered_obj.mpr ⟨List.Pairwise.nil, List.forall_mem_nil _⟩) ?_
  intro fields fine pair mem
  exact fine.insert pair.1 (h pair mem)

theorem Ordered.child? {root : Json} (h : Ordered root) (segment : String) :
    ∀ x ∈ root.child? segment, Ordered x := by
  intro x found
  cases root with
  | obj fields => exact h.value x found
  | arr items =>
    obtain ⟨i, -, found⟩ := Option.bind_eq_some_iff.mp found
    exact ordered_arr.mp h x (List.mem_of_getElem? found)
  | _ => cases found

theorem Ordered.at? {root : Json} (h : Ordered root) (path : List String) :
    ∀ x ∈ root.at? path, Ordered x := by
  induction path generalizing root with
  | nil =>
    rintro x ⟨⟩
    exact h
  | cons segment rest ih =>
    intro x found
    unfold Json.at? at found
    split at found
    · next y child => exact ih (h.child? segment y child) x found
    · cases found

theorem Ordered.get? {root : Json} (h : Ordered root) (path : String) :
    ∀ x ∈ root.get? path, Ordered x :=
  h.at? (segments path)

/-- An edit puts ordered documents into ordered documents. -/
theorem ordered_edit {update : Option Json} (hu : ∀ x ∈ update, Ordered x) (path : List String)
    {place : Option Json} (hp : ∀ x ∈ place, Ordered x) :
    ∀ x ∈ edit update path place, Ordered x := by
  fun_induction edit update path place with
  | case1 => exact hu
  | case2 segment rest fields y edited ih =>
    have root : Ordered (obj fields) := hp _ rfl
    rintro x ⟨⟩
    exact root.insert segment (ih root.value y edited)
  | case3 segment rest fields edited ih =>
    rintro x ⟨⟩
    exact (hp (obj fields) rfl).erase segment
  | case4 segment rest items => exact hp
  | case5 segment rest items i => exact hp
  | case6 segment rest items i index y found ih =>
    have root : ∀ x ∈ items, Ordered x := ordered_arr.mp (hp _ rfl)
    rintro x ⟨⟩
    refine ordered_arr.mpr fun z mem => ?_
    rcases List.mem_or_eq_of_mem_set mem with old | rfl
    · exact root z old
    · cases edited : edit update rest (some y) with
      | none => trivial
      | some w => exact ih (root y (List.mem_of_getElem? found)).place w edited
  | case7 => exact hp
  | case8 segment rest place _ _ value given ih =>
    subst given
    intro x found
    obtain ⟨y, edited, rfl⟩ := Option.map_eq_some_iff.mp found
    rw [ordered_obj]
    refine ⟨List.pairwise_singleton _ _, ?_⟩
    intro field mem
    rw [List.mem_singleton.mp mem]
    exact ih (by simp) y edited

theorem Ordered.set {root : Json} (h : Ordered root) (path : String) {update : Option Json}
    (hu : ∀ x ∈ update, Ordered x) : Ordered (root.set path update) := by
  unfold Json.set
  cases edited : edit update (segments path) (some root) with
  | none => exact h
  | some x =>
    exact ordered_edit hu (segments path) h.place x edited

section Text

variable (fuel : Nat)

/-- The reader of documents gives ordered documents. -/
def ReadsValues : Prop := ∀ cs x rest, value? fuel cs = some (x, rest) → Ordered x

/-- The reader of elements gives ordered documents. -/
def ReadsItems : Prop := ∀ cs xs rest, items? fuel cs = some (xs, rest) → ∀ x ∈ xs, Ordered x

/-- The reader of fields gives ordered values, with keys in any order. -/
def ReadsFields : Prop :=
  ∀ cs pairs rest, fields? fuel cs = some (pairs, rest) → ∀ pair ∈ pairs, Ordered pair.2

variable {fuel}

theorem ReadsValues.succ (items : ReadsItems fuel) (fields : ReadsFields fuel) :
    ReadsValues (fuel + 1) := by
  intro cs x rest read
  unfold value? at read
  split at read
  · cases read
    trivial
  · cases read
    trivial
  · cases read
    trivial
  · obtain ⟨_, -, read⟩ := Option.map_eq_some_iff.mp read
    cases read
    trivial
  · split at read
    · cases read
      exact ordered_arr.mpr (List.forall_mem_nil _)
    · obtain ⟨⟨xs, _⟩, inner, read⟩ := Option.map_eq_some_iff.mp read
      cases read
      exact ordered_arr.mpr (items _ xs _ inner)
  · split at read
    · cases read
      exact ordered_obj.mpr ⟨List.Pairwise.nil, List.forall_mem_nil _⟩
    · obtain ⟨⟨pairs, _⟩, inner, read⟩ := Option.map_eq_some_iff.mp read
      cases read
      exact ordered_object (fields _ pairs _ inner)
  · obtain ⟨_, -, read⟩ := Option.map_eq_some_iff.mp read
    cases read
    trivial

theorem ReadsItems.succ (values : ReadsValues fuel) (items : ReadsItems fuel) :
    ReadsItems (fuel + 1) := by
  intro cs xs rest read
  unfold items? at read
  obtain ⟨⟨y, tail⟩, first, read⟩ := Option.bind_eq_some_iff.mp read
  dsimp only at read
  split at read
  · obtain ⟨⟨ys, _⟩, others, read⟩ := Option.bind_eq_some_iff.mp read
    cases read
    exact List.forall_mem_cons.mpr ⟨values _ _ _ first, items _ _ _ others⟩
  · cases read
    exact List.forall_mem_singleton.mpr (values _ _ _ first)
  · cases read

theorem ReadsFields.succ (values : ReadsValues fuel) (fields : ReadsFields fuel) :
    ReadsFields (fuel + 1) := by
  intro cs pairs rest read
  unfold fields? at read
  split at read
  · obtain ⟨⟨key, _⟩, -, read⟩ := Option.bind_eq_some_iff.mp read
    dsimp only at read
    split at read
    · obtain ⟨⟨y, _⟩, first, read⟩ := Option.bind_eq_some_iff.mp read
      dsimp only at read
      split at read
      · obtain ⟨⟨ps, _⟩, others, read⟩ := Option.bind_eq_some_iff.mp read
        cases read
        exact List.forall_mem_cons.mpr ⟨values _ _ _ first, fields _ _ _ others⟩
      · cases read
        exact List.forall_mem_singleton.mpr (values _ _ _ first)
      · cases read
    · cases read
  · cases read

theorem reads_ordered (fuel : Nat) : ReadsValues fuel ∧ ReadsItems fuel ∧ ReadsFields fuel := by
  induction fuel with
  | zero => simp [ReadsValues, ReadsItems, ReadsFields, value?, items?, fields?]
  | succ fuel ih =>
    obtain ⟨values, items, fields⟩ := ih
    exact ⟨.succ items fields, .succ values items, .succ values fields⟩

end Text

/-- A document that was read from a text is ordered. -/
theorem ordered_of_parse? {text : String} {x : Json} (h : parse? text = some x) : Ordered x := by
  obtain ⟨⟨y, rest⟩, read, h⟩ := Option.bind_eq_some_iff.mp h
  dsimp only at h
  split at h
  · cases h
    exact (reads_ordered _).1 _ _ _ read
  · cases h

end Json

end Writeback
