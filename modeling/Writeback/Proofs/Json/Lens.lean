import Writeback.Merge.Field
import Writeback.Proofs.Json.Commuting

/-!
# Writes, what they read back, and removals

A write goes down its path, makes the objects that are missing, puts objects in the place of
scalars, and may come to an array that has no element for the next segment only after that. Still it
is made as a whole or not at all: behind a place that was absent or a scalar no array stands. A
value that was written is read back, and the second of two writes counts alone.

A removal never makes anything. It takes a key out of an object and leaves null in an array, so it
undoes a write that added a key to an object.
-/

namespace Writeback

namespace Fields

theorem erase_eq_filter {fields : Fields} (h : (keys fields).Pairwise (· < ·)) (key : String) :
    erase key fields = fields.filter fun field => field.1 ≠ key := by
  induction fields with
  | nil => rfl
  | cons field rest ih =>
    obtain ⟨k, v⟩ := field
    rw [keys, List.map_cons, List.pairwise_cons] at h
    rw [erase, List.filter_cons]
    split
    · next same =>
      subst same
      have others : ∀ field ∈ rest, decide (field.1 ≠ k) = true := by
        intro field mem
        apply decide_eq_true
        rintro rfl
        exact String.lt_irrefl _ (h.1 field.1 (List.mem_map_of_mem mem))
      rw [if_neg (by simp), List.filter_eq_self.mpr others]
    · next ne => rw [if_pos (decide_eq_true ne), ih h.2]

end Fields

namespace Json

/-! ### Where a write is not made -/

/-- On the way of a path stands an array for which the next segment is no index below its length. -/
def Blocked (place : Option Json) (path : List String) : Prop :=
  ∃ above segment below items, path = above ++ segment :: below ∧
    lookup place above = some (arr items) ∧ ∀ i, index? segment = some i → items.length ≤ i

theorem lookup_arr_eq_none_iff {items : List Json} {segment : String} :
    lookup (some (arr items)) [segment] = none ↔
      ∀ i, index? segment = some i → items.length ≤ i := by
  rw [lookup_some, at?_singleton, child?, Option.bind_eq_none_iff]
  simp only [List.getElem?_eq_none_iff]

theorem blocked_cons {place : Option Json} {segment : String} {rest : List String} :
    Blocked place (segment :: rest) ↔
      isArray place = true ∧ lookup place [segment] = none ∨
        Blocked (lookup place [segment]) rest := by
  constructor
  · rintro ⟨above, next, below, items, split, array, past⟩
    cases above with
    | nil =>
      obtain ⟨rfl, rfl⟩ := List.cons.inj split
      rw [lookup_nil] at array
      subst array
      exact Or.inl ⟨rfl, lookup_arr_eq_none_iff.mpr past⟩
    | cons first above =>
      obtain ⟨rfl, rfl⟩ := List.cons.inj split
      rw [lookup_cons] at array
      exact Or.inr ⟨above, next, below, items, rfl, array, past⟩
  · rintro (⟨array, absent⟩ | ⟨above, next, below, items, rfl, array, past⟩)
    · obtain ⟨items, rfl⟩ := exists_items array
      exact ⟨[], segment, rest, items, rfl, lookup_nil _, lookup_arr_eq_none_iff.mp absent⟩
    · rw [← lookup_cons] at array
      exact ⟨segment :: above, next, below, items, rfl, array, past⟩

theorem takes_eq_false_iff {x : Json} {path : List String} {place : Option Json} :
    takes (some x) path place = false ↔ Blocked place path := by
  induction path generalizing place with
  | nil =>
    constructor
    · intro full
      cases full
    · rintro ⟨above, segment, below, items, split, -⟩
      simp at split
  | cons segment rest ih =>
    rw [blocked_cons, ← ih, takes]
    cases lookup place [segment] <;> cases isArray place <;> simp [fits]

theorem lookup_of_blocked {place : Option Json} {path : List String}
    (blocked : Blocked place path) : lookup place path = none := by
  obtain ⟨above, segment, below, items, rfl, array, past⟩ := blocked
  rw [lookup_append, lookup_cons, array, lookup_arr_eq_none_iff.mpr past, lookup_none]

/-! ### Lens laws -/

section Laws

variable {root : Json} (h : root.Ordered) {path : String}
include h

theorem set_of_blocked (blocked : Blocked (some root) (segments path)) (v : Json) :
    root.set path (some v) = root := by
  apply Option.some.inj
  rw [some_set]
  exact edit_of_not_takes h.place (takes_eq_false_iff.mpr blocked)

theorem get?_set_self (free : ¬ Blocked (some root) (segments path)) (v : Json) :
    (root.set path (some v)).get? path = some v := by
  rw [get?_eq_lookup, some_set]
  apply lookup_edit_self h.place
  rwa [← Bool.not_eq_false, takes_eq_false_iff]

theorem set_get? : root.set path (root.get? path) = root := by
  apply Option.some.inj
  rw [some_set]
  exact edit_lookup h.place (segments path)

theorem set_set {u v : Option Json} (keeps : v = none → u = none) :
    (root.set path u).set path v = root.set path v := by
  apply Option.some.inj
  rw [some_set, some_set, some_set]
  exact edit_edit keeps h.place (segments path)

theorem applyTo_applyTo (r : FieldResolution) : r.applyTo (r.applyTo root) = r.applyTo root := by
  unfold FieldResolution.applyTo
  split
  · exact set_set h id
  · rfl

end Laws

/-- A write is made as a whole or not at all, and is read back unless an array on its way has no
element for the next segment. Writing what is there changes nothing, a write makes up for whatever
was written or removed there before, and neither a write nor a removal needs to be made twice. -/
theorem set_lens {root : Json} (h : root.Ordered) (path : String) (v : Json) (u : Option Json)
    (r : FieldResolution) :
    (root.set path (some v) = root ∨ (root.set path (some v)).get? path = some v) ∧
      ((root.set path (some v)).get? path ≠ some v ↔ Blocked (some root) (segments path)) ∧
      (∀ x, root.get? path = some x → root.set path (some x) = root) ∧
      (root.set path u).set path (some v) = root.set path (some v) ∧
      (root.set path u).set path u = root.set path u ∧
      r.applyTo (r.applyTo root) = r.applyTo root := by
  refine ⟨?_, ⟨fun lost => ?_, fun blocked => ?_⟩, fun x found => ?_, set_set h nofun, set_set h id,
    applyTo_applyTo h r⟩
  · by_cases blocked : Blocked (some root) (segments path)
    · exact Or.inl (set_of_blocked h blocked v)
    · exact Or.inr (get?_set_self h blocked v)
  · by_contra free
    exact lost (get?_set_self h free v)
  · rw [set_of_blocked h blocked, get?_eq_lookup, lookup_of_blocked blocked]
    exact (Option.some_ne_none v).symm
  · exact found ▸ set_get? h

/-- A name below a number in an array is read back under the odd spelling of the index; behind the
end of the array nothing is written. -/
theorem set_lens_of_rows :
    let root : Json := .obj [("rows", .arr [.int 1])]
    let name : Json := .str "a"
    root.Ordered ∧
      (root.set "rows.+00.name" (some name)).get? "rows.+00.name" = some name ∧
      root.set "rows.1.name" (some name) = root := by
  intro root name
  have ordered : root.Ordered := by decide
  obtain ⟨made, -⟩ := set_lens ordered "rows.+00.name" name none ⟨false, none⟩
  obtain ⟨held, readBack, -⟩ := set_lens ordered "rows.1.name" name none ⟨false, none⟩
  have blocked : Blocked (some root) (segments "rows.1.name") := by
    refine ⟨["rows"], "1", ["name"], [.int 1], by decide, rfl, fun i index => ?_⟩
    have one : index? "1" = some 1 := by decide
    rw [one] at index
    cases index
    decide
  exact ⟨ordered, made.resolve_left (by decide +kernel), held.resolve_right (readBack.mpr blocked)⟩

/-! ### Removals -/

section Above

variable {place : Option Json} (h : ∀ x ∈ place, Ordered x)
include h

/-- An edit further down leaves at a place what it makes of what stands there. -/
theorem lookup_edit_above (update : Option Json) {path rest : List String} (ne : rest ≠ [])
    (present : lookup place path ≠ none) :
    lookup (edit update (path ++ rest) place) path = edit update rest (lookup place path) := by
  induction path generalizing place with
  | nil => rw [lookup_nil, lookup_nil, List.nil_append]
  | cons segment path ih =>
    rw [lookup_cons] at present
    have deeper := ih (ordered_lookup h [segment]) present
    rw [List.cons_append, edit_cons, lookup_cons, lookup_replace_self h,
      lookup_cons place segment path, ← deeper]
    obtain ⟨x, child⟩ : ∃ x, lookup place [segment] = some x := by
      apply Option.ne_none_iff_exists'.mp
      intro absent
      rw [absent] at present
      exact present rfl
    have stays : edit update (path ++ rest) (lookup place [segment]) ≠ none := by
      intro gone
      have absent := eq_none_of_edit (List.append_ne_nil_of_right_ne_nil path ne) gone
      rw [child] at absent
      cases absent
    obtain ⟨y, edited⟩ := Option.ne_none_iff_exists'.mp stays
    rw [edited, child]
    split <;> rfl

/-- A removal undoes the write of a key that an object did not have. -/
theorem edit_none_edit_some (v : Json) {path : List String} {last : String} {fields : Fields}
    (there : lookup place path = some (obj fields)) (absent : Fields.get? fields last = none) :
    edit none (path ++ [last]) (edit (some v) (path ++ [last]) place) = place := by
  induction path generalizing place with
  | nil =>
    rw [lookup_nil] at there
    subst there
    have pairwise := (ordered_obj.mp (h _ rfl)).1
    rw [List.nil_append, edit_cons none, edit_cons (some v), replace, replace, edit, edit,
      Fields.put_put pairwise, Fields.put, Option.elim_none, Fields.erase_of_get?_eq_none absent]
  | cons segment path ih =>
    rw [lookup_cons] at there
    have deeper := ih (ordered_lookup h [segment]) there
    have further : path ++ [last] ≠ [] := by simp
    rw [List.cons_append, edit_edit_cons h (eq_none_of_edit further), deeper, replace_lookup h]

end Above

/-- Removing what is absent changes nothing. Otherwise an object loses the one key, and an array has
null in the one place. A removal undoes a write that added a key to an object. -/
theorem set_none_spec {root : Json} (h : root.Ordered) {path : String} {above : List String}
    {last : String} (split : segments path = above ++ [last]) :
    (root.get? path = none → root.set path none = root) ∧
      (root.get? path ≠ none → ∀ fields, root.at? above = some (obj fields) →
        (root.set path none).get? path = none ∧
          (root.set path none).at? above =
            some (obj (fields.filter fun field => field.1 ≠ last))) ∧
      (root.get? path ≠ none → ∀ items, root.at? above = some (arr items) →
        ∃ i, index? last = some i ∧ i < items.length ∧
          (root.set path none).at? above = some (arr (items.set i null))) ∧
      (root.get? path = none → ∀ fields, root.at? above = some (obj fields) →
        ∀ v, (root.set path (some v)).set path none = root) := by
  have child : root.get? path = lookup (root.at? above) [last] := by
    rw [get?_eq_lookup, split, lookup_append, lookup_some]
  have parent {container : Json} (there : root.at? above = some container) :
      (root.set path none).at? above = replace last none (some container) := by
    have present : lookup (some root) above ≠ none := by
      rw [lookup_some, there]
      exact Option.some_ne_none container
    rw [← lookup_some, some_set, split,
      lookup_edit_above h.place none (List.cons_ne_nil last []) present, lookup_some, there,
      edit_cons, edit]
  refine ⟨fun absent => ?_, fun _ fields there => ?_, fun present items there => ?_,
    fun absent fields there v => ?_⟩
  · rw [← absent]
    exact set_get? h
  · have pairwise := (ordered_obj.mp (h.at? above _ there)).1
    have left := parent there
    rw [replace, Fields.put, Option.elim_none] at left
    constructor
    · rw [get?_eq_lookup, split, lookup_append, lookup_some, left, lookup_some, at?_singleton,
        child?, Fields.get?_erase_self pairwise]
    · rw [left, Fields.erase_eq_filter pairwise]
  · rw [child, there, ne_eq, lookup_arr_eq_none_iff] at present
    obtain ⟨i, index, inside⟩ : ∃ i, index? last = some i ∧ ¬ items.length ≤ i := by
      simpa only [not_forall, exists_prop] using present
    refine ⟨i, index, Nat.lt_of_not_le inside, ?_⟩
    rw [parent there, replace, index, Option.elim_some, Option.getD_none]
  · rw [child, there, lookup_some, at?_singleton, child?] at absent
    apply Option.some.inj
    rw [some_set, some_set, split]
    exact edit_none_edit_some h.place v there absent

/-- The second label is removed, and then the name of the owner; below the name there was nothing to
remove, and a phone number is added and removed again. -/
theorem set_none_spec_of_card :
    let root : Json :=
      .obj [("labels", .arr [.str "x", .str "y"]), ("owner", .obj [("name", .str "a")])]
    root.Ordered ∧
      (root.set "labels.+1" none).at? ["labels"] = some (.arr [.str "x", .null]) ∧
      (root.set "owner.name" none).at? ["owner"] = some (.obj []) ∧
      root.set "owner.name.phone" none = root ∧
      (root.set "owner.phone" (some .null)).set "owner.phone" none = root := by
  intro root
  have ordered : root.Ordered := by decide
  have splits : segments "labels.+1" = ["labels"] ++ ["+1"] ∧
      segments "owner.name" = ["owner"] ++ ["name"] ∧
      segments "owner.name.phone" = ["owner", "name"] ++ ["phone"] ∧
      segments "owner.phone" = ["owner"] ++ ["phone"] := by decide
  obtain ⟨-, -, label, -⟩ := set_none_spec ordered splits.1
  obtain ⟨-, name, -⟩ := set_none_spec ordered splits.2.1
  obtain ⟨absent, -⟩ := set_none_spec ordered splits.2.2.1
  obtain ⟨-, -, -, phone⟩ := set_none_spec ordered splits.2.2.2
  obtain ⟨i, index, -, second⟩ := label (by decide +kernel) [.str "x", .str "y"] (by decide)
  have one : index? "+1" = some 1 := by decide
  rw [one] at index
  cases index
  have owner : root.at? ["owner"] = some (.obj [("name", .str "a")]) := by decide
  exact ⟨ordered, second, (name (by decide) _ owner).2.trans (by decide), absent (by decide),
    phone (by decide) _ owner _⟩

end Json

end Writeback
