import Writeback.Proofs.Json.Paths

/-!
# Edits in either order

Edits at two paths of which neither leads through the other commute, whatever they write or remove:
where the paths part they replace two different children. Only where they part in an array, two
spellings of one index are one child. An edit that brings to a path below what an edit above it has
there is absorbed by that one, before it as well as after it. So edits that all copy from one
document commute at any two paths. Of two edits at one path the second counts alone.
-/

namespace Writeback

namespace Fields

theorem pairwise_keys_put {fields : Fields} (h : (keys fields).Pairwise (· < ·)) (key : String)
    (value : Option Json) : (keys (put key value fields)).Pairwise (· < ·) := by
  cases value with
  | none => exact pairwise_keys_erase h key
  | some x => exact pairwise_keys_insert h key x

theorem get?_put {fields : Fields} (h : (keys fields).Pairwise (· < ·)) (key : String)
    (value : Option Json) (other : String) :
    get? (put key value fields) other = if key = other then value else get? fields other := by
  split
  · next same => exact same ▸ get?_put_self h key value
  · next ne => exact get?_put_of_ne ne value fields

/-- The second of two writes under one key wins. -/
theorem put_put {fields : Fields} (h : (keys fields).Pairwise (· < ·)) (key : String)
    (first second : Option Json) :
    put key second (put key first fields) = put key second fields := by
  have once := pairwise_keys_put h key first
  apply ext (pairwise_keys_put once key second) (pairwise_keys_put h key second)
  intro other
  rw [get?_put once, get?_put h, get?_put h]
  split <;> rfl

theorem put_comm {fields : Fields} (h : (keys fields).Pairwise (· < ·)) {a b : String}
    (ne : a ≠ b) (x y : Option Json) :
    put a x (put b y fields) = put b y (put a x fields) := by
  have left := pairwise_keys_put h a x
  have right := pairwise_keys_put h b y
  apply ext (pairwise_keys_put right a x) (pairwise_keys_put left b y)
  intro other
  rw [get?_put right, get?_put h, get?_put left, get?_put h]
  by_cases here : a = other
  · have there : b ≠ other := fun same => ne (here.trans same.symm)
    rw [if_pos here, if_neg there, if_pos here]
  · rw [if_neg here, if_neg here]

end Fields

namespace Json

/-! ### Two replacements -/

section Scalar

variable {place : Option Json} (object : ∀ fields, place ≠ some (obj fields))
  (array : ∀ items, place ≠ some (arr items))
include object array

theorem replace_scalar_none (segment : String) : replace segment none place = place := by
  unfold replace
  split
  · next fields => exact absurd rfl (object fields)
  · next items => exact absurd rfl (array items)
  · rfl

/-- A write where nothing or a scalar stands is one into an empty object. -/
theorem replace_scalar_some (segment : String) (x : Json) :
    replace segment (some x) place = some (obj (Fields.put segment (some x) [])) := by
  unfold replace
  split
  · next fields => exact absurd rfl (object fields)
  · next items => exact absurd rfl (array items)
  · rfl

theorem replace_scalar_comm {a b : String} (ne : a ≠ b) (x y : Option Json) :
    replace a x (replace b y place) = replace b y (replace a x place) := by
  have swapped := @Fields.put_comm [] List.Pairwise.nil a b ne x y
  match x, y with
  | none, none =>
    rw [replace_scalar_none object array b, replace_scalar_none object array a,
      replace_scalar_none object array b]
  | none, some y =>
    rw [replace_scalar_none object array a, replace_scalar_some object array, replace, swapped]
    rfl
  | some x, none =>
    rw [replace_scalar_none object array b, replace_scalar_some object array, replace, ← swapped]
    rfl
  | some x, some y =>
    rw [replace_scalar_some object array, replace_scalar_some object array, replace, replace,
      swapped]

theorem replace_scalar_replace (segment : String) {x y : Option Json}
    (keeps : y = none → x = none) :
    replace segment y (replace segment x place) = replace segment y place := by
  match x, y with
  | none, y => rw [replace_scalar_none object array]
  | some x, none => exact absurd (keeps rfl) (Option.some_ne_none x)
  | some x, some y =>
    rw [replace_scalar_some object array, replace_scalar_some object array, replace,
      Fields.put_put List.Pairwise.nil]

end Scalar

/-- Different children are replaced in either order. -/
theorem replace_comm {a b : String} (ne : a ≠ b) (x y : Option Json) {place : Option Json}
    (h : ∀ z ∈ place, Ordered z) (apart : isArray place = true → ¬ SameIndex a b) :
    replace a x (replace b y place) = replace b y (replace a x place) := by
  match place with
  | some (obj fields) =>
    rw [replace, replace, replace, replace, Fields.put_comm (ordered_obj.mp (h _ rfl)).1 ne]
  | some (arr items) =>
    rw [replace, replace, replace, replace]
    cases ha : index? a with
    | none => rfl
    | some i =>
      cases hb : index? b with
      | none => rfl
      | some j =>
        have other : j ≠ i := by
          rintro rfl
          exact apart rfl ⟨ne, by simp [ha], by rw [ha, hb]⟩
        rw [Option.elim_some, Option.elim_some, Option.elim_some, Option.elim_some,
          List.set_comm _ _ other]
  | none | some null | some (bool _) | some (num _) | some (str _) =>
    exact replace_scalar_comm (by simp) (by simp) ne x y

/-- Of two replacements of one child the second wins, unless it removes what the first has made
where nothing was. -/
theorem replace_replace (segment : String) {x y : Option Json} {place : Option Json}
    (h : ∀ z ∈ place, Ordered z) (keeps : lookup place [segment] = none → y = none → x = none) :
    replace segment y (replace segment x place) = replace segment y place := by
  match place with
  | some (obj fields) =>
    rw [replace, replace, replace, Fields.put_put (ordered_obj.mp (h _ rfl)).1]
  | some (arr items) =>
    rw [replace, replace, replace]
    cases index? segment with
    | none => rfl
    | some i => rw [Option.elim_some, Option.elim_some, Option.elim_some, List.set_set]
  | none | some null | some (bool _) | some (num _) | some (str _) =>
    exact replace_scalar_replace (by simp) (by simp) segment (keeps rfl)

/-- In an array a removal is the writing of null. -/
theorem replace_of_isArray {place : Option Json} (array : isArray place = true) (segment : String)
    {x y : Option Json} (same : x.getD null = y.getD null) :
    replace segment x place = replace segment y place := by
  obtain ⟨items, rfl⟩ := exists_items array
  rw [replace, replace, same]

/-! ### Two edits -/

/-- What an edit makes of a removed element, it makes of an absent place too. -/
theorem getD_edit_null (update : Option Json) (path : List String) :
    (edit update path (some null)).getD null = (edit update path none).getD null := by
  cases path with
  | nil => rfl
  | cons segment rest =>
    rw [edit_cons_scalar update segment rest (by simp) (by simp),
      edit_cons_scalar update segment rest (by simp) (by simp)]
    cases edit update rest none <;> rfl

theorem edit_some_ne_none (x : Json) (path : List String) (place : Option Json) :
    edit (some x) path place ≠ none := by
  cases place with
  | none => exact edit_some_none x path
  | some y =>
    cases path with
    | nil => exact Option.some_ne_none x
    | cons segment rest =>
      rw [edit_cons]
      exact replace_some_ne_none segment _ y

/-- An edit below a document leaves one. -/
theorem eq_none_of_edit {update : Option Json} {path : List String} (ne : path ≠ [])
    {place : Option Json} (gone : edit update path place = none) : place = none := by
  cases path with
  | nil => exact absurd rfl ne
  | cons segment rest =>
    rw [edit_cons] at gone
    cases place with
    | none => rfl
    | some x => exact absurd gone (replace_some_ne_none segment _ x)

/-- Two edits through one child are two edits of the child. -/
theorem edit_edit_cons {u v : Option Json} {p q : List String} {segment : String}
    {place : Option Json} (h : ∀ x ∈ place, Ordered x)
    (keeps : edit u p (edit v q none) = none → edit v q none = none) :
    edit u (segment :: p) (edit v (segment :: q) place) =
      replace segment (edit u p (edit v q (lookup place [segment]))) place := by
  rw [edit_cons v, edit_cons u, lookup_replace_self h]
  have last := replace_replace segment (x := edit v q (lookup place [segment]))
    (y := edit u p (edit v q (lookup place [segment]))) h fun absent => by
      rw [absent]
      exact keeps
  split
  · next array =>
    cases found : lookup place [segment] with
    | none =>
      rw [replace_of_absent array found, replace_of_absent array found,
        replace_of_absent array found]
    | some x =>
      rw [found] at last
      rw [Option.map_some, ← last]
      apply replace_of_isArray
      · rwa [isArray_replace]
      · cases edit v q (some x) with
        | none => exact getD_edit_null u p
        | some y => rfl
  · exact last

/-- Edits at two paths that part are made in either order. -/
theorem edit_comm_beside (u v : Option Json) {place : Option Json} (h : ∀ x ∈ place, Ordered x)
    {common below beside : List String} {a b : String} (ne : a ≠ b)
    (apart : isArray (lookup place common) = true → ¬ SameIndex a b) :
    edit u (common ++ a :: below) (edit v (common ++ b :: beside) place) =
      edit v (common ++ b :: beside) (edit u (common ++ a :: below) place) := by
  -- The induction follows the common part down to where the paths go to different children.
  induction common generalizing place with
  | nil =>
    rw [lookup_nil] at apart
    have back : isArray place = true → ¬ SameIndex b a := fun array r =>
      apart array ⟨ne, r.2.2 ▸ r.2.1, r.2.2.symm⟩
    rw [List.nil_append, List.nil_append, edit_cons v, edit_cons u,
      lookup_replace_of_ne (Ne.symm ne) _ back, edit_cons u, edit_cons v,
      lookup_replace_of_ne ne _ apart, replace_comm ne _ _ h apart]
  | cons segment common ih =>
    rw [lookup_cons] at apart
    have deeper := ih (ordered_lookup h [segment]) apart
    have left : common ++ a :: below ≠ [] := by simp
    have right : common ++ b :: beside ≠ [] := by simp
    rw [List.cons_append, List.cons_append, edit_edit_cons h (eq_none_of_edit left),
      edit_edit_cons h (eq_none_of_edit right), deeper]

/-- Edits at two paths of which neither leads through the other are made in either order. -/
theorem edit_comm_of_apart {p q : List String} (spelled : ¬ Respelled p q) (hp : ¬ p <+: q)
    (hq : ¬ q <+: p) (u v : Option Json) {place : Option Json} (h : ∀ x ∈ place, Ordered x) :
    edit u p (edit v q place) = edit v q (edit u p place) := by
  obtain ⟨common, a, b, below, beside, ne, rfl, rfl⟩ := exists_parting hp hq
  exact edit_comm_beside u v h ne fun _ same => spelled (.of_sameIndex common same)

/-- Of two edits at one path the second counts alone, unless it removes what the first one wrote. -/
theorem edit_edit {u v : Option Json} (keeps : v = none → u = none) {place : Option Json}
    (h : ∀ x ∈ place, Ordered x) (path : List String) :
    edit v path (edit u path place) = edit v path place := by
  induction path generalizing place with
  | nil => rfl
  | cons segment path ih =>
    have deeper := ih (ordered_lookup h [segment])
    rw [edit_edit_cons h, deeper, edit_cons]
    intro gone
    cases v with
    | none => rw [keeps rfl, edit_none_none]
    | some x => exact absurd gone (edit_some_ne_none x path _)

/-! ### Edits from one source -/

section Source

variable {source place : Option Json} (h : ∀ x ∈ place, Ordered x) (path rest : List String)
include h

/-- After an edit, one below it that brings what is there already changes nothing. -/
theorem edit_below_edit (hs : ∀ x ∈ source, Ordered x) :
    edit (lookup source rest) (path ++ rest) (edit source path place) = edit source path place := by
  induction path generalizing place with
  | nil => exact edit_lookup hs rest
  | cons segment path ih =>
    have deeper := ih (ordered_lookup h [segment])
    rw [List.cons_append, edit_edit_cons h, deeper, edit_cons]
    rw [ih (by simp)]
    exact id

/-- An edit undoes one below it that brought a part of what it brings. -/
theorem edit_edit_below :
    edit source path (edit (lookup source rest) (path ++ rest) place) = edit source path place := by
  induction path generalizing place with
  | nil => rfl
  | cons segment path ih =>
    have deeper := ih (ordered_lookup h [segment])
    rw [List.cons_append, edit_edit_cons h, deeper, edit_cons]
    intro gone
    cases source with
    | none => exact edit_none_none _
    | some x => exact absurd gone (edit_some_ne_none x path _)

end Source

/-- Edits that bring what one document has at their paths are made in either order. -/
theorem edit_comm {source : Option Json} (hs : ∀ x ∈ source, Ordered x) {place : Option Json}
    (h : ∀ x ∈ place, Ordered x) {p q : List String} (spelled : ¬ Respelled p q) :
    edit (lookup source p) p (edit (lookup source q) q place) =
      edit (lookup source q) q (edit (lookup source p) p place) := by
  by_cases below : p <+: q
  · obtain ⟨rest, rfl⟩ := below
    rw [lookup_append, edit_edit_below h, edit_below_edit h p rest (ordered_lookup hs p)]
  · by_cases above : q <+: p
    · obtain ⟨rest, rfl⟩ := above
      rw [lookup_append, edit_edit_below h, edit_below_edit h q rest (ordered_lookup hs q)]
    · exact edit_comm_of_apart spelled below above _ _ h

/-! ### Writes into a document -/

/-- A write or a removal leaves alone what stands at a path that parts from its own, and two of them
at such paths are made in either order, whatever stands where the paths part. Only in an array the
two segments there must not be spellings of one index. -/
theorem set_beside {root : Json} (h : root.Ordered) {p q : String}
    {common below beside : List String} {a b : String} (hp : segments p = common ++ a :: below)
    (hq : segments q = common ++ b :: beside) (ne : a ≠ b)
    (apart : ∀ items, root.at? common = some (arr items) →
      ∀ i, index? a = some i → index? b ≠ some i)
    (u v : Option Json) :
    (root.set p u).get? q = root.get? q ∧
      (root.set p u).set q v = (root.set q v).set p u := by
  have children : isArray (lookup (some root) common) = true → ¬ SameIndex a b := by
    rintro array ⟨-, some, same⟩
    obtain ⟨items, found⟩ := exists_items array
    obtain ⟨i, index⟩ := Option.ne_none_iff_exists'.mp some
    exact apart items found i index (same ▸ index)
  constructor
  · rw [get?_eq_lookup, get?_eq_lookup, some_set, hp, hq]
    exact lookup_edit_beside h.place u ne children
  · apply Option.some.inj
    rw [some_set, some_set, some_set, some_set, hp, hq]
    exact (edit_comm_beside u v h.place ne children).symm

/-- Two keys of an object that read as one index: below the first a value is written through a
number, the second is removed. -/
theorem set_beside_of_keys :
    let root : Json :=
      .obj [("rows", .arr [.obj [("+01", .str "b"), ("1", .int 5)], .bool true])]
    let written := root.set "rows.0.1.name" (some (.str "a"))
    root.Ordered ∧ written.get? "rows.0.+01" = some (.str "b") ∧
      written.set "rows.0.+01" none =
        (root.set "rows.0.+01" none).set "rows.0.1.name" (some (.str "a")) := by
  intro root written
  have ordered : root.Ordered := by decide
  have below : segments "rows.0.1.name" = ["rows", "0"] ++ "1" :: ["name"] := by decide
  have beside : segments "rows.0.+01" = ["rows", "0"] ++ "+01" :: [] := by decide
  have frame := set_beside ordered below beside (by decide) nofun (some (.str "a")) none
  exact ⟨ordered, frame.1.trans (by decide), frame.2⟩

end Json

end Writeback
