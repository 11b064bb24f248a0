import Writeback.Proofs.Json.Equality

/-!
# Laws of reading and writing at paths

An edit at a path is a chain of replacements, each of one child of a document, so that every law
is a law of one replacement first. Writing what is there changes nothing, and what is written is
there afterwards if the arrays on the way can take it. What stands at another path is unchanged,
unless the path leads through the place that was written; two spellings of one array index are the
exception, as both lead to the same element.
-/

namespace Writeback

namespace Fields

/-- The fields with one value put under a key or removed. -/
def put (key : String) (value : Option Json) (fields : Fields) : Fields :=
  value.elim (erase key fields) fun x => insert key x fields

theorem get?_put_of_ne {key other : String} (ne : key ≠ other) (value : Option Json)
    (fields : Fields) : get? (put key value fields) other = get? fields other := by
  cases value with
  | none => exact get?_erase_of_ne ne fields
  | some x => exact (get?_insert key x fields other).trans (if_neg ne)

theorem get?_put_self {fields : Fields} (h : (keys fields).Pairwise (· < ·)) (key : String)
    (value : Option Json) : get? (put key value fields) key = value := by
  cases value with
  | none => exact get?_erase_self h key
  | some x => exact (get?_insert key x fields key).trans (if_pos rfl)

theorem put_get? {fields : Fields} (h : (keys fields).Pairwise (· < ·)) (key : String) :
    put key (get? fields key) fields = fields := by
  cases found : get? fields key with
  | none => exact erase_of_get?_eq_none found
  | some x => exact insert_of_get? h found

end Fields

namespace Json

/-- What stands at a path below a place that may be absent. -/
def lookup (place : Option Json) (path : List String) : Option Json :=
  place.bind fun x => x.at? path

@[simp] theorem lookup_none (path : List String) : lookup none path = none := rfl

@[simp] theorem lookup_some (x : Json) (path : List String) :
    lookup (some x) path = x.at? path := rfl

@[simp] theorem lookup_nil (place : Option Json) : lookup place [] = place := by
  cases place <;> rfl

theorem get?_eq_lookup (root : Json) (path : String) :
    root.get? path = lookup (some root) (segments path) := rfl

theorem at?_singleton (x : Json) (segment : String) : x.at? [segment] = x.child? segment := by
  simp only [at?]
  cases x.child? segment <;> rfl

theorem lookup_cons (place : Option Json) (segment : String) (rest : List String) :
    lookup place (segment :: rest) = lookup (lookup place [segment]) rest := by
  cases place with
  | none => rfl
  | some x =>
    rw [lookup_some, lookup_some, at?_singleton, at?]
    cases x.child? segment <;> rfl

theorem lookup_append (place : Option Json) (path rest : List String) :
    lookup place (path ++ rest) = lookup (lookup place path) rest := by
  induction path generalizing place with
  | nil => rw [List.nil_append, lookup_nil]
  | cons segment path ih => rw [List.cons_append, lookup_cons, ih, ← lookup_cons]

theorem ordered_lookup {place : Option Json} (h : ∀ x ∈ place, Ordered x) (path : List String) :
    ∀ x ∈ lookup place path, Ordered x := by
  intro x found
  obtain ⟨root, rfl, found⟩ := Option.bind_eq_some_iff.mp found
  exact (h root rfl).at? path x found

theorem equal_lookup {a b : Option Json} (ha : ∀ x ∈ a, Ordered x) (h : deepEq a b = true)
    (path : List String) : deepEq (lookup a path) (lookup b path) = true := by
  cases a with
  | none => cases b with
    | none => rfl
    | some y => cases h
  | some x => cases b with
    | none => cases h
    | some y => exact equal_at? (ha x rfl) h path

def isArray : Option Json → Bool
  | some (arr _) => true
  | _ => false

/-- Whether two segments are different spellings of one array index. -/
def SameIndex (a b : String) : Prop := a ≠ b ∧ index? a ≠ none ∧ index? a = index? b

/-- Whether two paths share their segments up to two different spellings of one array index. -/
def Respelled : List String → List String → Prop
  | a :: p, b :: q => SameIndex a b ∨ a = b ∧ Respelled p q
  | _, _ => False

instance (a b : String) : Decidable (SameIndex a b) :=
  inferInstanceAs (Decidable (_ ∧ _))

instance decidableRespelled : (p q : List String) → Decidable (Respelled p q)
  | a :: p, b :: q =>
    have := decidableRespelled p q
    inferInstanceAs (Decidable (SameIndex a b ∨ a = b ∧ Respelled p q))
  | [], _ => inferInstanceAs (Decidable False)
  | _ :: _, [] => inferInstanceAs (Decidable False)

theorem Respelled.of_sameIndex (common : List String) {a b : String} {below beside : List String}
    (same : SameIndex a b) : Respelled (common ++ a :: below) (common ++ b :: beside) := by
  induction common with
  | nil => exact Or.inl same
  | cons segment common ih => exact Or.inr ⟨rfl, ih⟩

/-- Of two paths one leads through the other, or they part at two different segments. -/
theorem exists_parting {p q : List String} (hp : ¬ p <+: q) (hq : ¬ q <+: p) :
    ∃ common a b below beside,
      a ≠ b ∧ p = common ++ a :: below ∧ q = common ++ b :: beside := by
  induction p generalizing q with
  | nil => exact absurd List.nil_prefix hp
  | cons a p ih =>
    cases q with
    | nil => exact absurd List.nil_prefix hq
    | cons b q =>
      by_cases same : a = b
      · subst same
        rw [List.prefix_cons_inj] at hp hq
        obtain ⟨common, c, d, below, beside, ne, rfl, rfl⟩ := ih hp hq
        exact ⟨a :: common, c, d, below, beside, ne, rfl, rfl⟩
      · exact ⟨[], a, b, p, q, same, rfl, rfl⟩

/-! ### One replacement -/

/-- A place after one child of what stands there was replaced. An array has no place for a child
that it does not have yet. -/
def replace (segment : String) (child : Option Json) : Option Json → Option Json
  | some (obj fields) => some (obj (Fields.put segment child fields))
  | some (arr items) =>
    some (arr ((index? segment).elim items fun i => items.set i (child.getD null)))
  | place => child.elim place fun x => some (obj [(segment, x)])

theorem edit_none_none (path : List String) : edit none path none = none := by
  cases path <;> rfl

theorem edit_some_none (x : Json) (path : List String) : edit (some x) path none ≠ none := by
  induction path with
  | nil => exact Option.some_ne_none x
  | cons segment rest ih =>
    obtain ⟨y, edited⟩ := Option.ne_none_iff_exists'.mp ih
    simp [edit, edited]

/-- Where nothing or a scalar stands, a write makes an object of the one field. -/
theorem edit_cons_scalar (update : Option Json) (segment : String) (rest : List String)
    {place : Option Json} (object : ∀ fields, place ≠ some (obj fields))
    (array : ∀ items, place ≠ some (arr items)) :
    edit update (segment :: rest) place =
      (edit update rest none).elim place fun x => some (obj [(segment, x)]) := by
  cases update with
  | none =>
    rw [edit, edit_none_none, Option.elim_none]
    · exact object
    · exact array
  | some x =>
    obtain ⟨y, written⟩ := Option.ne_none_iff_exists'.mp (edit_some_none x rest)
    rw [edit, written]
    · rfl
    · exact object
    · exact array

/-- An edit replaces the first child on its way by the edited one. -/
theorem edit_cons (update : Option Json) (segment : String) (rest : List String)
    (place : Option Json) :
    edit update (segment :: rest) place =
      replace segment (edit update rest (lookup place [segment])) place := by
  cases place with
  | none => exact edit_cons_scalar update segment rest (by simp) (by simp)
  | some x =>
    cases x with
    | obj fields =>
      rw [edit, lookup_some, at?_singleton, child?, replace]
      cases edit update rest (Fields.get? fields segment) <;> rfl
    | arr items =>
      rw [edit, lookup_some, at?_singleton, child?, replace]
      cases index? segment with
      | none => rfl
      | some i =>
        dsimp only [Option.bind_some, Option.elim_some]
        cases found : items[i]? with
        | none =>
          dsimp only
          rw [List.set_eq_of_length_le (List.getElem?_eq_none_iff.mp found)]
        | some x => rfl
    | _ => exact edit_cons_scalar update segment rest (by simp) (by simp)

@[simp] theorem isArray_replace (segment : String) (child place : Option Json) :
    isArray (replace segment child place) = isArray place := by
  match place with
  | some (obj fields) | some (arr items) => rfl
  | none | some null | some (bool _) | some (num _) | some (str _) => cases child <;> rfl

/-- Putting back what is there changes nothing. -/
theorem replace_lookup {place : Option Json} (h : ∀ x ∈ place, Ordered x) (segment : String) :
    replace segment (lookup place [segment]) place = place := by
  match place with
  | some (obj fields) =>
    rw [lookup_some, at?_singleton, child?, replace, Fields.put_get? (ordered_obj.mp (h _ rfl)).1]
  | some (arr items) =>
    rw [lookup_some, at?_singleton, child?, replace]
    cases index? segment with
    | none => rfl
    | some i =>
      dsimp only [Option.bind_some, Option.elim_some]
      by_cases inside : i < items.length
      · rw [List.getElem?_eq_getElem inside, Option.getD_some, List.set_getElem_self]
      · rw [List.set_eq_of_length_le (Nat.le_of_not_lt inside)]
  | none | some null | some (bool _) | some (num _) | some (str _) => rfl

/-- A replaced child is there, except that an array keeps its length and shows a removed element as
null. -/
theorem lookup_replace_self {place : Option Json} (h : ∀ x ∈ place, Ordered x) (segment : String)
    (child : Option Json) :
    lookup (replace segment child place) [segment] =
      if isArray place then (lookup place [segment]).map fun _ => child.getD null else child := by
  match place with
  | some (obj fields) =>
    rw [replace, lookup_some, at?_singleton, child?]
    exact (Fields.get?_put_self (ordered_obj.mp (h _ rfl)).1 segment child).trans
      (if_neg Bool.false_ne_true).symm
  | some (arr items) =>
    rw [replace, lookup_some, lookup_some, at?_singleton, at?_singleton, child?, child?, isArray,
      if_pos rfl]
    cases index? segment with
    | none => rfl
    | some i =>
      rw [Option.bind_some, Option.bind_some, Option.elim_some, List.getElem?_set_self']
      rfl
  | none | some null | some (bool _) | some (num _) | some (str _) =>
    cases child with
    | none => rfl
    | some x => simp [replace, at?_singleton, child?, Fields.get?_cons, isArray]

/-- Other children stay. -/
theorem lookup_replace_of_ne {a b : String} (ne : a ≠ b) (child : Option Json)
    {place : Option Json} (apart : isArray place = true → ¬ SameIndex a b) :
    lookup (replace a child place) [b] = lookup place [b] := by
  match place with
  | some (obj fields) =>
    rw [replace, lookup_some, lookup_some, at?_singleton, at?_singleton, child?, child?]
    exact Fields.get?_put_of_ne ne child fields
  | some (arr items) =>
    rw [replace, lookup_some, lookup_some, at?_singleton, at?_singleton, child?, child?]
    cases ha : index? a with
    | none => rfl
    | some i =>
      cases hb : index? b with
      | none => rfl
      | some j =>
        have other : i ≠ j := by
          rintro rfl
          exact apart rfl ⟨ne, by simp [ha], by rw [ha, hb]⟩
        rw [Option.bind_some, Option.bind_some, Option.elim_some, List.getElem?_set_ne other]
  | none | some null | some (bool _) | some (num _) | some (str _) =>
    cases child with
    | none => rfl
    | some x => simp [replace, at?_singleton, child?, Fields.get?_cons, ne]

theorem exists_items {place : Option Json} (array : isArray place = true) :
    ∃ items, place = some (arr items) := by
  unfold isArray at array
  split at array
  · next items => exact ⟨items, rfl⟩
  · cases array

/-- In an array nothing is replaced that is not there. -/
theorem replace_of_absent {place : Option Json} (array : isArray place = true) {segment : String}
    (absent : lookup place [segment] = none) (child : Option Json) :
    replace segment child place = place := by
  obtain ⟨items, rfl⟩ := exists_items array
  rw [lookup_some, at?_singleton, child?] at absent
  rw [replace]
  cases found : index? segment with
  | none => rfl
  | some i =>
    rw [found, Option.bind_some] at absent
    rw [Option.elim_some, List.set_eq_of_length_le (List.getElem?_eq_none_iff.mp absent)]

/-! ### Edits along a path -/

/-- Writing what is there changes nothing. -/
theorem edit_lookup {place : Option Json} (h : ∀ x ∈ place, Ordered x) (path : List String) :
    edit (lookup place path) path place = place := by
  induction path generalizing place with
  | nil => rw [lookup_nil, edit]
  | cons segment rest ih =>
    rw [edit_cons, lookup_cons, ih (ordered_lookup h [segment]), replace_lookup h]

theorem at?_null {path : List String} (ne : path ≠ []) : null.at? path = none := by
  cases path with
  | nil => exact absurd rfl ne
  | cons segment rest => rfl

/-- Below a removed element there is nothing, as below a place that is absent. -/
theorem lookup_getD_null (place : Option Json) {path : List String} (ne : path ≠ []) :
    lookup (some (place.getD null)) path = lookup place path := by
  cases place with
  | none => exact at?_null ne
  | some x => rfl

section Elsewhere

variable {place : Option Json} (h : ∀ x ∈ place, Ordered x) (update : Option Json)
include h

/-- Further down the way of an edit stands what the edited child has there; an array without the
child stays without. -/
theorem lookup_edit_cons {segment : String} (edited : List String) {path : List String}
    (ne : path ≠ []) :
    lookup (edit update (segment :: edited) place) (segment :: path) =
        lookup (edit update edited (lookup place [segment])) path ∨
      lookup place [segment] = none ∧
        lookup (edit update (segment :: edited) place) (segment :: path) = none := by
  rw [edit_cons, lookup_cons, lookup_replace_self h]
  split
  · cases found : lookup place [segment] with
    | none => exact Or.inr ⟨rfl, rfl⟩
    | some x =>
      -- A removed element reads as null, and nothing stands below either.
      rw [Option.map_some, lookup_getD_null _ ne]
      exact Or.inl rfl
  · exact Or.inl rfl

/-- An edit leaves what stands at a path that goes to another child where the two part. -/
theorem lookup_edit_beside {common below beside : List String} {a b : String} (ne : a ≠ b)
    (apart : isArray (lookup place common) = true → ¬ SameIndex a b) :
    lookup (edit update (common ++ a :: below) place) (common ++ b :: beside) =
      lookup place (common ++ b :: beside) := by
  induction common generalizing place with
  | nil =>
    rw [lookup_nil] at apart
    rw [List.nil_append, List.nil_append, edit_cons, lookup_cons, lookup_replace_of_ne ne _ apart,
      ← lookup_cons]
  | cons segment common ih =>
    rw [lookup_cons] at apart
    have deeper := ih (ordered_lookup h [segment]) apart
    have further : common ++ b :: beside ≠ [] := by simp
    rw [List.cons_append, List.cons_append, lookup_cons place]
    rcases lookup_edit_cons h update (common ++ a :: below) further with step | ⟨absent, gone⟩
    · rw [step, deeper]
    · rw [gone, absent, lookup_none]

/-- Below the place of an edit stands what stood there before, when the edit is not made, or else
what the new value has there. -/
theorem lookup_edit_below (path : List String) {rest : List String} (ne : rest ≠ []) :
    lookup (edit update path place) (path ++ rest) = lookup place (path ++ rest) ∨
      lookup (edit update path place) (path ++ rest) = lookup update rest := by
  induction path generalizing place with
  | nil => exact Or.inr rfl
  | cons segment path ih =>
    have deeper := ih (ordered_lookup h [segment])
    have further := List.append_ne_nil_of_right_ne_nil path ne
    rw [List.cons_append, lookup_cons place]
    rcases lookup_edit_cons h update path further with step | ⟨absent, gone⟩
    · rwa [step]
    · rw [gone, absent, lookup_none]
      exact Or.inl rfl

/-- What stands at a path after an edit at another one: what stood there before, or, when the path
leads on from the place of the edit, what the new value has there. -/
theorem lookup_edit {edited path : List String} (spelled : ¬ Respelled edited path)
    (off : ¬ path <+: edited) :
    lookup (edit update edited place) path = lookup place path ∨
      ∃ rest, path = edited ++ rest ∧
        lookup (edit update edited place) path = lookup update rest := by
  by_cases beyond : edited <+: path
  · obtain ⟨rest, rfl⟩ := beyond
    have ne : rest ≠ [] := by
      rintro rfl
      rw [List.append_nil] at off
      exact off List.prefix_rfl
    exact (lookup_edit_below h update edited ne).imp_right fun brought => ⟨rest, rfl, brought⟩
  · obtain ⟨common, a, b, below, beside, ne, rfl, rfl⟩ := exists_parting beyond off
    exact Or.inl (lookup_edit_beside h update ne fun _ same => spelled (.of_sameIndex common same))

end Elsewhere

theorem replace_some_ne_none (segment : String) (child : Option Json) (x : Json) :
    replace segment child (some x) ≠ none := by
  cases x <;> cases child <;> exact Option.some_ne_none _

/-- A document that is written into stays a document. -/
theorem some_set (root : Json) (path : String) (update : Option Json) :
    some (root.set path update) = edit update (segments path) (some root) := by
  rw [set]
  cases split : segments path with
  | nil => exact absurd split (segments_ne_nil path)
  | cons segment rest =>
    rw [edit_cons]
    obtain ⟨x, written⟩ := Option.ne_none_iff_exists'.mp (replace_some_ne_none segment
      (edit update rest (lookup (some root) [segment])) root)
    rw [written, Option.getD_some]

/-! ### Room in arrays -/

/-- Whether an array takes an edit at or below the child that a segment leads to: a value needs an
element there, and an element itself cannot be removed. -/
def fits (update : Option Json) (rest : List String) (child : Option Json) : Bool :=
  if child.isSome then update.isSome || !rest.isEmpty else update.isNone

/-- Whether all arrays on a path below a place take the edit. -/
def takes (update : Option Json) : List String → Option Json → Bool
  | [], _ => true
  | segment :: rest, place =>
    let child := lookup place [segment]
    (!isArray place || fits update rest child) && takes update rest child

theorem takes_cons {update : Option Json} {segment : String} {rest : List String}
    {place : Option Json} :
    takes update (segment :: rest) place = true ↔
      (isArray place = true → fits update rest (lookup place [segment]) = true) ∧
        takes update rest (lookup place [segment]) = true := by
  rw [takes, Bool.and_eq_true]
  cases isArray place <;> simp

theorem takes_none (update : Option Json) (path : List String) : takes update path none = true := by
  induction path with
  | nil => rfl
  | cons segment rest ih => exact takes_cons.mpr ⟨nofun, ih⟩

theorem takes_null (update : Option Json) (path : List String) :
    takes update path (some null) = true := by
  cases path with
  | nil => rfl
  | cons segment rest => exact takes_cons.mpr ⟨nofun, takes_none update rest⟩

/-- What is there already can be written. -/
theorem takes_lookup (place : Option Json) (path : List String) :
    takes (lookup place path) path place = true := by
  induction path generalizing place with
  | nil => rfl
  | cons segment rest ih =>
    rw [takes_cons, lookup_cons]
    refine ⟨fun _ => ?_, ih _⟩
    cases lookup place [segment] with
    | none => rfl
    | some x => cases rest <;> simp [fits]

/-- What was written is there. -/
theorem lookup_edit_self {place update : Option Json} {path : List String}
    (h : ∀ x ∈ place, Ordered x) (room : takes update path place = true) :
    lookup (edit update path place) path = update := by
  induction path generalizing place with
  | nil => rw [edit, lookup_nil]
  | cons segment rest ih =>
    obtain ⟨fit, room⟩ := takes_cons.mp room
    have deeper := ih (ordered_lookup h [segment]) room
    rw [edit_cons, lookup_cons, lookup_replace_self h]
    split
    · next array =>
      specialize fit array
      cases found : lookup place [segment] with
      | none =>
        rw [found, fits] at fit
        exact (Option.isNone_iff_eq_none.mp fit).symm
      | some x =>
        rw [found] at deeper fit
        cases rest with
        | nil =>
          obtain ⟨y, rfl⟩ := Option.isSome_iff_exists.mp (by simpa [fits] using fit)
          rfl
        | cons next rest =>
          rw [Option.map_some, lookup_getD_null _ (List.cons_ne_nil _ _)]
          exact deeper
    · exact deeper

/-- A value that finds no room is not written at all. -/
theorem edit_of_not_takes {place : Option Json} (h : ∀ y ∈ place, Ordered y) {x : Json}
    {path : List String} (full : takes (some x) path place = false) :
    edit (some x) path place = place := by
  induction path generalizing place with
  | nil => cases full
  | cons segment rest ih =>
    rw [edit_cons]
    cases deeper : takes (some x) rest (lookup place [segment]) with
    | false => rw [ih (ordered_lookup h [segment]) deeper, replace_lookup h]
    | true =>
      rw [takes, deeper, Bool.and_true, Bool.or_eq_false_iff, Bool.not_eq_false'] at full
      obtain ⟨array, unfit⟩ := full
      have absent : lookup place [segment] = none := by
        cases found : lookup place [segment] with
        | none => rfl
        | some y =>
          rw [found] at unfit
          cases unfit
      exact replace_of_absent array absent _

/-- Below a place that was removed there is nothing. -/
theorem lookup_edit_none {place : Option Json} (h : ∀ x ∈ place, Ordered x) (path : List String)
    {rest : List String} (ne : rest ≠ []) :
    lookup (edit none path place) (path ++ rest) = none := by
  induction path generalizing place with
  | nil => rfl
  | cons segment path ih =>
    have further := List.append_ne_nil_of_right_ne_nil path ne
    rcases lookup_edit_cons h none path further with step | ⟨-, gone⟩
    · rw [List.cons_append, step, ih (ordered_lookup h [segment])]
    · exact gone

end Json

end Writeback
