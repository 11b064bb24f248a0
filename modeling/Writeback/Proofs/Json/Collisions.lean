import Writeback.Proofs.Json.Paths

/-!
# Writing parts of one source

What a source has at several paths is written into a place, part by part. A part that was written
stays, and there stays room for a part that is still to be written, unless two of the paths
collide: they lead to one element of an array of the place, but to two keys of the source.

Whether paths collide is read off the place as it was before the first part was written. An array
on the way is one that the place had from the beginning, with as many elements, or the source
brought it; in that case the place is as the source is from there on, and writing a further part
changes nothing below it.
-/

namespace Writeback.Json

/-- Whether what a source has at the first path, written into a place, comes where the source has
the second path: at some point the paths are two spellings of the index of an element that an array
of the place has, and the source, without an array there, tells them apart. Before that they have
the same segments, or spell one index in arrays of both. -/
def Collide : List String → List String → Option Json → Option Json → Prop
  | a :: edited, b :: path, place, source =>
    SameIndex a b ∧ isArray place = true ∧ (lookup place [a]).isSome = true ∧
        isArray source = false ∨
      (a = b ∨ SameIndex a b ∧ isArray place = true ∧ isArray source = true) ∧
        Collide edited path (lookup place [a]) (lookup source [a])
  | _, _, _, _ => False

instance decidableCollide : (edited path : List String) → (place source : Option Json) →
    Decidable (Collide edited path place source)
  | a :: edited, _ :: path, place, source =>
    have := decidableCollide edited path (lookup place [a]) (lookup source [a])
    inferInstanceAs (Decidable (_ ∨ (_ ∨ _) ∧ Collide edited path _ _))
  | [], _, _, _ => inferInstanceAs (Decidable False)
  | _ :: _, [], _, _ => inferInstanceAs (Decidable False)

section Collide

variable {edited path : List String} {place source : Option Json}

theorem Collide.append (h : Collide edited path place source) (rest : List String) :
    Collide edited (path ++ rest) place source := by
  induction edited generalizing path place source with
  | nil => cases h
  | cons a edited ih =>
    cases path with
    | nil => cases h
    | cons b path => exact h.imp_right (And.imp_right ih)

/-- The source tells its own paths apart. -/
theorem not_collide_self : ¬ Collide edited path source source := by
  induction edited generalizing path source with
  | nil => exact id
  | cons a edited ih =>
    cases path with
    | nil => exact id
    | cons b path =>
      rintro (⟨-, array, -, none⟩ | ⟨-, deeper⟩)
      · rw [array] at none
        cases none
      · exact ih deeper

end Collide

/-- Two spellings of an index lead to one element. -/
theorem lookup_of_sameIndex {place : Option Json} (array : isArray place = true) {a b : String}
    (same : SameIndex a b) : lookup place [a] = lookup place [b] := by
  obtain ⟨items, rfl⟩ := exists_items array
  rw [lookup_some, lookup_some, at?_singleton, at?_singleton, child?, child?, same.2.2]

/-- An array has the same elements after one was replaced. -/
theorem isSome_lookup_replace {place : Option Json} (array : isArray place = true)
    (segment other : String) (child : Option Json) :
    (lookup (replace segment child place) [other]).isSome = (lookup place [other]).isSome := by
  obtain ⟨items, rfl⟩ := exists_items array
  rw [replace, lookup_some, lookup_some, at?_singleton, at?_singleton, child?, child?]
  cases index? segment with
  | none => rfl
  | some i =>
    cases index? other with
    | none => rfl
    | some j =>
      rw [Option.bind_some, Option.bind_some, Option.elim_some, Bool.eq_iff_iff]
      simp

/-- What becomes of a child of a place, the first on a path, when a part of the source is written:
it stays, or the rest of the part is written into it. -/
inductive Touched (edited path : List String) (segment : String)
    (place source after : Option Json) : Prop where
  | kept (same : lookup after [segment] = lookup place [segment])
  | child (object : isArray place = false)
      (apart : ¬ Collide edited path (lookup place [segment]) (lookup source [segment]))
      (replaced : lookup after [segment] =
        edit (lookup (lookup source [segment]) edited) edited (lookup place [segment]))
  /-- An element of an array; where it is removed there is null. -/
  | element {x : Json} (found : lookup place [segment] = some x)
      (apart : ¬ Collide edited path (some x) (lookup source [segment]))
      (replaced : lookup after [segment] =
        some ((edit (lookup (lookup source [segment]) edited) edited (some x)).getD null))

section Write

variable {edited path : List String} {place source : Option Json}

theorem isArray_edit_cons (update : Option Json) (segment : String) (rest : List String)
    (place : Option Json) : isArray (edit update (segment :: rest) place) = isArray place := by
  rw [edit_cons, isArray_replace]

variable (h : ∀ x ∈ place, Ordered x)
include h

theorem touched {a b : String} (apart : ¬ Collide (a :: edited) (b :: path) place source) :
    Touched edited path b place source
      (edit (lookup source (a :: edited)) (a :: edited) place) := by
  rw [edit_cons, lookup_cons source]
  -- The written part leads through the child that the path leads through.
  have reached (inPlace : lookup place [a] = lookup place [b])
      (inSource : lookup source [a] = lookup source [b])
      (inBoth : a = b ∨ SameIndex a b ∧ isArray place = true ∧ isArray source = true)
      (one : ∀ child, lookup (replace a child place) [b] = lookup (replace a child place) [a]) :
      Touched edited path b place source (replace a
        (edit (lookup (lookup source [a]) edited) edited (lookup place [a])) place) := by
    have deeper : ¬ Collide edited path (lookup place [b]) (lookup source [b]) := fun collide =>
      apart (.inr ⟨inBoth, by rwa [inPlace, inSource]⟩)
    have replaced := (one _).trans (lookup_replace_self h a
      (edit (lookup (lookup source [a]) edited) edited (lookup place [a])))
    rw [inPlace, inSource] at replaced
    rw [inPlace, inSource]
    split at replaced
    · cases found : lookup place [b] with
      | none => exact .kept (by rw [found] at replaced; rw [replaced, found]; rfl)
      | some x =>
        rw [found] at replaced deeper
        exact .element found deeper replaced
    · next object => exact .child ((Bool.not_eq_true _).mp object) deeper replaced
  by_cases same : a = b
  · subst same
    exact reached rfl rfl (.inl rfl) fun _ => rfl
  · by_cases respelled : isArray place = true ∧ SameIndex a b
    · obtain ⟨array, respelled⟩ := respelled
      have inPlace := lookup_of_sameIndex array respelled
      cases found : lookup place [a] with
      | none => exact .kept (by rw [replace_of_absent array found])
      | some x =>
        have inBoth : isArray source = true := by
          by_contra none
          exact apart (.inl ⟨respelled, array, by rw [found]; rfl,
            (Bool.not_eq_true _).mp none⟩)
        rw [← found]
        refine reached inPlace (lookup_of_sameIndex inBoth respelled)
          (.inr ⟨respelled, array, inBoth⟩) fun child => ?_
        exact (lookup_of_sameIndex ((isArray_replace a child place).trans array) respelled).symm
    · exact .kept (lookup_replace_of_ne same _ fun array same => respelled ⟨array, same⟩)

/-- A part that was written stays when another is. -/
theorem lookup_edit_of_written (apart : ¬ Collide edited path place source)
    (written : lookup place path = lookup source path) :
    lookup (edit (lookup source edited) edited place) path = lookup source path := by
  induction edited generalizing place source path with
  | nil => rw [edit, lookup_nil]
  | cons a edited ih =>
    cases path with
    | nil =>
      rw [lookup_nil, lookup_nil] at written
      rw [← written, edit_lookup h]
    | cons b path =>
      rw [lookup_cons place, lookup_cons source] at written
      rw [lookup_cons _ b, lookup_cons source b]
      cases touched h apart with
      | kept same => rw [same, written]
      | child _ apart replaced => rw [replaced, ih (ordered_lookup h [b]) apart written]
      | @element x found apart replaced =>
        have ordered := ordered_lookup h [b]
        rw [found] at written ordered
        rw [replaced]
        have deeper := ih ordered apart written
        cases path with
        | nil =>
          rw [lookup_nil, lookup_nil] at deeper written
          rw [lookup_nil, lookup_nil, deeper, ← written, Option.getD_some]
        | cons next path => rw [lookup_getD_null _ (List.cons_ne_nil _ _), deeper]

/-- There stays room for a part that is still to be written. -/
theorem takes_edit (apart : ¬ Collide edited path place source)
    (room : takes (lookup source path) path place = true) :
    takes (lookup source path) path (edit (lookup source edited) edited place) = true := by
  induction edited generalizing place source path with
  | nil =>
    rw [edit, lookup_nil]
    exact takes_lookup source path
  | cons a edited ih =>
    cases path with
    | nil => rfl
    | cons b path =>
      obtain ⟨fit, room⟩ := takes_cons.mp room
      rw [takes_cons, isArray_edit_cons]
      cases touched h apart with
      | kept same => rw [same]; exact ⟨fit, room⟩
      | child object apart replaced =>
        rw [replaced]
        rw [lookup_cons source] at room ⊢
        refine ⟨fun array => ?_, ih (ordered_lookup h [b]) apart room⟩
        rw [object] at array
        cases array
      | @element x found apart replaced =>
        have ordered := ordered_lookup h [b]
        rw [found] at fit room ordered
        rw [replaced]
        refine ⟨fit, ?_⟩
        rw [lookup_cons source] at room ⊢
        have deeper := ih ordered apart room
        cases value : edit (lookup (lookup source [b]) edited) edited (some x) with
        | none => exact takes_null _ path
        | some y => exact value ▸ deeper

end Write

/-- A place into which parts of a source were written, as far as the arrays on a path go: each was
there from the beginning, with the same elements, or is the source's. -/
def Grown : List String → Option Json → Option Json → Option Json → Prop
  | [], _, _, _ => True
  | b :: path, origin, source, place =>
    (isArray place = true → place = source ∨ isArray origin = true ∧
        ∀ segment, (lookup place [segment]).isSome = (lookup origin [segment]).isSome) ∧
      Grown path (lookup origin [b]) (lookup source [b]) (lookup place [b])

namespace Grown

variable {edited path : List String} {origin source place : Option Json}

theorem refl : Grown path origin source origin := by
  induction path generalizing origin source with
  | nil => trivial
  | cons b path ih => exact ⟨fun array => .inr ⟨array, fun _ => rfl⟩, ih⟩

theorem of_source : Grown path origin source source := by
  induction path generalizing origin source with
  | nil => trivial
  | cons b path ih => exact ⟨fun _ => .inl rfl, ih⟩

theorem of_none : Grown path origin source none := by
  induction path generalizing origin source with
  | nil => trivial
  | cons b path ih => exact ⟨nofun, ih⟩

theorem of_null : Grown path origin source (some null) := by
  cases path with
  | nil => trivial
  | cons b path => exact ⟨nofun, of_none⟩

/-- Paths that collide in the place collided in the beginning: where the source brought an array, it
does not tell paths apart. -/
theorem collide (h : Grown path origin source place) (collide : Collide edited path place source) :
    Collide edited path origin source := by
  induction edited generalizing path origin source place with
  | nil => exact collide
  | cons a edited ih =>
    cases path with
    | nil => exact collide
    | cons b path =>
      obtain ⟨arrays, deeper⟩ := h
      rcases collide with ⟨same, array, some, none⟩ | ⟨rfl | ⟨same, array, both⟩, collide⟩
      · rcases arrays array with rfl | ⟨old, elements⟩
        · rw [array] at none
          cases none
        · exact .inl ⟨same, old, elements a ▸ some, none⟩
      · exact .inr ⟨.inl rfl, ih deeper collide⟩
      · rcases arrays array with rfl | ⟨old, -⟩
        · exact absurd collide not_collide_self
        · rw [← lookup_of_sameIndex old same, ← lookup_of_sameIndex both same,
            ← lookup_of_sameIndex array same] at deeper
          exact .inr ⟨.inr ⟨same, old, both⟩, ih deeper collide⟩

/-- A place goes on growing when a further part of the source is written. -/
theorem edit (h : Grown path origin source place) (ordered : ∀ x ∈ place, Ordered x)
    (apart : ¬ Collide edited path place source) :
    Grown path origin source (edit (lookup source edited) edited place) := by
  induction edited generalizing path origin source place with
  | nil =>
    rw [Json.edit, lookup_nil]
    exact of_source
  | cons a edited ih =>
    cases path with
    | nil => trivial
    | cons b path =>
      obtain ⟨arrays, deeper⟩ := h
      by_cases brought : place = source
      · subst brought
        rw [edit_lookup ordered]
        exact of_source
      · refine ⟨fun array => .inr ?_, ?_⟩
        · rw [isArray_edit_cons] at array
          obtain ⟨old, elements⟩ := (arrays array).resolve_left brought
          refine ⟨old, fun segment => ?_⟩
          rw [edit_cons, isSome_lookup_replace array, elements]
        · cases touched ordered apart with
          | kept same => exact same ▸ deeper
          | child _ apart replaced =>
            rw [replaced]
            exact ih deeper (ordered_lookup ordered [b]) apart
          | @element x found apart replaced =>
            have below := ordered_lookup ordered [b]
            rw [found] at deeper below
            have grown := ih deeper below apart
            rw [replaced]
            cases value : Json.edit (lookup (lookup source [b]) edited) edited (some x) with
            | none => exact of_null
            | some y => exact value ▸ grown

end Grown

end Writeback.Json
