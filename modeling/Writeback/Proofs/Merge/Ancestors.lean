import Writeback.Proofs.Merge.Fields

/-!
# Changes show at every path above

Two equal documents have a value at the same paths, and equal values there, since each segment leads
from equal values to equal values or from both to nothing. So a change cannot be hidden from above:
where a value differs between the loaded and the local version, it differs at every path that the
path of the value goes on from.
-/

namespace Writeback

namespace Json

theorem pieces_append (separator : Char) (front back : List Char) :
    pieces separator (front ++ separator :: back) =
      pieces separator front ++ pieces separator back := by
  induction front with
  | nil => simp [pieces]
  | cons c front ih =>
    rw [List.cons_append, pieces, pieces]
    by_cases apart : c = separator
    · rw [if_pos apart, if_pos apart, ih, List.cons_append]
    · obtain ⟨piece, others, split⟩ := List.exists_cons_of_ne_nil (pieces_ne_nil separator front)
      rw [if_neg apart, if_neg apart, ih, split]
      rfl

/-- A dot separates the segments of what stands before it from those of what stands after it. -/
theorem segments_append (path rest : String) :
    segments (path ++ "." ++ rest) = segments path ++ segments rest := by
  have text : (path ++ "." ++ rest).toList = path.toList ++ '.' :: rest.toList := by
    simp [String.toList_append]
  rw [segments, text, pieces_append, List.map_append]
  rfl

/-- Of two equal documents both have a value at a path, and these are equal, or neither has one.
Therefore what is reported as changed locally at a path is also reported at every path that it goes
on from, whatever the server holds at either. -/
theorem equal_at_every_path :
    (∀ a b : Json, a.Ordered → a.equal b = true → ∀ path : String,
      (a.get? path = none ∧ b.get? path = none) ∨
        ∃ x y, a.get? path = some x ∧ b.get? path = some y ∧ x.equal y = true) ∧
    ∀ base current remote : Json, base.Ordered → ∀ path rest : String,
      (Change.between (base.get? (path ++ "." ++ rest)) (current.get? (path ++ "." ++ rest))
        (remote.get? (path ++ "." ++ rest))).isLocal = true →
      (Change.between (base.get? path) (current.get? path) (remote.get? path)).isLocal = true := by
  constructor
  · intro a b ha same path
    exact DeepEq.option_cases (equal_at? ha same (segments path))
  · intro base current remote hb path rest edited
    by_contra unedited
    rw [Change.not_isLocal_between] at unedited
    rw [Change.isLocal_between] at edited
    exact Snapshot.not_prefix_of_edited hb unedited edited ⟨_, (segments_append path rest).symm⟩

/-- The rank of an owner, which one version writes as an integer and one as a float, beside a label
that was edited. -/
theorem equal_at_rank_of_owner :
    let owner (rank : Number) (label : String) : Json :=
      .obj [("owner", .obj [("labels", .arr [.null, .str label]), ("rank", .num rank)])]
    let five : Number := .int 5 (by decide)
    let written : Number :=
      .float ⟨false, 5629499534213120, 1024, by decide, by decide, by decide⟩
    let base := owner five "draft"
    (base.Ordered ∧ base.equal (owner written "draft") = true ∧
      (∃ x y, base.get? "owner.rank" = some x ∧
        (owner written "draft").get? "owner.rank" = some y ∧ x.equal y = true ∧ x ≠ y)) ∧
    (Change.between (base.get? ("owner" ++ "." ++ "labels.+01"))
      ((owner written "final").get? ("owner" ++ "." ++ "labels.+01"))
      (null.get? ("owner" ++ "." ++ "labels.+01"))).isLocal = true ∧
    (Change.between (base.get? "owner") ((owner written "final").get? "owner")
      (null.get? "owner")).isLocal = true := by
  intro owner five written base
  have ordered : base.Ordered := by decide
  have same : base.equal (owner written "draft") = true := by decide +kernel
  have edited : (Change.between (base.get? ("owner" ++ "." ++ "labels.+01"))
      ((owner written "final").get? ("owner" ++ "." ++ "labels.+01"))
      (null.get? ("owner" ++ "." ++ "labels.+01"))).isLocal = true := by decide +kernel
  obtain ⟨values, changes⟩ := equal_at_every_path
  refine ⟨⟨ordered, same, ?_⟩, edited, changes base _ null ordered "owner" "labels.+01" edited⟩
  have there : base.get? "owner.rank" = some (.num five) := by decide +kernel
  rcases values base _ ordered same "owner.rank" with ⟨absent, -⟩ | ⟨x, y, hx, hy, agree⟩
  · rw [there] at absent
    cases absent
  · refine ⟨x, y, hx, hy, agree, ?_⟩
    rintro rfl
    have float : (owner written "draft").get? "owner.rank" = some (.num written) := by
      decide +kernel
    rw [there] at hx
    rw [← hx, float] at hy
    exact absurd hy (by decide +kernel)

end Json

end Writeback
