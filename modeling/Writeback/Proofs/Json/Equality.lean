import Mathlib.Data.List.Perm.Subperm
import Writeback.Json.DeepEq
import Writeback.Proofs.Json.Ordered

/-!
# What equality by value respects

Equality by value relates every ordered document to itself, and two equal documents have equal
values at every path. It is no equivalence: two large integers that differ may both equal the float
nearest to them, so nothing here composes two equalities.
-/

namespace Writeback

namespace DeepEq

variable {α : Type} [DeepEq α]

@[simp] theorem deepEq_none_some (x : α) : deepEq none (some x) = false := rfl

@[simp] theorem deepEq_some_none (x : α) : deepEq (some x) none = false := rfl

theorem option_refl {a : Option α} (h : ∀ x ∈ a, deepEq x x = true) : deepEq a a = true := by
  cases a with
  | none => rfl
  | some x => exact h x rfl

theorem option_cases {a b : Option α} (h : deepEq a b = true) :
    a = none ∧ b = none ∨ ∃ x y, a = some x ∧ b = some y ∧ deepEq x y = true := by
  cases a with
  | none =>
    cases b with
    | none => exact Or.inl ⟨rfl, rfl⟩
    | some y => cases h
  | some x =>
    cases b with
    | none => cases h
    | some y => exact Or.inr ⟨x, y, rfl, rfl, h⟩

theorem list_refl {xs : List α} (h : ∀ x ∈ xs, deepEq x x = true) : deepEq xs xs = true := by
  induction xs with
  | nil => rfl
  | cons x rest ih =>
    obtain ⟨first, others⟩ := List.forall_mem_cons.mp h
    exact Bool.and_eq_true_iff.mpr ⟨first, ih others⟩

end DeepEq

theorem Number.sameValue_refl (a : Number) : a.sameValue a = true := by
  unfold sameValue
  split
  · next x y hx hy =>
    rw [hx] at hy
    cases hy
    exact beq_self_eq_true x
  · split
    · next x y hx hy =>
      rw [hx] at hy
      cases hy
      exact beq_self_eq_true x
    · exact beq_self_eq_true _

namespace Json

theorem covered_iff {a b : Fields} :
    covered a b = true ↔
      ∀ field ∈ a, ∃ y, Fields.get? b field.1 = some y ∧ field.2.equal y = true := by
  induction a with
  | nil => simp [covered]
  | cons field rest ih =>
    obtain ⟨k, x⟩ := field
    rw [covered, Bool.and_eq_true, ih, List.forall_mem_cons]
    cases Fields.get? b k <;> simp

/-- A property of documents that passes from the elements and values of a container to the container
holds of every document. -/
@[elab_as_elim]
theorem induction {motive : Json → Prop} (null : motive null) (bool : ∀ b, motive (bool b))
    (num : ∀ n, motive (num n)) (str : ∀ s, motive (str s))
    (arr : ∀ items, (∀ x ∈ items, motive x) → motive (arr items))
    (obj : ∀ fields : Fields, (∀ field ∈ fields, motive field.2) → motive (obj fields)) :
    ∀ x, motive x
  | .null => null
  | .bool b => bool b
  | .num n => num n
  | .str s => str s
  | .arr items => arr items fun x _ => induction null bool num str arr obj x
  | .obj fields => obj fields fun field _ => induction null bool num str arr obj field.2
decreasing_by
  · decreasing_tactic
  · have smaller := List.sizeOf_lt_of_mem ‹field ∈ fields›
    obtain ⟨k, x⟩ := field
    simp only [Json.obj.sizeOf_spec, Prod.mk.sizeOf_spec] at smaller ⊢
    omega

theorem equalItems_iff {a b : List Json} :
    equalItems a b = true ↔
      a.length = b.length ∧
        ∀ (i : Nat) (x y : Json), a[i]? = some x → b[i]? = some y → x.equal y = true := by
  induction a generalizing b with
  | nil => cases b <;> simp [equalItems]
  | cons x xs ih =>
    cases b with
    | nil => simp [equalItems]
    | cons y ys =>
      rw [equalItems, Bool.and_eq_true, ih, List.length_cons, List.length_cons, Nat.succ_inj]
      constructor
      · rintro ⟨first, length, others⟩
        refine ⟨length, fun i => ?_⟩
        cases i with
        | zero =>
          rintro _ _ ⟨⟩ ⟨⟩
          exact first
        | succ i => exact others i
      · rintro ⟨length, pairs⟩
        exact ⟨pairs 0 x y rfl rfl, length, fun i => pairs (i + 1)⟩

theorem equal_refl {x : Json} (h : Ordered x) : x.equal x = true := by
  induction x using induction with
  | null => rfl
  | bool b => exact beq_self_eq_true b
  | num n => exact n.sameValue_refl
  | str s => exact beq_self_eq_true s
  | arr items ih =>
    refine equalItems_iff.mpr ⟨rfl, fun i x y found again => ?_⟩
    rw [found] at again
    cases again
    have inside := List.mem_of_getElem? found
    exact ih x inside (ordered_arr.mp h x inside)
  | obj fields ih =>
    rw [ordered_obj] at h
    rw [equal, beq_self_eq_true, Bool.true_and, covered_iff]
    intro field mem
    exact ⟨field.2, (Fields.get?_eq_some_iff h.1).mpr mem, ih field mem (h.2 field mem)⟩

theorem equalItems_getElem? {a b : List Json} (h : equalItems a b = true) (i : Nat) :
    deepEq a[i]? b[i]? = true := by
  obtain ⟨length, pairs⟩ := equalItems_iff.mp h
  rcases Nat.lt_or_ge i a.length with inside | outside
  · have there : i < b.length := length ▸ inside
    rw [List.getElem?_eq_getElem inside, List.getElem?_eq_getElem there]
    exact pairs i _ _ (List.getElem?_eq_getElem inside) (List.getElem?_eq_getElem there)
  · rw [List.getElem?_eq_none outside, List.getElem?_eq_none (length ▸ outside)]
    rfl

/-- Equal objects have the same keys: each key of the first is one of the second, they are as many,
and no key is repeated. -/
theorem perm_keys_of_equal {a b : Fields} (ha : (Fields.keys a).Pairwise (· < ·))
    (h : (obj a).equal (obj b) = true) : (Fields.keys a).Perm (Fields.keys b) := by
  rw [equal, Bool.and_eq_true, beq_iff_eq, covered_iff] at h
  obtain ⟨length, covered⟩ := h
  have subset : Fields.keys a ⊆ Fields.keys b := by
    intro key mem
    obtain ⟨field, inside, rfl⟩ := List.mem_map.mp mem
    obtain ⟨y, found, -⟩ := covered field inside
    exact List.mem_map.mpr ⟨(field.1, y), Fields.mem_of_get? found, rfl⟩
  apply (List.subperm_of_subset (Fields.nodup_keys ha) subset).perm_of_length_le
  simp [Fields.keys, length]

theorem equal_get? {a b : Fields} (ha : (Fields.keys a).Pairwise (· < ·))
    (h : (obj a).equal (obj b) = true) (key : String) :
    deepEq (Fields.get? a key) (Fields.get? b key) = true := by
  cases found : Fields.get? a key with
  | none =>
    rw [Fields.get?_eq_none_iff, (perm_keys_of_equal ha h).mem_iff,
      ← Fields.get?_eq_none_iff] at found
    rw [found]
    rfl
  | some x =>
    rw [equal, Bool.and_eq_true, covered_iff] at h
    obtain ⟨y, there, same⟩ := h.2 (key, x) (Fields.mem_of_get? found)
    rw [there]
    exact same

/-- Objects are equal when they have the same keys, and equal values under each. -/
theorem equal_obj_iff {a b : Fields} (ha : (Fields.keys a).Pairwise (· < ·))
    (hb : (Fields.keys b).Pairwise (· < ·)) :
    (obj a).equal (obj b) = true ↔
      (∀ key, key ∈ Fields.keys a ↔ key ∈ Fields.keys b) ∧
        ∀ key x y, Fields.get? a key = some x → Fields.get? b key = some y → x.equal y = true := by
  constructor
  · intro h
    refine ⟨fun key => (perm_keys_of_equal ha h).mem_iff, fun key x y found there => ?_⟩
    have same := equal_get? ha h key
    rw [found, there] at same
    exact same
  · rintro ⟨keys, values⟩
    have perm : (Fields.keys a).Perm (Fields.keys b) :=
      (List.perm_ext_iff_of_nodup (Fields.nodup_keys ha) (Fields.nodup_keys hb)).mpr keys
    have length : a.length = b.length := by
      simpa only [Fields.keys, List.length_map] using perm.length_eq
    rw [equal, Bool.and_eq_true, beq_iff_eq, covered_iff]
    refine ⟨length, fun field mem => ?_⟩
    have found : Fields.get? a field.1 = some field.2 := (Fields.get?_eq_some_iff ha).mpr mem
    have present : Fields.get? b field.1 ≠ none := by
      rw [ne_eq, Fields.get?_eq_none_iff, ← keys, not_not]
      exact List.mem_map_of_mem mem
    obtain ⟨y, there⟩ := Option.ne_none_iff_exists'.mp present
    exact ⟨y, there, values field.1 field.2 y found there⟩

theorem equal_item? {a b : Json} (h : a.equal b = true) (i : Nat) :
    deepEq (a.item? i) (b.item? i) = true := by
  cases a <;> cases b <;> try first | rfl | cases h
  case arr.arr xs ys => exact equalItems_getElem? h i

theorem equal_field? {a b : Json} (ha : Ordered a) (h : a.equal b = true) (key : String) :
    deepEq (a.field? key) (b.field? key) = true := by
  cases a <;> cases b <;> try first | rfl | cases h
  case obj.obj xs ys => exact equal_get? (ordered_obj.mp ha).1 h key

theorem equal_child? {a b : Json} (ha : Ordered a) (h : a.equal b = true) (segment : String) :
    deepEq (a.child? segment) (b.child? segment) = true := by
  cases a <;> cases b <;> try first | rfl | cases h
  case arr.arr xs ys =>
    simp only [child?]
    cases index? segment with
    | none => rfl
    | some i => exact equalItems_getElem? h i
  case obj.obj xs ys => exact equal_get? (ordered_obj.mp ha).1 h segment

/-- Equal documents have equal values at every path. -/
theorem equal_at? {a b : Json} (ha : Ordered a) (h : a.equal b = true) (path : List String) :
    deepEq (a.at? path) (b.at? path) = true := by
  induction path generalizing a b with
  | nil => exact h
  | cons segment rest ih =>
    have below := equal_child? ha h segment
    unfold at?
    cases hx : a.child? segment with
    | none =>
      cases hy : b.child? segment with
      | none => rfl
      | some y => simp [hx, hy] at below
    | some x =>
      cases hy : b.child? segment with
      | none => simp [hx, hy] at below
      | some y =>
        rw [hx, hy] at below
        exact ih (ha.child? segment x hx) below

end Json

end Writeback
