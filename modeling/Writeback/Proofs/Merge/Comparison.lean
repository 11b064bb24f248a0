import Writeback.Merge.ObjectList
import Writeback.Proofs.Json.Values

/-!
# Comparing versions

The versions of a value that are compared are documents, the fields of an object, mapped objects and
texts, and lists and optional values of these, nested in any way. Of all of them equality by value
is reflexive and symmetric, although only the fields of the first object are looked up in the
second. It is transitive among values with numbers of a set in which no two integers that differ
are rounded to one float. All floats and the integers up to `2 ^ 53` in size are such a set.

What changed between three versions is decided by their equalities alone, so it respects equality
wherever that is an equivalence.
-/

namespace Writeback

/-- An integer up to `2 ^ 53` in size, or any float. -/
def Number.IsSafe : Number → Prop
  | int n _ => -2 ^ 53 ≤ n ∧ n ≤ 2 ^ 53
  | float _ => True

theorem Number.exact_isSafe : Exact IsSafe := by
  intro x y safe _ rounded
  refine rounded.nearest.2 ?_
  cases x with
  | float x => exact absurd rounded (not_float_roundsTo y)
  | int n range =>
    rw [value, abs_le]
    obtain ⟨lower, upper⟩ := safe
    exact ⟨by exact_mod_cast lower, by exact_mod_cast upper⟩

/-! ### Lists and optional values -/

namespace DeepEq

section Containers

variable {α : Type} [DeepEq α]

theorem list_comm {xs ys : List α} (h : ∀ x ∈ xs, ∀ y ∈ ys, deepEq x y = deepEq y x) :
    deepEq xs ys = deepEq ys xs := by
  induction xs generalizing ys with
  | nil => cases ys <;> rfl
  | cons x xs ih =>
    cases ys with
    | nil => rfl
    | cons y ys =>
      have first := h x List.mem_cons_self y List.mem_cons_self
      have others := ih fun a ha b hb => h a (.tail x ha) b (.tail y hb)
      exact congrArg₂ and first others

theorem list_trans {xs ys zs : List α}
    (h : ∀ x ∈ xs, ∀ y ∈ ys, ∀ z ∈ zs, deepEq x y = true → deepEq y z = true → deepEq x z = true)
    (left : deepEq xs ys = true) (right : deepEq ys zs = true) : deepEq xs zs = true := by
  induction xs generalizing ys zs with
  | nil =>
    cases ys with
    | nil => exact right
    | cons y ys => cases left
  | cons x xs ih =>
    cases ys with
    | nil => cases left
    | cons y ys =>
      cases zs with
      | nil => cases right
      | cons z zs =>
        obtain ⟨leftFirst, leftOthers⟩ := Bool.and_eq_true_iff.mp left
        obtain ⟨rightFirst, rightOthers⟩ := Bool.and_eq_true_iff.mp right
        have first := h x List.mem_cons_self y List.mem_cons_self z List.mem_cons_self
        have others := ih (fun a ha b hb c hc => h a (.tail x ha) b (.tail y hb) c (.tail z hc))
          leftOthers rightOthers
        exact Bool.and_eq_true_iff.mpr ⟨first leftFirst rightFirst, others⟩

theorem option_comm {a b : Option α} (h : ∀ x ∈ a, ∀ y ∈ b, deepEq x y = deepEq y x) :
    deepEq a b = deepEq b a := by
  cases a with
  | none => cases b <;> rfl
  | some x =>
    cases b with
    | none => rfl
    | some y => exact h x rfl y rfl

theorem option_trans {a b c : Option α}
    (h : ∀ x ∈ a, ∀ y ∈ b, ∀ z ∈ c, deepEq x y = true → deepEq y z = true → deepEq x z = true)
    (left : deepEq a b = true) (right : deepEq b c = true) : deepEq a c = true := by
  cases a with
  | none =>
    cases b with
    | none => exact right
    | some y => cases left
  | some x =>
    cases b with
    | none => cases left
    | some y =>
      cases c with
      | none => cases right
      | some z => exact h x rfl y rfl z rfl left right

end Containers

end DeepEq

/-! ### What is compared -/

/-- The types whose values are compared. -/
inductive Comparand where
  | document
  | fields
  | object
  | text
  | list (items : Comparand)
  | option (value : Comparand)

namespace Comparand

def Value : Comparand → Type
  | document => Json
  | fields => Fields
  | object => MappedObject
  | text => String
  | list k => List k.Value
  | option k => Option k.Value

/-- How the values of a type are compared. -/
@[reducible]
def comparison : (k : Comparand) → DeepEq k.Value
  | document => inferInstanceAs (DeepEq Json)
  | fields => ⟨Fields.equal⟩
  | object => inferInstanceAs (DeepEq MappedObject)
  | text => inferInstanceAs (DeepEq String)
  | list k =>
    letI := k.comparison
    inferInstanceAs (DeepEq (List k.Value))
  | option k =>
    letI := k.comparison
    inferInstanceAs (DeepEq (Option k.Value))

instance (k : Comparand) : DeepEq k.Value := k.comparison

/-- Keys increase in every object, and every number is one of the set. The id of a mapped object is
no number of a document, and is compared exactly. -/
def Over (S : Number → Prop) : (k : Comparand) → k.Value → Prop
  | document, x => Json.Over S x
  | fields, x => Json.Over S (.obj x)
  | object, o => Json.Over S (.obj o.extra)
  | text, _ => True
  | list k, (xs : List k.Value) => ∀ x ∈ xs, k.Over S x
  | option k, (x : Option k.Value) => ∀ y ∈ x, k.Over S y

/-- Keys increase in every object. -/
def Ordered (k : Comparand) : k.Value → Prop := k.Over fun _ => True

variable {S : Number → Prop} {k : Comparand} {a b c : k.Value}

theorem deepEq_refl (ha : k.Over S a) : deepEq a a = true := by
  induction k with
  | document => exact Json.equal_refl ha.1
  | fields => exact Json.equal_refl ha.1
  | object => exact Bool.and_eq_true_iff.mpr ⟨beq_self_eq_true a.id, Json.equal_refl ha.1⟩
  | text => exact beq_self_eq_true (α := String) a
  | list k ih => exact DeepEq.list_refl fun x mem => ih (ha x mem)
  | option k ih => exact DeepEq.option_refl fun x mem => ih (ha x mem)

theorem deepEq_comm (ha : k.Over S a) (hb : k.Over S b) : deepEq a b = deepEq b a := by
  induction k with
  | document => exact Json.equal_comm ha.1 hb.1
  | fields => exact Json.equal_comm ha.1 hb.1
  | object => exact congrArg₂ and (Bool.beq_comm (a := a.id)) (Json.equal_comm ha.1 hb.1)
  | text => exact Bool.beq_comm (α := String)
  | list k ih => exact DeepEq.list_comm fun x hx y hy => ih (ha x hx) (hb y hy)
  | option k ih => exact DeepEq.option_comm fun x hx y hy => ih (ha x hx) (hb y hy)

theorem deepEq_trans (apart : Number.Apart S) (ha : k.Over S a) (hb : k.Over S b)
    (hc : k.Over S c) (left : deepEq a b = true) (right : deepEq b c = true) :
    deepEq a c = true := by
  induction k with
  | document => exact Json.equal_trans apart ha hb hc left right
  | fields => exact Json.equal_trans apart ha hb hc left right
  | object =>
    obtain ⟨leftId, leftFields⟩ := Bool.and_eq_true_iff.mp left
    obtain ⟨rightId, rightFields⟩ := Bool.and_eq_true_iff.mp right
    have ids := (beq_iff_eq.mp leftId).trans (beq_iff_eq.mp rightId)
    exact Bool.and_eq_true_iff.mpr
      ⟨beq_iff_eq.mpr ids, Json.equal_trans apart ha hb hc leftFields rightFields⟩
  | text =>
    have same := (beq_iff_eq (α := String).mp left).trans (beq_iff_eq.mp right)
    exact beq_iff_eq (α := String).mpr same
  | list k ih =>
    exact DeepEq.list_trans (fun x hx y hy z hz => ih (ha x hx) (hb y hy) (hc z hz)) left right
  | option k ih =>
    exact DeepEq.option_trans (fun x hx y hy z hz => ih (ha x hx) (hb y hy) (hc z hz)) left right

theorem deepEq_congr (apart : Number.Apart S) {d : k.Value} (ha : k.Over S a) (hb : k.Over S b)
    (hc : k.Over S c) (hd : k.Over S d) (left : deepEq a b = true) (right : deepEq c d = true) :
    deepEq a c = deepEq b d := by
  have leftBack : deepEq b a = true := deepEq_comm ha hb ▸ left
  have rightBack : deepEq d c = true := deepEq_comm hc hd ▸ right
  rw [Bool.eq_iff_iff]
  constructor
  · intro same
    exact deepEq_trans apart hb hc hd (deepEq_trans apart hb ha hc leftBack same) right
  · intro same
    exact deepEq_trans apart ha hd hc (deepEq_trans apart ha hb hd left same) rightBack

end Comparand

/-! ### What changed -/

namespace Change

variable {α : Type} [DeepEq α] {previous current remote : α}

theorem conflict_comm (comm : deepEq current remote = deepEq remote current) :
    (between previous current remote).conflict = (between previous remote current).conflict := by
  rw [between, between, comm, Bool.and_comm (!deepEq previous remote)]

theorem not_conflict_of_equal (same : deepEq previous remote = true ∨
    deepEq previous current = true ∨ deepEq current remote = true) :
    (between previous current remote).conflict = false := by
  rcases same with same | same | same <;> simp [between, same]

theorem between_eq_of_equalities {p c r : α} (edited : deepEq previous current = deepEq p c)
    (moved : deepEq previous remote = deepEq p r) (apart : deepEq current remote = deepEq c r) :
    between previous current remote = between p c r := by
  rw [between, between, edited, moved, apart]

end Change

/-- Equality by value on every type that is compared. It is reflexive and symmetric, so a conflict
does not depend on which side is called local, and two equal versions are in none. Among values
with safe numbers it is transitive, and what changed is the same for equal versions. -/
theorem Comparand.equality_laws (k : Comparand) :
    (∀ a, k.Ordered a → deepEq a a = true) ∧
      (∀ a b, k.Ordered a → k.Ordered b → deepEq a b = deepEq b a) ∧
      (∀ a b c, k.Over Number.IsSafe a → k.Over Number.IsSafe b → k.Over Number.IsSafe c →
        deepEq a b = true → deepEq b c = true → deepEq a c = true) ∧
      (∀ p c r, k.Ordered p → k.Ordered c → k.Ordered r →
        (Change.between p c r).conflict = (Change.between p r c).conflict ∧
          (deepEq p r = true ∨ deepEq p c = true ∨ deepEq c r = true →
            (Change.between p c r).conflict = false)) ∧
      ∀ p p' c c' r r', k.Over Number.IsSafe p → k.Over Number.IsSafe p' →
        k.Over Number.IsSafe c → k.Over Number.IsSafe c' →
        k.Over Number.IsSafe r → k.Over Number.IsSafe r' →
        deepEq p p' = true → deepEq c c' = true → deepEq r r' = true →
        Change.between p c r = Change.between p' c' r' := by
  have apart := Number.exact_isSafe.apart
  refine ⟨fun a => deepEq_refl, fun a b => deepEq_comm, fun a b c => deepEq_trans apart,
    fun p c r hp hc hr => ⟨?_, ?_⟩, ?_⟩
  · exact Change.conflict_comm (deepEq_comm hc hr)
  · exact Change.not_conflict_of_equal
  · intro p p' c c' r r' hp hp' hc hc' hr hr' loaded edited remote
    exact Change.between_eq_of_equalities (deepEq_congr apart hp hp' hc hc' loaded edited)
      (deepEq_congr apart hp hp' hr hr' loaded remote)
      (deepEq_congr apart hc hc' hr hr' edited remote)

/-- A list of one mapped object, of which one version has a field as an integer and one as a
float. -/
theorem Comparand.equality_laws_of_objects :
    let k := Comparand.option (.list .object)
    let held (n : Number) : k.Value := some [⟨⟨7, by decide⟩, [("rank", .num n)]⟩]
    let a := held (.int 5 (by decide))
    let b := held (.float ⟨false, 5629499534213120, 1024, by decide, by decide, by decide⟩)
    let c : k.Value := none
    k.Over Number.IsSafe a ∧ k.Over Number.IsSafe b ∧ k.Over Number.IsSafe c ∧
      deepEq a b = true ∧ deepEq b a = true ∧ (Change.between a b c).conflict = false ∧
      Change.between c a b = Change.between c b a ∧ Change.between c a b = ⟨false, true⟩ := by
  intro k held a b c
  have inside_of {S : Number → Prop} {n : Number} (inside : S n) : k.Over S (held n) := by
    intro list there object mem
    obtain rfl := Option.some.inj there
    obtain rfl := List.mem_singleton.mp mem
    refine ⟨by simp [Fields.keys, Json.Ordered, Json.OrderedFields], ?_⟩
    simp [inside]
  have none_over {S : Number → Prop} : k.Over S c := by
    intro list there
    exact absurd there (Option.not_mem_none list)
  have overA : k.Over Number.IsSafe a := inside_of ⟨by decide, by decide⟩
  have overB : k.Over Number.IsSafe b := inside_of trivial
  obtain ⟨refl, comm, -, conflicts, congr⟩ := Comparand.equality_laws k
  have same : deepEq a b = true := by decide +kernel
  have back : deepEq b a = true := comm a b (inside_of trivial) (inside_of trivial) ▸ same
  refine ⟨overA, overB, none_over, same, back, ?_, ?_, by decide +kernel⟩
  · exact (conflicts a b c (inside_of trivial) (inside_of trivial) none_over).2
      (Or.inr (Or.inl same))
  · exact congr c c a b b a none_over none_over overA overB overB overA
      (refl c none_over) same back

end Writeback
