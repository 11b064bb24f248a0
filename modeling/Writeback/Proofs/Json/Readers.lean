import Writeback.Json.Shape
import Writeback.Proofs.Json.Ordered

/-!
# What readers make of a document

A list is read element by element: what was read came from an element, and elements that are read
back make a list that is read back. A record is read field by field, so whatever its field readers
keep while they fill it in holds when it is finished.
-/

namespace Writeback

namespace Reader

variable {α β : Type}

theorem bind_eq_ok {x : Except ShapeError α} {f : α → Except ShapeError β} {b : β} :
    (x >>= f) = .ok b ↔ ∃ a, x = .ok a ∧ f a = .ok b := by
  cases x <;> simp [bind, Except.bind]

/-- A list whose elements are read back is read back. -/
theorem list_arr_map {element : Reader α} {write : α → Json} {values : List α}
    (h : ∀ v ∈ values, element (write v) = .ok v) :
    list element (.arr (values.map write)) = .ok values := by
  induction values with
  | nil => rfl
  | cons v rest ih =>
    have first := h v List.mem_cons_self
    have others := ih fun w mem => h w (List.mem_cons_of_mem _ mem)
    rw [list] at others ⊢
    rw [List.map_cons, List.mapM_cons, first, others]
    rfl

/-- A list is read exactly when all its elements are. -/
theorem exists_list_arr_iff {element : Reader α} {items : List Json} :
    (∃ values, list element (.arr items) = .ok values) ↔
      ∀ item ∈ items, ∃ value, element item = .ok value := by
  simp only [list]
  induction items with
  | nil => simp [pure, Except.pure]
  | cons item rest ih =>
    rw [List.forall_mem_cons, ← ih]
    constructor
    · rintro ⟨values, h⟩
      rw [List.mapM_cons] at h
      obtain ⟨value, first, h⟩ := bind_eq_ok.mp h
      obtain ⟨others, tail, -⟩ := bind_eq_ok.mp h
      exact ⟨⟨value, first⟩, others, tail⟩
    · rintro ⟨⟨value, first⟩, others, tail⟩
      exact ⟨value :: others, by rw [List.mapM_cons, first, tail]; rfl⟩

/-- Every element of a list that was read was read from an element of the document. -/
theorem exists_of_list {element : Reader α} {x : Json} {values : List α}
    (h : list element x = .ok values) :
    ∃ items, x = .arr items ∧ ∀ v ∈ values, ∃ item ∈ items, element item = .ok v := by
  cases x with
  | arr items =>
    refine ⟨items, rfl, ?_⟩
    rw [list] at h
    induction items generalizing values with
    | nil =>
      cases h
      simp
    | cons item rest ih =>
      rw [List.mapM_cons] at h
      obtain ⟨w, first, h⟩ := bind_eq_ok.mp h
      obtain ⟨others, tail, h⟩ := bind_eq_ok.mp h
      cases h
      intro v mem
      rcases List.mem_cons.mp mem with rfl | mem
      · exact ⟨item, List.mem_cons_self, first⟩
      · obtain ⟨source, inside, read⟩ := ih tail v mem
        exact ⟨source, List.mem_cons_of_mem _ inside, read⟩
  | _ => cases h

theorem exists_ordered_of_list {element : Reader α} {x : Json} (hx : x.Ordered) {values : List α}
    (h : list element x = .ok values) :
    ∀ v ∈ values, ∃ item, item.Ordered ∧ element item = .ok v := by
  obtain ⟨items, rfl, sources⟩ := exists_of_list h
  intro v mem
  obtain ⟨item, inside, read⟩ := sources v mem
  exact ⟨item, Json.ordered_arr.mp hx item inside, read⟩

/-- A list whose elements are written back as they were read is written back as it was read. -/
theorem map_of_list {element : Reader α} {write : α → Json} {f : Json → Json} {items : List Json}
    {values : List α} (h : list element (.arr items) = .ok values)
    (back : ∀ item ∈ items, ∀ v, element item = .ok v → write v = f item) :
    values.map write = items.map f := by
  rw [list] at h
  induction items generalizing values with
  | nil =>
    cases h
    rfl
  | cons item rest ih =>
    rw [List.mapM_cons] at h
    obtain ⟨v, first, h⟩ := bind_eq_ok.mp h
    obtain ⟨others, tail, h⟩ := bind_eq_ok.mp h
    cases h
    obtain ⟨here, later⟩ := List.forall_mem_cons.mp back
    rw [List.map_cons, List.map_cons, here v first, ih tail later]

theorem eq_ok_of_optional {value : Reader α} {x : Json} {a : α}
    (h : optional value x = .ok (some a)) : value x = .ok a := by
  unfold optional at h
  split at h
  · cases h
  · cases read : value x with
    | error e =>
      rw [read] at h
      cases h
    | ok b =>
      rw [read] at h
      cases h
      rfl

theorem eq_null_of_optional {value : Reader α} {x : Json} (h : optional value x = .ok none) :
    x = .null := by
  unfold optional at h
  split at h
  · rfl
  · cases read : value x <;> rw [read] at h <;> cases h

end Reader

namespace RecordReader

variable {ρ α : Type} {r : RecordReader ρ α} {P : ρ → Prop}

/-- What the field readers of a record keep when they read ordered documents. -/
def Keeps (fields : FieldReaders ρ) (P : ρ → Prop) : Prop :=
  ∀ field ∈ fields, ∀ x acc acc', Json.Ordered x → P acc → field.2 x acc = .ok acc' → P acc'

theorem visit_keeps (keeps : Keeps r.fields P) {fields : Fields}
    (h : ∀ field ∈ fields, field.2.Ordered) {acc acc' : ρ} (start : P acc)
    (visited : r.visit fields acc = .ok acc') : P acc' := by
  induction fields generalizing acc with
  | nil =>
    cases visited
    exact start
  | cons field rest ih =>
    obtain ⟨key, x⟩ := field
    have others : ∀ field ∈ rest, field.2.Ordered := fun field mem => h field (.tail _ mem)
    rw [visit] at visited
    split at visited
    · next read found =>
      obtain ⟨before, after, split, -⟩ := List.lookup_eq_some_iff.mp found
      have known : (key, read) ∈ r.fields := by simp [split]
      obtain ⟨next, first, visited⟩ := Reader.bind_eq_ok.mp visited
      exact ih others (keeps _ known x acc next (h _ (.head _)) start first) visited
    · exact ih others start visited

theorem visitList_keeps {length : Nat} {fields : FieldReaders ρ} (keeps : Keeps fields P)
    {items : List Json} (h : ∀ x ∈ items, x.Ordered) {acc acc' : ρ} (start : P acc)
    (visited : r.visitList length fields items acc = .ok acc') : P acc' := by
  induction fields generalizing items acc with
  | nil =>
    cases items with
    | nil =>
      cases visited
      exact start
    | cons x rest => cases visited
  | cons field fields ih =>
    cases items with
    | nil =>
      rw [visitList] at visited
      split at visited
      · cases visited
        exact start
      · cases visited
    | cons x rest =>
      obtain ⟨next, first, visited⟩ := Reader.bind_eq_ok.mp visited
      have started := keeps field (.head _) x acc next (h x (.head _)) start first
      exact ih (fun field mem => keeps field (.tail _ mem)) (fun y mem => h y (.tail _ mem)) started
        visited

/-- A record is finished from what its field readers kept. -/
theorem exists_of_read (keeps : Keeps r.fields P) (start : P r.empty) {x : Json} (hx : x.Ordered)
    {a : α} (h : r.read x = .ok a) : ∃ acc, P acc ∧ r.finish acc = .ok a := by
  cases x with
  | obj fields =>
    obtain ⟨acc, visited, h⟩ := Reader.bind_eq_ok.mp h
    exact ⟨acc, visit_keeps keeps (Json.ordered_obj.mp hx).2 start visited, h⟩
  | arr items =>
    obtain ⟨acc, visited, h⟩ := Reader.bind_eq_ok.mp h
    exact ⟨acc, visitList_keeps keeps (Json.ordered_arr.mp hx) start visited, h⟩
  | _ => cases h

end RecordReader

theorem eq_some_of_required {α : Type} {field : String} {value : Option α} {a : α}
    (h : required field value = .ok a) : value = some a := by
  cases value with
  | none => cases h
  | some b =>
    cases h
    rfl

end Writeback
