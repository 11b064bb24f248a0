import Writeback.Json.Basic

/-!
# Reading fields back

What `insert` and `erase` leave under each key, and that both keep the keys increasing. Erasing a
key removes its first field, so that nothing is left under it when no key is repeated.
-/

namespace Writeback.Fields

@[simp] theorem get?_nil (key : String) : get? [] key = none := rfl

theorem get?_cons (k : String) (v : Json) (rest : Fields) (key : String) :
    get? ((k, v) :: rest) key = if k = key then some v else get? rest key := rfl

theorem get?_insert (key : String) (value : Json) (fields : Fields) (other : String) :
    get? (insert key value fields) other =
      if key = other then some value else get? fields other := by
  induction fields with
  | nil => simp [insert, get?_cons]
  | cons field rest ih =>
    obtain ⟨k, v⟩ := field
    unfold insert
    split
    · rw [get?_cons]
    · split
      · rename_i h
        subst h
        by_cases ho : key = other <;> simp [get?_cons, ho]
      · rename_i h
        by_cases ho : k = other
        · have hk : key ≠ other := fun e => h (e.trans ho.symm)
          simp [get?_cons, ho, hk]
        · simp [get?_cons, ho, ih]

theorem get?_erase_of_ne {key other : String} (h : key ≠ other) (fields : Fields) :
    get? (erase key fields) other = get? fields other := by
  induction fields with
  | nil => rfl
  | cons field rest ih =>
    obtain ⟨k, v⟩ := field
    unfold erase
    split
    · rename_i hk
      subst hk
      simp [get?_cons, h]
    · simp [get?_cons, ih]

theorem get?_eq_none_of_notMem {fields : Fields} {key : String} (h : key ∉ keys fields) :
    get? fields key = none := by
  induction fields with
  | nil => rfl
  | cons field rest ih =>
    obtain ⟨k, v⟩ := field
    simp only [keys, List.map_cons, List.mem_cons, not_or] at h
    rw [get?_cons, if_neg (Ne.symm h.1)]
    exact ih h.2

theorem get?_erase_self {fields : Fields} (h : (keys fields).Pairwise (· < ·)) (key : String) :
    get? (erase key fields) key = none := by
  induction fields with
  | nil => rfl
  | cons field rest ih =>
    obtain ⟨k, v⟩ := field
    simp only [keys, List.map_cons, List.pairwise_cons] at h
    unfold erase
    split
    · rename_i hk
      subst hk
      exact get?_eq_none_of_notMem fun hmem => String.lt_irrefl k (h.1 k hmem)
    · rename_i hk
      rw [get?_cons, if_neg hk]
      exact ih h.2

theorem mem_keys_insert {key : String} {value : Json} {fields : Fields} {k : String} :
    k ∈ keys (insert key value fields) ↔ k = key ∨ k ∈ keys fields := by
  induction fields with
  | nil => simp [insert, keys]
  | cons field rest ih =>
    obtain ⟨l, v⟩ := field
    unfold insert
    simp only [keys, List.map_cons, List.mem_cons] at ih ⊢
    split
    · simp
    · split
      · rename_i h
        subst h
        simp
      · simp only [List.map_cons, List.mem_cons, ih]
        exact or_left_comm

theorem pairwise_keys_insert {fields : Fields} (h : (keys fields).Pairwise (· < ·))
    (key : String) (value : Json) : (keys (insert key value fields)).Pairwise (· < ·) := by
  induction fields with
  | nil => simp [insert, keys]
  | cons field rest ih =>
    obtain ⟨k, v⟩ := field
    have hcons := h
    simp only [keys, List.map_cons, List.pairwise_cons] at h
    unfold insert
    split
    · rename_i hlt
      simp only [keys, List.map_cons]
      refine List.Pairwise.cons ?_ hcons
      intro l hl
      rcases List.mem_cons.1 hl with rfl | hl
      · exact hlt
      · exact String.lt_trans hlt (h.1 l hl)
    · split
      · rename_i heq
        subst heq
        exact hcons
      · rename_i hlt hne
        simp only [keys, List.map_cons, List.pairwise_cons]
        refine ⟨?_, ih h.2⟩
        intro l hl
        rcases mem_keys_insert.1 hl with rfl | hl
        · exact String.not_le.1 fun hle => hne (String.le_antisymm hle (String.not_lt.1 hlt))
        · exact h.1 l hl

theorem mem_keys_of_mem_erase {key : String} {fields : Fields} {k : String}
    (h : k ∈ keys (erase key fields)) : k ∈ keys fields := by
  induction fields with
  | nil => exact h
  | cons field rest ih =>
    obtain ⟨l, v⟩ := field
    unfold erase at h
    split at h
    · exact List.mem_cons_of_mem _ h
    · rcases List.mem_cons.1 h with rfl | h
      · exact List.mem_cons_self
      · exact List.mem_cons_of_mem _ (ih h)

theorem pairwise_keys_erase {fields : Fields} (h : (keys fields).Pairwise (· < ·))
    (key : String) : (keys (erase key fields)).Pairwise (· < ·) := by
  induction fields with
  | nil => exact h
  | cons field rest ih =>
    obtain ⟨k, v⟩ := field
    simp only [keys, List.map_cons, List.pairwise_cons] at h
    unfold erase
    split
    · exact h.2
    · simp only [keys, List.map_cons, List.pairwise_cons]
      exact ⟨fun l hl => h.1 l (mem_keys_of_mem_erase hl), ih h.2⟩

end Writeback.Fields
