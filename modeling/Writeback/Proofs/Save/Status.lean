import Writeback.Proofs.Number.Rounding
import Writeback.Save.Redistribution

/-!
# The status of an entry

A status is compared as a float. An integer of up to 53 bits is a float, and rounding takes no
larger one below `2 ^ 53`; so a status counts as success exactly when its value, whatever its
form, is from 200 up to but not including 300. A rejected save tells its status when the value, in
whatever form, is an integer from 0 to 65535.
-/

namespace Writeback

namespace Number

theorem isSuccess_int {n : Int} (range : -0x8000000000000000 ≤ n ∧ n < 0x10000000000000000) :
    (int n range).isSuccess = true ↔ 200 ≤ n ∧ n < 300 := by
  have pos : (0 : Int) < Binary64.scale := by
    rw [Binary64.scale_eq]
    positivity
  rw [isSuccess, toFloat, Bool.and_eq_true, decide_eq_true_iff, decide_eq_true_iff]
  by_cases small : n.natAbs ≤ 2 ^ 53
  · rw [scaled_floatOfInt_of_small range small, mul_le_mul_iff_left₀ pos, mul_lt_mul_iff_left₀ pos]
  · have ne : n ≠ 0 := by
      rintro rfl
      exact small (Nat.zero_le _)
    have most := (floatOfInt_spec range ne).2.2 (not_le.mp small).le
    rw [scaled_floatOfInt range ne]
    split <;> omega

/-- A status counts as success exactly when its value is from 200 up to but not including 300. -/
theorem isSuccess_iff (n : Number) : n.isSuccess = true ↔ 200 ≤ n.value ∧ n.value < 300 := by
  cases n with
  | int n range =>
    rw [isSuccess_int range, value]
    exact_mod_cast Iff.rfl
  | float x =>
    have pos : (0 : ℚ) < 2 ^ 1074 := by positivity
    rw [isSuccess, toFloat, Bool.and_eq_true, decide_eq_true_iff, decide_eq_true_iff, value,
      le_div_iff₀ pos, div_lt_iff₀ pos, ← cast_scale]
    exact_mod_cast Iff.rfl

/-- No larger integer is rounded to one of up to 53 bits. -/
theorem scaled_floatOfInt_eq_iff {n m : Int} (small : m.natAbs < 2 ^ 53)
    (range : -0x8000000000000000 ≤ n ∧ n < 0x10000000000000000) :
    (floatOfInt n).scaled = m * Binary64.scale ↔ n = m := by
  have pos : 0 < Binary64.scale := by
    rw [Binary64.scale_eq]
    positivity
  by_cases held : n.natAbs ≤ 2 ^ 53
  · rw [scaled_floatOfInt_of_small range held, mul_left_inj' (by omega)]
  · have ne : n ≠ 0 := by
      rintro rfl
      exact held (Nat.zero_le _)
    have most := (floatOfInt_spec range ne).2.2 (not_le.mp held).le
    constructor
    · intro same
      have size : (floatOfInt n).magnitude = m.natAbs * Binary64.scale := by
        have sizes := Binary64.abs_scaled (floatOfInt n)
        rw [same, abs_mul, Int.abs_eq_natAbs, Nat.abs_cast] at sizes
        exact_mod_cast sizes.symm
      rw [size] at most
      exact absurd (Nat.le_of_mul_le_mul_right most pos) small.not_ge
    · rintro rfl
      exact absurd small.le held

theorem scaled_toFloat_eq_iff {m : Int} (small : m.natAbs < 2 ^ 53) (x : Number) :
    x.toFloat.scaled = m * Binary64.scale ↔ x.value = m := by
  cases x with
  | int n range => rw [toFloat, scaled_floatOfInt_eq_iff small range, value, Int.cast_inj]
  | float x =>
    have unit : (2 : ℚ) ^ 1074 ≠ 0 := by positivity
    rw [toFloat, ← mul_left_inj' unit, value_float_mul, ← cast_scale]
    exact_mod_cast Iff.rfl

end Number

theorem Binary64.toInt?_eq_some_iff {x : Binary64} {n : Int} :
    x.toInt? = some n ↔ x.scaled = n * scale := by
  have pos : (scale : Int) ≠ 0 := by
    rw [scale_eq]
    positivity
  rw [toInt?, Option.ite_none_right_eq_some, Option.some.injEq, ← Int.dvd_iff_emod_eq_zero]
  constructor
  · rintro ⟨divides, rfl⟩
    exact (Int.ediv_mul_cancel divides).symm
  · intro same
    rw [same]
    exact ⟨dvd_mul_left _ _, Int.mul_ediv_cancel n pos⟩

theorem Json.exists_of_item?_zero {entry x : Json} (h : entry.item? 0 = some x) :
    ∃ rest, entry = .arr (x :: rest) := by
  cases entry with
  | arr items =>
    obtain ⟨rest, rfl⟩ := List.head?_eq_some_iff.mp (List.head?_eq_getElem?.trans h)
    exact ⟨rest, rfl⟩
  | _ => cases h

/-- An entry has a status when it is an array whose first element has the value of an integer from 0
to 65535. -/
theorem entryStatus?_eq_some_iff {entry : Json} {n : Nat} :
    entryStatus? entry = some n ↔
      ∃ x rest, entry = .arr (.num x :: rest) ∧ x.value = n ∧ n ≤ 65535 := by
  have whole (x : Number) (small : n ≤ 65535) :
      x.toFloat.toInt? = some (n : Int) ↔ x.value = n := by
    rw [Binary64.toInt?_eq_some_iff, Number.scaled_toFloat_eq_iff (by omega), Int.cast_natCast]
  constructor
  · intro status
    unfold entryStatus? at status
    split at status
    · next x first =>
      obtain ⟨rest, rfl⟩ := Json.exists_of_item?_zero first
      split at status
      · next code read =>
        rw [Option.ite_none_right_eq_some, Option.some.injEq] at status
        obtain ⟨range, rfl⟩ := status
        have small : code.toNat ≤ 65535 := by omega
        refine ⟨x, rest, rfl, (whole x small).mp ?_, small⟩
        rw [read, Int.toNat_of_nonneg range.1]
      · cases status
    · cases status
  · rintro ⟨x, rest, rfl, value, small⟩
    have read := (whole x small).mpr value
    simp only [entryStatus?, Json.item?, List.getElem?_cons_zero, read]
    rw [if_pos (by omega), Int.toNat_natCast]

end Writeback
