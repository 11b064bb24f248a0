import Mathlib.Algebra.Order.Field.Rat
import Mathlib.Tactic.Linarith
import Mathlib.Tactic.Positivity
import Mathlib.Tactic.Ring
import Writeback.Json.Basic

/-!
# Integers as floats

An integer becomes a float by rounding to a multiple of the unit at its size, so that no float is
nearer to it. Hence an integer that some float holds becomes that float. Up to `2 ^ 53` these are
all integers, and a larger one stays at least as large as those.

Distances are taken in multiples of `2 ^ (-1074)`, where every float is an integer.
-/

namespace Writeback

namespace Binary64

/-! ### Rounded quotients -/

theorem roundDiv_of_dvd {num den : Nat} (pos : 0 < den) (h : den ∣ num) :
    roundDiv num den = num / den := by
  simp [roundDiv, Nat.mod_eq_zero_of_dvd h, pos]

theorem div_le_roundDiv (num den : Nat) : num / den ≤ roundDiv num den := by
  unfold roundDiv
  dsimp only
  split_ifs <;> omega

theorem roundDiv_le (num den : Nat) : roundDiv num den ≤ num / den + 1 := by
  unfold roundDiv
  dsimp only
  split_ifs <;> omega

theorem cast_eq_div_add_mod (num den : Nat) :
    (num : Int) = (num / den : Nat) * den + (num % den : Nat) := by
  exact_mod_cast (Nat.div_add_mod' num den).symm

/-- A rounded quotient is off by no more than the remainder, and by no more than what it lacks. -/
theorem abs_sub_roundDiv_le (num : Nat) {den : Nat} (pos : 0 < den) :
    |(num : Int) - roundDiv num den * den| ≤ (num % den : Nat) ∧
      |(num : Int) - roundDiv num den * den| ≤ den - (num % den : Nat) := by
  have split := cast_eq_div_add_mod num den
  have small := Nat.mod_lt num pos
  have down : (num : Int) - (num / den : Nat) * den = (num % den : Nat) := by
    rw [split]
    ring
  have up : (num : Int) - (num / den + 1 : Nat) * den = (num % den : Nat) - den := by
    rw [split, Nat.cast_succ]
    ring
  have below (less : 2 * (num % den) ≤ den) :
      |(num : Int) - (num / den : Nat) * den| ≤ (num % den : Nat) ∧
        |(num : Int) - (num / den : Nat) * den| ≤ den - (num % den : Nat) := by
    rw [down, abs_le, abs_le]
    omega
  have above (more : den ≤ 2 * (num % den)) :
      |(num : Int) - (num / den + 1 : Nat) * den| ≤ (num % den : Nat) ∧
        |(num : Int) - (num / den + 1 : Nat) * den| ≤ den - (num % den : Nat) := by
    rw [up, abs_le, abs_le]
    omega
  unfold roundDiv
  dsimp only
  split_ifs with less more
  · exact below less.le
  · exact above more.le
  · -- A tie goes to the even quotient.
    rcases Nat.mod_two_eq_zero_or_one (num / den) with even | odd
    · rw [even, Nat.add_zero]
      exact below (by omega)
    · rw [odd]
      exact above (by omega)

/-- A multiple of the divisor is off by at least the remainder, or by at least what it lacks. -/
theorem le_abs_sub_mul (num den k : Nat) :
    ((num % den : Nat) : Int) ≤ |(num : Int) - k * den| ∨
      (den : Int) - (num % den : Nat) ≤ |(num : Int) - k * den| := by
  have split := cast_eq_div_add_mod num den
  rcases Nat.lt_or_ge (num / den) k with more | less
  · right
    have reach : ((num / den + 1 : Nat) : Int) * den ≤ k * den := by
      exact_mod_cast Nat.mul_le_mul_right den more
    rw [Nat.cast_succ] at reach
    rw [le_abs]
    right
    linarith
  · left
    have reach : (k : Int) * den ≤ (num / den : Nat) * den := by
      exact_mod_cast Nat.mul_le_mul_right den less
    rw [le_abs]
    left
    linarith

/-- No multiple of the divisor is nearer than the rounded one. -/
theorem roundDiv_nearest (num : Nat) {den : Nat} (pos : 0 < den) (k : Nat) :
    |(num : Int) - roundDiv num den * den| ≤ |(num : Int) - k * den| := by
  obtain ⟨remainder, lack⟩ := abs_sub_roundDiv_le num pos
  rcases le_abs_sub_mul num den k with far | far
  · exact remainder.trans far
  · exact lack.trans far

/-! ### Large numbers -/

theorem log2_mul_two_pow {m : Nat} (pos : m ≠ 0) (e : Nat) : (m * 2 ^ e).log2 = m.log2 + e := by
  have ne : m * 2 ^ e ≠ 0 := Nat.mul_ne_zero pos (Nat.two_pow_pos e).ne'
  rw [Nat.log2_eq_iff ne, Nat.pow_add]
  refine ⟨Nat.mul_le_mul_right _ (Nat.log2_self_le pos), ?_⟩
  calc m * 2 ^ e < 2 ^ (m.log2 + 1) * 2 ^ e :=
        Nat.mul_lt_mul_of_pos_right Nat.lt_log2_self (Nat.two_pow_pos e)
    _ = 2 ^ (m.log2 + e + 1) := by rw [← Nat.pow_add, Nat.add_right_comm]

theorem scale_eq : scale = 2 ^ 1074 := by
  delta scale
  -- With the exponent in sight the power would be evaluated.
  generalize 1074 = exponent
  exact Nat.pow_eq

/-- The significand before rounding fills its 53 bits. -/
theorem div_unit_bounds {q : Nat} (large : 52 ≤ q.log2) :
    2 ^ 52 ≤ q / 2 ^ (q.log2 - 52) ∧ q / 2 ^ (q.log2 - 52) < 2 ^ 53 := by
  have ne : q ≠ 0 := by
    rintro rfl
    simp at large
  have split : 2 ^ q.log2 = 2 ^ 52 * 2 ^ (q.log2 - 52) := by
    rw [← Nat.pow_add, Nat.add_sub_cancel' large]
  rw [Nat.le_div_iff_mul_le (Nat.two_pow_pos _), Nat.div_lt_iff_lt_mul (Nat.two_pow_pos _), ← split]
  refine ⟨Nat.log2_self_le ne, Nat.lt_log2_self.trans_eq ?_⟩
  rw [Nat.pow_succ, split]
  ring

/-- Rounding a number of more than 52 bits. -/
theorem ofMagnitude?_of_large {q : Nat} (negative : Bool) (large : 52 ≤ q.log2)
    (small : q.log2 ≤ 2096) :
    ∃ x, ofMagnitude? negative q 1 = some x ∧ x.negative = negative ∧
      x.magnitude = roundDiv q (2 ^ (q.log2 - 52)) * 2 ^ (q.log2 - 52) := by
  obtain ⟨low, high⟩ := div_unit_bounds large
  have down := div_le_roundDiv q (2 ^ (q.log2 - 52))
  have up := roundDiv_le q (2 ^ (q.log2 - 52))
  unfold ofMagnitude?
  simp only [Nat.div_one, Nat.one_mul, unitFor, Nat.pow_eq]
  split
  · next full =>
    have fits : 2 ^ 52 < 2 ^ 53 ∧ (2 ^ 52 ≤ 2 ^ 52 ∨ q.log2 - 52 + 1 = 0) ∧
        q.log2 - 52 + 1 ≤ 2045 := by omega
    refine ⟨_, dif_pos fits, rfl, ?_⟩
    change 2 ^ 52 * 2 ^ (q.log2 - 52 + 1) = _
    rw [full, Nat.pow_succ]
    ring
  · next less =>
    have fits : roundDiv q (2 ^ (q.log2 - 52)) < 2 ^ 53 ∧
        (2 ^ 52 ≤ roundDiv q (2 ^ (q.log2 - 52)) ∨ q.log2 - 52 = 0) ∧
        q.log2 - 52 ≤ 2045 := by omega
    exact ⟨_, dif_pos fits, rfl, rfl⟩

/-- No float is nearer to a number of more than 52 bits than its rounded quotient. -/
theorem magnitude_nearest {q : Nat} (large : 52 ≤ q.log2) (y : Binary64) :
    |(q : Int) - (roundDiv q (2 ^ (q.log2 - 52)) * 2 ^ (q.log2 - 52) : Nat)| ≤
      |(q : Int) - y.magnitude| := by
  have nearest (k : Nat) := roundDiv_nearest q (Nat.two_pow_pos (q.log2 - 52)) k
  rw [Nat.cast_mul]
  rcases Nat.lt_or_ge y.unit (q.log2 - 52) with finer | coarser
  · -- A float of a finer unit is at most the least one with the unit of the quotient.
    have bound : y.magnitude ≤ 2 ^ 52 * 2 ^ (q.log2 - 52) := by
      calc y.magnitude ≤ 2 ^ 53 * 2 ^ y.unit := Nat.mul_le_mul_right _ y.significand_lt.le
        _ = 2 ^ 52 * 2 ^ (y.unit + 1) := by ring
        _ ≤ 2 ^ 52 * 2 ^ (q.log2 - 52) :=
          Nat.mul_le_mul_left _ (Nat.pow_le_pow_right (by decide) finer)
    have least : 2 ^ 52 * 2 ^ (q.log2 - 52) ≤ q :=
      (Nat.le_div_iff_mul_le (Nat.two_pow_pos _)).mp (div_unit_bounds large).1
    refine (nearest (2 ^ 52)).trans ?_
    rw [← Nat.cast_mul, abs_of_nonneg (by omega), abs_of_nonneg (by omega)]
    omega
  · have multiple : y.magnitude = y.significand * 2 ^ (y.unit - (q.log2 - 52)) *
        2 ^ (q.log2 - 52) := by
      rw [Nat.mul_assoc, ← Nat.pow_add, Nat.sub_add_cancel coarser]
      rfl
    rw [multiple, Nat.cast_mul (_ * _)]
    exact nearest _

theorem abs_scaled (x : Binary64) : |x.scaled| = x.magnitude := by
  unfold scaled
  split
  · rw [abs_neg, Nat.abs_cast]
  · exact Nat.abs_cast _

end Binary64

namespace Number

/-! ### Rounded integers -/

section Integers

variable {n : Int} (range : -0x8000000000000000 ≤ n ∧ n < 0x10000000000000000)
include range

/-- An integer is rounded to a multiple of the unit at its size, and keeps its sign. -/
theorem floatOfInt_eq (ne : n ≠ 0) {q : Nat} (hq : q = n.natAbs * Binary64.scale) :
    52 ≤ q.log2 ∧ q.log2 = n.natAbs.log2 + 1074 ∧ (floatOfInt n).negative = decide (n < 0) ∧
      (floatOfInt n).magnitude =
        Binary64.roundDiv q (2 ^ (q.log2 - 52)) * 2 ^ (q.log2 - 52) := by
  have pos : n.natAbs ≠ 0 := Int.natAbs_ne_zero.mpr ne
  have log : q.log2 = n.natAbs.log2 + 1074 := by
    rw [hq, Binary64.scale_eq, Binary64.log2_mul_two_pow pos]
  have inRange : n.natAbs < 2 ^ 64 := by omega
  have below : n.natAbs.log2 < 64 := (Nat.log2_lt pos).mpr inRange
  have low : 52 ≤ q.log2 := by omega
  have high : q.log2 ≤ 2096 := by omega
  obtain ⟨x, rounded, sign, magnitude⟩ := Binary64.ofMagnitude?_of_large (decide (n < 0)) low high
  have float : floatOfInt n = x := by
    simp only [floatOfInt, Binary64.ofRatio?, ← hq, rounded, Option.getD_some]
  rw [float]
  exact ⟨low, log, sign, magnitude⟩

theorem scaled_floatOfInt (ne : n ≠ 0) :
    (floatOfInt n).scaled =
      if n < 0 then -((floatOfInt n).magnitude : Int) else ((floatOfInt n).magnitude : Int) := by
  obtain ⟨-, -, sign, -⟩ := floatOfInt_eq range ne rfl
  simp only [Binary64.scaled, sign, decide_eq_true_eq]

/-- An integer is rounded to a float of the same sign; one of up to 53 bits is that float, and a
larger one stays at least as large as those. -/
theorem floatOfInt_spec (ne : n ≠ 0) :
    (floatOfInt n).negative = decide (n < 0) ∧
      (n.natAbs ≤ 2 ^ 53 → (floatOfInt n).magnitude = n.natAbs * Binary64.scale) ∧
      (2 ^ 53 ≤ n.natAbs → 2 ^ 53 * Binary64.scale ≤ (floatOfInt n).magnitude) := by
  have pos : n.natAbs ≠ 0 := Int.natAbs_ne_zero.mpr ne
  obtain ⟨low, log, sign, magnitude⟩ := floatOfInt_eq range ne rfl
  refine ⟨sign, fun small => ?_, fun large => ?_⟩
  · have exact_unit : 2 ^ ((n.natAbs * Binary64.scale).log2 - 52) ∣ n.natAbs * Binary64.scale := by
      rw [log, Binary64.scale_eq]
      rcases Nat.lt_or_eq_of_le small with less | full
      · have short : n.natAbs.log2 < 53 := (Nat.log2_lt pos).mpr less
        exact (pow_dvd_pow 2 (by omega)).trans (dvd_mul_left (2 ^ 1074) _)
      · rw [full, Nat.log2_two_pow]
        exact (pow_dvd_pow 2 (by decide)).trans (pow_add 2 53 1074).dvd
    rw [magnitude, Binary64.roundDiv_of_dvd (Nat.two_pow_pos _) exact_unit,
      Nat.div_mul_cancel exact_unit]
  · have long : 53 ≤ n.natAbs.log2 := (Nat.le_log2 pos).mpr large
    have down := (Binary64.div_unit_bounds low).1.trans (Binary64.div_le_roundDiv _ _)
    have unit : 2 ^ 1075 ≤ 2 ^ ((n.natAbs * Binary64.scale).log2 - 52) :=
      pow_le_pow_right₀ (by decide) (by omega)
    rw [magnitude]
    calc 2 ^ 53 * Binary64.scale = 2 ^ 52 * 2 ^ 1075 := by
          rw [Binary64.scale_eq, ← pow_add, ← pow_add]
      _ ≤ _ := Nat.mul_le_mul down unit

/-- No float is nearer to an integer than the one it is rounded to. -/
theorem floatOfInt_nearest (y : Binary64) :
    |n * Binary64.scale - (floatOfInt n).scaled| ≤ |n * Binary64.scale - y.scaled| := by
  rcases eq_or_ne n 0 with rfl | ne
  · have zero : (floatOfInt 0).scaled = 0 := by decide +kernel
    rw [zero, zero_mul, sub_zero, abs_zero]
    exact abs_nonneg _
  · obtain ⟨large, -, -, magnitude⟩ := floatOfInt_eq range ne rfl
    have nearest := Binary64.magnitude_nearest large y
    have size : |n * (Binary64.scale : Int)| = (n.natAbs * Binary64.scale : Nat) := by
      rw [abs_mul, Int.abs_eq_natAbs, Nat.abs_cast, Nat.cast_mul]
    have own : |n * (Binary64.scale : Int) - (floatOfInt n).scaled| =
        |((n.natAbs * Binary64.scale : Nat) : Int) - (floatOfInt n).magnitude| := by
      rw [scaled_floatOfInt range ne, ← size]
      split
      · next negative =>
        have scale_nonneg : (0 : Int) ≤ Binary64.scale := Int.natCast_nonneg _
        rw [abs_of_nonpos (mul_nonpos_of_nonpos_of_nonneg negative.le scale_nonneg), ← abs_neg]
        congr 1
        ring
      · next positive =>
        rw [abs_of_nonneg (mul_nonneg (not_lt.mp positive) (Int.natCast_nonneg _))]
    have other : |((n.natAbs * Binary64.scale : Nat) : Int) - y.magnitude| ≤
        |n * (Binary64.scale : Int) - y.scaled| := by
      rw [← size, ← Binary64.abs_scaled]
      exact abs_abs_sub_abs_le _ _
    rw [own, magnitude]
    exact nearest.trans other

/-- An integer that a float holds is rounded to that float. -/
theorem scaled_floatOfInt_of_eq {x : Binary64} (held : n * Binary64.scale = x.scaled) :
    (floatOfInt n).scaled = x.scaled := by
  have nearest := floatOfInt_nearest range x
  rw [held, sub_self, abs_zero, abs_nonpos_iff] at nearest
  exact (sub_eq_zero.mp nearest).symm

theorem scaled_floatOfInt_of_small (small : n.natAbs ≤ 2 ^ 53) :
    (floatOfInt n).scaled = n * Binary64.scale := by
  rcases eq_or_ne n 0 with rfl | ne
  · decide +kernel
  · have exact_magnitude := (floatOfInt_spec range ne).2.1 small
    rw [scaled_floatOfInt range ne, exact_magnitude, Nat.cast_mul]
    split
    · next negative =>
      rw [Int.ofNat_natAbs_of_nonpos negative.le]
      ring
    · next positive => rw [Int.natAbs_of_nonneg (not_lt.mp positive)]

end Integers

/-! ### Values -/

/-- The value. -/
def value : Number → ℚ
  | int n _ => n
  | float x => x.scaled / 2 ^ 1074

theorem cast_scale : ((Binary64.scale : Int) : ℚ) = 2 ^ 1074 := by
  rw [Binary64.scale_eq, Int.cast_natCast, Nat.cast_pow, Nat.cast_ofNat]

theorem value_float_mul (x : Binary64) : (float x).value * 2 ^ 1074 = x.scaled :=
  div_mul_cancel₀ _ (by positivity)

theorem value_int_mul {n : Int} (range : -0x8000000000000000 ≤ n ∧ n < 0x10000000000000000) :
    (int n range).value * 2 ^ 1074 = (n * Binary64.scale : Int) := by
  rw [Int.cast_mul, cast_scale, value]

end Number

end Writeback
