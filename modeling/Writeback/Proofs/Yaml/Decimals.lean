import Mathlib.Tactic.IntervalCases
import Writeback.Proofs.Yaml.PlainLine

/-!
# Decimal numbers as plain scalars

The decimal digits of a number are a plain scalar on one line, and it is read as the number again:
the digits have no sign and no leading zero, so nothing but their values in base ten is read.
-/

namespace Writeback.Yaml

theorem toNat_of_isDigit {c : Char} (digit : c.isDigit = true) : 48 ≤ c.toNat ∧ c.toNat ≤ 57 := by
  simpa [Char.isDigit, UInt32.le_iff_toNat_le] using digit

/-- What holds of the ten digits holds of every digit. -/
theorem of_isDigit {p : Char → Bool} (ten : "0123456789".toList.all p = true) {c : Char}
    (digit : c.isDigit = true) : p c = true := by
  have mem : c ∈ "0123456789".toList := by
    obtain ⟨lower, upper⟩ := toNat_of_isDigit digit
    rw [← Char.ofNat_toNat c]
    interval_cases c.toNat <;> decide
  exact List.all_eq_true.mp ten c mem

/-- The first digit of a positive number is not zero. -/
theorem toDigits_eq_cons {n : Nat} (positive : 0 < n) :
    ∃ c cs, Nat.toDigits 10 n = c :: cs ∧ c ≠ '0' := by
  induction n using Nat.strongRecOn with
  | ind n ih =>
    rw [Nat.toDigits_eq_if (by decide)]
    split
    · next small =>
      refine ⟨_, [], rfl, ?_⟩
      interval_cases n <;> decide
    · next large =>
      obtain ⟨c, cs, split, ne⟩ := ih (n / 10) (by omega) (by omega)
      exact ⟨c, cs ++ [(n % 10).digitChar], by rw [split, List.cons_append], ne⟩

theorem isDigit_of_mem_toString {n : Nat} {c : Char} (mem : c ∈ (toString n).toList) :
    c.isDigit = true := by
  rw [Nat.toString_eq_repr, Nat.toList_repr] at mem
  exact Nat.isDigit_of_mem_toDigits (by decide) (Nat.le_refl 10) mem

theorem mapM_hexDigit? {cs : List Char} (digits : ∀ c ∈ cs, c.isDigit = true) :
    cs.mapM Text.hexDigit? = some (cs.map fun c => c.toNat - '0'.toNat) := by
  induction cs with
  | nil => rfl
  | cons c cs ih =>
    obtain ⟨first, others⟩ := List.forall_mem_cons.mp digits
    simp [List.mapM_cons, ih others, Text.hexDigit?, first]

/-- The digits of a number are read as their values, and these make the number. -/
theorem exists_digitValues (n : Nat) :
    ∃ values, (toString n).toList.mapM Text.hexDigit? = some values ∧ (∀ d ∈ values, d < 10) ∧
      values.foldl (fun n d => n * 10 + d) 0 = n := by
  refine ⟨_, mapM_hexDigit? fun c => isDigit_of_mem_toString, ?_, ?_⟩
  · intro d mem
    obtain ⟨c, inside, rfl⟩ := List.mem_map.mp mem
    have range := toNat_of_isDigit (isDigit_of_mem_toString inside)
    have zero : '0'.toNat = 48 := rfl
    omega
  · have value := @Nat.ofDigitChars_ten_toDigits n
    rw [Nat.ofDigitChars_eq_foldl] at value
    rw [List.foldl_map, Nat.toString_eq_repr, Nat.toList_repr]
    simpa only [Nat.mul_comm] using value

theorem unsigned?_toString (n : Nat) : unsigned? (toString n).toList = some n := by
  obtain ⟨values, read, small, value⟩ := exists_digitValues n
  rcases Nat.eq_zero_or_pos n with rfl | positive
  · rfl
  · obtain ⟨c, cs, split, ne⟩ := toDigits_eq_cons positive
    have digits : (toString n).toList = c :: cs := by
      rw [Nat.toString_eq_repr, Nat.toList_repr, split]
    have sign : c ≠ '+' := by
      rintro rfl
      have digit : '+'.isDigit = true :=
        isDigit_of_mem_toString (n := n) (digits ▸ List.mem_cons_self)
      cases digit
    rw [digits] at read ⊢
    simpa [unsigned?, sign, ne, -List.mapM_cons, read, value] using small

theorem goesThrough_of_isDigit (after : Char) {cs : List Char}
    (digits : ∀ c ∈ cs, c.isDigit = true) : goesThrough after false cs = true := by
  induction cs with
  | nil => rfl
  | cons c cs ih =>
    obtain ⟨first, others⟩ := List.forall_mem_cons.mp digits
    have solid := of_isDigit (p := fun c => !isBlank c && isLineChar c && c != ':') (by decide)
      first
    simp only [Bool.and_eq_true, Bool.not_eq_true', bne_iff_ne] at solid
    simp [goesThrough, solid, endsAtColon, ih others]

theorem startsPlain_of_isDigit {c : Char} (digit : c.isDigit = true) (rest : List Char) :
    startsPlain false (c :: rest) = true := by
  have solid := of_isDigit (p := fun c => c != '-' && c != '?' && c != ':' && !(isBlank c ||
    isBreak c || isFlowMark c || "#&*!|>'\"%@`".toList.contains c)) (by decide) digit
  simp only [Bool.and_eq_true, Bool.not_eq_true', bne_iff_ne] at solid
  obtain ⟨⟨⟨dash, mark⟩, colon⟩, other⟩ := solid
  rw [startsPlain, if_neg dash, if_neg (by simp [mark, colon]), other]
  rfl

theorem isPlainLine_toString (after : Char) (n : Nat) :
    isPlainLine after (toString n).toList = true := by
  have digits : ∀ c ∈ (toString n).toList, c.isDigit = true := fun c => isDigit_of_mem_toString
  have filled : (toString n).toList ≠ [] := by
    rw [Nat.toString_eq_repr, Nat.toList_repr]
    exact Nat.toDigits_ne_nil
  obtain ⟨c, cs, split⟩ := List.exists_cons_of_ne_nil filled
  rw [split] at digits ⊢
  have starts : startsPlain false (c :: (cs ++ [after])) = true :=
    startsPlain_of_isDigit (digits c List.mem_cons_self) _
  simp [isPlainLine, starts, goesThrough_of_isDigit after digits]

end Writeback.Yaml
