import Writeback.Text.CombiningClass
import Writeback.Text.Composites

/-!
# Canonical composition

Texts that differ only in how characters are composed, and in the order of marks that do not
interact, have one composed form: every composite is taken apart, the marks of each character are
put in the order of their classes, and what can be composed is composed again. Hangul syllables are
composed by arithmetic, all else by the table of composites.
-/

namespace Writeback.Text

/-- The two characters that a Hangul syllable stands for: the syllable without its last consonant,
and that consonant, or the first consonant and the vowel. -/
def hangulParts? (n : Nat) : Option (Nat × Nat) :=
  if 0xac00 ≤ n ∧ n < 0xd7a4 then
    let s := n - 0xac00
    if s % 28 = 0 then some (0x1100 + s / 588, 0x1161 + s / 28 % 21)
    else some (n - s % 28, 0x11a7 + s % 28)
  else none

def hangulWhole? (a b : Nat) : Option Nat :=
  if 0x1100 ≤ a ∧ a < 0x1113 ∧ 0x1161 ≤ b ∧ b < 0x1176 then
    some (0xac00 + ((a - 0x1100) * 21 + (b - 0x1161)) * 28)
  else if 0xac00 ≤ a ∧ a < 0xd7a4 ∧ (a - 0xac00) % 28 = 0 ∧ 0x11a7 < b ∧ b < 0x11c3 then
    some (a + (b - 0x11a7))
  else none

def parts? (c : Char) : Option (Char × Char) :=
  match hangulParts? c.toNat with
  | some (a, b) => some (Char.ofNat a, Char.ofNat b)
  | none =>
    match composites.find? fun (x : Composite) => x.whole = c.toNat with
    | some x => some (Char.ofNat x.first, Char.ofNat x.second)
    | none => none

def whole? (a b : Char) : Option Char :=
  match hangulWhole? a.toNat b.toNat with
  | some whole => some (Char.ofNat whole)
  | none =>
    match composites.find? fun (x : Composite) => x.first = a.toNat && x.second = b.toNat with
    | some x => some (Char.ofNat x.whole)
    | none => none

/-- A character taken apart; a composite is itself the first part of another at most `depth`
times over. -/
def decompose : (depth : Nat) → Char → List Char
  | 0, c => [c]
  | depth + 1, c =>
    match parts? c with
    | some (a, b) => decompose depth a ++ [b]
    | none => [c]

/-- Puts a character before others, behind the marks of smaller classes that they begin with. -/
def insertMark (c : Char) : List Char → List Char
  | [] => [c]
  | d :: rest =>
    if combiningClass d != 0 && combiningClass d < combiningClass c then d :: insertMark c rest
    else c :: d :: rest

/-- Puts the marks of every character in the order of their classes. -/
def orderMarks (cs : List Char) : List Char := cs.foldr insertMark []

/-- Composes what can be composed. `starter` is the last character of class zero, and `marks` are
those after it that were not composed with it, the last one first. A mark is composed with the
starter unless another mark between them is of the same class or a greater one. -/
def composeFrom : (starter : Char) → (marks : List Char) → List Char → List Char
  | starter, marks, [] => starter :: marks.reverse
  | starter, marks, c :: rest =>
    let reaches := match marks with
      | [] => true
      | mark :: _ => combiningClass mark < combiningClass c
    match (if reaches then whole? starter c else none) with
    | some whole => composeFrom whole marks rest
    | none =>
      if combiningClass c = 0 then starter :: (marks.reverse ++ composeFrom c [] rest)
      else composeFrom starter (c :: marks) rest

/-- Composes a text in which all composites are taken apart and all marks are in order. -/
def compose : List Char → List Char
  | [] => []
  | c :: rest => if combiningClass c = 0 then composeFrom c [] rest else c :: compose rest

def composed (cs : List Char) : List Char :=
  compose (orderMarks (cs.flatMap (decompose 4)))

end Writeback.Text
