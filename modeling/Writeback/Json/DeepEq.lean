import Writeback.Json.Basic

/-!
# Equality by value

Two versions of a value count as equal when they have the same shape and their numbers have the
same value, whatever form the numbers are written in: a server is free to send `5` back as `5.0`.
Strings, arrays and keys compare exactly.

Two numbers are compared as integers when both fit the signed or both fit the unsigned 64-bit
range, and otherwise as floats, where an integer counts as the nearest float.
-/

namespace Writeback

/-- Types whose values have an equality that ignores how numbers are written. -/
class DeepEq (α : Type) where
  deepEq : α → α → Bool

export DeepEq (deepEq)

namespace Number

/-- Whether the number is an integer in the signed 64-bit range. -/
def signed? : Number → Option Int
  | int n _ => if n < 0x8000000000000000 then some n else none
  | float _ => none

/-- Whether the number is an integer in the unsigned 64-bit range. -/
def unsigned? : Number → Option Int
  | int n _ => if 0 ≤ n then some n else none
  | float _ => none

def sameValue (a b : Number) : Bool :=
  match a.signed?, b.signed? with
  | some x, some y => x == y
  | _, _ =>
    match a.unsigned?, b.unsigned? with
    | some x, some y => x == y
    | _, _ => a.toFloat.scaled == b.toFloat.scaled

end Number

namespace Json

mutual

def equal : Json → Json → Bool
  | null, null => true
  | bool a, bool b => a == b
  | num a, num b => a.sameValue b
  | str a, str b => a == b
  | arr a, arr b => equalItems a b
  | obj a, obj b => a.length == b.length && covered a b
  | _, _ => false

def equalItems : List Json → List Json → Bool
  | [], [] => true
  | x :: xs, y :: ys => equal x y && equalItems xs ys
  | _, _ => false

/-- Whether each of the first fields has an equal value under the same key among the second. -/
def covered : List (String × Json) → List (String × Json) → Bool
  | [], _ => true
  | (k, x) :: rest, fields =>
    (match Fields.get? fields k with
      | some y => equal x y
      | none => false) && covered rest fields

end

instance : DeepEq Json := ⟨equal⟩

end Json

namespace Fields

def equal (a b : Fields) : Bool := a.length == b.length && Json.covered a b

end Fields

namespace DeepEq

/-- Lists are equal when they have the same length and equal elements in order. -/
def listEqual {α : Type} [DeepEq α] : List α → List α → Bool
  | [], [] => true
  | x :: xs, y :: ys => deepEq x y && listEqual xs ys
  | _, _ => false

/-- An absent value equals only an absent value. -/
def optionEqual {α : Type} [DeepEq α] : Option α → Option α → Bool
  | none, none => true
  | some x, some y => deepEq x y
  | _, _ => false

instance {α : Type} [DeepEq α] : DeepEq (List α) := ⟨listEqual⟩
instance {α : Type} [DeepEq α] : DeepEq (Option α) := ⟨optionEqual⟩
instance : DeepEq String := ⟨fun a b => a == b⟩

end DeepEq

end Writeback
