import Writeback.Number.Binary64

/-!
# JSON documents

A number is an integer between `-2 ^ 63` and `2 ^ 64 - 1` or a finite 64-bit float, and the form is
kept: `5` and `5.0` are two documents. An object is the list of its fields by strictly increasing
key, so that a document has one representation; `Json.Ordered` says so, and every operation here
keeps it. Keys are compared by code points, which is the order of their UTF-8 bytes.
-/

namespace Writeback

/-- A number of a document, in the form it was written. -/
inductive Number where
  | int (value : Int) (range : -0x8000000000000000 ≤ value ∧ value < 0x10000000000000000)
  | float (value : Binary64)
deriving DecidableEq, Repr

inductive Json where
  | null
  | bool (value : Bool)
  | num (value : Number)
  | str (value : String)
  | arr (items : List Json)
  | obj (fields : List (String × Json))
deriving Repr, Inhabited

/-- The fields of an object, by increasing key. -/
abbrev Fields := List (String × Json)

namespace Number

/-- The integer as a number, when it is in range. -/
def ofInt? (n : Int) : Option Number :=
  if h : -0x8000000000000000 ≤ n ∧ n < 0x10000000000000000 then some (.int n h) else none

def floatOfInt (n : Int) : Binary64 :=
  (Binary64.ofRatio? (decide (n < 0)) n.natAbs 1).getD (.zero false)

/-- The number as a float; an integer is rounded to the nearest one. -/
def toFloat : Number → Binary64
  | int n _ => floatOfInt n
  | float x => x

end Number

namespace Fields

def get? : Fields → String → Option Json
  | [], _ => none
  | (k, v) :: rest, key => if k = key then some v else get? rest key

/-- The fields with one value put under a key, replacing what was there. -/
def insert (key : String) (value : Json) : Fields → Fields
  | [] => [(key, value)]
  | (k, v) :: rest =>
    if key < k then (key, value) :: (k, v) :: rest
    else if key = k then (key, value) :: rest
    else (k, v) :: insert key value rest

/-- The fields without a key. -/
def erase (key : String) : Fields → Fields
  | [] => []
  | (k, v) :: rest => if k = key then rest else (k, v) :: erase key rest

/-- Pairs in any order as fields; of a repeated key the last value counts. -/
def ofList (pairs : List (String × Json)) : Fields :=
  pairs.foldl (fun fields pair => insert pair.1 pair.2 fields) []

/-- The keys, in order. -/
def keys (fields : Fields) : List String := fields.map Prod.fst

end Fields

namespace Json

/-- The integer as a document. It must be in range. -/
def int (n : Int) (h : -0x8000000000000000 ≤ n ∧ n < 0x10000000000000000 := by decide) : Json :=
  .num (.int n h)

/-- A count as a document; a count beyond the range of integers is written as a float. -/
def nat (n : Nat) : Json :=
  match Number.ofInt? n with
  | some x => .num x
  | none => .num (.float (Number.floatOfInt n))

/-- An object from pairs in any order. -/
def object (pairs : List (String × Json)) : Json := .obj (Fields.ofList pairs)

/-- The value of a field, when the document is an object that has it. -/
def field? : Json → String → Option Json
  | obj fields, key => Fields.get? fields key
  | _, _ => none

/-- The element at a position, when the document is an array that is long enough. -/
def item? : Json → Nat → Option Json
  | arr items, i => items[i]?
  | _, _ => none

mutual

/-- Keys strictly increase in every object of the document. -/
def Ordered : Json → Prop
  | arr items => OrderedItems items
  | obj fields => (Fields.keys fields).Pairwise (· < ·) ∧ OrderedFields fields
  | _ => True

/-- All elements of an array are ordered. -/
def OrderedItems : List Json → Prop
  | [] => True
  | x :: rest => Ordered x ∧ OrderedItems rest

/-- The values of all fields are ordered. -/
def OrderedFields : List (String × Json) → Prop
  | [] => True
  | (_, x) :: rest => Ordered x ∧ OrderedFields rest

end

mutual

/-- Whether two documents have the same representation; `5` and `5.0` differ. -/
def same : Json → Json → Bool
  | null, null => true
  | bool a, bool b => a == b
  | num a, num b => a == b
  | str a, str b => a == b
  | arr a, arr b => sameItems a b
  | obj a, obj b => sameFields a b
  | _, _ => false

def sameItems : List Json → List Json → Bool
  | [], [] => true
  | x :: xs, y :: ys => same x y && sameItems xs ys
  | _, _ => false

def sameFields : List (String × Json) → List (String × Json) → Bool
  | [], [] => true
  | (k, x) :: xs, (l, y) :: ys => k == l && same x y && sameFields xs ys
  | _, _ => false

end

mutual

theorem same_iff : ∀ a b : Json, same a b = true ↔ a = b
  | null, b => by cases b <;> simp [same]
  | bool _, b => by cases b <;> simp [same]
  | num _, b => by cases b <;> simp [same]
  | str _, b => by cases b <;> simp [same]
  | arr xs, b => by
    cases b with
    | arr ys => simp [same, sameItems_iff xs ys]
    | _ => simp [same]
  | obj xs, b => by
    cases b with
    | obj ys => simp [same, sameFields_iff xs ys]
    | _ => simp [same]

theorem sameItems_iff : ∀ xs ys : List Json, sameItems xs ys = true ↔ xs = ys
  | [], ys => by cases ys <;> simp [sameItems]
  | x :: xs, ys => by
    cases ys with
    | nil => simp [sameItems]
    | cons y ys => simp [sameItems, same_iff x y, sameItems_iff xs ys]

theorem sameFields_iff : ∀ xs ys : List (String × Json), sameFields xs ys = true ↔ xs = ys
  | [], ys => by cases ys <;> simp [sameFields]
  | (k, x) :: xs, ys => by
    cases ys with
    | nil => simp [sameFields]
    | cons y ys =>
      obtain ⟨l, y⟩ := y
      simp [sameFields, same_iff x y, sameFields_iff xs ys, and_assoc]

end

instance : DecidableEq Json := fun a b => decidable_of_iff _ (same_iff a b)

end Json

end Writeback
