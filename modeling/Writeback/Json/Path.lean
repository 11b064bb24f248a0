import Writeback.Json.Basic

/-!
# Dotted paths into a document

A path such as `owner.email` or `0.attribute_value` is the list of its segments. In an object a
segment is a key; in an array it is an index when it reads as one, and leads nowhere otherwise.

Writing is one recursion on the segments over a place that may be absent: `edit` turns what stands
at the place into what stands there afterwards. Writing a value creates the objects that are
missing and replaces scalars on the way by objects; removing creates nothing. Both leave an array
alone when the next segment is no index below its length, and a removed element leaves `null`.
-/

namespace Writeback.Json

/-- The pieces of a text between separators; the empty text is one empty piece. -/
def pieces (separator : Char) : List Char → List (List Char)
  | [] => [[]]
  | c :: rest =>
    if c = separator then [] :: pieces separator rest
    else match pieces separator rest with
      | [] => [[c]]
      | piece :: others => (c :: piece) :: others

def segments (path : String) : List String := (pieces '.' path.toList).map String.ofList

theorem pieces_ne_nil (separator : Char) (cs : List Char) : pieces separator cs ≠ [] := by
  cases cs with
  | nil => simp [pieces]
  | cons c rest =>
    unfold pieces
    split
    · simp
    · split <;> simp

/-- A path has at least one segment. -/
theorem segments_ne_nil (path : String) : segments path ≠ [] := by
  simp [segments, pieces_ne_nil]

/-- The array index that a segment writes: decimal digits after at most one plus sign, with any
leading zeros, below `2 ^ 64`. -/
def index? (segment : String) : Option Nat :=
  let digits := match segment.toList with
    | '+' :: rest => rest
    | cs => cs
  let value := digits.foldl (fun n c => n * 10 + (c.toNat - '0'.toNat)) 0
  if !digits.isEmpty && digits.all Char.isDigit && value < UInt64.size then some value else none

def child? : Json → String → Option Json
  | obj fields, segment => Fields.get? fields segment
  | arr items, segment => (index? segment).bind fun i => items[i]?
  | _, _ => none

/-- What stands at a list of segments below a document. -/
def at? (root : Json) : List String → Option Json
  | [] => some root
  | segment :: rest =>
    match child? root segment with
    | some x => at? x rest
    | none => none

/-- What stands at a dotted path; none when the path does not exist. -/
def get? (root : Json) (path : String) : Option Json := at? root (segments path)

/-- What stands at a place after `update` was put at the given segments below it. An absent update
removes; an absent place is not there yet. -/
def edit (update : Option Json) : List String → Option Json → Option Json
  | [], _ => update
  | segment :: rest, some (obj fields) =>
    match edit update rest (Fields.get? fields segment) with
    | some x => some (obj (Fields.insert segment x fields))
    | none => some (obj (Fields.erase segment fields))
  | segment :: rest, some (arr items) =>
    match index? segment with
    | none => some (arr items)
    | some i =>
      match items[i]? with
      | none => some (arr items)
      | some x => some (arr (items.set i ((edit update rest (some x)).getD null)))
  | segment :: rest, place =>
    match update with
    | none => place
    | some _ => (edit update rest none).map fun x => obj [(segment, x)]

/-- The document after a value was written at a path, or what is there removed. -/
def set (root : Json) (path : String) (update : Option Json) : Json :=
  (edit update (segments path) (some root)).getD root

end Writeback.Json
