import Writeback.Json.Printer
import Writeback.Text.Quoted

/-!
# Reading values of a given shape

A document is read as an integer of some width, a text, a list or a record, and the first thing
that does not fit is the answer. The fields of a record are visited in the order of their keys in
the document, that is by increasing key; fields that are missing are noticed after the visit, in
the order of declaration. Some records may also be given as the list of their fields.
-/

namespace Writeback

inductive Width where
  | signed64
  | unsigned64
  | count
  | unsigned16
deriving DecidableEq, Repr

inductive Expected where
  | integer (width : Width)
  | text
  | flag
  | list
  | map
  | record (name : String)
deriving DecidableEq, Repr

/-- Why a document does not have the expected shape. -/
inductive ShapeError where
  | missing (field : String)
  | unexpected (found : Json) (expected : Expected)
  | outOfRange (found : Int) (width : Width)
  | tooShort (length : Nat) (name : String) (fields : Nat)
  | tooLong (length : Nat)
deriving DecidableEq, Repr

namespace Width

def least : Width → Int
  | signed64 => -0x8000000000000000
  | _ => 0

def bound : Width → Int
  | signed64 => 0x8000000000000000
  | unsigned64 | count => 0x10000000000000000
  | unsigned16 => 0x10000

def name : Width → String
  | signed64 => "i64"
  | unsigned64 => "u64"
  | count => "usize"
  | unsigned16 => "u16"

end Width

def Expected.name : Expected → String
  | integer w => w.name
  | text => "a string"
  | flag => "a boolean"
  | list => "a sequence"
  | map => "a map"
  | record name => "struct " ++ name

def Json.kind : Json → String
  | .null => "null"
  | .bool true => "boolean `true`"
  | .bool false => "boolean `false`"
  | .num (.int n _) => "integer `" ++ toString n ++ "`"
  | .num (.float x) => "floating point `" ++ x.text .document ++ "`"
  | .str s => "string " ++ Text.quoted s
  | .arr _ => "sequence"
  | .obj _ => "map"

def ShapeError.message : ShapeError → String
  | missing field => "missing field `" ++ field ++ "`"
  | unexpected found expected => "invalid type: " ++ found.kind ++ ", expected " ++ expected.name
  | outOfRange n width =>
    "invalid value: integer `" ++ toString n ++ "`, expected " ++ width.name
  | tooShort length name fields =>
    "invalid length " ++ toString length ++ ", expected struct " ++ name ++ " with " ++
      toString fields ++ " elements"
  | tooLong length =>
    "invalid length " ++ toString length ++ ", expected fewer elements in array"

abbrev Reader (α : Type) := Json → Except ShapeError α

namespace Reader

def any : Reader Json := .ok

/-- An integer of the given width. A float is never an integer. -/
def integer (width : Width) : Reader Int
  | .num (.int n _) =>
    if width.least ≤ n ∧ n < width.bound then .ok n else .error (.outOfRange n width)
  | x => .error (.unexpected x (.integer width))

/-- An integer of a width without a sign. -/
def natural (width : Width) : Reader Nat := fun x => (integer width x).map Int.toNat

def text : Reader String
  | .str s => .ok s
  | x => .error (.unexpected x .text)

def flag : Reader Bool
  | .bool b => .ok b
  | x => .error (.unexpected x .flag)

def map : Reader Fields
  | .obj fields => .ok fields
  | x => .error (.unexpected x .map)

def list {α : Type} (element : Reader α) : Reader (List α)
  | .arr items => items.mapM element
  | x => .error (.unexpected x .list)

/-- A value, or null for none. -/
def optional {α : Type} (value : Reader α) : Reader (Option α)
  | .null => .ok none
  | x => (value x).map some

end Reader

/-- A partly read record: one reader per field puts the value it reads into the record. The first
component names the field. -/
abbrev FieldReaders (ρ : Type) := List (String × (Json → ρ → Except ShapeError ρ))

/-- How a record is given as a document. `finish` notices the fields that are missing. -/
structure RecordReader (ρ α : Type) where
  name : String
  /-- The fields in the order of declaration. -/
  fields : FieldReaders ρ
  empty : ρ
  finish : ρ → Except ShapeError α
  /-- Whether a list may leave out the last fields. -/
  defaults : Bool

namespace RecordReader

variable {ρ α : Type}

/-- Visits the fields of an object in order and passes over unknown keys. -/
def visit (r : RecordReader ρ α) : Fields → ρ → Except ShapeError ρ
  | [], acc => .ok acc
  | (key, x) :: rest, acc =>
    match r.fields.lookup key with
    | some read => do visit r rest (← read x acc)
    | none => visit r rest acc

/-- Visits the elements of a list as the fields in the order of declaration. -/
def visitList (r : RecordReader ρ α) (length : Nat) :
    FieldReaders ρ → List Json → ρ → Except ShapeError ρ
  | [], [], acc => .ok acc
  | [], _ :: _, _ => .error (.tooLong length)
  | _ :: _, [], acc =>
    if r.defaults then .ok acc else .error (.tooShort length r.name r.fields.length)
  | (_, read) :: fields, x :: rest, acc => do visitList r length fields rest (← read x acc)

/-- Reads the record from an object or from the list of its fields. -/
def read (r : RecordReader ρ α) : Reader α
  | .obj fields => do r.finish (← r.visit fields r.empty)
  | .arr items => do r.finish (← r.visitList items.length r.fields items r.empty)
  | x => .error (.unexpected x (.record r.name))

end RecordReader

/-- The value of a field that must be there. -/
def required {α : Type} (field : String) : Option α → Except ShapeError α
  | some x => .ok x
  | none => .error (.missing field)

end Writeback
