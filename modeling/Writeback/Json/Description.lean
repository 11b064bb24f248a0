import Writeback.Json.Printer
import Writeback.Text.Quoted

/-!
# Documents in messages

A message that shows a document names the kind of every value in it: `Number(409)`,
`String("x")`, `Array [Null, Bool(true)]`, `Object {"k": Null}`.
-/

namespace Writeback.Json

mutual

def describe : Json → String
  | null => "Null"
  | bool true => "Bool(true)"
  | bool false => "Bool(false)"
  | num n => "Number(" ++ n.text ++ ")"
  | str s => "String(" ++ Text.quoted s ++ ")"
  | arr [] => "Array []"
  | arr (x :: rest) => "Array [" ++ describe x ++ describeItems rest ++ "]"
  | obj [] => "Object \x7b\x7d"
  | obj ((k, x) :: rest) =>
    "Object \x7b" ++ Text.quoted k ++ ": " ++ describe x ++ describeFields rest ++ "\x7d"

def describeItems : List Json → String
  | [] => ""
  | x :: rest => ", " ++ describe x ++ describeItems rest

def describeFields : List (String × Json) → String
  | [] => ""
  | (k, x) :: rest => ", " ++ Text.quoted k ++ ": " ++ describe x ++ describeFields rest

end

/-- How a message shows a document that may be absent. -/
def describeOption : Option Json → String
  | none => "None"
  | some x => "Some(" ++ describe x ++ ")"

end Writeback.Json
