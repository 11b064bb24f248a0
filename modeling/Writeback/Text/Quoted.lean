import Writeback.Text.Unprintable

/-!
# Quoted text in messages

A text inside a message stands between double quotes. The quote, the backslash and five control
characters have a short escape; any other character without a printed form is shown by its number
in hexadecimal between braces. An apostrophe stands for itself.
-/

namespace Writeback.Text

/-- How one character of a quoted text is shown. -/
def quotedChar (c : Char) : List Char :=
  match c with
  | '"' => ['\\', '"']
  | '\\' => ['\\', '\\']
  | '\n' => ['\\', 'n']
  | '\r' => ['\\', 'r']
  | '\t' => ['\\', 't']
  | '\x00' => ['\\', '0']
  | c =>
    if isPrintable c then [c]
    else ['\\', 'u', '\x7b'] ++ Nat.toDigits 16 c.toNat ++ ['\x7d']

def quoted (s : String) : String :=
  "\"" ++ String.ofList (s.toList.flatMap quotedChar) ++ "\""

end Writeback.Text
