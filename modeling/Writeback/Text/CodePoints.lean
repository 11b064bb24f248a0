/-!
# Sets of characters

A set of characters is a list of ranges of code points. Tables of them are written as text: ranges
apart by blanks and line breaks, each one a code point in upper-case hexadecimal digits, or two with
a hyphen between them.
-/

namespace Writeback.Text

def cutAt (separates : Char → Bool) : List Char → List (List Char)
  | [] => [[]]
  | c :: rest =>
    if separates c then [] :: cutAt separates rest
    else match cutAt separates rest with
      | [] => [[c]]
      | part :: others => (c :: part) :: others

/-- The words of a text, which blanks and line breaks keep apart. -/
def words (cs : List Char) : List (List Char) :=
  let close (word : List Char) (found : List (List Char)) : List (List Char) :=
    if word.isEmpty then found else word :: found
  let (word, found) := cs.foldr
    (fun c (word, found) =>
      if c = ' ' ∨ c = '\n' then ([], close word found) else (c :: word, found))
    ([], [])
  close word found

/-- The number that hexadecimal digits in upper case write. -/
def codePoint (digits : List Char) : Nat :=
  digits.foldl
    (fun n c => n * 16 + (if c.isDigit then c.toNat - '0'.toNat else c.toNat - 'A'.toNat + 10)) 0

/-- The ends of a range that is written as one code point, or as two with a hyphen. -/
def range (word : List Char) : Nat × Nat :=
  let first := codePoint (word.takeWhile fun c => c != '-')
  match word.dropWhile fun c => c != '-' with
  | _ :: last => (first, codePoint last)
  | [] => (first, first)

/-- A set of characters, as ranges of code points with both ends. -/
structure CodePoints where
  ranges : Array (Nat × Nat)
deriving DecidableEq, Repr

namespace CodePoints

def ofText (text : String) : CodePoints := ⟨((words text.toList).map range).toArray⟩

def contains (s : CodePoints) (c : Char) : Bool :=
  s.ranges.any fun (first, last) => first ≤ c.toNat && c.toNat ≤ last

end CodePoints

end Writeback.Text
