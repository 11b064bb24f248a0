import Writeback.Host.Direction
import Writeback.Host.Joining
import Writeback.Host.Mapping
import Writeback.Host.Punycode
import Writeback.Text.Composition

/-!
# Domain names

A domain name is brought into its form in ASCII: its characters are mapped and composed, and each of
its labels that is not in ASCII is encoded after the mark `xn--`. A label that has the mark already
is kept, but it has to encode a label that would be written so. A label in letters outside ASCII may
not begin with a combining mark, its joiners have to stand where they make a difference, and in a
name that runs in both directions each label has to keep to one.
-/

namespace Writeback.Host

def isAscii (c : Char) : Bool := c.toNat < 0x80

/-- What the encoded form of a label begins with. -/
def encodedMark : List Char := ['x', 'n', '-', '-']

/-- How long a label outside ASCII may be. -/
def maxLabel : Nat := 1000

/-- How long the encoded form of a label may be, without its mark. -/
def maxCode : Nat := 2000

/-- The characters that no domain name may hold, once it is mapped. -/
def isForbidden (c : Char) : Bool :=
  c.toNat ≤ 0x20 || c.toNat = 0x7f || "%#/:<>?@[\\]^|".toList.contains c

/-- A label as it is shown, and as it is written in ASCII. -/
structure Label where
  shown : List Char
  written : List Char
deriving DecidableEq, Repr

namespace Label

/-- Whether a label may be shown: it does not begin with a mark, and its joiners fit. -/
def mayShow (shown : List Char) : Bool :=
  !(shown.head?.any Text.isMark) && joinersFit [] shown

/-- The label that an encoded one stands for, without the mark. It is as mapping and composition
would leave it, and not all of it is in ASCII. -/
def shownOfCode? (code : List Char) : Option (List Char) :=
  if code.all isAscii && code.length ≤ maxCode then
    match Punycode.decode? code with
    | some shown =>
      if !shown.all isAscii && shown.all isPlain && Text.composed shown == shown && mayShow shown
      then some shown else none
    | none => none
  else none

/-- Reads a label that is mapped and composed. -/
def ofChars? (cs : List Char) : Option Label :=
  if cs.take 4 = encodedMark then
    (shownOfCode? (cs.drop 4)).map fun shown => { shown := shown, written := cs }
  else if cs.all isAscii then some { shown := cs, written := cs }
  else if mayShow cs && cs.length ≤ maxLabel then
    some { shown := cs, written := encodedMark ++ Punycode.encode cs }
  else none

end Label

def labels? (name : List Char) : Option (List Label) := do
  let mapped := Text.composed (← name.mapM mapped?).flatten
  if mapped.any isForbidden then none
  let labels ← (Text.cutAt (fun c => c = '.') mapped).mapM Label.ofChars?
  let bothWays := labels.any fun label => label.shown.any isRightToLeft
  if bothWays && !labels.all fun label => keepsDirection label.shown then none
  some labels

def domain? (name : List Char) : Option (List Char) :=
  (labels? name).map fun labels => ['.'].intercalate (labels.map Label.written)

end Writeback.Host
