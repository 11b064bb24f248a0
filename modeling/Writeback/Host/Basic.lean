import Writeback.Host.Address
import Writeback.Host.Domain

/-!
# Hosts

A host is a domain name or an address in numbers. The host of a web address may be percent encoded;
a name that ends in a number is an address of four bytes, or no host at all, and an address of eight
groups stands in brackets. The host of any other address is kept as it is written.
-/

namespace Writeback

inductive Host where
  | domain (name : String)
  | ipv4 (address : Nat)
  | ipv6 (groups : List Nat)
  | verbatim (text : String)
deriving DecidableEq, Repr

namespace Host

def text : Host → String
  | .domain name => name
  | .ipv4 address => ipv4Text address
  | .ipv6 groups => "[" ++ ipv6Text groups ++ "]"
  | .verbatim text => text

/-- The host between brackets, of which the first is gone. -/
def ofBrackets? (cs : List Char) : Option Host :=
  if cs.getLast? = some ']' then (ipv6? cs.dropLast).map .ipv6 else none

def ofName? (name : List Char) : Option Host :=
  match domain? name with
  | none | some [] => none
  | some written =>
    if endsInNumber written then (ipv4? written).map .ipv4
    else some (.domain (String.ofList written))

def ofWeb? : List Char → Option Host
  | '[' :: rest => ofBrackets? rest
  | cs => (Text.percentDecode? cs).bind ofName?

/-- The characters that the host of another address may not hold. -/
def isStructural (c : Char) : Bool :=
  c.toNat = 0 || "\t\n\r #/:<>?@[\\]^|".toList.contains c

def ofOther? : List Char → Option Host
  | '[' :: rest => ofBrackets? rest
  | cs =>
    if cs.any isStructural then none
    else some (.verbatim (String.ofList (Text.percentEncode "" cs)))

end Host

end Writeback
