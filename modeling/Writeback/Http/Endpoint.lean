import Writeback.Http.Url
import Writeback.Save.Settings
import Writeback.Save.Transport

/-!
# Where batches are posted

A collection is posted to under `/api/` at the base address of the server, with an optional key.
The key is checked first: it goes into a header and may hold no control character but the tab.
Then the address must be an absolute URL of an HTTP scheme; credentials in it are sent in a header
and leave its text. What becomes of a request that can be sent is not covered.
-/

namespace Writeback.Http

structure Settings where
  baseUrl : String := "http://localhost:8080"
  apiKey : Option String := none
  timeoutSecs : UInt64 := 60
deriving DecidableEq, Repr

namespace Settings

def toJson (s : Settings) : Json :=
  let key := match s.apiKey with
    | some key => .str key
    | none => .null
  .object [("base_url", .str s.baseUrl), ("api_key", key),
    ("timeout_secs", .nat s.timeoutSecs.toNat)]

/-- The record form: three fields, each of which has a default. -/
def reader : RecordReader Settings Settings where
  name := "HttpTransportConfig"
  fields := [
    ("base_url", fun x s => do return { s with baseUrl := ← Reader.text x }),
    ("api_key", fun x s => do return { s with apiKey := ← Reader.optional Reader.text x }),
    ("timeout_secs", fun x s => do
      return { s with timeoutSecs := ← Writeback.Settings.readWord .unsigned64 x })]
  empty := {}
  finish := .ok
  defaults := true

def base (s : Settings) : String :=
  String.ofList ((s.baseUrl.toList.reverse.dropWhile fun c => c = '/').reverse)

def collectionAddress (s : Settings) (plural : String) : String := s.base ++ "/api/" ++ plural

end Settings

def isHeaderChar (c : Char) : Bool := c = '\t' || (0x20 ≤ c.toNat && c.toNat != 0x7f)

inductive Refusal where
  | settings (cause : TransportFailure)
  | relative
  /-- The address is a URL, but of another scheme than HTTP. -/
  | scheme (url : Url)
deriving DecidableEq, Repr

def endpoint (s : Settings) (plural : String) : Except Refusal Url :=
  if (s.apiKey.getD "").toList.all isHeaderChar then
    match Url.parse? (s.collectionAddress plural) with
    | none => .error .relative
    | some url =>
      let url := url.withoutCredentials
      if url.scheme = "http" ∨ url.scheme = "https" then .ok url else .error (.scheme url)
  else .error (.settings (.invalidSettings "API key: failed to parse header value"))

end Writeback.Http
