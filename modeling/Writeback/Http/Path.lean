import Writeback.Text.CodePoints
import Writeback.Text.Percent

/-!
# Paths of URLs

A path is a list of segments with a slash before each. Segments of one dot are dropped, and a
segment of two dots takes the segment before it away, unless that one names a drive. A path that
ends in dots ends in an empty segment. The dots may be percent encoded.
-/

namespace Writeback.Http

def pathListed : String := " \"#<>?`\x7b\x7d"

/-- A segment with its encoded dots written out, to see whether it is one or two dots. -/
def plainDots : List Char → List Char
  | '%' :: '2' :: 'e' :: rest | '%' :: '2' :: 'E' :: rest => '.' :: plainDots rest
  | c :: rest => c :: plainDots rest
  | [] => []

/-- Whether a segment names a drive, such as `C:` or `C|`. -/
def isDrive : List Char → Bool
  | [letter, mark] => letter.isAlpha && (mark = ':' || mark = '|')
  | _ => false

/-- The segments that are left by two dots; the last one is the first of the list. -/
def parent : List (List Char) → List (List Char)
  | [] => []
  | segment :: rest => if isDrive segment then segment :: rest else rest

/-- Resolves segments of dots; `resolved` holds the segments so far, the last one first. -/
def resolveDots : (resolved : List (List Char)) → List (List Char) → List (List Char)
  | resolved, [] => resolved.reverse
  | resolved, segment :: rest =>
    let close (segments : List (List Char)) : List (List Char) :=
      if rest.isEmpty then [] :: segments else segments
    if plainDots segment = ['.', '.'] then resolveDots (close (parent resolved)) rest
    else if plainDots segment = ['.'] then resolveDots (close resolved) rest
    else resolveDots (segment :: resolved) rest

def joinSegments (segments : List (List Char)) : List Char := segments.flatMap fun s => '/' :: s

/-- The resolved segments of a path after its first slash, encoded. -/
def segmentsOf (separates : Char → Bool) (cs : List Char) : List (List Char) :=
  resolveDots [] ((Text.cutAt separates cs).map (Text.percentEncode pathListed))

/-- The first segment of the path of a file as a drive with a colon, if it names one or begins with
one, and whether it does name one. -/
def withDrive : List (List Char) → List (List Char) × Bool
  | (letter :: mark :: more) :: rest =>
    if isDrive [letter, mark] && more.isEmpty then ([letter, ':'] :: rest, true)
    else if isDrive [letter, mark] && mark = ':' then ([letter, ':'] :: more :: rest, false)
    else ((letter :: mark :: more) :: rest, false)
  | segments => (segments, false)

/-- The segments of the path of a file, and whether the first one names a drive. No segment before
the first one that holds something is kept. -/
def fileSegmentsOf (separates : Char → Bool) (cs : List Char) : List (List Char) × Bool :=
  let (segments, drive) :=
    withDrive ((Text.cutAt separates cs).map (Text.percentEncode pathListed))
  match (resolveDots [] segments).dropWhile List.isEmpty with
  | [] => ([[]], drive)
  | kept => (kept, drive)

end Writeback.Http
