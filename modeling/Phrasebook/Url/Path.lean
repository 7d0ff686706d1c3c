import Phrasebook.Text.Basic
import Phrasebook.Url.Percent

namespace Phrasebook.Url

def isSlash (backslashes : Bool) (c : Char) : Bool :=
  c = '/' || (backslashes && c = '\\')

def fragmentUnsafe : List Char := [' ', '"', '<', '>', '\x60']

def pathUnsafe : List Char := fragmentUnsafe ++ ['#', '?', '\x7b', '\x7d']

def isSingleDot (segment : List Char) : Bool :=
  String.ofList (segment.map Char.toLower) ∈ [".", "%2e"]

def isDoubleDot (segment : List Char) : Bool :=
  String.ofList (segment.map Char.toLower) ∈ ["..", ".%2e", "%2e.", "%2e%2e"]

/-- A drive is named by a letter and a colon, or a bar that stands for the colon. -/
def isDrive (segment : List Char) : Bool :=
  match segment with
  | [letter, mark] => letter.isAlpha && (mark = ':' || mark = '|')
  | _ => false

/-- The segments without the last one, which stands first, but for a drive. -/
def leave : List (List Char) → List (List Char)
  | [] => []
  | segment :: before => if isDrive segment then segment :: before else before

def resolveDots (before : List (List Char)) : List (List Char) → List (List Char)
  | [] => before.reverse
  | [last] =>
      if isDoubleDot last then ([] :: leave before).reverse
      else if isSingleDot last then ([] :: before).reverse
      else (last :: before).reverse
  | segment :: segments =>
      if isDoubleDot segment then resolveDots (leave before) segments
      else if isSingleDot segment then resolveDots before segments
      else resolveDots (segment :: before) segments

def pathSegments (backslashes : Bool) (cs : List Char) : List (List Char) :=
  resolveDots [] (Text.segments '/' (cs.map fun c => if isSlash backslashes c then '/' else c))

def joinSegments (segments : List (List Char)) : String :=
  "/" ++ "/".intercalate (segments.map (percentEncode pathUnsafe))

def pathText (backslashes : Bool) (cs : List Char) : String :=
  joinSegments (pathSegments backslashes cs)

/-- The segments of a file's path.  A drive is named with a colon, and there is no empty segment in
front. -/
def fileSegments (cs : List Char) : List (List Char) :=
  let segments := (pathSegments true cs).map fun segment =>
    if isDrive segment then segment.take 1 ++ [':'] else segment
  match segments.dropWhile List.isEmpty with
  | [] => [[]]
  | segments => segments

end Phrasebook.Url
