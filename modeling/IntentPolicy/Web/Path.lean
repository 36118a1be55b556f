import IntentPolicy.Text.Split
import IntentPolicy.Web.Percent

namespace IntentPolicy

/-!
# Paths of URLs

A path is a text of its own kind or made of segments.  Dots as a segment stand for the
place itself or for one place up, but never lead out of a drive, which is a letter with
a mark behind it.
-/

/-- The path of a URL: a text of its own kind, or segments. -/
inductive UrlPath where
  | opaqueText (text : String)
  | hierarchical (segments : List String)
  deriving Repr, DecidableEq

namespace UrlPath

/-- The written form of a path. -/
def text : UrlPath → String
  | .opaqueText text => text
  | .hierarchical segments => String.join (segments.map ("/" ++ ·))

/-- The segment stands for the place where it is. -/
def isSingleDot (segment : List Char) : Bool :=
  [".", "%2e", "%2E"].contains (String.ofList segment)

/-- The segment stands for one place up. -/
def isDoubleDot (segment : List Char) : Bool :=
  ["..", "%2e%2e", "%2e%2E", "%2E%2e", "%2E%2E", "%2e.", "%2E.", ".%2e", ".%2E"].contains
    (String.ofList segment)

/-- The characters are the letter of a drive and the mark behind it. -/
def isDrive : List Char → Bool
  | [letter, mark] => letter.isAlpha && (mark == ':' || mark == '|')
  | _ => false

/-- The segment is a drive, which a backslash may separate from what follows. -/
def namesDrive (segment : String) : Bool :=
  isDrive (segment.toList.takeWhile (· ≠ '\\'))

/-- One place up from the segments, the newest first; a drive is not left. -/
def parent : List String → List String
  | [] => []
  | newest :: older => if namesDrive newest then newest :: older else older

/-- Put an encoded segment before others, the newest first; the last one leaves an empty one
for its dots. -/
def pushSegment (isLast : Bool) (newestFirst : List String) (segment : List Char) :
    List String :=
  let place := if isLast then [""] else []
  if isDoubleDot segment then place ++ parent newestFirst
  else if isSingleDot segment then place ++ newestFirst
  else String.ofList segment :: newestFirst

/-- Put all segments of a path before each other, the newest first. -/
def pushSegments (newestFirst : List String) : List (List Char) → List String
  | [] => newestFirst
  | [last] => pushSegment true newestFirst (percentEncode escapedInPath last)
  | segment :: rest =>
      pushSegments (pushSegment false newestFirst (percentEncode escapedInPath segment)) rest

/-- Read the segments behind the mark that opens a path. -/
def readBehindRoot (isSpecial : Bool) (characters : List Char) : List String :=
  let slashed := characters.map fun character =>
    if isSpecial && character == '\\' then '/' else character
  (pushSegments [] (splitAtEach '/' slashed)).reverse

/-- Read a path that has been split off; the mark in front of it may be missing. -/
def readSegments (isSpecial : Bool) (characters : List Char) : List String :=
  match characters with
  | [] => if isSpecial then [""] else []
  | first :: rest =>
      let opens := first == '/' || (isSpecial && first == '\\')
      readBehindRoot isSpecial (if opens then rest else characters)

/-- Read the path of a file, and whether it opens with a drive. -/
def readFileSegments (characters : List Char) : List String × Bool :=
  match readBehindRoot true characters with
  | [] => ([""], false)
  | first :: rest =>
      if isDrive first.toList then (String.ofList (first.toList.take 1 ++ [':']) :: rest, true)
      else
        match (first :: rest).dropWhile String.isEmpty with
        | [] => ([""], false)
        | segments => (segments, false)

/-- Append a text as one segment, with what a segment cannot hold encoded or dropped. -/
def appendSegment (isSpecial : Bool) (segments : List String) (text : String) : List String :=
  if text = "." ∨ text = ".." then segments
  else
    let escapes (character : Char) : Bool :=
      escapedInSegment character || (isSpecial && character == '\\')
    let kept := text.toList.filter fun character =>
      character != '\t' && character != '\n' && character != '\r'
    let standing := if segments = [""] then [] else segments
    (pushSegment true standing.reverse (percentEncode escapes kept)).reverse

/-- Append texts as segments, in place of an empty last segment. -/
def appending (path : UrlPath) (isSpecial : Bool) (texts : List String) : UrlPath :=
  match path with
  | .opaqueText _ => path
  | .hierarchical segments =>
      let standing :=
        if 1 < segments.length && segments.getLast? == some "" then segments.dropLast else segments
      .hierarchical (texts.foldl (appendSegment isSpecial) standing)

end UrlPath

end IntentPolicy
