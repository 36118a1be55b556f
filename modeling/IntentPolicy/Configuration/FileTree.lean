import IntentPolicy.Text.Split

namespace IntentPolicy

/-!
# Files of a working directory

What stands where below a working directory, and how a path leads to it.  Files elsewhere
stand below the root of all files, which is a segment like others.
-/

/-- What a path can lead to. -/
inductive FileNode where
  | directory
  /-- A file whose bytes are no text. -/
  | undecodable
  | text (content : String)
  deriving Repr, DecidableEq

/-- The files and directories below a working directory, each by its path in segments. -/
structure FileTree where
  nodes : List (List String × FileNode)
  deriving Repr, DecidableEq

namespace FileTree

/-- The segments of a path, without those that say nothing; the root of all files is one. -/
def segments (path : String) : List String :=
  (if path.startsWith "/" then ["/"] else []) ++
    ((splitAtEach '/' path.toList).map String.ofList).filter fun segment =>
      segment ≠ "" ∧ segment ≠ "."

/-- The path of a place. -/
def pathText : List String → String
  | "/" :: place => "/" ++ "/".intercalate place
  | place => "/".intercalate place

/-- A tree of files and directories by their relative paths. -/
def ofPaths (nodes : List (String × FileNode)) : FileTree :=
  ⟨nodes.map fun node => (segments node.1, node.2)⟩

/-- The place is the working directory or one above it. -/
def isAbove (place : List String) : Bool :=
  place.all (· == "..") || place == ["/"]

/-- The place above a place; above the root of all files there is nothing else. -/
def parent (place : List String) : List String :=
  if place = ["/"] then place
  else if isAbove place then place ++ [".."]
  else place.dropLast

/-- What stands at a place; whatever has something below it is a directory. -/
def nodeAt? (tree : FileTree) (place : List String) : Option FileNode :=
  if isAbove place || tree.nodes.any fun node => place.isPrefixOf node.1 && place ≠ node.1 then
    some .directory
  else tree.nodes.lookup place

/-- The place that the segments of a path lead to from a directory; only directories lead on. -/
def follow? (tree : FileTree) : List String → List String → Option (List String)
  | place, [] => some place
  | place, segment :: path =>
      match tree.nodeAt? place with
      | some .directory =>
          follow? tree (if segment = ".." then parent place else place ++ [segment]) path
      | _ => none

/-- The greatest number of bytes in a segment. -/
def longestSegment : Nat := 255

/-- The greatest number of bytes in a path below the working directory. -/
def longestPath : Nat := 490

/-- The place that the segments of a path spell: one place up undoes a segment, even one that
is not there, but nothing lies below a file. -/
def spell? (tree : FileTree) : List String → List String → Option (List String)
  | place, [] => some place
  | place, segment :: path =>
      if segment = ".." then spell? tree (parent place) path
      else
        let reached := place ++ [segment]
        let isBelowFile := (tree.nodeAt? place).any (· ≠ .directory)
        if isBelowFile || longestSegment < segment.utf8ByteSize
            || longestPath < ("/".intercalate reached).utf8ByteSize then none
        else spell? tree reached path

/-- The places that a path leads through, whatever stands there. -/
def placesAlong : List String → List String → List (List String)
  | place, [] => [place]
  | place, segment :: path =>
      place :: placesAlong (if segment = ".." then parent place else place ++ [segment]) path

/-- The path is written as that of a directory. -/
def endsAsDirectory (path : String) : Bool :=
  ((splitAtEach '/' path.toList).getLast?).any fun last => [[], ['.'], ['.', '.']].contains last

/-- The place that a relative path leads to, where something need not stand yet. -/
def placeOf? (tree : FileTree) (path : String) : Option (List String) :=
  if path.isEmpty then none else tree.follow? [] (segments path)

/-- The place that a path spells, where something need not stand yet. -/
def spelledPlace? (tree : FileTree) (path : String) : Option (List String) :=
  if path.startsWith "/" then tree.spell? ["/"] ((segments path).drop 1)
  else tree.spell? [] (segments path)

/-- What a relative path leads to; a path that ends in a slash leads to a directory only. -/
def find? (tree : FileTree) (path : String) : Option FileNode := do
  let node ← tree.nodeAt? (← tree.placeOf? path)
  if endsAsDirectory path ∧ node ≠ .directory then none else return node

end FileTree

end IntentPolicy
