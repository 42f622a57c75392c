import WireSchema.FileTree.Path

/-! # Where files go

A type is written to a file that is named after it, in a directory for every segment of its
namespace.

* `segments` are the directories of a namespace.
* `outputPath` is the path of a file; a segment that is no plain name is refused.
-/

namespace WireSchema

/-- A namespace with a segment that cannot be a directory. -/
structure PlacementError where
  placement : String
  segment : String
  deriving DecidableEq, Repr

def PlacementError.message (e : PlacementError) : String :=
  "namespace '" ++ e.placement ++ "' has invalid path segment '" ++ e.segment ++ "'"

/-- The segments of a namespace, between its dots.  Empty ones do not count. -/
def segments (placement : String) : List String :=
  ((Text.splitAt '.' placement.toList).filter (· ≠ [])).map String.ofList

/-- Whether a segment is a plain name: as a path it consists of itself alone, and there is no
    separator of other systems in it. -/
def isPlainSegment (segment : String) : Bool :=
  Path.components segment = [.name segment] && !segment.toList.contains '\\'

/-- Appends segments to a path, up to the first that is no plain name. -/
def pushSegments (placement : String) : String → List String → Except PlacementError String
  | path, [] => .ok path
  | path, segment :: rest =>
    if isPlainSegment segment then pushSegments placement (Path.push path segment) rest
    else .error ⟨placement, segment⟩

/-- The path of the file of a type: below `root`, one directory for every segment of the
    namespace, then the name of the type with the extension. -/
def outputPath (root extension placement typeName : String) :
    Except PlacementError String := do
  let directory ← pushSegments placement root (segments placement)
  return Path.push directory (typeName ++ extension)

end WireSchema
