import Switchboard.Endpoint.Scheme
import Switchboard.Text.Pieces

/-!
# Paths of URLs

A path is read segment by segment.  A segment of one dot stays where it is, one of two dots leaves
the segment before it; nothing leaves a drive.  A local file's path may start with a drive, which
then takes the place of a host.

Main definitions

* `isDrive`, `isStay`, `isLeave`: segments with a meaning;
* `Path.add`, `Path.ofSegments`: a path, segment by segment;
* `pathSegments`, `filePathSegments`: the segments of the text behind a host;
* `pathText`: a path as it is written.
-/

set_option autoImplicit false

namespace Switchboard

namespace Origin

/-! ### Segments -/

/-- A segment of a path. -/
abbrev Segment : Type := List Char

/-- Whether a segment is the letter of a drive. -/
def isDrive : Segment → Bool
  | [letter, mark] => letter.isAlpha && (mark == ':' || mark == '|')
  | _ => false

/-- Whether a segment stays where it is; its dot may be escaped. -/
def isStay (s : Segment) : Bool :=
  s.map Char.toLower ∈ [['.'], ['%', '2', 'e']]

/-- Whether a segment leaves the one before it; its dots may be escaped. -/
def isLeave (s : Segment) : Bool :=
  s.map Char.toLower ∈ [['.', '.'], ['.', '%', '2', 'e'], ['%', '2', 'e', '.'],
    ['%', '2', 'e', '%', '2', 'e']]

/-- The letter of a drive with a colon behind it. -/
def driveSegment (s : Segment) : Segment := s.take 1 ++ [':']

/-! ### Paths -/

/-- The segments of a path so far, the last one first. -/
abbrev Path : Type := List Segment

namespace Path

/-- The path without its last segment, which stays if it is a drive. -/
def leave : Path → Path
  | [] => []
  | last :: rest => if isDrive last then last :: rest else rest

/-- One more segment; in a local file's path a drive in front is written with a colon. -/
def add (isFile : Bool) (path : Path) (s : Segment) : Path :=
  if isLeave s then path.leave
  else if isStay s then path
  else if isFile && path == [] && isDrive s then [driveSegment s]
  else s :: path

/-- The segments of a path, in their order; a path that ends in dots ends in a slash. -/
def ofSegments (isFile : Bool) (ss : List Segment) : List Segment :=
  let path := ss.foldl (add isFile) []
  if ss.getLast?.any fun s => isStay s || isLeave s then path.reverse ++ [[]] else path.reverse

end Path

/-- Whether a path starts with a drive. -/
def startsWithDrive (ss : List Segment) : Bool := ss.head?.any isDrive

/-! ### Reading and writing -/

/-- The segments between slashes. -/
def splitPath (scheme : String) (cs : List Char) : List Segment :=
  splitAt '/' (cs.map fun c => if isSlash scheme c then '/' else c)

/-- The segments behind the slash of a path, which may be missing. -/
def pathSegments (scheme : String) (cs : List Char) : List Segment :=
  match cs with
  | [] => [[]]
  | c :: rest => splitPath scheme (if isSlash scheme c then rest else c :: rest)

/-- The segments of a local file's path, without empty ones in front. -/
def filePathSegments (ss : List Segment) : List Segment :=
  match ss.dropWhile (· == []) with
  | [] => [[]]
  | ss => ss

/-- A path as it is written. -/
def pathText (ss : List Segment) : String := "/" ++ "/".intercalate (ss.map (escapeIn pathMarks))

end Origin

end Switchboard
