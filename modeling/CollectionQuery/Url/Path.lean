import CollectionQuery.Url.Kept

/-! The segments of a path. Segments of one or two full stops are carried out: one stays in its directory, and two leave
    it. A drive letter is never left. -/

namespace CollectionQuery
namespace Url
open Text

/-! ### Segments -/

/-- The number of full stops, if the text holds nothing else. Each may be written as a triplet. -/
def dotCount? : List Char → Option Nat
  | [] => some 0
  | '.' :: cs => (dotCount? cs).map (· + 1)
  | '%' :: '2' :: e :: cs => if e = 'e' || e = 'E' then (dotCount? cs).map (· + 1) else none
  | _ => none

/-- A letter and a colon, which may be written as a bar. -/
def isDriveLetter : List Char → Bool
  | [letter, mark] => letter.isAlpha && (mark = ':' || mark = '|')
  | _ => false

/-- Leaves the last of some directories, which are given from the last to the first. -/
def leave : (directories : List (List Char)) → List (List Char)
  | [] => []
  | last :: rest => if isDriveLetter last then last :: rest else rest

/-- A segment as it is written behind some directories. The first one of a file may be a drive letter. -/
def writtenSegment (kind : Kind) (directories : List (List Char)) (segment : List Char) : List Char :=
  if kind = .file && directories = [] && isDriveLetter segment then segment.take 1 ++ [':']
  else written inSegment segment

/-- Carries out the segments of a path. The directories so far are given from the last to the first. -/
def walk (kind : Kind) (directories : List (List Char)) : (segments : List (List Char)) → List (List Char)
  | [] => directories
  | segment :: rest =>
    match dotCount? segment with
    | some 1 => if rest = [] then [] :: directories else walk kind directories rest
    | some 2 => if rest = [] then [] :: leave directories else walk kind (leave directories) rest
    | _ => walk kind (writtenSegment kind directories segment :: directories) rest

/-- The segments between the slashes of a text. -/
def segments (kind : Kind) (cs : List Char) : List (List Char) :=
  (cs.map fun c => if kind.isSlash c then '/' else c).splitOn '/'

/-- The segments that a path denotes, given without the slash in front. -/
def resolve (kind : Kind) (cs : List Char) : List (List Char) := (walk kind [] (segments kind cs)).reverse

/-- Segments with a slash in front of each. -/
def slashed (segments : List (List Char)) : List Char := segments.flatMap ('/' :: ·)

/-! ### Files -/

/-- Whether a path begins with a drive letter. Such a file is on no other host. -/
def hasDrive (segments : List (List Char)) : Bool := segments.head?.any isDriveLetter

/-- Drops empty segments at the front. One segment is kept at least. -/
def dropEmpty : (segments : List (List Char)) → List (List Char)
  | [] :: segment :: rest => dropEmpty (segment :: rest)
  | segments => segments

end Url
end CollectionQuery
