import CollectionQuery.Iri.Basic
import CollectionQuery.Iri.Reference

/-! Checking of IRIs and resolution of references against a base. Segments `.` and `..` are removed where a path of
    the reference is copied; the base and references with an authority of their own keep theirs. -/

namespace CollectionQuery
open Text

/-- The IRI that a text denotes, if it is one with a scheme. -/
def Iri.parse? (text : String) : Option Iri :=
  let r := Reference.read text.toList
  if r.isValid && r.scheme.isSome then some ⟨text⟩ else none

namespace Reference

/-! ### Paths

A path that is being written is kept in reverse, so that its last segment comes first. Between two segments it is empty
or ends in a slash. Without an authority it may become empty again: `..` at the root then takes the root along. -/

/-- A reversed path without its last segment. Behind an authority the slash at the root stays. -/
def dropSegment (rooted : Bool) (done : List Char) : List Char :=
  if rooted && done = ['/'] then done else (done.drop 1).dropWhile (· ≠ '/')

/-- Writes segments behind a reversed path: `.` is left out, and `..` takes the segment before it along. -/
def copySegments (rooted : Bool) (done : List Char) : List (List Char) → List Char
  | [] => done
  | segment :: rest =>
    if segment = ['.'] then copySegments rooted done rest
    else if segment = ['.', '.'] then copySegments rooted (dropSegment rooted done) rest
    else copySegments rooted ((if rest.isEmpty then [] else ['/']) ++ segment.reverse ++ done) rest

/-- The directory of a base path, reversed: all up to its last slash, or a slash behind an authority. -/
def directory (base : Reference) : List Char :=
  match base.path.reverse.dropWhile (· ≠ '/') with
  | [] => if base.authority.isSome then ['/'] else []
  | done => done

/-- The path that a reference with a path of its own has behind the base. -/
def mergePath (base r : Reference) : List Char :=
  let (done, cs) := match r.path with
    | '/' :: cs => (['/'], cs)
    | cs => (directory base, cs)
  (copySegments base.authority.isSome done (cs.splitOn '/')).reverse

/-- The reference seen from the base. -/
def resolveAgainst (base r : Reference) : Reference :=
  if r.scheme.isSome then r
  else if r.authority.isSome then { r with scheme := base.scheme }
  else if r.path = [] then
    { base with query := if r.query.isSome then r.query else base.query, fragment := r.fragment }
  else { r with scheme := base.scheme, authority := base.authority, path := mergePath base r }

end Reference

/-- The IRI that a reference denotes at `base`, if it is one. -/
def Iri.resolve? (base : Iri) (reference : String) : Option Iri :=
  let r := Reference.read reference.toList
  let target := Reference.resolveAgainst (Reference.read base.text.toList) r
  if r.isValid && target.isValid then some ⟨String.ofList target.text⟩ else none

end CollectionQuery
