import CollectionQuery.Iri.Reference
import CollectionQuery.Url.Basic
import CollectionQuery.Url.Path

/-! Reading an address. Much is forgiven: blank characters around it and line breaks anywhere, slashes that lean back,
    characters that have to be written as triplets. -/

namespace CollectionQuery
namespace Url
open Text

/-! ### Authority -/

/-- The user and the password in front of an at sign. -/
def readUser (cs : List Char) : List Char × List Char :=
  let (user, password) := (cut? ':' cs).getD (cs, [])
  (written inUser user, written inUser password)

/-- The service number behind a host. The usual one is none. -/
def readService? (usual : Option Nat) : List Char → Option (Option Nat)
  | [] | [':'] => some none
  | colon :: ds =>
    if colon = ':' && ds.all Char.isDigit && Count.value ds ≤ 65535 then
      some (if usual = some (Count.value ds) then none else some (Count.value ds))
    else none

/-- The authority that a text denotes, and what is left of the text. A host may be empty only where the scheme tells
    nothing, and without a user and a service number. A service number also ends at a slash that leans back. -/
def readAuthority? (scheme cs : List Char) : Option (Authority × List Char) := do
  let (user, place) := (cutLast? '@' cs).getD ([], cs)
  let (user, password) := readUser user
  let (hostText, rest) := cutHost place
  if hostText = [] then
    guard (kindOf scheme = .other && user = [] && password = [] && rest = [])
    pure ({ host := .empty }, [])
  else do
    let host ← readHost? (kindOf scheme) hostText
    let service ← readService? (usualService? scheme) (rest.takeWhile (· ≠ '\\'))
    pure ({ user, password, host, service }, rest.dropWhile (· ≠ '\\'))

/-! ### Parts behind the scheme -/

/-- The authority, if any, and the path of an address. -/
abbrev Place := Option Authority × List Char

/-- What follows two slashes. The path of an address of the web is never empty. -/
def readPlace? (scheme cs : List Char) : Option Place := do
  let kind := kindOf scheme
  let isInside (c : Char) : Bool := !kind.isSlash c
  let (authority, rest) ← readAuthority? scheme (cs.takeWhile isInside)
  let path := rest ++ cs.dropWhile isInside
  pure (some authority, if kind = .other && path = [] then [] else slashed (resolve kind (kind.dropSlash path)))

/-- The host of a file. The one at hand need not be named. -/
def readFileHost? (cs : List Char) : Option Host :=
  if cs = [] then some .empty
  else (readHost? .file cs).map fun host => if host = .name "localhost".toList then .empty else host

/-- A file at a path on a host. -/
def filePlace (host : Host) (path : List Char) : Place :=
  let segments := resolve .file path
  (some { host := if hasDrive segments then .empty else host }, slashed (dropEmpty segments))

/-- What follows the scheme of a file. Two slashes announce a host, if it is no drive letter. -/
def readFile? (cs : List Char) : Option Place :=
  match Kind.file.behindSlashes? cs with
  | none => some (filePlace .empty (Kind.file.dropSlash cs))
  | some rest =>
    let isInside (c : Char) : Bool := !Kind.file.isSlash c
    let host := rest.takeWhile isInside
    if isDriveLetter host then some (filePlace .empty rest)
    else (readFileHost? host).map fun host => filePlace host (Kind.file.dropSlash (rest.dropWhile isInside))

/-- What follows the scheme, up to the query. -/
def readPlaceOf? (scheme cs : List Char) : Option Place :=
  match kindOf scheme with
  | .web => readPlace? scheme (cs.dropWhile Kind.web.isSlash)
  | .file => readFile? cs
  | .other =>
    match cs with
    | '/' :: '/' :: rest => readPlace? scheme rest
    | '/' :: rest => some (none, slashed (resolve .other rest))
    | _ => some (none, written isPrinted cs)

/-! ### Addresses -/

/-- The text without blank characters around it and without tabs and line breaks. -/
def cleaned (cs : List Char) : List Char :=
  let isBlank (c : Char) : Bool := c.toNat ≤ 0x20
  ((cs.dropWhile isBlank).reverse.dropWhile isBlank).reverse.filter fun c => c ∉ ['\t', '\n', '\r']

/-- Whether the authority of what follows a scheme is an at sign and more follows it. -/
def hasLoneSign : List Char → Bool
  | '/' :: '/' :: '@' :: c :: _ => c ∈ ['/', '?', '#']
  | _ => false

/-- The address that a text denotes. -/
def read? (cs : List Char) : Option Url := do
  let (front, rest) ← cut? ':' (cleaned cs)
  guard (Reference.isScheme front && !hasLoneSign rest)
  let scheme := front.map Char.toLower
  let (rest, fragment) := Reference.cutOff '#' rest
  let (rest, query) := Reference.cutOff '?' rest
  let (authority, path) ← readPlaceOf? scheme rest
  pure {
    scheme, authority, path
    query := query.map (written (inQuery (kindOf scheme)))
    fragment := fragment.map (written inFragment) }

end Url
end CollectionQuery
