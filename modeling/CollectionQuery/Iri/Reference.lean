import CollectionQuery.Address.Version6
import CollectionQuery.Text.Cut
import CollectionQuery.Text.Percent

/-! An IRI reference taken apart into its components, the characters that each of them may hold, and its text. -/

namespace CollectionQuery
open Text Text.Percent

/-- The components of an IRI reference, without the characters that set them off. -/
structure Reference where
  scheme : Option (List Char)
  authority : Option (List Char)
  path : List Char
  query : Option (List Char)
  fragment : Option (List Char)
  deriving DecidableEq, Repr

namespace Reference

/-! ### Components -/

/-- A scheme is a letter and then letters, digits, plus signs, hyphens and full stops. -/
def isScheme : List Char → Bool
  | [] => false
  | c :: cs => c.isAlpha && cs.all fun c => c.isAlphanum || c = '+' || c = '-' || c = '.'

/-- The text before the first `c`, and the text after it if there is one. -/
def cutOff (c : Char) (cs : List Char) : List Char × Option (List Char) :=
  match cut? c cs with
  | some (front, back) => (front, some back)
  | none => (cs, none)

/-- The scheme, if the text begins with one, and the text behind it. -/
def readScheme (cs : List Char) : Option (List Char) × List Char :=
  match cut? ':' cs with
  | some (front, back) => if isScheme front then (some front, back) else (none, cs)
  | none => (none, cs)

/-- The authority, if two slashes announce one, and the path behind it. -/
def readAuthority (cs : List Char) : Option (List Char) × List Char :=
  match behind? ['/', '/'] cs with
  | some rest => (some (rest.takeWhile (· ≠ '/')), rest.dropWhile (· ≠ '/'))
  | none => (none, cs)

def read (cs : List Char) : Reference :=
  let (scheme, rest) := readScheme cs
  let (rest, fragment) := cutOff '#' rest
  let (rest, query) := cutOff '?' rest
  let (authority, path) := readAuthority rest
  { scheme, authority, path, query, fragment }

/-- The text that `read` takes apart. -/
def text (r : Reference) : List Char :=
  (match r.scheme with | some s => s ++ [':'] | none => []) ++
  (match r.authority with | some a => '/' :: '/' :: a | none => []) ++
  r.path ++
  (match r.query with | some q => '?' :: q | none => []) ++
  (match r.fragment with | some f => '#' :: f | none => [])

/-! ### Characters -/

/-- The unreserved characters of IRIs beyond ASCII. -/
def isUcs (c : Char) : Bool :=
  let n := c.toNat
  (0xA0 ≤ n && n ≤ 0xD7FF) || (0xF900 ≤ n && n ≤ 0xFDCF) || (0xFDF0 ≤ n && n ≤ 0xFFEF) ||
    (0x10000 ≤ n && n ≤ 0xDFFFD && n % 0x10000 ≤ 0xFFFD) || (0xE1000 ≤ n && n ≤ 0xEFFFD)

/-- The private-use characters, which only a query may hold. -/
def isPrivate (c : Char) : Bool :=
  let n := c.toNat
  (0xE000 ≤ n && n ≤ 0xF8FF) || (0xF0000 ≤ n && n ≤ 0xFFFFD) || (0x100000 ≤ n && n ≤ 0x10FFFD)

/-- The characters that separate the parts of a component. -/
def isSubDelim (c : Char) : Bool := c ∈ ['!', '$', '&', '\'', '(', ')', '*', '+', ',', ';', '=']

/-- The characters that every component but the scheme may hold. -/
def isPlain (c : Char) : Bool := isUnreserved c || isSubDelim c || isUcs c

def inUser (c : Char) : Bool := isPlain c || c = ':'

def inPath (c : Char) : Bool := isPlain c || c = ':' || c = '@' || c = '/'

def inFragment (c : Char) : Bool := inPath c || c = '?'

def inQuery (c : Char) : Bool := inFragment c || isPrivate c

/-- Whether a text consists of `allowed` characters and triplets. -/
def isMadeOf (allowed : Char → Bool) : List Char → Bool
  | '%' :: a :: b :: cs => Hex.isDigit a && Hex.isDigit b && isMadeOf allowed cs
  | c :: cs => allowed c && isMadeOf allowed cs
  | [] => true

/-! ### Addresses -/

/-- An address of a later version: `v`, the version, a full stop and the address. -/
def isFutureAddress : List Char → Bool
  | v :: cs =>
    (v = 'v' || v = 'V') &&
      match cut? '.' cs with
      | some (version, rest) =>
        version ≠ [] && version.all Hex.isDigit && rest ≠ [] &&
          rest.all fun c => isUnreserved c || isSubDelim c || c = ':'
      | none => false
  | [] => false

/-! ### Authority -/

/-- What may stand behind a host: nothing, or a colon and the digits of a service number. -/
def isService : List Char → Bool
  | [] => true
  | c :: cs => c = ':' && cs.all Char.isDigit

/-- A host, possibly with a service number. -/
def isHost (cs : List Char) : Bool :=
  match cs with
  | '[' :: rest =>
    match cut? ']' rest with
    | some (address, service) => ((Version6.read? address).isSome || isFutureAddress address) && isService service
    | none => false
  | _ => isMadeOf isPlain (cs.takeWhile (· ≠ ':')) && isService (cs.dropWhile (· ≠ ':'))

/-- An authority: a host, and in front of it possibly a user and an at sign. -/
def isAuthority (cs : List Char) : Bool :=
  let user := cs.takeWhile fun c => c ≠ '@' && c ≠ '['
  isMadeOf inUser user &&
    match cs.dropWhile fun c => c ≠ '@' && c ≠ '[' with
    | '@' :: host => isHost host
    | _ => isHost cs

/-! ### Well-formed references -/

/-- Whether a path can be told from an authority and, without a scheme, from a scheme. -/
def isPathFor (scheme authority : Option (List Char)) (path : List Char) : Bool :=
  isMadeOf inPath path &&
    (authority.isSome ||
      ((behind? ['/', '/'] path).isNone && (scheme.isSome || !(path.takeWhile (· ≠ '/')).contains ':')))

def isValid (r : Reference) : Bool :=
  r.scheme.all isScheme && r.authority.all isAuthority && isPathFor r.scheme r.authority r.path &&
    r.query.all (isMadeOf inQuery) && r.fragment.all (isMadeOf inFragment)

end Reference
end CollectionQuery
