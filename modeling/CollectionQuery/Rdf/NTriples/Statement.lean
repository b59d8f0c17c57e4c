import CollectionQuery.Iri.Resolve
import CollectionQuery.Rdf.Term
import CollectionQuery.Text.LanguageTag

/-! The terms and statements of the line formats N-Triples and N-Quads. A reader takes a text and gives what it has read
    with the rest of the text. -/

namespace CollectionQuery
namespace NTriples
open Text

def skipBlank (cs : List Char) : List Char := cs.dropWhile fun c => c = ' ' || c = '\t'

/-! ### Escapes -/

/-- The character that hexadecimal digits stand for. A plus sign may take the place of the first one. Surrogates are no
    characters. -/
def character? (ds : List Char) : Option Char := do
  let n ← Hex.read? (match ds with | '+' :: rest => rest | _ => ds)
  guard n.isValidChar
  pure (Char.ofNat n)

/-- The character that a backslash and `c` stand for. -/
def escaped? : Char → Option Char
  | 't' => some '\t'
  | 'b' => some '\x08'
  | 'n' => some '\n'
  | 'r' => some '\r'
  | 'f' => some '\x0C'
  | '"' => some '"'
  | '\'' => some '\''
  | '\\' => some '\\'
  | _ => none

/-- Reads text up to the character `close`. Numbers of characters are escaped everywhere, and other characters where
    `named` is set. -/
def readUpTo (close : Char) (named : Bool) : List Char → Option (List Char × List Char)
  | '\\' :: 'u' :: a :: b :: c :: d :: cs => do
    let x ← character? [a, b, c, d]
    let (text, rest) ← readUpTo close named cs
    pure (x :: text, rest)
  | '\\' :: 'U' :: a :: b :: c :: d :: e :: f :: g :: h :: cs => do
    let x ← character? [a, b, c, d, e, f, g, h]
    let (text, rest) ← readUpTo close named cs
    pure (x :: text, rest)
  | '\\' :: c :: cs => do
    let x ← (if named then escaped? c else none)
    let (text, rest) ← readUpTo close named cs
    pure (x :: text, rest)
  | c :: cs =>
    if c = close then some ([], cs)
    else if c = '\\' then none
    else do
      let (text, rest) ← readUpTo close named cs
      pure (c :: text, rest)
  | [] => none

/-! ### Terms -/

/-- Reads an IRI behind its opening bracket. -/
def readIri (cs : List Char) : Option (Iri × List Char) := do
  let (text, rest) ← readUpTo '>' false cs
  let i ← Iri.parse? (String.ofList text)
  pure (i, rest)

/-- The letters of labels. -/
def isLetter (c : Char) : Bool :=
  let n := c.toNat
  c.isAlpha || (0xC0 ≤ n && n ≤ 0x2FF && n ≠ 0xD7 && n ≠ 0xF7) || (0x370 ≤ n && n ≤ 0x1FFF && n ≠ 0x37E) ||
    n = 0x200C || n = 0x200D || (0x2070 ≤ n && n ≤ 0x218F) || (0x2C00 ≤ n && n ≤ 0x2FEF) ||
    (0x3001 ≤ n && n ≤ 0xD7FF) || (0xF900 ≤ n && n ≤ 0xFDCF) || (0xFDF0 ≤ n && n ≤ 0xFFFD) ||
    (0x10000 ≤ n && n ≤ 0xEFFFF)

def startsLabel (c : Char) : Bool := isLetter c || c = '_' || c.isDigit

def inLabel (c : Char) : Bool :=
  let n := c.toNat
  startsLabel c || c = '-' || n = 0xB7 || (0x300 ≤ n && n ≤ 0x36F) || n = 0x203F || n = 0x2040

/-- Reads the part of a label behind its first letter. A full stop belongs to it if the label goes on behind. Something
    has to follow. -/
def readLabelTail : List Char → Option (List Char × List Char)
  | [] => none
  | c :: cs =>
    if inLabel c || (c = '.' && cs.head?.any inLabel) then
      (readLabelTail cs).map fun (label, rest) => (c :: label, rest)
    else if c = '.' && cs.isEmpty then none
    else some ([], c :: cs)

/-- Reads the label of a blank node. It may be empty. -/
def readLabel : List Char → Option (String × List Char)
  | [] => none
  | c :: cs =>
    if startsLabel c then (readLabelTail cs).map fun (label, rest) => (String.ofList (c :: label), rest)
    else some ("", c :: cs)

/-- Reads an IRI or a blank node. -/
def readNode : List Char → Option (Term × List Char)
  | '<' :: cs => (readIri cs).map fun (i, rest) => (.iri i, rest)
  | '_' :: ':' :: cs => (readLabel cs).map fun (label, rest) => (.blank label, rest)
  | _ => none

/-- Reads letters, and hyphens in front of letters. -/
def readTag : List Char → List Char × List Char
  | [] => ([], [])
  | c :: cs =>
    if c.isAlpha || (c = '-' && cs.head?.any Char.isAlpha) then
      let (tag, rest) := readTag cs
      (c :: tag, rest)
    else ([], c :: cs)

/-- Reads the language or datatype behind the text of a literal. -/
def readSuffix (lexical : String) (cs : List Char) : Option (Literal × List Char) :=
  match skipBlank cs with
  | '@' :: rest =>
    let (tag, rest) := readTag rest
    if LanguageTag.isWellFormed tag then some (.tagged lexical (String.ofList (LanguageTag.lower tag)), rest) else none
  | '^' :: '^' :: rest =>
    match skipBlank rest with
    | '<' :: rest => (readIri rest).map fun (d, rest) => (.ofDatatype lexical d, rest)
    | _ => none
  | rest => some (.plain lexical, rest)

def readObject : List Char → Option (Term × List Char)
  | '"' :: cs => do
    let (lexical, rest) ← readUpTo '"' true cs
    let (l, rest) ← readSuffix (String.ofList lexical) rest
    pure (.literal l, rest)
  | cs => readNode cs

/-! ### Statements -/

/-- A triple, and the name of its graph if it is not the default graph. -/
structure Statement where
  triple : Triple
  graphName : Option Term
  deriving DecidableEq, Repr

/-- Reads the name of a graph, where names are allowed and one is there. -/
def readGraphName (names : Bool) (cs : List Char) : Option (Option Term × List Char) :=
  match cs with
  | '.' :: _ => some (none, cs)
  | _ => if names then (readNode cs).map fun (name, rest) => (some name, rest) else none

/-- Reads a statement with its full stop. -/
def readStatement (names : Bool) (cs : List Char) : Option (Statement × List Char) := do
  let (subject, rest) ← readNode (skipBlank cs)
  let (predicate, rest) ← readNode (skipBlank rest)
  let (object, rest) ← readObject (skipBlank rest)
  let (graphName, rest) ← readGraphName names (skipBlank rest)
  match predicate, skipBlank rest with
  | .iri predicate, '.' :: rest => pure ({ triple := { subject, predicate, object }, graphName }, rest)
  | _, _ => none

end NTriples
end CollectionQuery
