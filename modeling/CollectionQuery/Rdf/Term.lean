import CollectionQuery.Rdf.Vocabulary
import CollectionQuery.Text.Hex

/-! Terms and triples, and their text: an IRI in angle brackets, a blank node behind `_:`, a literal in quotes with
    its language tag or datatype. -/

namespace CollectionQuery

/-- A datatype other than that of plain strings, whose literals are written without one. -/
structure Datatype where
  iri : Iri
  ne_string : iri ≠ Xsd.string
  deriving DecidableEq, Repr

inductive Literal where
  | plain (lexical : String)
  | tagged (lexical language : String)
  | typed (lexical : String) (datatype : Datatype)
  deriving DecidableEq, Repr

inductive Term where
  | iri (iri : Iri)
  | blank (label : String)
  | literal (literal : Literal)
  deriving DecidableEq, Repr

instance : Inhabited Term := ⟨.blank ""⟩

/-- A statement. Its subject is an IRI or a blank node in every document that is read. -/
structure Triple where
  subject : Term
  predicate : Iri
  object : Term
  deriving DecidableEq, Repr, Inhabited

/-! ### Literals -/

namespace Literal

/-- The literal of a datatype; strings are plain. -/
def ofDatatype (lexical : String) (datatype : Iri) : Literal :=
  if h : datatype = Xsd.string then .plain lexical else .typed lexical ⟨datatype, h⟩

def lexical : Literal → String
  | plain v | tagged v _ | typed v _ => v

/-- The decimal notation of a number. -/
def ofNat (n : Nat) : Literal := .typed (toString n) ⟨Xsd.integer, by decide⟩

/-- Whether a flag is set. -/
def isTrue (l : Literal) : Bool := l.lexical = "true" || l.lexical = "1"

@[simp] theorem lexical_ofDatatype (v : String) (d : Iri) : (ofDatatype v d).lexical = v := by
  unfold ofDatatype
  split <;> rfl

end Literal

/-! ### Text -/

def Iri.bracketed (i : Iri) : String := "<" ++ i.text ++ ">"

/-- A character within quotes. Control characters below U+0020 and U+007F, the quote and the backslash are escaped. -/
def Literal.quotedChar (c : Char) : List Char :=
  if c = '\x08' then ['\\', 'b']
  else if c = '\t' then ['\\', 't']
  else if c = '\n' then ['\\', 'n']
  else if c = '\x0C' then ['\\', 'f']
  else if c = '\r' then ['\\', 'r']
  else if c = '"' then ['\\', '"']
  else if c = '\\' then ['\\', '\\']
  else if c.toNat < 0x20 || c.toNat = 0x7F then
    ['\\', 'u', '0', '0', Text.Hex.digit (c.toNat / 16), Text.Hex.digit (c.toNat % 16)]
  else [c]

def Literal.quoted (lexical : String) : String :=
  "\"" ++ String.ofList (lexical.toList.flatMap quotedChar) ++ "\""

def Literal.text : Literal → String
  | plain v => quoted v
  | tagged v language => quoted v ++ "@" ++ language
  | typed v datatype => quoted v ++ "^^" ++ datatype.iri.bracketed

def Term.text : Term → String
  | iri i => i.bracketed
  | blank label => "_:" ++ label
  | literal l => l.text

def Triple.text (t : Triple) : String := t.subject.text ++ " " ++ t.predicate.bracketed ++ " " ++ t.object.text

end CollectionQuery
