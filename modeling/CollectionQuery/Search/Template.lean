import CollectionQuery.Iri.Resolve
import CollectionQuery.Noted
import CollectionQuery.Rdf.Implementation
import CollectionQuery.Search.Params
import CollectionQuery.Template.Expand
import CollectionQuery.Text.Form
import CollectionQuery.Text.LanguageTag

/-! Search templates: URI templates whose variables are mapped to properties. A template is used in two directions: a
    query string is parsed into search parameters, and parameters are expanded into a link. -/

namespace CollectionQuery
open Text

/-- How terms are written as values of variables. -/
inductive Representation where
  /-- Literals by their text alone. -/
  | basic
  /-- Literals in quotes, with their language or datatype. -/
  | explicit
  deriving DecidableEq, Repr

structure Mapping where
  variableName : String
  property : Option Iri := none
  required : Bool := false
  filter : Option Iri := none
  deriving DecidableEq, Repr

structure SearchTemplate where
  template : String
  representation : Representation := .basic
  mappings : List Mapping := []
  deriving DecidableEq, Repr

/-! ### Reading from a graph -/

/-- The mapping at `node`, if it names a variable. -/
def Mapping.read (g : Graph) (node : Term) : Noted (Option Mapping) :=
  match g.object? node Hydra.variableName with
  | some (.literal name) => do
    let property ← match g.object? node Hydra.property with
      | some (.iri p) => pure (some p)
      | some other => do
        Noted.warn (.propertyNotIri node other)
        pure none
      | none => pure none
    pure (some {
      variableName := name.lexical
      property
      required := match g.object? node Hydra.required with
        | some (.literal l) => l.isTrue
        | _ => false
      filter := (g.object? node Rule.filter).bind g.implementation? })
  | _ => do
    Noted.warn (.variableMissing node)
    pure none

namespace SearchTemplate

/-- The mappings whose variable the template does not hold. Their values are lost in links. -/
def unused (t : SearchTemplate) : List Mapping :=
  let names := Template.names t.template.toList
  t.mappings.filter fun m => !names.contains m.variableName.toList

/-- The template at `node`, if it has a text. -/
def read (g : Graph) (node : Term) : Noted (Option SearchTemplate) :=
  match g.object? node Hydra.template with
  | some (.literal text) => do
    let representation :=
      if g.object? node Hydra.variableRepresentation = some (.iri Hydra.explicitRepresentation) then .explicit
      else .basic
    let mappings ← Noted.keep (Mapping.read g) (g.objects node Hydra.mapping)
    let search : SearchTemplate := { template := text.lexical, representation, mappings }
    search.unused.forM fun m => Noted.warn (.variableUnused search.template m.variableName)
    pure (some search)
  | _ => do
    Noted.warn (.templateMissing node)
    pure none

/-! ### Mappings -/

/-- The mapping that gives the page, if there is one. -/
def pageMapping? (t : SearchTemplate) : Option Mapping := t.mappings.find? fun m => m.property = some Hydra.pageIndex

/-- The mapping that gives the size of a page, if there is one. -/
def limitMapping? (t : SearchTemplate) : Option Mapping := t.mappings.find? fun m => m.property = some Hydra.limit

def isPaged (t : SearchTemplate) : Bool := t.pageMapping?.isSome

/-- Whether values of a property choose a page. -/
def choosesPage (p : Iri) : Bool := p = Hydra.pageIndex || p = Hydra.limit

/-- The mappings that restrict the members, with their properties. -/
def filters (t : SearchTemplate) : List (Mapping × Iri) :=
  t.mappings.filterMap fun m => (m.property.filter fun p => !choosesPage p).map fun p => (m, p)

/-- The property that the first mapping of a variable gives it. -/
def property? (t : SearchTemplate) (name : String) : Option Iri :=
  (t.mappings.find? fun m => m.variableName = name).bind (·.property)

/-! ### Values -/

/-- Whether a text is likely meant as an IRI. -/
def looksLikeIri (value : List Char) : Bool :=
  occurs "://".toList value || (behind? "urn:".toList value).isSome

/-- A value in basic representation. -/
def readBasic (value : List Char) : Term :=
  let text := String.ofList value
  match Iri.parse? text with
  | some i => if looksLikeIri value then .iri i else .literal (.plain text)
  | none => .literal (.plain text)

/-- The literal with the text behind its closing quote. A text that is neither a language nor a datatype is dropped. -/
def readSuffix (lexical suffix : List Char) : Literal :=
  let text := String.ofList lexical
  match suffix with
  | '@' :: tag =>
    if LanguageTag.isWellFormed tag then .tagged text (String.ofList (LanguageTag.lower tag)) else .plain text
  | '^' :: '^' :: name =>
    let name := ((name.dropWhile (· = '<')).reverse.dropWhile (· = '>')).reverse
    match Iri.parse? (String.ofList name) with
    | some datatype => .ofDatatype text datatype
    | none => .plain text
  | _ => .plain text

/-- A value in explicit representation: a literal if it begins with a quote. -/
def readExplicit (value : List Char) : Term :=
  let text := String.ofList value
  match value with
  | '"' :: quoted =>
    match cutLast? '"' quoted with
    | some (lexical, suffix) => .literal (readSuffix lexical suffix)
    | none => .literal (.plain text)
  | _ =>
    match Iri.parse? text with
    | some i => .iri i
    | none => .literal (.plain text)

/-- The term that a value denotes. A count is a number where it chooses a page. -/
def readValue (t : SearchTemplate) (property : Iri) (value : List Char) : Term :=
  if choosesPage property && (Count.read? value).isSome then
    .literal (.ofDatatype (String.ofList value) Xsd.integer)
  else
    match t.representation with
    | .basic => readBasic value
    | .explicit => readExplicit value

/-- A literal in explicit representation. -/
def writeExplicit : Literal → String
  | .plain v => "\"" ++ v ++ "\""
  | .tagged v language => "\"" ++ v ++ "\"@" ++ language
  | .typed v datatype => "\"" ++ v ++ "\"^^" ++ datatype.iri.text

/-- The value that denotes a term. Blank nodes have none. -/
def writeValue? (t : SearchTemplate) : Term → Option String
  | .iri i => some i.text
  | .blank _ => none
  | .literal l =>
    match t.representation with
    | .basic => some l.lexical
    | .explicit => some (writeExplicit l)

/-! ### Query strings and links -/

/-- The binding that a pair of a query string gives, if its variable is mapped. -/
def binding? (t : SearchTemplate) (pair : List Char × List Char) : Option (Iri × Term) :=
  (t.property? (String.ofList pair.1)).map fun p => (p, t.readValue p pair.2)

/-- The parameters that a query string gives, with or without a question mark in front. -/
def parseQuery (t : SearchTemplate) (query : String) : SearchParams :=
  let text := match query.toList with
    | '?' :: rest => rest
    | cs => cs
  .ofList ((Form.pairs text).filterMap t.binding?)

/-- The values of a variable. -/
def valuesOf (t : SearchTemplate) (params : SearchParams) (name : List Char) : List (List Char) :=
  match t.property? (String.ofList name) with
  | some p => (params.values p).filterMap fun v => (t.writeValue? v).map String.toList
  | none => []

/-- The link with the values of `params`. -/
def expand (t : SearchTemplate) (params : SearchParams) : String :=
  String.ofList (Template.expand t.template.toList (t.valuesOf params))

end SearchTemplate
end CollectionQuery
