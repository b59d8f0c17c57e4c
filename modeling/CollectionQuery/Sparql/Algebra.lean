import CollectionQuery.Sparql.Path

/-! Graph patterns and queries. -/

namespace CollectionQuery

structure Variable where
  name : String
  deriving DecidableEq, Repr, Inhabited

/-- The subject or object of a triple pattern. -/
inductive TermPattern where
  | var (v : Variable)
  | term (t : Term)
  deriving DecidableEq, Repr

/-- The predicate of a triple pattern, or the name of a graph. -/
inductive NamePattern where
  | var (v : Variable)
  | iri (i : Iri)
  deriving DecidableEq, Repr

structure TriplePattern where
  subject : TermPattern
  predicate : NamePattern
  object : TermPattern
  deriving DecidableEq, Repr

/-- The conditions of filters. -/
inductive Condition where
  | isIri (v : Variable)
  | startsWith (v : Variable) (text : String)
  deriving DecidableEq, Repr

/-- A pattern of another form, such as the filter of a host may give: a difference, an assignment, a query of its own,
    a condition of another kind. Only what is read of a part of a query is kept of it. -/
structure ForeignPattern where
  text : String
  vars : List Variable
  /-- Whether its text would take in what stands in front of it. -/
  needsBraces : Bool := false
  deriving DecidableEq, Repr

inductive Pattern where
  | basic (triples : List TriplePattern)
  | path (subject : TermPattern) (path : Path) (object : TermPattern)
  | graph (name : NamePattern) (inner : Pattern)
  | filter (condition : Condition) (inner : Pattern)
  | union (left right : Pattern)
  | join (left right : Pattern)
  | leftJoin (left right : Pattern)
  | values (v : Variable) (rows : List Iri)
  | count (counted total : Variable) (inner : Pattern)
  | foreign (pattern : ForeignPattern)
  deriving DecidableEq, Repr

instance : Inhabited Pattern := ⟨.basic []⟩

structure OrderCondition where
  descending : Bool
  key : Variable
  deriving DecidableEq, Repr

/-- The part of the solutions that a query returns. -/
structure Slice where
  start : Nat
  length : Nat
  deriving DecidableEq, Repr

structure Select where
  distinct : Bool := false
  /-- No variables stand for all of them. -/
  projection : List Variable
  pattern : Pattern
  order : List OrderCondition := []
  slice : Option Slice := none
  deriving DecidableEq, Repr

inductive Query where
  | select (select : Select)
  | construct (template : List TriplePattern) (select : Select)
  | describe (select : Select)
  | ask (select : Select)
  deriving DecidableEq, Repr

/-- Whether the answer to the query is a graph. -/
def Query.returnsGraph : Query → Bool
  | construct _ _ | describe _ => true
  | select _ | ask _ => false

end CollectionQuery
