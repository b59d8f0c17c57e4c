import CollectionQuery.Sparql.Text

/-! Answers of an endpoint to queries, and what may go wrong on the way. A query that expects one kind of answer
    refuses the others. -/

namespace CollectionQuery

/-- The terms that one solution binds to variables. -/
structure Solution where
  bindings : List (Variable × Term)
  deriving DecidableEq, Repr

/-- The term bound to a variable. -/
def Solution.get? (s : Solution) (v : Variable) : Option Term := s.bindings.lookup v

inductive Shape where
  | solutions
  | graph
  | boolean
  deriving DecidableEq, Repr

def Shape.text : Shape → String
  | solutions => "solutions"
  | graph => "a graph"
  | boolean => "a boolean"

inductive QueryResult where
  | solutions (solutions : List Solution)
  | graph (triples : List Triple)
  | boolean (value : Bool)
  deriving DecidableEq, Repr

def QueryResult.shape : QueryResult → Shape
  | solutions _ => .solutions
  | graph _ => .graph
  | boolean _ => .boolean

inductive EndpointError where
  /-- The request could not be sent or the answer not be received. -/
  | transport
  /-- The endpoint refused the query. -/
  | status (code : Nat) (body : String)
  /-- The solutions or the boolean cannot be read. -/
  | results
  /-- The triples cannot be read. -/
  | rdf
  | unexpectedShape (expected actual : Shape)
  | other (message : String)
  deriving DecidableEq, Repr

def EndpointError.message : EndpointError → String
  | transport => "The SPARQL endpoint could not be reached"
  | status code body => "The SPARQL endpoint answered with status " ++ toString code ++ ": " ++ body
  | results => "The solutions of the SPARQL endpoint could not be read"
  | rdf => "The triples of the SPARQL endpoint could not be read"
  | unexpectedShape expected actual => "Expected " ++ expected.text ++ " but the query returned " ++ actual.text
  | other message => message

/-- What comes back for a query. -/
abbrev Reply := Except EndpointError QueryResult

namespace Reply

def solutions : Reply → Except EndpointError (List Solution)
  | .ok (.solutions rows) => .ok rows
  | .ok other => .error (.unexpectedShape .solutions other.shape)
  | .error e => .error e

def triples : Reply → Except EndpointError (List Triple)
  | .ok (.graph ts) => .ok ts
  | .ok other => .error (.unexpectedShape .graph other.shape)
  | .error e => .error e

def boolean : Reply → Except EndpointError Bool
  | .ok (.boolean b) => .ok b
  | .ok other => .error (.unexpectedShape .boolean other.shape)
  | .error e => .error e

end Reply
end CollectionQuery
