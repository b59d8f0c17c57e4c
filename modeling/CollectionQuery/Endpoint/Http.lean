import CollectionQuery.Rdf.NTriples
import CollectionQuery.Sparql.ResultJson
import CollectionQuery.Text.Utf8

/-! Queries over HTTP: the request that a query is sent with, and the reply that a response holds. Graphs are asked
    for as N-Triples, solutions and booleans as JSON. -/

namespace CollectionQuery
namespace Http
open Text

/-- A request by the method POST. -/
structure Request where
  contentType : String
  accept : String
  body : String
  deriving DecidableEq, Repr

structure Response where
  status : Nat
  body : List UInt8
  /-- The body was received to its end. -/
  complete : Bool := true
  deriving DecidableEq, Repr

def request (q : Query) : Request where
  contentType := "application/sparql-query"
  accept := if q.returnsGraph then "application/n-triples" else "application/sparql-results+json"
  body := q.text

def readGraph (body : List UInt8) : Reply :=
  match (Utf8.decode? body).bind (NTriples.read? false) with
  | some statements => .ok (.graph (statements.map (·.triple)))
  | none => .error .rdf

def readResults (body : List UInt8) : Reply :=
  match (Utf8.decode? body).bind ResultJson.read? with
  | some result => .ok result
  | none => .error .results

/-- The reply to a query, `none` standing for a request that got no response. The body of a refusal is kept as far as
    it can be decoded. -/
def reply (q : Query) : Option Response → Reply
  | none => .error .transport
  | some r =>
    if 200 ≤ r.status ∧ r.status < 300 then
      if !r.complete then .error .transport
      else if q.returnsGraph then readGraph r.body
      else readResults r.body
    else
      .error (.status r.status (if r.complete then String.ofList (Utf8.decodeLossy r.body) else ""))

end Http
end CollectionQuery
