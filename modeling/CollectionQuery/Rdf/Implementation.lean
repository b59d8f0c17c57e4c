import CollectionQuery.Rdf.Graph

/-! References from a graph to implementations outside of it. -/

namespace CollectionQuery

/-- The implementation that `node` refers to: itself if it is an IRI, otherwise the value of `code:implementedBy`, or
    the `code:link` of that value. -/
def Graph.implementation? (g : Graph) : (node : Term) → Option Iri
  | .iri i => some i
  | node =>
    match g.object? node Code.implementedBy with
    | some (.iri i) => some i
    | some other =>
      match g.object? other Code.link with
      | some (.iri i) => some i
      | _ => none
    | none => none

end CollectionQuery
