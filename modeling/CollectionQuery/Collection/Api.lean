import CollectionQuery.Collection.Resolver
import CollectionQuery.Rdf.Implementation

/-! The description of an API: its graph, and a resolver that already knows what the graph refers to. -/

namespace CollectionQuery

structure Snapshot where
  graph : Graph
  resolver : Resolver

namespace Snapshot

/-- The references of a predicate, in the order of its triples. -/
def references (g : Graph) (p : Iri) : List Iri := (g.ofPredicate p).filterMap fun t => g.implementation? t.object

def resolveFilters : List Iri → Resolver → Noted Resolver
  | [], r => pure r
  | reference :: rest, r => do
    let (_, r) ← r.filter reference
    resolveFilters rest r

def resolveStrategies : List Iri → Resolver → Noted Resolver
  | [], r => pure r
  | reference :: rest, r => do
    let (_, r) ← r.strategy reference
    resolveStrategies rest r

/-- The snapshot of a graph. All filters and strategies that the graph refers to are resolved. -/
def load (graph : Graph) (host : Host) : Noted Snapshot := do
  let resolver ← resolveFilters (references graph Rule.filter) { host }
  let resolver ← resolveStrategies
    (references graph Rule.describeStrategy ++ references graph Rule.memberDescribeStrategy) resolver
  pure { graph, resolver }

def unresolvedFilters (s : Snapshot) : Nat := s.resolver.unresolvedFilters

end Snapshot

/-- The description of an API that can be replaced as a whole. -/
structure Api where
  current : Snapshot

/-- Installs a snapshot. The one before is the result. -/
def Api.reload (api : Api) (snapshot : Snapshot) : Snapshot × Api := (api.current, ⟨snapshot⟩)

end CollectionQuery
