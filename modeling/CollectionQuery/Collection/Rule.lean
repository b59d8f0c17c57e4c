import CollectionQuery.Noted
import CollectionQuery.Rdf.Graph

/-! The rules that a collection or a class declares: which resources are members, how they are ordered, and which
    resources are loaded along with others. -/

namespace CollectionQuery

/-! ### Member assertions -/

/-- A template of the triples that make a resource a member. The values of two positions are bound, and the member
    stands in the third. -/
structure MemberAssertion where
  node : Term
  subjects : List Term := []
  properties : List Term := []
  objects : List Term := []
  /-- The triples stand in the graph that is named like the member. -/
  ownGraphOnly : Bool := false
  deriving DecidableEq, Repr

def MemberAssertion.read (g : Graph) (node : Term) : MemberAssertion where
  node := node
  subjects := g.objects node Hydra.subject
  properties := g.objects node Hydra.property
  objects := g.objects node Hydra.object
  ownGraphOnly :=
    match g.object? node Rule.ownGraphOnly with
    | some (.literal l) => l.isTrue
    | _ => false

/-! ### Ordering -/

/-- A path to the values that members are sorted by. -/
structure OrderEntry where
  path : Option Path
  descending : Bool := false
  deriving DecidableEq, Repr

/-- The entry at `node`. An entry whose path cannot be read has none. -/
def OrderEntry.read (g : Graph) (node : Term) : Noted OrderEntry := do
  let path ← match g.object? node Rule.path with
    | some path =>
      match Path.read g path with
      | .ok p => pure (some p)
      | .error error => do
        Noted.warn (.invalidOrderPath node error)
        pure none
    | none => do
      Noted.warn (.orderPathMissing node)
      pure none
  pure { path, descending := g.object? node Rule.direction = some (.iri Rule.descending) }

/-! ### Includes -/

/-- A path to resources that are loaded along with the resource where it starts, possibly only for resources of one
    type. -/
structure IncludeRule where
  node : Term
  /-- The path, or why it cannot be read. -/
  path : Except ReadError Path
  memberType : Option Iri := none

/-- The rule at `node`, whose path is the value of `query:path` or else the node itself. -/
def IncludeRule.read (g : Graph) (node : Term) : IncludeRule where
  node := node
  path := Path.read g ((g.object? node Rule.path).getD node)

/-- The rule that follows a single predicate. -/
def IncludeRule.ofPredicate (p : Iri) : IncludeRule := { node := .iri p, path := .ok (.predicate p) }

end CollectionQuery
