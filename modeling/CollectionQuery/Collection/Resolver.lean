import CollectionQuery.Collection.Filter
import CollectionQuery.Conversation

/-! Finding implementations. A host knows filters and strategies by their references; a resolver asks it at most once
    for each reference of a kind and keeps the answer, also that there is none. -/

namespace CollectionQuery

/-- Why a collection is not rendered or a resource not described. -/
inductive CollectionError where
  | endpoint (error : EndpointError)
  | ambiguousStrategy (resource : Term) (count : Nat)
  | unresolvedStrategy (resource : Term) (reference : Iri)
  deriving DecidableEq, Repr

def CollectionError.message : CollectionError → String
  | endpoint e => e.message
  | ambiguousStrategy resource count =>
    resource.text ++ " declares " ++ toString count ++ " describe strategies, at most one is allowed"
  | unresolvedStrategy resource reference =>
    "The describe strategy " ++ reference.bracketed ++ " of " ++ resource.text ++ " could not be resolved"

/-- Loads the data of some resources. -/
structure DescribeStrategy where
  describe : List Iri → Conversation (Except CollectionError (List Triple))

/-! ### Hosts -/

inductive ExtensionKind where
  | filter
  | describeStrategy
  deriving DecidableEq, Repr

/-- A question to a host. -/
structure Lookup where
  kind : ExtensionKind
  reference : Iri
  deriving DecidableEq, Repr

/-- A host may answer differently depending on the questions before. -/
structure Host where
  filter? : List Lookup → Iri → Option Filter
  strategy? : List Lookup → Iri → Option DescribeStrategy

/-- The host that always knows the same implementations. -/
def Host.ofRegistry (filters : List (Iri × Filter)) (strategies : List (Iri × DescribeStrategy)) : Host where
  filter? _ reference := filters.lookup reference
  strategy? _ reference := strategies.lookup reference

/-! ### Resolvers -/

structure Resolver where
  host : Host
  /-- The questions put to the host, in order. -/
  asked : List Lookup := []
  filters : List (Iri × Option Filter) := []
  strategies : List (Iri × Option DescribeStrategy) := []
  /-- The number of filter references that nothing is known about. -/
  unresolvedFilters : Nat := 0

/-- A computation that resolves references. -/
abbrev Resolving := StateT Resolver Noted

namespace Resolving
variable {α β : Type} (r : Resolver)

theorem value_pure (a : α) : ((pure a : Resolving α) r).value = (a, r) := rfl

theorem value_bind (x : Resolving α) (f : α → Resolving β) :
    ((x >>= f) r).value = (f (x r).value.1 (x r).value.2).value := rfl

theorem value_lift (x : Noted α) : ((liftM x : Resolving α) r).value = (x.value, r) := rfl

end Resolving

namespace Resolver

/-- The filter of a reference, and the resolver that remembers it. -/
def filter (r : Resolver) (reference : Iri) : Noted (Option Filter × Resolver) :=
  match r.filters.lookup reference with
  | some known => pure (known, r)
  | none => do
    let found := r.host.filter? r.asked reference
    if found.isNone then Noted.warn (.filterUnresolved reference)
    pure (found, { r with
      asked := r.asked ++ [⟨.filter, reference⟩]
      filters := (reference, found) :: r.filters
      unresolvedFilters := if found.isNone then r.unresolvedFilters + 1 else r.unresolvedFilters })

/-- The strategy of a reference, and the resolver that remembers it. -/
def strategy (r : Resolver) (reference : Iri) : Noted (Option DescribeStrategy × Resolver) :=
  match r.strategies.lookup reference with
  | some known => pure (known, r)
  | none => do
    let found := r.host.strategy? r.asked reference
    if found.isNone then Noted.warn (.strategyUnresolved reference)
    pure (found,
      { r with asked := r.asked ++ [⟨.describeStrategy, reference⟩], strategies := (reference, found) :: r.strategies })

/-- The only strategy that a resource declares, if it declares one. A strategy that nothing is known about is an
    error where it is `required`, and otherwise no strategy. -/
def onlyStrategy (resource : Term) (references : List Iri) (required : Bool) :
    Resolving (Except CollectionError (Option DescribeStrategy)) :=
  match references with
  | [] => pure (.ok none)
  | [reference] => do
    match ← (fun r => r.strategy reference : Resolving (Option DescribeStrategy)) with
    | some s => pure (.ok (some s))
    | none => if required then pure (.error (.unresolvedStrategy resource reference)) else pure (.ok none)
  | _ => pure (.error (.ambiguousStrategy resource references.length))

end Resolver
end CollectionQuery
