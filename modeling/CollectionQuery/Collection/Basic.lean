import CollectionQuery.Collection.Rule
import CollectionQuery.Search.Template

/-! Everything that is declared about one collection, read from its own graph and from the description of the API.
    What the collection declares itself comes before what its classes declare; both apply, apart from the search
    template and the ordering, of which the first usable one is taken. -/

namespace CollectionQuery

structure Collection where
  iri : Iri
  /-- The graph that describes the collection itself. -/
  graph : Graph
  classes : List Iri := []
  assertions : List MemberAssertion := []
  search : Option SearchTemplate := none
  ordering : List OrderEntry := []
  /-- Loaded along with every member. -/
  includes : List IncludeRule := []
  /-- Loaded along with the members of a type. -/
  classIncludes : List IncludeRule := []
  /-- The members, if the collection lists them. -/
  members : Option (List Iri) := none
  instanceLimit : Option Nat := none
  classLimit : Option Nat := none
  strategies : List Iri := []

/-! ### Sources of declarations -/

/-- A node that declares rules, and the graph that describes it. -/
structure Source where
  graph : Graph
  node : Term

namespace Source

def objects (s : Source) (p : Iri) : List Term := s.graph.objects s.node p

/-- The objects of a predicate at all sources, each with the graph of the first source that has it. -/
def declared (sources : List Source) (predicates : List Iri) : List (Graph × Term) :=
  (sources.flatMap fun s => predicates.flatMap fun p => (s.objects p).map fun node => (s.graph, node)).eraseDupsBy
    fun x y => x.2 = y.2

/-- The classes of the API as sources. -/
def ofClasses (api : Graph) (classes : List Iri) : List Source := classes.map fun c => ⟨api, .iri c⟩

end Source

/-! ### Reading -/

namespace Collection

/-- The types of a collection that are IRIs, those in its own graph first. -/
def classesOf (iri : Iri) (graph api : Graph) : List Iri :=
  ((graph.objects (.iri iri) Rdf.type ++ api.objects (.iri iri) Rdf.type).filterMap fun
    | .iri c => some c
    | _ => none).eraseDups

/-- The first template that can be read. Only the first one of each source counts. -/
def firstSearch : List Source → Noted (Option SearchTemplate)
  | [] => pure none
  | s :: rest =>
    match (s.objects Hydra.search).head? with
    | none => firstSearch rest
    | some node => do
      match ← SearchTemplate.read s.graph node with
      | some t => pure (some t)
      | none => firstSearch rest

/-- The entries of an ordering, none if it is no list. -/
def readOrdering (g : Graph) (head : Term) : Noted (List OrderEntry) :=
  match g.list head with
  | .ok nodes => nodes.mapM (OrderEntry.read g)
  | .error error => do
    Noted.warn (.invalidOrdering error)
    pure []

/-- The first ordering with entries. -/
def firstOrdering : List (Graph × Term) → Noted (List OrderEntry)
  | [] => pure []
  | (g, head) :: rest => do
    let entries ← readOrdering g head
    if entries.isEmpty then firstOrdering rest else pure entries

/-- The members that a graph lists, those that are IRIs. -/
def readMembers (iri : Iri) (graph : Graph) : Noted (Option (List Iri)) :=
  match graph.objects (.iri iri) Hydra.member with
  | [] => pure none
  | nodes => do
    let members ← Noted.keep (fun
      | .iri m => pure (some m)
      | other => do
        Noted.warn (.memberNotIri iri other)
        pure none) nodes
    pure (some members)

/-- The includes that classes of the API declare, for members of the declaring class only. -/
def typedIncludes (api : Graph) : List IncludeRule :=
  (api.ofPredicate Rule.includes).filterMap fun t =>
    match t.subject with
    | .iri c => some { IncludeRule.read api t.object with memberType := some c }
    | _ => none

/-- The implementations that sources refer to as strategies for describing members. -/
def memberStrategies (sources : List Source) : List Iri :=
  sources.flatMap fun s => (s.objects Rule.memberDescribeStrategy).filterMap s.graph.implementation?

def read (iri : Iri) (graph api : Graph) : Noted Collection := do
  let classes := classesOf iri graph api
  let classSources := Source.ofClasses api classes
  let sources := ⟨graph, .iri iri⟩ :: classSources
  let search ← firstSearch sources
  let ordering ← firstOrdering (sources.flatMap fun s => (s.objects Rule.order).map fun head => (s.graph, head))
  let members ← readMembers iri graph
  pure {
    iri, graph, classes, search, ordering, members
    assertions := (Source.declared sources [Hydra.memberAssertion, Hydra.manages]).map fun (g, node) =>
      MemberAssertion.read g node
    includes := (Source.declared sources [Rule.memberIncludes]).map fun (g, node) => IncludeRule.read g node
    classIncludes := typedIncludes api
    instanceLimit := (graph.object? (.iri iri) Hydra.limit).bind Term.count?
    classLimit := classSources.findSome? fun s => (s.objects Hydra.limit).findSome? Term.count?
    strategies := memberStrategies sources }

end Collection

/-! ### Classes -/

/-- The includes that some classes declare. -/
def Graph.includesOf (api : Graph) (classes : List Iri) : List IncludeRule :=
  (Source.declared (Source.ofClasses api classes) [Rule.includes]).map fun (g, node) => IncludeRule.read g node

/-- The implementations that some classes refer to as strategies for describing their instances. -/
def Graph.strategiesOf (api : Graph) (classes : List Iri) : List Iri :=
  (classes.flatMap fun c => (api.objects (.iri c) Rule.describeStrategy).filterMap api.implementation?).eraseDups

end CollectionQuery
