import CollectionQuery.Collection.Api
import CollectionQuery.Collection.Links
import CollectionQuery.Collection.MemberQuery

/-! Rendering a page of a collection and describing a resource, in conversation with an endpoint. -/

namespace CollectionQuery

/-- A rendered page. -/
structure Page where
  /-- The graph of the collection, the members with their data, the view and the total. -/
  graph : Graph
  members : List Iri
  /-- The number of members of the whole collection. -/
  total : Nat
  view : Option View

/-- A conversation that resolves references and may fail. -/
abbrev Rendering := ExceptT CollectionError (StateT Resolver Conversation)

namespace Rendering

def resolving {α : Type} (x : Resolving α) : Rendering α := fun r => do
  let (a, r) ← Conversation.ofNoted (x r)
  pure (.ok a, r)

def noted {α : Type} (x : Noted α) : Rendering α := fun r => do pure (.ok (← Conversation.ofNoted x), r)

def conversing {α : Type} (x : Conversation (Except CollectionError α)) : Rendering α := fun r => do pure (← x, r)

/-- Lifts an outcome. -/
def outcome {α : Type} (x : Except CollectionError α) : Rendering α := fun r => pure (x, r)

/-- Puts a query to the endpoint and reads the reply. -/
def asking {α : Type} (q : Query) (read : Reply → Except EndpointError α) : Rendering α :=
  conversing do
    match read (← Conversation.put q) with
    | .ok a => pure (.ok a)
    | .error e => pure (.error (.endpoint e))

end Rendering

namespace Collection
open Rendering Text

/-- The parameters that a query string gives. Without a search template there are none. -/
def searchParams (c : Collection) (query : String) : SearchParams :=
  match c.search with
  | some t => t.parseQuery query
  | none => .empty

/-! ### Members -/

/-- The IRI that a solution binds to the variable of members. -/
def memberOf? (member : Variable) (s : Solution) : Option Iri :=
  match s.get? member with
  | some (.iri i) => some i
  | _ => none

/-- The distinct IRIs bound to the variable of members, in the order of the solutions. -/
def membersOf (member : Variable) (solutions : List Solution) : List Iri :=
  (solutions.filterMap (memberOf? member)).eraseDups

/-- The number that the first solution of the total query gives, zero if it gives none. -/
def totalOf (solutions : List Solution) : Noted Nat :=
  let count := solutions.head?.bind fun s =>
    match s.get? MemberQueries.totalVariable with
    | some (.literal l) => Count.read? l.lexical.toList
    | _ => none
  match count with
  | some n => pure n
  | none => do
    Noted.warn .countMissing
    pure 0

/-- The members of the page and the number of all members. -/
def select (c : Collection) (params : SearchParams) (options : Options) : Rendering (List Iri × Nat) :=
  match c.members with
  | some listed =>
    let members := listed.eraseDups
    pure (members, members.length)
  | none => do
    match ← resolving (MemberQueries.assemble c params options) with
    | none => pure ([], 0)
    | some queries => do
      let members ← asking queries.members Reply.solutions
      let total ← asking queries.total Reply.solutions
      let count ← noted (totalOf total)
      pure (membersOf options.member members, count)

/-- The data of the members: as the strategy of the collection gives it, otherwise through the includes of the
    collection and of the classes of the API. -/
def loadMembers (c : Collection) (options : Options) (members : List Iri) : Rendering (List Triple) :=
  if members.isEmpty then pure []
  else do
    match ← outcome (← resolving (Resolver.onlyStrategy (.iri c.iri) c.strategies false)) with
    | some strategy => conversing (strategy.describe members)
    | none => do
      let own ← conversing ((DescribeStrategy.following options.member c.includes).describe members)
      if c.classIncludes.isEmpty then pure own
      else do
        let typed ← conversing ((DescribeStrategy.following options.member c.classIncludes).describe members)
        pure (own ++ typed)

/-! ### Pages -/

/-- The graph of a rendered page. -/
def pageGraph (c : Collection) (members : List Iri) (total : Nat) (view : Option View) (data : List Triple) : Graph :=
  let listed := if c.members.isNone then members.map fun m => ⟨.iri c.iri, Hydra.member, .iri m⟩ else []
  let links := match view with
    | some v => v.triples c.iri
    | none => []
  c.graph.insertAll (listed ++ data ++ links ++ [View.totalItems c.iri total])

/-- Renders the page that the parameters ask for. -/
def render (c : Collection) (params : SearchParams) (options : Options) : Rendering Page := do
  let (members, total) ← c.select params options
  let data ← c.loadMembers options members
  let view ← match c.search, PageRequest.resolve c params options.pageSize with
    | some t, some page => noted (View.compute t params total page.size c.iri)
    | _, _ => pure none
  pure { graph := c.pageGraph members total view data, members, total, view }

end Collection

/-! ### Resources -/

namespace Snapshot
open Rendering

/-- Runs a rendering with the resolver of the snapshot. -/
def run {α : Type} (s : Snapshot) (x : Rendering α) : Conversation (Except CollectionError α × Snapshot) := do
  let (a, resolver) ← x.run s.resolver
  pure (a, { s with resolver })

/-- Renders the page of a collection that a query string asks for. -/
def render (s : Snapshot) (options : Options) (iri : Iri) (graph : Graph) (query : String) :
    Conversation (Except CollectionError Page × Snapshot) := do
  let c ← Conversation.ofNoted (Collection.read iri graph s.graph)
  s.run (c.render (c.searchParams query) options)

/-- Describes a resource of some types with the links that its types declare, or as their strategy does. -/
def describeResource (s : Snapshot) (options : Options) (resource : Iri) (types : List Iri) :
    Conversation (Except CollectionError (List Triple) × Snapshot) :=
  s.run do
    match ← outcome (← resolving (Resolver.onlyStrategy (.iri resource) (s.graph.strategiesOf types) true)) with
    | some strategy => conversing (strategy.describe [resource])
    | none =>
      conversing ((DescribeStrategy.following options.member (s.graph.includesOf types)).describe [resource])

end Snapshot
end CollectionQuery
