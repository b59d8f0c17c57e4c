import CollectionQuery.Collection.Resolver
import CollectionQuery.Collection.View

/-! The queries for one page of a collection: one that selects its members, and one that counts all members. -/

namespace CollectionQuery

/-! ### Options -/

/-- Settings that are not declared. -/
structure Options where
  /-- The size of a page that nothing else gives. -/
  pageSize : Nat := 10
  /-- The variable that stands for a member. -/
  member : Variable := ⟨"member"⟩
  deriving DecidableEq, Repr

/-- The options with another page size, at least one. -/
def Options.withPageSize (o : Options) (size : Nat) : Options := { o with pageSize := max 1 size }

/-- The options with another variable for members. -/
def Options.withMember (o : Options) (member : Variable) : Options := { o with member }

/-! ### Queries -/

structure MemberQueries where
  members : Query
  total : Query
  /-- The page, if the collection is paged. -/
  page : Option PageRequest
  deriving DecidableEq, Repr

namespace MemberQueries

/-- The variable that the number of members is bound to. -/
def totalVariable : Variable := ⟨"total"⟩

/-- The query for all distinct members among the solutions of some fragments, sorted, or for a page of them. -/
def selectMembers (member : Variable) (fragments : List Fragment) (sorting : Sorting) (page : Option PageRequest) :
    Query :=
  .select {
    distinct := true
    projection := [member]
    pattern := .filter (.isIri member) (.group (fragments ++ sorting.fragments))
    order := sorting.conditions
    slice := page.map fun p => ⟨p.offset, p.size⟩ }

/-- The query for the number of distinct members. -/
def selectTotal (member : Variable) (fragments : List Fragment) : Query :=
  .select {
    projection := [totalVariable]
    pattern := .count member totalVariable (.filter (.isIri member) (.group fragments)) }

/-! ### Fragments -/

/-- The patterns of the valid assertions. -/
def assertionPatterns (c : Collection) (member : Variable) : Noted (List Pattern) := do
  let patterns ← c.assertions.mapM fun a =>
    match a.patterns member with
    | .ok ps => pure ps
    | .error e => do
      Noted.warn (.invalidAssertion c.iri a.node e)
      pure []
  pure patterns.flatten

/-- The filter of a mapping, none if it declares one that nothing is known about. -/
def filterOf (m : Mapping) : Resolving (Option Filter) :=
  match m.filter with
  | some reference => fun r => r.filter reference
  | none => pure (some .equality)

/-- The patterns of the filters of some mappings, of which `count` mappings before have called theirs. -/
def filterPatternsFrom (params : SearchParams) (member : Variable) :
    (count : Nat) → List (Mapping × Iri) → Resolving (List Pattern)
  | _, [] => pure []
  | count, (m, p) :: rest =>
    match params.values p with
    | [] => filterPatternsFrom params member count rest
    | values => do
      match ← filterOf m with
      | none => filterPatternsFrom params member count rest
      | some f => do
        let pattern ← (f.pattern {
          subject := member, predicate := p, values, params
          generator := ⟨"filter" ++ toString (count + 1)⟩ } : Noted (Option Pattern))
        let patterns ← filterPatternsFrom params member (count + 1) rest
        pure (pattern.toList ++ patterns)

/-- The patterns of the filters of all search variables with a value. -/
def filterPatterns (c : Collection) (params : SearchParams) (member : Variable) : Resolving (List Pattern) :=
  match c.search with
  | some t => filterPatternsFrom params member 0 t.filters
  | none => pure []

/-- The sorting of a page. Without pages there is none. -/
def sortingOf (c : Collection) (member : Variable) (page : Option PageRequest) : Noted Sorting :=
  match page with
  | some _ => pure (.ofEntries member c.ordering)
  | none => do
    unless c.ordering.isEmpty do Noted.warn (.orderingUnpaged c.iri)
    pure {}

/-- The queries for the page that the parameters ask for. Without a valid assertion there are none: such a
    collection has no members. -/
def assemble (c : Collection) (params : SearchParams) (options : Options) : Resolving (Option MemberQueries) := do
  let member := options.member
  let assertions ← (assertionPatterns c member : Noted _)
  if assertions.isEmpty then pure none
  else
    let filters ← filterPatterns c params member
    let page := PageRequest.resolve c params options.pageSize
    let sorting ← (sortingOf c member page : Noted _)
    let fragments := (assertions ++ filters).map Fragment.required
    pure (some { members := selectMembers member fragments sorting page, total := selectTotal member fragments, page })

end MemberQueries
end CollectionQuery
