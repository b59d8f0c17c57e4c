import CollectionQuery.Collection.Fragment
import CollectionQuery.Noted
import CollectionQuery.Search.Params

/-! Filters: implementations that restrict the members by the values of a search variable. -/

namespace CollectionQuery

structure FilterInput where
  /-- The variable that stands for a member. -/
  subject : Variable
  /-- The property that the search variable is mapped to. -/
  predicate : Iri
  values : List Term
  /-- Gives variables that no other filter has. -/
  generator : VariableGenerator
  params : SearchParams

/-- A filter gives the pattern that members match, none if it does not restrict them. -/
structure Filter where
  pattern : FilterInput → Noted (Option Pattern)

/-- The filter of mappings that declare none: the member has exactly the first value. -/
def Filter.equality : Filter where
  pattern input :=
    match input.values with
    | [] => pure none
    | v :: rest => do
      unless rest.isEmpty do Noted.warn (.valuesIgnored input.predicate input.values.length)
      pure (Pattern.equals? input.subject input.predicate v)

end CollectionQuery
