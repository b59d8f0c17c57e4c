import CollectionQuery.Sparql.Path

/-! Defects of declarations and replies that do not stop a request. The defective part is left out, and a warning
    says so. -/

namespace CollectionQuery

/-- Why a member assertion gives no patterns. -/
inductive AssertionError where
  | boundPositions (count : Nat)
  | nonIriProperty (property : Term)
  | unsupportedTerm (term : Term)
  deriving DecidableEq, Repr

def AssertionError.message : AssertionError → String
  | boundPositions n =>
    "exactly two of subject, property and object must be bound, found " ++ toString n
  | nonIriProperty t => "property " ++ t.text ++ " is not an IRI"
  | unsupportedTerm t => t.text ++ " cannot be used in a pattern"

inductive Warning where
  | templateMissing (node : Term)
  | variableMissing (mapping : Term)
  | propertyNotIri (mapping property : Term)
  | variableUnused (template variableName : String)
  | invalidOrdering (error : ReadError)
  | invalidOrderPath (entry : Term) (error : ReadError)
  | orderPathMissing (entry : Term)
  | memberNotIri (collection : Iri) (member : Term)
  | invalidAssertion (collection : Iri) (assertion : Term) (error : AssertionError)
  | orderingUnpaged (collection : Iri)
  | valuesIgnored (predicate : Iri) (count : Nat)
  | filterUnresolved (reference : Iri)
  | strategyUnresolved (reference : Iri)
  | invalidInclude (node : Term) (error : ReadError)
  | baseInvalid (base : Iri)
  | linkInvalid (link : String)
  | countMissing
  deriving DecidableEq, Repr

namespace Warning

def message : Warning → String
  | templateMissing _ => "Ignoring search template without hydra:template"
  | variableMissing _ => "Ignoring template mapping without hydra:variable"
  | propertyNotIri _ _ => "Mapped property is not an IRI"
  | variableUnused _ _ => "Mapped variable does not appear in the template"
  | invalidOrdering _ => "Ignoring invalid ordering list"
  | invalidOrderPath _ _ => "Ignoring invalid ordering path"
  | orderPathMissing _ => "Ordering entry has no query:path"
  | memberNotIri _ _ => "Ignoring member that is not an IRI"
  | invalidAssertion _ _ _ => "Ignoring invalid member assertion"
  | orderingUnpaged _ => "Ordering is only applied to paged collections"
  | valuesIgnored _ _ => "The default filter only supports a single value, ignoring the others"
  | filterUnresolved _ => "Filter implementation could not be resolved"
  | strategyUnresolved _ => "Describe strategy could not be resolved"
  | invalidInclude _ _ => "Ignoring include with invalid path"
  | baseInvalid _ => "Collection IRI cannot be used as a base IRI"
  | linkInvalid _ => "Expanded view link is not a valid IRI"
  | countMissing => "The total query returned no count"

/-- What the warning is about: names and texts. -/
def fields : Warning → List (String × String)
  | templateMissing node => [("template", node.text)]
  | variableMissing mapping => [("mapping", mapping.text)]
  | propertyNotIri mapping property => [("mapping", mapping.text), ("property", property.text)]
  | variableUnused template name => [("template", template), ("variable", name)]
  | invalidOrdering error => [("error", error.message)]
  | invalidOrderPath entry error => [("entry", entry.text), ("error", error.message)]
  | orderPathMissing entry => [("entry", entry.text)]
  | memberNotIri collection member => [("collection", collection.bracketed), ("member", member.text)]
  | invalidAssertion collection assertion error =>
    [("collection", collection.bracketed), ("assertion", assertion.text), ("error", error.message)]
  | orderingUnpaged collection => [("collection", collection.bracketed)]
  | valuesIgnored predicate count => [("predicate", predicate.bracketed), ("values", toString count)]
  | filterUnresolved reference => [("reference", reference.bracketed)]
  | strategyUnresolved reference => [("reference", reference.bracketed)]
  | invalidInclude node error => [("include", node.text), ("error", error.message)]
  | baseInvalid base => [("base", base.bracketed)]
  | linkInvalid link => [("link", link)]
  | countMissing => []

end Warning
end CollectionQuery
