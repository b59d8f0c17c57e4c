import CollectionQuery.Iri.Basic

/-! The names of the vocabularies that declarations are written in. -/

namespace CollectionQuery
namespace Rdf

def type : Iri := ⟨"http://www.w3.org/1999/02/22-rdf-syntax-ns#type"⟩
def first : Iri := ⟨"http://www.w3.org/1999/02/22-rdf-syntax-ns#first"⟩
def rest : Iri := ⟨"http://www.w3.org/1999/02/22-rdf-syntax-ns#rest"⟩
def nil : Iri := ⟨"http://www.w3.org/1999/02/22-rdf-syntax-ns#nil"⟩

end Rdf

namespace Xsd

def string : Iri := ⟨"http://www.w3.org/2001/XMLSchema#string"⟩
def integer : Iri := ⟨"http://www.w3.org/2001/XMLSchema#integer"⟩

end Xsd

namespace Shacl

def inversePath : Iri := ⟨"http://www.w3.org/ns/shacl#inversePath"⟩

end Shacl

/-! ### Collections -/

namespace Hydra

def member : Iri := ⟨"http://www.w3.org/ns/hydra/core#member"⟩
def memberAssertion : Iri := ⟨"http://www.w3.org/ns/hydra/core#memberAssertion"⟩
def manages : Iri := ⟨"http://www.w3.org/ns/hydra/core#manages"⟩
def subject : Iri := ⟨"http://www.w3.org/ns/hydra/core#subject"⟩
def property : Iri := ⟨"http://www.w3.org/ns/hydra/core#property"⟩
def object : Iri := ⟨"http://www.w3.org/ns/hydra/core#object"⟩
def search : Iri := ⟨"http://www.w3.org/ns/hydra/core#search"⟩
def template : Iri := ⟨"http://www.w3.org/ns/hydra/core#template"⟩
def mapping : Iri := ⟨"http://www.w3.org/ns/hydra/core#mapping"⟩
def variableName : Iri := ⟨"http://www.w3.org/ns/hydra/core#variable"⟩
def required : Iri := ⟨"http://www.w3.org/ns/hydra/core#required"⟩
def variableRepresentation : Iri := ⟨"http://www.w3.org/ns/hydra/core#variableRepresentation"⟩
def explicitRepresentation : Iri := ⟨"http://www.w3.org/ns/hydra/core#ExplicitRepresentation"⟩
def limit : Iri := ⟨"http://www.w3.org/ns/hydra/core#limit"⟩
def pageIndex : Iri := ⟨"http://www.w3.org/ns/hydra/core#pageIndex"⟩
def totalItems : Iri := ⟨"http://www.w3.org/ns/hydra/core#totalItems"⟩
def view : Iri := ⟨"http://www.w3.org/ns/hydra/core#view"⟩
def partialCollectionView : Iri := ⟨"http://www.w3.org/ns/hydra/core#PartialCollectionView"⟩
def first : Iri := ⟨"http://www.w3.org/ns/hydra/core#first"⟩
def previous : Iri := ⟨"http://www.w3.org/ns/hydra/core#previous"⟩
def next : Iri := ⟨"http://www.w3.org/ns/hydra/core#next"⟩
def last : Iri := ⟨"http://www.w3.org/ns/hydra/core#last"⟩

end Hydra

/-! ### Rules for loading members -/

namespace Rule

def filter : Iri := ⟨"https://hypermedia.app/query#filter"⟩
def order : Iri := ⟨"https://hypermedia.app/query#order"⟩
def path : Iri := ⟨"https://hypermedia.app/query#path"⟩
def direction : Iri := ⟨"https://hypermedia.app/query#direction"⟩
def descending : Iri := ⟨"https://hypermedia.app/query#descending"⟩
def includes : Iri := ⟨"https://hypermedia.app/query#include"⟩
def memberIncludes : Iri := ⟨"https://hypermedia.app/query#memberInclude"⟩
def ownGraphOnly : Iri := ⟨"https://hypermedia.app/query#ownGraphOnly"⟩
def describeStrategy : Iri := ⟨"https://hypermedia.app/query#describeStrategy"⟩
def memberDescribeStrategy : Iri := ⟨"https://hypermedia.app/query#memberDescribeStrategy"⟩

end Rule

/-! ### Implementations -/

namespace Code

def implementedBy : Iri := ⟨"https://code.described.at/implementedBy"⟩
def link : Iri := ⟨"https://code.described.at/link"⟩

end Code
end CollectionQuery
