import CollectionQuery.Search.Template

/-! A library of books, which the examples are taken from: the names of its things, and what graphs say about
    collections of them. -/

namespace CollectionQuery
namespace Library

/-! ### Collections and books -/

/-- All books. -/
def books : Iri := ⟨"http://example.org/books"⟩

/-- Some books. -/
def shelf : Iri := ⟨"http://example.org/shelf"⟩

def firstBook : Iri := ⟨"http://example.org/1"⟩

def secondBook : Iri := ⟨"http://example.org/2"⟩

def thirdBook : Iri := ⟨"http://example.org/3"⟩

def bookClass : Iri := ⟨"http://example.org/Book"⟩

def shelfClass : Iri := ⟨"http://example.org/Shelf"⟩

/-! ### Properties -/

def title : Iri := ⟨"http://example.org/title"⟩

def author : Iri := ⟨"http://example.org/author"⟩

/-- The property of authors and editors alike. -/
def creator : Iri := ⟨"http://example.org/creator"⟩

def genre : Iri := ⟨"http://example.org/genre"⟩

def name : Iri := ⟨"http://example.org/name"⟩

/-! ### Implementations -/

def bookFilter : Iri := ⟨"http://example.org/filter"⟩

def bookStrategy : Iri := ⟨"http://example.org/strategy"⟩

/-! ### Declarations -/

/-- The members of a collection are the books. -/
def holdsBooks (collection : Iri) : List Triple := [
  ⟨.iri collection, Hydra.memberAssertion, .blank "assertion"⟩,
  ⟨.blank "assertion", Hydra.property, .iri Rdf.type⟩,
  ⟨.blank "assertion", Hydra.object, .iri bookClass⟩]

/-- A collection is searched by one variable. -/
def searchedBy (collection : Iri) (template variableName : String) (property : Iri) : List Triple := [
  ⟨.iri collection, Hydra.search, .blank "search"⟩,
  ⟨.blank "search", Hydra.template, .literal (.plain template)⟩,
  ⟨.blank "search", Hydra.mapping, .blank "mapping"⟩,
  ⟨.blank "mapping", Hydra.variableName, .literal (.plain variableName)⟩,
  ⟨.blank "mapping", Hydra.property, .iri property⟩]

/-! ### Variables of searches -/

def pageMapping : Mapping := { variableName := "page", property := some Hydra.pageIndex }

def authorMapping (filter : Option Iri := none) : Mapping :=
  { variableName := "author", property := some author, filter }

def genreMapping (filter : Option Iri := none) : Mapping :=
  { variableName := "genre", property := some genre, filter }

/-- One of several variables for the creators of a book. -/
def creatorMapping (variableName : String) (filter : Option Iri := none) : Mapping :=
  { variableName, property := some creator, filter }

end Library
end CollectionQuery
