/-! An IRI is kept as its text. The type admits every text: what a declaration calls an IRI is taken as it is, and
    only text that comes from a request or a reply is checked. -/

namespace CollectionQuery

structure Iri where
  text : String
  deriving DecidableEq, Repr, Inhabited

end CollectionQuery
