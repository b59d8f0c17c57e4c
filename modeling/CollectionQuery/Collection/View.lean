import CollectionQuery.Collection.Basic

/-! The page that a request asks for, and the links from it to the other pages. -/

namespace CollectionQuery
open Text

structure PageRequest where
  /-- Counted from one. -/
  index : Nat
  size : Nat
  deriving DecidableEq, Repr

namespace PageRequest

/-- The index that parameters ask for, the first page if they ask for none. -/
def indexOf (params : SearchParams) : Nat := ((params.count? Hydra.pageIndex).filter (0 < ·)).getD 1

/-- The size of a page: the first one that the request, the collection, its classes or the default give. -/
def sizeOf (c : Collection) (params : SearchParams) (defaultSize : Nat) : Nat :=
  max 1 (((((params.count? Hydra.limit).filter (0 < ·)).or c.instanceLimit).or c.classLimit).getD defaultSize)

/-- The page of a collection, none if it is not paged. -/
def resolve (c : Collection) (params : SearchParams) (defaultSize : Nat) : Option PageRequest :=
  if c.search.any SearchTemplate.isPaged then some ⟨indexOf params, sizeOf c params defaultSize⟩ else none

/-- The number of members in front of the page. -/
def offset (p : PageRequest) : Nat := Count.mul (p.index - 1) p.size

end PageRequest

/-- The links of a page. -/
structure View where
  id : Iri
  first : Iri
  previous : Option Iri
  next : Option Iri
  last : Iri
  page : Nat
  totalPages : Nat
  deriving DecidableEq, Repr

namespace View

/-- The view as triples. -/
def triples (v : View) (collection : Iri) : List Triple :=
  [⟨.iri collection, Hydra.view, .iri v.id⟩,
    ⟨.iri v.id, Rdf.type, .iri Hydra.partialCollectionView⟩,
    ⟨.iri v.id, Hydra.first, .iri v.first⟩,
    ⟨.iri v.id, Hydra.last, .iri v.last⟩] ++
  (v.previous.map fun i => ⟨.iri v.id, Hydra.previous, .iri i⟩).toList ++
  (v.next.map fun i => ⟨.iri v.id, Hydra.next, .iri i⟩).toList

/-- The number of pages of a collection with `total` members, at least one. -/
def pageCount (total size : Nat) : Nat := max 1 ((total + size - 1) / size)

/-- The parameters for a page. The first page is asked for by no index. -/
def paramsFor (params : SearchParams) (page : Nat) : SearchParams :=
  params.replace Hydra.pageIndex (if 1 < page then [.literal (.ofNat page)] else [])

/-- The link to a page. -/
def link (t : SearchTemplate) (params : SearchParams) (base : Iri) (page : Nat) : OptionT Noted Iri := do
  let expanded := t.expand (paramsFor params page)
  match base.resolve? expanded with
  | some i => pure i
  | none => do
    OptionT.lift (Noted.warn (.linkInvalid expanded))
    failure

/-- The links of a page at `base`, none if one of them is no IRI. -/
def links (t : SearchTemplate) (params : SearchParams) (total size : Nat) (base : Iri) : OptionT Noted View := do
  let page := PageRequest.indexOf params
  let totalPages := pageCount total size
  let id ← link t params base page
  let first ← link t params base 1
  let previous ← if 1 < page then some <$> link t params base (page - 1) else pure none
  let next ← if page < totalPages then some <$> link t params base (page + 1) else pure none
  let last ← link t params base totalPages
  pure { id, first, previous, next, last, page, totalPages }

/-- The view of a page, none if the template has no page index or the collection has no base for links. -/
def compute (t : SearchTemplate) (params : SearchParams) (total size : Nat) (base : Iri) : Noted (Option View) :=
  if t.isPaged then
    if (Iri.parse? base.text).isSome then (links t params total (max 1 size) base).run
    else do
      Noted.warn (.baseInvalid base)
      pure none
  else pure none

/-- The statement of the number of members. -/
def totalItems (collection : Iri) (total : Nat) : Triple :=
  ⟨.iri collection, Hydra.totalItems, .literal (.ofNat total)⟩

end View
end CollectionQuery
