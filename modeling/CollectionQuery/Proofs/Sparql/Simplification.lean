import CollectionQuery.Proofs.Library
import CollectionQuery.Proofs.Sparql.Group
import CollectionQuery.Proofs.Sparql.Path
import CollectionQuery.Proofs.Sparql.Variables

/-! Simplified patterns have the solutions of the plain ones, as often as these. A group is put together fragment by
    fragment: whatever the pattern in front has become, merged or left alone, a required part joins it and an optional
    part extends it. Paths of one predicate are ways along its triples. -/

namespace CollectionQuery

/-- The solutions in front of a fragment, joined with those of a required part or extended by those of an optional
    one. -/
def Fragment.joined (d : Dataset) (g : Graph) (rows : Multiset (Row Variable)) : Fragment → Multiset (Row Variable)
  | required p => Row.join rows (p.rows d g)
  | optional p => Row.leftJoin rows (p.rows d g)

namespace Pattern
variable {d : Dataset} {g : Graph}

/-! ### One fragment -/

theorem rows_extend {p : Pattern} (hp : p.BlankFree) (f : Fragment) :
    (p.extend f).rows d g = f.joined d g (p.rows d g) := by
  cases f with
  | required q => exact rows_merge q hp
  | optional q => rfl

theorem blankFree_extend {p : Pattern} (hp : p.BlankFree) {f : Fragment} (hf : f.pattern.BlankFree) :
    (p.extend f).BlankFree := by
  cases f with
  | required q => exact blankFree_merge hp hf
  | optional q => exact ⟨hp, hf⟩

/-! ### All fragments -/

/-- Nothing is asked of the pattern in front but that it has no blank nodes, so the fragments may come in any mixture. -/
theorem rows_foldl_extend {fs : List Fragment} (h : ∀ f ∈ fs, f.pattern.BlankFree) {p : Pattern} (hp : p.BlankFree) :
    (fs.foldl extend p).rows d g = fs.foldl (Fragment.joined d g) (p.rows d g) := by
  induction fs generalizing p with
  | nil => rfl
  | cons f fs ih =>
    obtain ⟨hf, hfs⟩ := List.forall_mem_cons.mp h
    rw [List.foldl_cons, List.foldl_cons, ih hfs (blankFree_extend hp hf), rows_extend hp]

/-- In every dataset, a group of fragments without blank nodes has the solutions of joins and left joins from the left
    that begin with the empty row, and a path between any two terms or variables those of its path pattern. -/
theorem simplified_rows (d : Dataset) (g : Graph) :
    (∀ fs : List Fragment, (∀ f ∈ fs, f.pattern.BlankFree) →
      (group fs).rows d g = fs.foldl (Fragment.joined d g) {∅}) ∧
    ∀ s path o, (along s path o).rows d g = (Pattern.path s path o).rows d g := by
  refine ⟨fun fs h => ?_, fun s path o => rows_along s path o⟩
  have hnil : (basic []).BlankFree := fun _ ht => nomatch ht
  rw [group, rows_foldl_extend h hnil, rows_basic_nil]

/-! ### Parts of a search for books -/

section Books

open Library

/-- Any of the books. -/
def anyBook : TermPattern := .var ⟨"book"⟩

def cites : Iri := ⟨"http://example.org/cites"⟩

def isBook : Pattern := triple anyBook (.iri Rdf.type) (.term (.iri bookClass))

def hasTitle : Pattern := triple anyBook (.iri title) (.var ⟨"title"⟩)

def citesItself : Pattern := .graph (.var ⟨"book"⟩) (along anyBook (.inverse (.predicate cites)) anyBook)

/-- Two triples and an empty pattern in front of an optional part, and a named graph behind it. -/
def bookParts : List Fragment :=
  [.required isBook, .required (.basic []), .required hasTitle,
    .optional (along anyBook (.predicate author) (.var ⟨"author"⟩)), .required citesItself]

/-- Two books, of which one has an author and cites itself and the other has two titles. -/
def library : Dataset where
  default := .ofList [
    ⟨.iri firstBook, Rdf.type, .iri bookClass⟩,
    ⟨.iri secondBook, Rdf.type, .iri bookClass⟩,
    ⟨.iri firstBook, title, .literal (.plain "One")⟩,
    ⟨.iri secondBook, title, .literal (.plain "Two")⟩,
    ⟨.iri secondBook, title, .literal (.tagged "Zwei" "de")⟩,
    ⟨.iri firstBook, author, .literal (.plain "Ann")⟩]
  named := [(.iri firstBook, .ofList [⟨.iri firstBook, cites, .iri firstBook⟩])]

/-- Only the patterns in front of the optional part are merged, and the group still has the solutions of its parts. -/
theorem simplified_rows_bookParts :
    let hasAuthor := triple anyBook (.iri author) (.var ⟨"author"⟩)
    let d := library
    (∀ f ∈ bookParts, f.pattern.BlankFree) ∧
    (∃ ts, group bookParts = .join (.leftJoin (.basic ts) hasAuthor) citesItself ∧ ts.length = 2) ∧
    (group bookParts).rows d d.default =
      Row.join (Row.leftJoin (Row.join (Row.join (Row.join {∅} (isBook.rows d d.default))
        ((Pattern.basic []).rows d d.default)) (hasTitle.rows d d.default)) (hasAuthor.rows d d.default))
        (citesItself.rows d d.default) := by
  intro hasAuthor d
  have h : ∀ f ∈ bookParts, f.pattern.BlankFree := by
    simp [bookParts, Fragment.pattern, isBook, hasTitle, citesItself, anyBook, along, triple, BlankFree,
      TriplePattern.BlankFree, TermPattern.BlankFree]
  exact ⟨h, ⟨_, rfl, rfl⟩, (simplified_rows d d.default).1 bookParts h⟩

end Books

end Pattern
end CollectionQuery
