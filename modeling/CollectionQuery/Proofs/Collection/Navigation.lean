import CollectionQuery.Proofs.Collection.Assemble
import CollectionQuery.Proofs.Collection.View
import CollectionQuery.Proofs.Search.Query

/-! Links between the pages of a collection. Who follows one comes to another page of the same search, unless the link
    joins several values of a variable by commas: then the search is for one value with commas in it. -/

namespace CollectionQuery
open Text Template

/-! ### Other pages -/

/-- The query with another start of its slice, if it has one. -/
def Query.startingAt (start : Nat) : Query → Query
  | .select s => .select { s with slice := s.slice.map fun slice => { slice with start } }
  | query => query

namespace MemberQueries

/-- The queries for another page: their slice starts elsewhere. -/
def atPage (queries : MemberQueries) (index : Nat) : MemberQueries :=
  match queries.page with
  | some page =>
    { queries with
      members := queries.members.startingAt (PageRequest.offset { page with index })
      page := some { page with index } }
  | none => queries

variable {c : Collection} {t : SearchTemplate} {params params' : SearchParams} {options : Options}

/-- The patterns of filters do not depend on the page. -/
theorem value_filterPatterns_congr (ht : c.search = some t) (hfilter : ∀ m ∈ t.mappings, m.filter = none)
    (hvalues : ∀ p ≠ Hydra.pageIndex, params'.values p = params.values p) (v : Variable) (r : Resolver) :
    (filterPatterns c params' v r).value = (filterPatterns c params v r).value := by
  have hmapping : ∀ x ∈ t.filters, x.1.filter = none ∧ x.2 ≠ Hydra.pageIndex := by
    intro x hx
    obtain ⟨m, hm, hx⟩ := List.mem_filterMap.mp hx
    obtain ⟨p, hp, rfl⟩ := Option.map_eq_some_iff.mp hx
    refine ⟨hfilter m hm, ?_⟩
    rintro rfl
    exact absurd (Option.filter_eq_some_iff.mp hp).2 (by decide)
  unfold filterPatterns
  rw [ht]
  dsimp only
  rw [value_filterPatternsFrom fun x hx _ => (hmapping x hx).1, value_filterPatternsFrom fun x hx _ => (hmapping x hx).1]
  refine congrArg (·, r) (List.filterMap_congr fun x hx => ?_)
  rw [hvalues x.2 (hmapping x hx).2]

/-- Parameters that differ in the page only have queries that differ in the page only. -/
theorem value_assemble_eq_atPage (ht : c.search = some t) (hpaged : t.isPaged)
    (hfilter : ∀ m ∈ t.mappings, m.filter = none)
    (hvalues : ∀ p ≠ Hydra.pageIndex, params'.values p = params.values p) (r : Resolver) :
    (assemble c params' options r).value.1 =
      (assemble c params options r).value.1.map (·.atPage (PageRequest.indexOf params')) := by
  have hsize : PageRequest.sizeOf c params' options.pageSize = PageRequest.sizeOf c params options.pageSize := by
    unfold PageRequest.sizeOf SearchParams.count?
    rw [hvalues Hydra.limit (by decide)]
  rw [value_assemble, value_assemble]
  split
  · rfl
  · refine congrArg some ?_
    unfold queriesOf sharedFragments
    rw [PageRequest.resolve_of_isPaged ht hpaged, PageRequest.resolve_of_isPaged ht hpaged, hsize,
      value_filterPatterns_congr ht hfilter hvalues]
    rfl

/-! ### Links -/

section Links
variable {base : List Char} {specs : List VarSpec}

theorem isRead_paramsFor (query : String) {k : Nat} (hk : k ≤ Count.largest) (p : Iri) :
    t.IsRead (View.paramsFor (t.parseQuery query) k) p := by
  intro v hv
  by_cases hp : p = Hydra.pageIndex
  · subst hp
    rw [View.values_paramsFor_pageIndex] at hv
    split at hv
    · obtain rfl := List.mem_singleton.mp hv
      exact ⟨_, t.readValue_pageIndex hk⟩
    · cases hv
  · rw [View.values_paramsFor_of_ne _ _ hp] at hv
    exact SearchTemplate.isRead_parseQuery query v hv

/-- The index of a page is never joined with others. -/
theorem values_carriedParams_pageIndex (h : t.IsQuery base specs) (hpaged : t.isPaged) (params : SearchParams)
    (k : Nat) : (t.carriedParams specs (View.paramsFor params k)).values Hydra.pageIndex =
      (View.paramsFor params k).values Hydra.pageIndex := by
  refine SearchTemplate.values_carriedParams_eq_self (fun _ => h.exists_spec_pageIndex hpaged) fun s _ _ => .inr ?_
  rw [View.values_paramsFor_pageIndex]
  split
  · exact Nat.le_refl 1
  · exact Nat.zero_le 1

/-- The parameters of a query are carried by a link if no variable joins several values by commas. -/
theorem values_carriedParams_parseQuery (h : t.IsQuery base specs) (query : String) {p : Iri}
    (hfew : ∀ s ∈ specs, t.property? (String.ofList s.name) = some p →
      s.explode ∨ ((t.parseQuery query).values p).length ≤ 1) :
    (t.carriedParams specs (t.parseQuery query)).values p = (t.parseQuery query).values p := by
  refine SearchTemplate.values_carriedParams_eq_self (fun hne => ?_) hfew
  obtain ⟨v, hv⟩ := List.exists_mem_of_ne_nil _ hne
  obtain ⟨name, -, hp, -⟩ := SearchTemplate.exists_of_mem_values_parseQuery hv
  exact h.exists_spec hp

/-- The link to page `k` leads to this page of the search for what the link carries, and that is the search that the
    link was made for if no variable joins several values by commas. -/
theorem link_keeps_search (ht : c.search = some t) (h : t.IsQuery base specs) (hpaged : t.isPaged)
    (hfilter : ∀ m ∈ t.mappings, m.filter = none) (options : Options) (r : Resolver) (query : String) {k : Nat}
    (hpos : 0 < k) (hk : k ≤ Count.largest) :
    let params := t.parseQuery query
    let followed := t.parseQuery (String.ofList (queryOf (t.expand (View.paramsFor params k)).toList))
    (assemble c followed options r).value.1 =
      (assemble c (t.carriedParams specs params) options r).value.1.map (·.atPage k) ∧
    ((∀ p ≠ Hydra.pageIndex, ∀ s ∈ specs, t.property? (String.ofList s.name) = some p →
        s.explode ∨ (params.values p).length ≤ 1) →
      (assemble c followed options r).value.1 = (assemble c params options r).value.1.map (·.atPage k)) := by
  intro params followed
  have hne : specs ≠ [] := by
    obtain ⟨s, hs, -⟩ := h.exists_spec_pageIndex hpaged
    exact List.ne_nil_of_mem hs
  have hfollowed : followed = t.carriedParams specs (View.paramsFor params k) :=
    SearchTemplate.parseQuery_queryOf_expand h hne (isRead_paramsFor query hk)
  have hindex : PageRequest.indexOf followed = k :=
    View.indexOf_eq_of_values hpos hk (hfollowed ▸ values_carriedParams_pageIndex h hpaged params k)
  -- The page is replaced before the link is made, which no other property notices.
  have hcarried (p : Iri) (hp : p ≠ Hydra.pageIndex) :
      followed.values p = (t.carriedParams specs params).values p := by
    rw [hfollowed]
    exact SearchTemplate.values_carriedParams_congr (View.values_paramsFor_of_ne params k hp)
  refine ⟨?_, fun hfew => ?_⟩
  · rw [value_assemble_eq_atPage ht hpaged hfilter hcarried, hindex]
  · have hvalues (p : Iri) (hp : p ≠ Hydra.pageIndex) : followed.values p = params.values p :=
      (hcarried p hp).trans (values_carriedParams_parseQuery h query (hfew p hp))
    rw [value_assemble_eq_atPage ht hpaged hfilter hvalues, hindex]

end Links

/-! ### Links between books -/

theorem isQuery_shelf : SearchTemplate.shelf.IsQuery "http://example.org/books".toList
    [⟨"author".toList, false, none⟩, ⟨"page".toList, false, none⟩] where
  template_eq := by decide
  brace_notMem := by decide
  mark_notMem := by decide
  plain := by
    intro s hs
    simp only [List.mem_cons, List.not_mem_nil, or_false] at hs
    rcases hs with rfl | rfl
    · exact .of_all (by decide) rfl
    · exact .of_all (by decide) rfl
  nodup := by decide
  mem_specs := by decide

theorem shelf_link_keeps_search :
    let params := SearchTemplate.shelf.parseQuery "author=ann"
    let followed := SearchTemplate.shelf.parseQuery
      (String.ofList (queryOf (SearchTemplate.shelf.expand (View.paramsFor params 2)).toList))
    (assemble .shelf followed {} { host := .ofRegistry [] [] }).value.1 =
      (assemble .shelf params {} { host := .ofRegistry [] [] }).value.1.map (·.atPage 2) := by
  have hauthor : SearchTemplate.shelf.property? (String.ofList "author".toList) =
      some Library.author := by decide
  have hpage : SearchTemplate.shelf.property? (String.ofList "page".toList) = some Hydra.pageIndex := by decide
  refine (link_keeps_search rfl isQuery_shelf (by decide) (by decide) {} { host := .ofRegistry [] [] } "author=ann"
    (by decide) (by decide)).2 ?_
  intro p hp s hs hproperty
  simp only [List.mem_cons, List.not_mem_nil, or_false] at hs
  rcases hs with rfl | rfl
  · obtain rfl := Option.some.inj (hauthor.symm.trans hproperty)
    exact .inr (by decide +kernel)
  · exact absurd (Option.some.inj (hpage.symm.trans hproperty)).symm hp

/-- A link for two authors leads to a search for one whose name is that of both with a comma between. -/
theorem shelf_link_joins_authors :
    let params := SearchTemplate.shelf.parseQuery "author=ann&author=bob"
    let followed := SearchTemplate.shelf.parseQuery
      (String.ofList (queryOf (SearchTemplate.shelf.expand (View.paramsFor params 2)).toList))
    SearchTemplate.shelf.IsQuery "http://example.org/books".toList
      [⟨"author".toList, false, none⟩, ⟨"page".toList, false, none⟩] ∧
    SearchTemplate.shelf.isPaged ∧ (∀ m ∈ SearchTemplate.shelf.mappings, m.filter = none) ∧
    (assemble .shelf followed {} { host := .ofRegistry [] [] }).value.1 ≠
      (assemble .shelf params {} { host := .ofRegistry [] [] }).value.1.map (·.atPage 2) :=
  ⟨isQuery_shelf, by decide, by decide, by decide +kernel⟩

end MemberQueries
end CollectionQuery
