import CollectionQuery.Proofs.Collection.View
import CollectionQuery.Proofs.Iri.Resolve
import CollectionQuery.Proofs.Library
import CollectionQuery.Proofs.Template.Characters

/-! Views that no search takes away. Where the template is a path from the root and a query of variables, a link is that
    path and a query of encoded values, which is a valid reference for any values; behind a base with an authority it
    denotes an IRI. -/

namespace CollectionQuery
open Text

/-- The template is a path from the root and a query of variables. -/
structure SearchTemplate.IsPathQuery (t : SearchTemplate) (path : List Char) (vs : List Template.WrittenVariable) :
    Prop where
  template : t.template.toList = Template.pathQuery path vs
  root : path.head? = some '/'
  unannounced : behind? ['/', '/'] path = none
  path : path.all fun c => Percent.isUnreserved c || c = '/'
  ne_nil : vs ≠ []
  plain : ∀ v ∈ vs, v.isPlain

/-- The IRIs of other pages and of the page itself. -/
def View.targets (v : View) : List Iri := [v.id, v.first, v.last] ++ v.previous.toList ++ v.next.toList

namespace View
variable {t : SearchTemplate} {path : List Char} {vs : List Template.WrittenVariable} {base : Iri}

/-- Whatever the parameters are, a link is the path and perhaps a query. -/
theorem exists_expand (ht : t.IsPathQuery path vs) (params : SearchParams) :
    ∃ query, t.expand params = String.ofList (Reference.ofPath path query).text ∧ Reference.IsRooted path query := by
  have hpath := List.all_eq_true.mp ht.path
  have hbrace : '{' ∉ path := fun hc => absurd (hpath _ hc) (by decide)
  obtain ⟨query, hexpand, hquery⟩ :=
    Template.exists_expand_pathQuery hbrace ht.ne_nil ht.plain (t.valuesOf params)
  refine ⟨query, ?_, ht.root, ht.unannounced, fun c hc => ?_, fun q hq => ?_⟩
  · rw [SearchTemplate.expand, ht.template, hexpand, Reference.text_eq]
    simp [Reference.ofPath, Reference.behindScheme, Reference.hierarchy]
  · have hcharacter := hpath c hc
    rw [Bool.or_eq_true, decide_eq_true_eq] at hcharacter
    rcases hcharacter with hc | rfl
    · exact Reference.inPath_of_isUnreserved hc
    · decide
  · exact Reference.isMadeOf_mono (by decide) (fun _ => Template.inQuery_of_inPairs) (hquery q hq)

theorem exists_target (ht : t.IsPathQuery path vs) (hbase : (Iri.parse? base.text).isSome)
    (hauthority : (Reference.read base.text.toList).authority.isSome) (params : SearchParams) (page : Nat) :
    ∃ i, target? t params base page = some i ∧ Iri.parse? i.text = some i := by
  obtain ⟨query, hexpand, hrooted⟩ := exists_expand ht (paramsFor params page)
  rw [target?, hexpand]
  exact Iri.exists_resolve?_ofPath hbase hauthority hrooted

theorem link_eq_pure {params : SearchParams} {page : Nat} {i : Iri} (h : target? t params base page = some i) :
    link t params base page = pure i := by
  have hresolve : base.resolve? (t.expand (paramsFor params page)) = some i := h
  unfold link
  simp only [hresolve]

/-- For any values and any number of members there is a view, without a warning, and its links are IRIs. -/
theorem every_search_has_view (ht : t.IsPathQuery path vs) (hpaged : t.isPaged) (hbase : (Iri.parse? base.text).isSome)
    (hauthority : (Reference.read base.text.toList).authority.isSome) (params : SearchParams) (total size : Nat) :
    ∃ v, compute t params total size base = pure (some v) ∧ ∀ i ∈ v.targets, Iri.parse? i.text = some i := by
  choose target htarget hparse using exists_target ht hbase hauthority params
  have hlink (page : Nat) : link t params base page = pure (target page) := link_eq_pure (htarget page)
  let page := PageRequest.indexOf params
  let totalPages := pageCount total (max 1 size)
  let v : View := {
    id := target page, first := target 1, last := target totalPages, page, totalPages
    previous := if 1 < page then some (target (page - 1)) else none
    next := if page < totalPages then some (target (page + 1)) else none }
  refine ⟨v, ?_, ?_⟩
  · rw [compute, if_pos hpaged, if_pos hbase, links]
    simp only [hlink, pure_bind, map_pure]
    -- The links to the pages before and behind are made on a condition each.
    by_cases hprevious : 1 < PageRequest.indexOf params <;>
      by_cases hnext : PageRequest.indexOf params < pageCount total (max 1 size) <;>
        simp [v, page, totalPages, hprevious, hnext]
  · have hoption {P : Prop} [Decidable P] (n : Nat) :
        ∀ i ∈ (if P then some (target n) else none).toList, Iri.parse? i.text = some i := by
      split
      · exact List.forall_mem_singleton.mpr (hparse n)
      · exact fun _ hi => absurd hi List.not_mem_nil
    simp only [targets, List.forall_mem_append, List.forall_mem_cons]
    exact ⟨⟨⟨hparse _, hparse _, hparse _, fun _ hi => absurd hi List.not_mem_nil⟩, hoption _⟩, hoption _⟩

/-! ### Books behind a path of dots -/

open Library

def dottedSearch : SearchTemplate where
  template := "/a/./../books{?author*,title:3,page}"
  representation := .explicit
  mappings := [
    authorMapping,
    { variableName := "title", property := some title },
    pageMapping]

/-- Values with all kinds of characters that a link may not hold as they are. -/
def awkward : SearchParams := .ofList [
  (author, .literal (.plain "\x00 #?/:[]@%zz{}^")),
  (author, .iri ⟨"not an IRI <>"⟩),
  (author, .blank "b"),
  (title, .literal (.tagged "日本語 \"…\"" "ja"))]

theorem books_every_search_has_view :
    let base : Iri := ⟨"https://user@[2001:db8::1]:8080/api/?q#f"⟩
    let written : List Template.WrittenVariable :=
      [⟨"author".toList, .exploded⟩, ⟨"title".toList, .limited ['3']⟩, ⟨"page".toList, .plain⟩]
    dottedSearch.IsPathQuery "/a/./../books".toList written ∧
      ∃ v, compute dottedSearch awkward 95 10 base = pure (some v) ∧ ∀ i ∈ v.targets, Iri.parse? i.text = some i := by
  intro base written
  have ht : dottedSearch.IsPathQuery "/a/./../books".toList written :=
    ⟨by decide +kernel, rfl, by decide, by decide, by decide, by decide⟩
  exact ⟨ht, every_search_has_view ht (by decide) (by decide +kernel) (by decide +kernel) awkward 95 10⟩

end View
end CollectionQuery
