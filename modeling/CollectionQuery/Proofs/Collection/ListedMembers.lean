import CollectionQuery.Proofs.Collection.PageGraph
import CollectionQuery.Proofs.Collection.Pages

/-! The pages of a collection that lists its members. No query selects them, so no page is a part of the list: the view
    counts pages of the size that the parameters ask for, and each of them shows all members. -/

namespace CollectionQuery

/-! ### Rendering -/

section Rendering
open Rendering Conversation
variable {iri : Iri} {graph api : Graph} {params : SearchParams} {options : Options} {r : Resolver}
  {endpoint : List Query → Query → Reply} {page : Page}

theorem Collection.members_read (h : graph.objects (.iri iri) Hydra.member ≠ []) :
    (Collection.read iri graph api).value.members = some (graph.listed iri) :=
  (value_readMembers iri graph).trans (if_neg h)

theorem Collection.ensures_select_of_listed {c : Collection} {listed : List Iri} (hc : c.members = some listed)
    (hnodup : listed.Nodup) : Ensures endpoint r (c.select params options) (· = (listed, listed.length)) := by
  intro sent
  refine ⟨_, congrArg Result.outcome (after_select_of_listed hc), ?_⟩
  rw [eraseDups_eq_self hnodup]

/-- What a rendered page shows does not depend on the page that the parameters ask for, apart from its view. -/
theorem Collection.fields_of_listed (h : graph.objects (.iri iri) Hydra.member ≠ [])
    (hpage : (after endpoint [] r ((Collection.read iri graph api).value.render params options)).outcome = .ok page) :
    page.members = graph.listed iri ∧ page.total = (graph.listed iri).length ∧
      page.view = (Collection.read iri graph api).value.viewOf params options.pageSize (graph.listed iri).length := by
  obtain ⟨data, hloads, -, hview⟩ := exists_loads_eq hpage
  obtain ⟨selects, hfinds⟩ := hloads.findsBy
  obtain ⟨hmembers, htotal⟩ := hfinds.listed _ (members_read h)
  rw [eraseDups_eq_self (graph.nodup_listed iri)] at hmembers
  rw [hmembers] at htotal
  exact ⟨hmembers, htotal, htotal ▸ hview⟩

end Rendering

/-! ### Pages -/

theorem View.pageCount_eq_one_iff {total size : Nat} (h : 0 < size) : pageCount total size = 1 ↔ total ≤ size := by
  have hcount : pageCount total size = max 1 (total ⌈/⌉ size) := rfl
  have hle : total ⌈/⌉ size ≤ 1 ↔ total ≤ size * 1 := ceilDiv_le_iff_le_mul h
  rw [Nat.mul_one] at hle
  rw [hcount, ← hle]
  omega

theorem count_flatMap_of_eq {α : Type} [DecidableEq α] {as : List α} (hnodup : as.Nodup) {part : Nat → List α}
    {ks : List Nat} (h : ∀ k ∈ ks, part k = as) {a : α} (ha : a ∈ as) : (ks.flatMap part).count a = ks.length := by
  induction ks with
  | nil => rfl
  | cons k ks ih =>
    obtain ⟨hk, hks⟩ := List.forall_mem_cons.mp h
    rw [List.flatMap_cons, List.count_append, ih hks, hk, List.count_eq_one_of_mem hnodup ha, List.length_cons,
      Nat.add_comm]

namespace Snapshot
open Rendering Conversation

/-- Each page shows all members that the collection lists, in order, so a member is shown as often as there are pages.
    A page holds no more members than its size exactly if there is a single page. -/
theorem every_page_shows_listed (s : Snapshot) (options : Options) (iri : Iri) (graph : Graph)
    (h : graph.objects (.iri iri) Hydra.member ≠ []) (endpoint : List Query → Query → Reply) :
    let c := (Collection.read iri graph s.graph).value
    let all := graph.listed iri
    let rendered (query : String) := (hold endpoint (s.render options iri graph query)).outcome.1
    all.Nodup ∧ (∀ m, m ∈ all ↔ .iri m ∈ graph.objects (.iri iri) Hydra.member) ∧
      (∀ query page, rendered query = .ok page →
        let size := PageRequest.sizeOf c (c.searchParams query) options.pageSize
        page.members = all ∧ page.total = all.length ∧
          page.view = c.viewOf (c.searchParams query) options.pageSize all.length ∧
          ∀ v ∈ page.view, v.totalPages = max 1 (all.length ⌈/⌉ size) ∧
            (page.members.length ≤ size ↔ v.totalPages = 1)) ∧
      (∀ (query : Nat → String) (page : Nat → Page) (n : Nat),
        (∀ k, 1 ≤ k → k ≤ n → rendered (query k) = .ok (page k)) →
        ∀ m ∈ all, ((List.range' 1 n).flatMap fun k => (page k).members).count m = n) ∧
      (c.strategies = [] → (∀ sent q, ∃ ts, endpoint sent (.describe q) = .ok (.graph ts)) →
        ∀ query, ∃ page, rendered query = .ok page) := by
  intro c all rendered
  have hafter (query : String) : rendered query =
      (after endpoint [] s.resolver (c.render (c.searchParams query) options)).outcome :=
    outcome_hold_render s options iri graph query endpoint
  have hfields (query : String) (page : Page) (hpage : rendered query = .ok page) :=
    Collection.fields_of_listed h ((hafter query).symm.trans hpage)
  refine ⟨graph.nodup_listed iri, fun m => Graph.mem_listed, fun query page hpage => ?_, ?_, fun hs hdescribe query => ?_⟩
  · intro size
    obtain ⟨hmembers, htotal, hview⟩ := hfields query page hpage
    refine ⟨hmembers, htotal, hview, fun v hv => ?_⟩
    have hpages : v.totalPages = View.pageCount all.length size :=
      Collection.totalPages_of_mem_viewOf (hview ▸ hv)
    rw [hmembers, hpages, View.pageCount_eq_one_iff (PageRequest.one_le_sizeOf _ _ _)]
    exact ⟨rfl, Iff.rfl⟩
  · intro query page n hpages m hm
    have hall : ∀ k ∈ List.range' 1 n, (page k).members = all := by
      intro k hk
      obtain ⟨hpos, hlt⟩ := List.mem_range'_1.mp hk
      exact (hfields _ _ (hpages k hpos (by omega))).1
    rw [count_flatMap_of_eq (graph.nodup_listed iri) hall hm, List.length_range']
  · have hselect : Ensures endpoint s.resolver (c.select (c.searchParams query) options) (· = (all, all.length)) :=
      Collection.ensures_select_of_listed (Collection.members_read h) (graph.nodup_listed iri)
    obtain ⟨page, hpage, -⟩ := Collection.ensures_render_of_select hselect hs hdescribe []
    exact ⟨page, (hafter query).trans hpage⟩

open Library

/-- A shelf of two books that is searched page by page. -/
def pagedShelf : Graph :=
  .ofList ([⟨.iri shelf, Hydra.member, .iri firstBook⟩, ⟨.iri shelf, Hydra.member, .iri secondBook⟩] ++
    searchedBy shelf "http://example.org/shelf{?page}" "page" Hydra.pageIndex)

theorem pagedShelf_shows_listed :
    ∃ page, (hold silent (bare.render { pageSize := 1 } shelf pagedShelf "page=2")).outcome.1 = .ok page ∧
      page.members = [firstBook, secondBook] ∧ page.total = 2 ∧ ∀ v ∈ page.view, v.totalPages = 2 := by
  let c := (Collection.read shelf pagedShelf bare.graph).value
  have hlisted : pagedShelf.listed shelf = [firstBook, secondBook] := by decide +kernel
  have hsize : PageRequest.sizeOf c (c.searchParams "page=2") 1 = 1 := by decide +kernel
  obtain ⟨-, -, hfields, -, hrendered⟩ :=
    every_page_shows_listed bare { pageSize := 1 } shelf pagedShelf (by decide +kernel) silent
  obtain ⟨page, hpage⟩ := hrendered (by decide +kernel) (fun _ _ => ⟨[], rfl⟩) "page=2"
  obtain ⟨hmembers, htotal, -, hview⟩ := hfields _ page hpage
  rw [hlisted] at hmembers htotal hview
  refine ⟨page, hpage, hmembers, htotal, fun v hv => ?_⟩
  rw [(hview v hv).1, hsize]
  rfl

/-- With one book on a page there are two pages, both with both books. -/
theorem pagedShelf_pages_overlap :
    let c := (Collection.read shelf pagedShelf bare.graph).value
    let rendered (query : String) :=
      (hold silent (bare.render { pageSize := 1 } shelf pagedShelf query)).outcome.1
    ∃ first second v, rendered "page=1" = .ok first ∧ rendered "page=2" = .ok second ∧
      v ∈ first.view ∧ v.totalPages = 2 ∧
      PageRequest.sizeOf c (c.searchParams "page=2") 1 < second.members.length ∧
      (first.members ++ second.members).count firstBook = 2 := by
  intro c rendered
  have hshown (query : String) (hquery : query ∈ ["page=1", "page=2"]) : (rendered query).toOption.map
      (fun page => (page.members, page.view.map View.totalPages)) = some ([firstBook, secondBook], some 2) := by
    revert query
    decide +kernel
  have hsize : PageRequest.sizeOf c (c.searchParams "page=2") 1 = 1 := by decide +kernel
  obtain ⟨first, hfirst, hfields⟩ := exists_ok_of_map_toOption (hshown "page=1" (by decide))
  obtain ⟨second, hsecond, hfields'⟩ := exists_ok_of_map_toOption (hshown "page=2" (by decide))
  obtain ⟨hmembers, hview⟩ := Prod.mk.inj hfields
  obtain ⟨hmembers', -⟩ := Prod.mk.inj hfields'
  obtain ⟨v, hv, hpages⟩ := Option.map_eq_some_iff.mp hview
  refine ⟨first, second, v, hfirst, hsecond, hv, hpages, ?_, ?_⟩
  · rw [hsize, hmembers']
    decide
  · rw [hmembers, hmembers']
    decide

end Snapshot
end CollectionQuery
