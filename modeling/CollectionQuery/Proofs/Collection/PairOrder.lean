import CollectionQuery.Proofs.Collection.Chain
import CollectionQuery.Proofs.Collection.MemberVariable
import Mathlib.Logic.Relation

/-! The order of the pairs in a query string. Pairs of different properties may change places, and a pair that says
    nothing new may be left out: what is rendered does not tell, since nothing reads more of the parameters than the
    values of one property, in their order. -/

namespace CollectionQuery

/-! ### Pairs -/

namespace SearchTemplate
variable {t : SearchTemplate} {as bs : List (List Char × List Char)} {query query' : String}

/-- The property of a pair. -/
def propertyOf? (t : SearchTemplate) (x : List Char × List Char) : Option Iri := t.property? (String.ofList x.1)

/-- One pair is left out that has no property or repeats a value of its property, or it changes places with the next
    one, which has another property. -/
inductive Rearranges (t : SearchTemplate) : List (List Char × List Char) → List (List Char × List Char) → Prop
  | unmapped (as bs : List (List Char × List Char)) {x : List Char × List Char} (h : t.propertyOf? x = none) :
      Rearranges t (as ++ x :: bs) (as ++ bs)
  | repeated (as bs : List (List Char × List Char)) {x y : List Char × List Char} {p : Iri} (hy : y ∈ as)
      (hyp : t.propertyOf? y = some p) (hxp : t.propertyOf? x = some p)
      (hvalue : t.readValue p y.2 = t.readValue p x.2) : Rearranges t (as ++ x :: bs) (as ++ bs)
  | swapped (as bs : List (List Char × List Char)) {x y : List Char × List Char}
      (h : t.propertyOf? x ≠ t.propertyOf? y) : Rearranges t (as ++ x :: y :: bs) (as ++ y :: x :: bs)

/-- The terms that some pairs give to a property, in order. -/
def readings (t : SearchTemplate) (p : Iri) (xs : List (List Char × List Char)) : List Term :=
  (xs.filter fun x => t.propertyOf? x = some p).map fun x => t.readValue p x.2

theorem readings_append (p : Iri) : t.readings p (as ++ bs) = t.readings p as ++ t.readings p bs := by
  simp only [readings, List.filter_append, List.map_append]

theorem readings_cons_of_ne {x : List Char × List Char} {p : Iri} (h : t.propertyOf? x ≠ some p) :
    t.readings p (x :: as) = t.readings p as := by
  rw [readings, List.filter_cons_of_neg (by simpa using h), readings]

theorem readings_cons_of_eq {x : List Char × List Char} {p : Iri} (h : t.propertyOf? x = some p) :
    t.readings p (x :: as) = t.readValue p x.2 :: t.readings p as := by
  rw [readings, List.filter_cons_of_pos (by simpa using h), List.map_cons, readings]

/-- A step keeps the distinct terms of every property. -/
theorem Rearranges.eraseDups_readings (h : t.Rearranges as bs) (p : Iri) :
    (t.readings p as).eraseDups = (t.readings p bs).eraseDups := by
  cases h with
  | unmapped as bs hx =>
    rw [readings_append, readings_append, readings_cons_of_ne (by rw [hx]; exact Option.some_ne_none p |>.symm)]
  | @repeated as bs x y q hy hyp hxp hvalue =>
    rw [readings_append, readings_append]
    by_cases hp : q = p
    · subst hp
      have hmem : t.readValue q x.2 ∈ t.readings q as :=
        List.mem_map.mpr ⟨y, List.mem_filter.mpr ⟨hy, by simpa using hyp⟩, hvalue⟩
      rw [readings_cons_of_eq hxp, eraseDups_append_cons_of_mem hmem]
    · rw [readings_cons_of_ne (by rw [hxp]; exact fun h => hp (Option.some.inj h))]
  | @swapped as bs x y hne =>
    rw [readings_append, readings_append]
    by_cases hx : t.propertyOf? x = some p
    · have hy : t.propertyOf? y ≠ some p := fun hy => hne (hx.trans hy.symm)
      rw [readings_cons_of_eq hx, readings_cons_of_ne hy, readings_cons_of_ne hy, readings_cons_of_eq hx]
    · rw [readings_cons_of_ne hx]
      by_cases hy : t.propertyOf? y = some p
      · rw [readings_cons_of_eq hy, readings_cons_of_eq hy, readings_cons_of_ne hx]
      · rw [readings_cons_of_ne hy, readings_cons_of_ne hy, readings_cons_of_ne hx]

theorem eraseDups_readings_congr (h : Relation.EqvGen t.Rearranges as bs) (p : Iri) :
    (t.readings p as).eraseDups = (t.readings p bs).eraseDups := by
  induction h with
  | rel as bs h => exact h.eraseDups_readings p
  | refl as => rfl
  | symm as bs _ ih => exact ih.symm
  | trans as bs cs _ _ ih ih' => exact ih.trans ih'

/-- Query strings whose pairs can be rearranged into each other give the same values. -/
theorem values_parseQuery_congr (h : Relation.EqvGen t.Rearranges (pairsOf query) (pairsOf query')) (p : Iri) :
    (t.parseQuery query').values p = (t.parseQuery query).values p := by
  have hvalues (query : String) : (t.parseQuery query).values p = (t.readings p (pairsOf query)).eraseDups :=
    values_parseQuery query p
  rw [hvalues, hvalues, eraseDups_readings_congr h]

end SearchTemplate

/-! ### Parameters with the same values -/

section Congruence
variable {c : Collection} {params params' : SearchParams} {options : Options} {r : Resolver}

/-- The filter looks at the parameters through the values of its property only. -/
def Filter.IsLocal (f : Filter) : Prop := ∀ input params, f.pattern { input with params } = f.pattern input

theorem Filter.isLocal_equality : equality.IsLocal := fun _ _ => rfl

theorem Resolving.bind_congr {α β : Type} {x x' : Resolving α} {f f' : α → Resolving β} (hx : x' r = x r)
    (hf : f' (x r).value.1 (x r).value.2 = f (x r).value.1 (x r).value.2) : (x' >>= f') r = (x >>= f) r := by
  have hbind (y : Resolving α) (k : α → Resolving β) : (y >>= k) r = ⟨(k (y r).value.1 (y r).value.2).value,
      (y r).warnings ++ (k (y r).value.1 (y r).value.2).warnings⟩ := rfl
  rw [hbind, hbind, hx, hf]

theorem Rendering.bind_congr {α β : Type} {x x' : Rendering α} {f f' : α → Rendering β} (hx : x'.run r = x.run r)
    (hf : ∀ a, f' a = f a) : (x' >>= f').run r = (x >>= f).run r := by
  obtain rfl : f' = f := funext hf
  have hrun (y : Rendering α) : (y >>= f').run r = y.run r >>= fun z => ExceptT.bindCont f' z.1 z.2 := rfl
  rw [hrun, hrun, hx]

section Values
variable (h : ∀ p, params'.values p = params.values p)
include h

theorem SearchParams.count?_congr (p : Iri) : params'.count? p = params.count? p := by
  rw [count?, count?, h]

theorem PageRequest.indexOf_congr : indexOf params' = indexOf params := by
  rw [indexOf, indexOf, SearchParams.count?_congr h]

theorem PageRequest.resolve_congr (c : Collection) (n : Nat) : resolve c params' n = resolve c params n := by
  rw [resolve, resolve, indexOf_congr h, sizeOf, sizeOf, SearchParams.count?_congr h]

namespace MemberQueries

/-- Filters that look at their own property only are called with the same values and answer the same. -/
theorem filterPatternsFrom_congr (hr : r.HasOnly Filter.IsLocal) (v : Variable) (count : Nat)
    (xs : List (Mapping × Iri)) : filterPatternsFrom params' v count xs r = filterPatternsFrom params v count xs r := by
  induction xs generalizing count r with
  | nil => rfl
  | cons x xs ih =>
    obtain ⟨m, p⟩ := x
    obtain ⟨hfound, hrest⟩ := hr.filterOf Filter.isLocal_equality m
    rw [filterPatternsFrom, filterPatternsFrom, h p]
    cases params.values p with
    | nil => exact ih hr count
    | cons value values =>
      refine Resolving.bind_congr rfl ?_
      cases hf : (filterOf m r).value.1 with
      | none => exact ih hrest count
      | some f =>
        let input : FilterInput :=
          { subject := v, predicate := p, values := value :: values, generator := ⟨"filter" ++ toString (count + 1)⟩
            params }
        have hlocal : f.pattern { input with params := params' } = f.pattern input := hfound f hf input params'
        dsimp only
        rw [hlocal]
        exact Resolving.bind_congr rfl (Resolving.bind_congr (ih hrest (count + 1)) rfl)

theorem assemble_congr (hr : r.HasOnly Filter.IsLocal) (c : Collection) (options : Options) :
    assemble c params' options r = assemble c params options r := by
  have hfilters : filterPatterns c params' options.member r = filterPatterns c params options.member r := by
    unfold filterPatterns
    cases c.search with
    | none => rfl
    | some t => exact filterPatternsFrom_congr h hr _ _ _
  unfold assemble
  refine Resolving.bind_congr rfl ?_
  dsimp only
  split
  · rfl
  · rw [PageRequest.resolve_congr h]
    exact Resolving.bind_congr hfilters rfl

end MemberQueries

namespace View

theorem compute_congr_values (t : SearchTemplate) (total size : Nat) (base : Iri) :
    compute t params' total size base = compute t params total size base :=
  compute_congr (PageRequest.indexOf_congr h) fun p _ => h p

end View

namespace Collection
open Rendering

theorem select_congr (hr : r.HasOnly Filter.IsLocal) (c : Collection) (options : Options) :
    (c.select params' options).run r = (c.select params options).run r := by
  unfold select
  cases c.members with
  | some listed => rfl
  | none =>
    refine Rendering.bind_congr ?_ fun _ => rfl
    have hrun (x : Resolving (Option MemberQueries)) :
        (resolving x).run r = Conversation.ofNoted (x r) >>= fun y => pure (.ok y.1, y.2) := rfl
    rw [hrun, hrun, MemberQueries.assemble_congr h hr]

/-- A rendering puts the same queries, raises the same warnings and comes to the same page. -/
theorem render_congr (hr : r.HasOnly Filter.IsLocal) (c : Collection) (options : Options) :
    (c.render params' options).run r = (c.render params options).run r := by
  unfold render
  refine Rendering.bind_congr (select_congr h hr c options) fun selected => ?_
  simp only [PageRequest.resolve_congr h, View.compute_congr_values h]

end Collection

end Values
end Congruence

/-! ### Rearranged query strings -/

open SearchTemplate in
/-- Query strings whose pairs can be rearranged into each other come to the same queries, page and links, and to the
    same rendering. -/
theorem Collection.rearranged_queries_agree {c : Collection} {t : SearchTemplate} (ht : c.search = some t)
    {query query' : String} (h : Relation.EqvGen t.Rearranges (pairsOf query) (pairsOf query')) (options : Options)
    {r : Resolver} (hr : r.HasOnly Filter.IsLocal) :
    let params := c.searchParams query
    let params' := c.searchParams query'
    MemberQueries.assemble c params' options r = MemberQueries.assemble c params options r ∧
      PageRequest.resolve c params' options.pageSize = PageRequest.resolve c params options.pageSize ∧
      (∀ total size base, View.compute t params' total size base = View.compute t params total size base) ∧
      (∀ page, t.expand (View.paramsFor params' page) = t.expand (View.paramsFor params page)) ∧
      (c.render params' options).run r = (c.render params options).run r := by
  intro params params'
  have hvalues : ∀ p, params'.values p = params.values p := by
    intro p
    unfold params params' searchParams
    rw [ht]
    exact values_parseQuery_congr h p
  exact ⟨MemberQueries.assemble_congr hvalues hr c options, PageRequest.resolve_congr hvalues c options.pageSize,
    View.compute_congr_values hvalues t, View.expand_paramsFor_congr t fun p _ => hvalues p,
    render_congr hvalues hr c options⟩

/-! ### Books by several authors -/

namespace MemberQueries

/-- A search for authors, with a filter, and for pages. -/
def authors : SearchTemplate where
  template := "http://example.org/books{?author*,page}"
  mappings := [filtered, Library.pageMapping]

theorem isLocal_naming (name : String) : (naming name).IsLocal := fun _ _ => rfl

theorem authors_rearranged_queries_agree :
    let c := { Collection.shelf with search := some authors }
    let query := "author=ann&page=2&author=bob"
    let query' := "lang=en&page=2&author=ann&author=ann&author=bob"
    let r := knowing (naming "name")
    Relation.EqvGen authors.Rearranges (SearchTemplate.pairsOf query) (SearchTemplate.pairsOf query') ∧
      r.HasOnly Filter.IsLocal ∧ (c.searchParams query').bindings ≠ (c.searchParams query).bindings ∧
      (assemble c (c.searchParams query) {} r).value.1.isSome ∧
      assemble c (c.searchParams query') {} r = assemble c (c.searchParams query) {} r ∧
      (c.render (c.searchParams query') {}).run r = (c.render (c.searchParams query) {}).run r := by
  intro c query query' r
  let ann := ("author".toList, "ann".toList)
  let bob := ("author".toList, "bob".toList)
  let page := ("page".toList, "2".toList)
  let lang := ("lang".toList, "en".toList)
  have hpairs : SearchTemplate.pairsOf query = [ann, page, bob] := by decide +kernel
  have hpairs' : SearchTemplate.pairsOf query' = [lang, page, ann, ann, bob] := by decide +kernel
  have hrearranged : Relation.EqvGen authors.Rearranges [lang, page, ann, ann, bob] [ann, page, bob] := by
    have hlang : authors.Rearranges [lang, page, ann, ann, bob] [page, ann, ann, bob] :=
      .unmapped [] _ (by decide +kernel)
    have hpage : authors.Rearranges [page, ann, ann, bob] [ann, page, ann, bob] := .swapped [] _ (by decide +kernel)
    have hann : authors.Rearranges [ann, page, ann, bob] [ann, page, bob] :=
      .repeated (p := Library.creator) [ann, page] _ List.mem_cons_self (by decide +kernel) (by decide +kernel) rfl
    exact .trans _ _ _ (.rel _ _ hlang) (.trans _ _ _ (.rel _ _ hpage) (.rel _ _ hann))
  have hlocal : r.HasOnly Filter.IsLocal := hasOnly_knowing (isLocal_naming "name")
  have h : Relation.EqvGen authors.Rearranges (SearchTemplate.pairsOf query) (SearchTemplate.pairsOf query') := by
    rw [hpairs, hpairs']
    exact hrearranged.symm
  obtain ⟨hqueries, -, -, -, hrender⟩ := Collection.rearranged_queries_agree (c := c) rfl h {} hlocal
  exact ⟨h, hlocal, by decide +kernel, by decide +kernel, hqueries, hrender⟩

end MemberQueries
end CollectionQuery
