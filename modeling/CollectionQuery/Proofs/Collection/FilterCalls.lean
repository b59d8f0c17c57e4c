import CollectionQuery.Proofs.Collection.Assemble
import CollectionQuery.Proofs.Search.Query

/-! Calls of filters. The filters of the search variables are called one after the other; what a call is given depends
    on the parameters, its mapping and its place among the calls, and not on what other filters answer. -/

namespace CollectionQuery
namespace MemberQueries

/-- A filter that is called for a mapping. -/
structure FilterCall where
  mapping : Mapping
  property : Iri
  filter : Filter

namespace FilterCall

def mapped (call : FilterCall) : Mapping × Iri := (call.mapping, call.property)

/-- What the filter is given in the `n`-th call. -/
def input (call : FilterCall) (params : SearchParams) (member : Variable) (n : Nat) : FilterInput where
  subject := member
  predicate := call.property
  values := params.values call.property
  generator := ⟨"filter" ++ toString n⟩
  params := params

/-- The pattern of the `n`-th call. -/
def pattern? (params : SearchParams) (member : Variable) (call : FilterCall) (n : Nat) : Option Pattern :=
  (call.filter.pattern (call.input params member n)).value

end FilterCall

/-- The calls for some mappings, and the resolver behind them: one for each mapping whose property has a value, unless
    its filter is not known. -/
def callsOf (params : SearchParams) : List (Mapping × Iri) → Resolver → List FilterCall × Resolver
  | [], r => ([], r)
  | (m, p) :: rest, r =>
    if params.values p = [] then callsOf params rest r
    else
      let found := (filterOf m r).value
      let calls := callsOf params rest found.2
      (found.1.toList.map (⟨m, p, ·⟩) ++ calls.1, calls.2)

section Calls
variable {params : SearchParams} {r : Resolver}

/-- The patterns are what the calls answer, which are numbered behind the `count` calls before. -/
theorem value_filterPatternsFrom_eq (v : Variable) (count : Nat) (xs : List (Mapping × Iri)) (r : Resolver) :
    (filterPatternsFrom params v count xs r).value =
      (((callsOf params xs r).1.zipIdx (count + 1)).filterMap fun x => x.1.pattern? params v x.2,
        (callsOf params xs r).2) := by
  induction xs generalizing count r with
  | nil => rfl
  | cons x xs ih =>
    obtain ⟨m, p⟩ := x
    rw [filterPatternsFrom, callsOf]
    cases hv : params.values p with
    | nil => simp [ih]
    | cons t ts =>
      simp only [Resolving.value_bind, reduceCtorEq, if_false]
      cases (filterOf m r).value with
      | mk f r' =>
        cases f with
        | none => simp [ih]
        | some f =>
          have hinput : FilterCall.input ⟨m, p, f⟩ params v (count + 1) =
              { subject := v, predicate := p, values := t :: ts, params
                generator := ⟨"filter" ++ toString (count + 1)⟩ } := by
            rw [FilterCall.input, hv]
          simp only [Resolving.value_bind, Resolving.value_pure, Resolving.value_lift, ih, ← hinput, Option.toList_some,
            List.map_cons, List.map_nil, List.singleton_append, List.zipIdx_cons, List.filterMap_cons,
            FilterCall.pattern?]
          cases (f.pattern (FilterCall.input ⟨m, p, f⟩ params v (count + 1))).value <;> rfl

/-- Calls are made in the order of the mappings, at most one for each. -/
theorem sublist_callsOf (xs : List (Mapping × Iri)) (r : Resolver) :
    ((callsOf params xs r).1.map FilterCall.mapped).Sublist xs := by
  induction xs generalizing r with
  | nil => exact .slnil
  | cons x xs ih =>
    obtain ⟨m, p⟩ := x
    rw [callsOf]
    split
    · exact (ih r).cons _
    · dsimp only
      cases (filterOf m r).value.1 with
      | none => exact (ih _).cons _
      | some f => exact (ih _).cons_cons _

/-- A filter is called only if the property of its mapping has a value. -/
theorem values_ne_nil_of_mem_callsOf {xs : List (Mapping × Iri)} {call : FilterCall}
    (h : call ∈ (callsOf params xs r).1) : params.values call.property ≠ [] := by
  induction xs generalizing r with
  | nil => cases h
  | cons x xs ih =>
    obtain ⟨m, p⟩ := x
    rw [callsOf] at h
    split at h
    · exact ih h
    · next hp =>
      rcases List.mem_append.mp h with h | h
      · obtain ⟨f, -, rfl⟩ := List.mem_map.mp h
        exact hp
      · exact ih h

/-- The filter of a mapping that declares none is always found. -/
theorem mem_callsOf_of_default {xs : List (Mapping × Iri)} {x : Mapping × Iri} (hx : x ∈ xs)
    (hfilter : x.1.filter = none) (hvalues : params.values x.2 ≠ []) : ⟨x.1, x.2, .equality⟩ ∈ (callsOf params xs r).1 := by
  induction xs generalizing r with
  | nil => cases hx
  | cons y xs ih =>
    obtain ⟨m, p⟩ := y
    rw [callsOf]
    rcases List.mem_cons.mp hx with rfl | hx
    · have hfound : (filterOf m r).value.1 = some .equality := by
        rw [filterOf, hfilter]
        rfl
      simp [hvalues, hfound]
    · split
      · exact ih hx
      · exact List.mem_append_right _ (ih hx)

end Calls

section Queries
variable {c : Collection} {t : SearchTemplate}

theorem value_filterPatterns_eq (ht : c.search = some t) (params : SearchParams) (v : Variable) (r : Resolver) :
    (filterPatterns c params v r).value =
      (((callsOf params t.filters r).1.zipIdx 1).filterMap fun x => x.1.pattern? params v x.2,
        (callsOf params t.filters r).2) := by
  unfold filterPatterns
  rw [ht]
  exact value_filterPatternsFrom_eq v 0 t.filters r

theorem mem_filters {x : Mapping × Iri} (h : x ∈ t.filters) : x.1 ∈ t.mappings ∧ x.1.property = some x.2 := by
  obtain ⟨m, hm, hx⟩ := List.mem_filterMap.mp h
  obtain ⟨p, hp, rfl⟩ := Option.map_eq_some_iff.mp hx
  exact ⟨hm, (Option.filter_eq_some_iff.mp hp).1⟩

/-- Each filter sees the terms of all variables that are mapped to its property, and is not called if there are none.
    These are the terms of its own variable if no other variable of the property is in the query. -/
theorem filters_see_property (ht : c.search = some t) (hnames : (t.mappings.map (·.variableName)).Nodup)
    (query : String) (v : Variable) (r : Resolver) :
    let params := t.parseQuery query
    let calls := (callsOf params t.filters r).1
    (filterPatterns c params v r).value.1 = ((calls.zipIdx 1).filterMap fun x => x.1.pattern? params v x.2) ∧
    (calls.map FilterCall.mapped).Sublist t.filters ∧
    (∀ x ∈ t.filters, x.1.filter = none →
      t.termsOf query x.2 (fun name => t.property? name = some x.2) ≠ [] → ⟨x.1, x.2, .equality⟩ ∈ calls) ∧
    ∀ call ∈ calls, ∀ n,
      (call.input params v n).values =
        t.termsOf query call.property (fun name => t.property? name = some call.property) ∧
      (call.input params v n).values ≠ [] ∧
      ((∀ x ∈ SearchTemplate.pairsOf query, t.property? (String.ofList x.1) = some call.property →
          String.ofList x.1 = call.mapping.variableName) →
        (call.input params v n).values = t.termsOf query call.property (· = call.mapping.variableName)) := by
  intro params calls
  refine ⟨by rw [value_filterPatterns_eq ht], sublist_callsOf _ _, ?_, ?_⟩
  · intro x hx hfilter hvalues
    rw [← SearchTemplate.values_parseQuery] at hvalues
    exact mem_callsOf_of_default hx hfilter hvalues
  · intro call hcall n
    have hvalues : (call.input params v n).values =
        t.termsOf query call.property fun name => t.property? name = some call.property :=
      SearchTemplate.values_parseQuery query call.property
    refine ⟨hvalues, values_ne_nil_of_mem_callsOf hcall, fun hown => hvalues.trans ?_⟩
    have hmapped : call.mapped ∈ t.filters := (sublist_callsOf _ _).subset (List.mem_map_of_mem hcall)
    obtain ⟨hm, hp⟩ := mem_filters hmapped
    have hproperty : t.property? call.mapping.variableName = some call.property :=
      (SearchTemplate.property?_variableName hnames hm).trans hp
    refine SearchTemplate.termsOf_congr fun x hx => decide_eq_decide.mpr ⟨hown x hx, fun hname => ?_⟩
    rw [hname, hproperty]

end Queries

/-! ### Authors and editors -/

open Library

/-- A search for authors and for editors, who are both creators. -/
def creators : SearchTemplate where
  template := "http://example.org/books{?author,editor}"
  mappings := [creatorMapping "author", creatorMapping "editor"]

/-- The calls for a query string. -/
def creatorCalls (query : String) : List FilterCall :=
  (callsOf (creators.parseQuery query) creators.filters { host := .ofRegistry [] [] }).1

theorem creators_filters_see_property :
    let query := "author=ann&editor=bob"
    let params := creators.parseQuery query
    (creators.mappings.map (·.variableName)).Nodup ∧ ∀ call ∈ creatorCalls query, ∀ n,
      (call.input params ⟨"member"⟩ n).values =
        creators.termsOf query call.property fun name => creators.property? name = some call.property := by
  intro query params
  have hnames : (creators.mappings.map (·.variableName)).Nodup := by decide
  have h := filters_see_property (c := { Collection.shelf with search := some creators }) rfl hnames query ⟨"member"⟩
    { host := .ofRegistry [] [] }
  exact ⟨hnames, fun call hcall n => (h.2.2.2 call hcall n).1⟩

/-- The filter for the author is given the editor as well, and the filter for the editor is called for an author. -/
theorem creators_filters_share_values : (creators.mappings.map (·.variableName)).Nodup ∧
    (∃ call ∈ creatorCalls "author=ann&editor=bob", call.mapping = creatorMapping "author" ∧
      creators.termsOf "author=ann&editor=bob" creator (· = "author") = [.literal (.plain "ann")] ∧
      (call.input (creators.parseQuery "author=ann&editor=bob") ⟨"member"⟩ 1).values =
        [.literal (.plain "ann"), .literal (.plain "bob")]) ∧
    ∃ call ∈ creatorCalls "author=ann", call.mapping = creatorMapping "editor" ∧
      creators.termsOf "author=ann" creator (· = "editor") = [] := by
  have hauthor : (creatorMapping "author", creator) ∈ creators.filters := by decide
  have heditor : (creatorMapping "editor", creator) ∈ creators.filters := by decide
  refine ⟨by decide, ⟨_, mem_callsOf_of_default hauthor rfl (by decide +kernel), rfl, ?_, ?_⟩,
    ⟨_, mem_callsOf_of_default heditor rfl (by decide +kernel), rfl, ?_⟩⟩
  all_goals decide +kernel

end MemberQueries
end CollectionQuery
