import CollectionQuery.Collection.MemberQuery
import CollectionQuery.Proofs.Collection.Assertion
import CollectionQuery.Proofs.Library

/-! What the queries of a page are made of. Their fragments are the patterns of the valid assertions and then those of
    the filters; sorting only adds optional parts behind them. -/

namespace CollectionQuery

theorem Noted.value_mapM {α β : Type} (f : α → Noted β) (as : List α) :
    (as.mapM f).value = as.map fun a => (f a).value := by
  induction as with
  | nil => rfl
  | cons a as ih => simp [List.mapM_cons, ih]

theorem Filter.value_equality (input : FilterInput) :
    (Filter.equality.pattern input).value =
      input.values.head?.bind (Pattern.equals? input.subject input.predicate) := by
  obtain ⟨subject, predicate, values, generator, params⟩ := input
  cases values with
  | nil => rfl
  | cons v rest => cases rest <;> rfl

/-- An assertion of the collection is valid. -/
def Collection.HasValidAssertion (c : Collection) : Prop := ∃ a ∈ c.assertions, a.IsValid

namespace MemberQueries
variable {c : Collection} {params : SearchParams} {options : Options} {r : Resolver}

/-! ### Assertions -/

theorem mem_assertionPatterns {v : Variable} {p : Pattern} :
    p ∈ (assertionPatterns c v).value ↔ ∃ a ∈ c.assertions, ∃ ps, a.patterns v = .ok ps ∧ p ∈ ps := by
  simp only [assertionPatterns, Noted.value_bind, Noted.value_pure, Noted.value_mapM, List.mem_flatten, List.mem_map,
    exists_exists_and_eq_and]
  refine exists_congr fun a => and_congr_right fun _ => ?_
  cases a.patterns v with
  | error e => simp
  | ok ps => simp

theorem assertionPatterns_eq_nil_iff {v : Variable} :
    (assertionPatterns c v).value = [] ↔ ¬c.HasValidAssertion := by
  rw [List.eq_nil_iff_forall_not_mem]
  simp only [mem_assertionPatterns]
  constructor
  · rintro h ⟨a, ha, hv⟩
    obtain ⟨ps, hps⟩ := MemberAssertion.exists_patterns_iff.mpr hv
    obtain ⟨p, hp⟩ := List.exists_mem_of_ne_nil _ (MemberAssertion.patterns_ne_nil hps)
    exact h p ⟨a, ha, ps, hps, hp⟩
  · rintro h p ⟨a, ha, ps, hps, -⟩
    exact h ⟨a, ha, MemberAssertion.exists_patterns_iff.mp ⟨ps, hps⟩⟩

/-! ### Filters -/

/-- Mappings that declare no filter keep the members that have the first value of the property. -/
theorem value_filterPatternsFrom {v : Variable} {count : Nat} {xs : List (Mapping × Iri)}
    (h : ∀ x ∈ xs, params.values x.2 ≠ [] → x.1.filter = none) :
    (filterPatternsFrom params v count xs r).value =
      (xs.filterMap fun x => (params.values x.2).head?.bind (Pattern.equals? v x.2), r) := by
  induction xs generalizing count with
  | nil => rfl
  | cons x xs ih =>
    obtain ⟨m, p⟩ := x
    have ih (count : Nat) := @ih count fun y hy => h y (List.mem_cons_of_mem _ hy)
    rw [filterPatternsFrom]
    cases hv : params.values p with
    | nil =>
      rw [List.filterMap_cons_none (by simp [hv])]
      exact ih count
    | cons t ts =>
      have hm : m.filter = none := h (m, p) List.mem_cons_self (by simp [hv])
      simp only [filterOf, hm]
      simp only [Resolving.value_bind, Resolving.value_pure, Resolving.value_lift, Filter.value_equality, ih]
      rw [List.filterMap_cons, hv]
      cases Option.bind (t :: ts).head? (Pattern.equals? v p) <;> rfl

theorem equals?_eq_some {v : Variable} {p : Iri} {o : Term} {q : Pattern} :
    Pattern.equals? v p o = some q ↔ o.IsConstant ∧ Pattern.triple (.var v) (.iri p) (.term o) = q := by
  cases o <;> simp [Pattern.equals?, Term.constant?, Term.IsConstant]

theorem mem_filterPatterns {v : Variable} {q : Pattern}
    (h : ∀ t ∈ c.search, ∀ x ∈ t.filters, params.values x.2 ≠ [] → x.1.filter = none) :
    q ∈ (filterPatterns c params v r).value.1 ↔ ∃ t ∈ c.search, ∃ x ∈ t.filters, ∃ o ∈ (params.values x.2).head?,
      o.IsConstant ∧ Pattern.triple (.var v) (.iri x.2) (.term o) = q := by
  unfold filterPatterns
  cases hs : c.search with
  | none => simp [Resolving.value_pure]
  | some t =>
    simp only [value_filterPatternsFrom (h t hs), List.mem_filterMap, Option.bind_eq_some_iff, equals?_eq_some]
    simp

/-! ### Sorting -/

/-- Sorting binds its keys in optional parts. -/
theorem exists_fragments_sortingOf (c : Collection) (v : Variable) (page : Option PageRequest) :
    ∃ ps : List Pattern, (sortingOf c v page).value.fragments = ps.map .optional := by
  cases page with
  | none =>
    refine ⟨[], ?_⟩
    unfold sortingOf
    cases c.ordering.isEmpty <;> rfl
  | some p =>
    refine ⟨((Sorting.used c.ordering).zipIdx 1).map fun x => .along (.var v) x.1.1 (.var (Sorting.key x.2)), ?_⟩
    simp [sortingOf, Sorting.ofEntries]

/-! ### Queries -/

/-- The fragments that both queries share. -/
def sharedFragments (c : Collection) (params : SearchParams) (options : Options) (r : Resolver) : List Fragment :=
  ((assertionPatterns c options.member).value ++ (filterPatterns c params options.member r).value.1).map .required

/-- The queries of a collection with a valid assertion. -/
def queriesOf (c : Collection) (params : SearchParams) (options : Options) (r : Resolver) : MemberQueries :=
  let page := PageRequest.resolve c params options.pageSize
  { members := selectMembers options.member (sharedFragments c params options r)
      (sortingOf c options.member page).value page
    total := selectTotal options.member (sharedFragments c params options r)
    page }

theorem value_assemble (c : Collection) (params : SearchParams) (options : Options) (r : Resolver) :
    (assemble c params options r).value =
      if (assertionPatterns c options.member).value.isEmpty then (none, r)
      else (some (queriesOf c params options r), (filterPatterns c params options.member r).value.2) := by
  by_cases h : (assertionPatterns c options.member).value.isEmpty
  · rw [if_pos h]
    exact congrArg (fun x : Resolving (Option MemberQueries) => (x r).value) (if_pos h)
  · rw [if_neg h]
    exact congrArg (fun x : Resolving (Option MemberQueries) => (x r).value) (if_neg h)

/-- Without a valid assertion there are no queries. -/
theorem value_assemble_eq_none_iff : (assemble c params options r).value.1 = none ↔ ¬c.HasValidAssertion := by
  rw [value_assemble, ← assertionPatterns_eq_nil_iff (v := options.member), ← List.isEmpty_iff]
  split
  · next h => simp [h]
  · next h => simp [h]

theorem mem_value_assemble {queries : MemberQueries} :
    queries ∈ (assemble c params options r).value.1 ↔
      c.HasValidAssertion ∧ queriesOf c params options r = queries := by
  by_cases h : c.HasValidAssertion
  · rw [value_assemble, if_neg]
    · simp [h]
    · rwa [List.isEmpty_iff, assertionPatterns_eq_nil_iff, not_not]
  · rw [value_assemble_eq_none_iff.mpr h]
    simp [h]

theorem queriesOf_mem_assemble (h : c.HasValidAssertion) (params : SearchParams) (options : Options) (r : Resolver) :
    queriesOf c params options r ∈ (assemble c params options r).value.1 := mem_value_assemble.mpr ⟨h, rfl⟩

end MemberQueries

/-! ### A shelf of books -/

/-- A search for authors. -/
def SearchTemplate.shelf : SearchTemplate where
  template := "http://example.org/books{?author,page}"
  mappings := [Library.authorMapping, Library.pageMapping]

/-- A paged collection of books, sorted by title, which can be searched by author. -/
def Collection.shelf : Collection where
  iri := Library.books
  graph := .empty
  assertions := [{ node := .blank "a", properties := [.iri Rdf.type], objects := [.iri Library.bookClass] }]
  search := some SearchTemplate.shelf
  ordering := [{ path := some (.predicate Library.title) }]

theorem Collection.hasValidAssertion_shelf : shelf.HasValidAssertion :=
  ⟨_, List.mem_singleton_self _, by decide, by decide, fun t ht => ⟨Rdf.type, List.mem_singleton.mp ht⟩, by decide⟩

end CollectionQuery
