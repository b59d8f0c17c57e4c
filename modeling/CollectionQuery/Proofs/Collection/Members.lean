import CollectionQuery.Proofs.Collection.Assemble
import CollectionQuery.Sparql.Text

/-! The members that the queries of a page select and count. Every solution of the shared fragments binds the member,
    since the first of them is the pattern of an assertion; so the sorting behind them changes no member, and the two
    queries agree. -/

namespace CollectionQuery
open Pattern Row

/-- All valid assertions admit the resource, and it has the first value of each property that a search variable is
    mapped to. Values that are blank nodes restrict nothing. -/
structure Collection.IsMember (c : Collection) (params : SearchParams) (d : Dataset) (m : Iri) : Prop where
  admitted : ∀ a ∈ c.assertions, a.IsValid → a.Admits d (.iri m)
  found : ∀ t ∈ c.search, ∀ x ∈ t.filters, ∀ v ∈ (params.values x.2).head?, v.IsConstant →
    d.Holds none ⟨.iri m, x.2, v⟩

namespace MemberQueries
variable {c : Collection} {params : SearchParams} {options : Options} {r : Resolver} {d : Dataset}

/-! ### Values of a group -/

/-- The IRIs that a group of fragments binds to the variable. -/
def selected (d : Dataset) (v : Variable) (fragments : List Fragment) : Multiset Term :=
  (((Pattern.filter (.isIri v) (group fragments)).rows d d.default).filterMap (Finmap.lookup v)).dedup

theorem mem_selected {v : Variable} {fragments : List Fragment} {t : Term} :
    t ∈ selected d v fragments ↔
      (∃ i, t = .iri i) ∧ ∃ a ∈ (group fragments).rows d d.default, a.lookup v = some t := by
  simp only [selected, Multiset.mem_dedup, Multiset.mem_filterMap, Pattern.rows, Multiset.mem_filter,
    Condition.holds_isIri]
  constructor
  · rintro ⟨a, ⟨ha, i, hi⟩, ht⟩
    rw [hi] at ht
    cases ht
    exact ⟨⟨i, rfl⟩, a, ha, hi⟩
  · rintro ⟨⟨i, rfl⟩, a, ha, ht⟩
    exact ⟨a, ⟨ha, i, ht⟩, ht⟩

/-- The row binds the variable, which is the case for all solutions of a group that begins with a selecting pattern. -/
theorem lookup_group_cons {v : Variable} {P : Term → Prop} {p : Pattern} (hp : Selects d d.default v P p)
    {fs : List Fragment} {a : Row Variable} (ha : a ∈ (group (.required p :: fs)).rows d d.default) : v ∈ a := by
  rw [group_required_cons] at ha
  obtain ⟨b, hb, hab⟩ := exists_extends_of_mem_foldl ha
  obtain ⟨t, -, rfl⟩ := hp.mem_rows.mp hb
  exact Finmap.mem_of_lookup_eq_some (hab v t Finmap.lookup_singleton_eq)

/-- Each IRI that the group binds to the member is one solution of the members query. -/
theorem rows_selectMembers {v : Variable} {fragments : List Fragment} {sorting : Sorting} {page : Option PageRequest}
    (hv : ∀ a ∈ (group fragments).rows d d.default, v ∈ a)
    (hs : ∃ ps : List Pattern, sorting.fragments = ps.map .optional) :
    (selectMembers v fragments sorting page).selection.rows d =
      (selected d v fragments).map fun t => Finmap.singleton v t := by
  obtain ⟨ps, hps⟩ := hs
  have hall : ∀ a ∈ (Pattern.filter (.isIri v) (group (fragments ++ sorting.fragments))).rows d d.default, v ∈ a := by
    intro a ha
    obtain ⟨i, hi⟩ := Condition.holds_isIri.mp (Multiset.mem_filter.mp ha).2
    exact Finmap.mem_of_lookup_eq_some hi
  have hsel : selected d v (fragments ++ sorting.fragments) = selected d v fragments := by
    refine (Multiset.Nodup.ext (Multiset.nodup_dedup _) (Multiset.nodup_dedup _)).mpr fun t => ?_
    rw [← selected, ← selected, mem_selected, mem_selected, hps, lookup_optional_iff hv]
  rw [← hsel, selected, ← Multiset.dedup_map_of_injective (singleton_injective v), ← map_restrict_singleton hall]
  rfl

theorem rows_selectTotal (v : Variable) (fragments : List Fragment) :
    (selectTotal v fragments).selection.rows d =
      {Finmap.singleton totalVariable (.literal (.ofNat (selected d v fragments).card))} := by
  have h : (selectTotal v fragments).selection.rows d = Multiset.map (restrict [totalVariable])
    {Finmap.singleton totalVariable (.literal (.ofNat (selected d v fragments).card))} := rfl
  rw [h, Multiset.map_singleton, restrict_singleton_of_lookup Finmap.lookup_singleton_eq]

/-! ### Total -/

/-- The pattern of an assertion stands in front, so all solutions bind the member. -/
theorem mem_of_mem_rows_shared (h : c.HasValidAssertion) {a : Row Variable}
    (ha : a ∈ (group (sharedFragments c params options r)).rows d d.default) : options.member ∈ a := by
  obtain ⟨p, ps, hp⟩ := List.exists_cons_of_ne_nil
    (not_not.mpr h ∘ assertionPatterns_eq_nil_iff.mp)
  obtain ⟨m, -, qs, hqs, hpq⟩ := mem_assertionPatterns.mp (hp ▸ List.mem_cons_self : p ∈ _)
  have hsel := (MemberAssertion.selects_patterns hqs d).1 p hpq
  rw [sharedFragments, hp] at ha
  exact lookup_group_cons hsel ha

theorem rows_members (h : c.HasValidAssertion) (params : SearchParams) (options : Options) (r : Resolver)
    (d : Dataset) :
    (queriesOf c params options r).members.selection.rows d =
      (selected d options.member (sharedFragments c params options r)).map fun t => Finmap.singleton options.member t :=
  rows_selectMembers (fun _ ha => mem_of_mem_rows_shared h ha) (exists_fragments_sortingOf c _ _)

/-- The total is the number of solutions of the members query, and sorting changes neither of them. -/
theorem total_counts_members (c : Collection) (params : SearchParams) (options : Options) (r : Resolver) :
    ∀ queries ∈ (assemble c params options r).value.1, ∃ s t, queries.members = .select s ∧ queries.total = .select t ∧
      (∀ d : Dataset, t.rows d = {Finmap.singleton totalVariable (.literal (.ofNat (s.rows d).card))}) ∧
      ∀ entries, ∃ sorted ∈ (assemble { c with ordering := entries } params options r).value.1,
        sorted.total = .select t ∧ ∃ s', sorted.members = .select s' ∧ ∀ d : Dataset, s'.rows d = s.rows d := by
  intro queries hq
  obtain ⟨hv, rfl⟩ := mem_value_assemble.mp hq
  refine ⟨_, _, rfl, rfl, fun d => ?_, fun entries => ?_⟩
  · have hm := rows_members hv params options r d
    have ht := rows_selectTotal (d := d) options.member (sharedFragments c params options r)
    refine ht.trans ?_
    rw [← Multiset.card_map (fun t => (Finmap.singleton options.member t : Row Variable)), ← hm]
    rfl
  · have hv' : Collection.HasValidAssertion { c with ordering := entries } := hv
    refine ⟨_, mem_value_assemble.mpr ⟨hv', rfl⟩, rfl, _, rfl, fun d => ?_⟩
    exact (rows_members hv' params options r d).trans (rows_members hv params options r d).symm

/-- A filter that leaves out the books with a review, by a pattern of another form. -/
def unreviewed : Filter where
  pattern input :=
    let review := input.generator.make "review"
    pure (some (.foreign {
      text := input.subject.text ++ " ?p ?o MINUS \x7b " ++ input.subject.text ++ " <http://example.org/review> " ++
        review.text ++ " \x7d"
      vars := [input.subject, ⟨"p"⟩, ⟨"o"⟩, review]
      needsBraces := true }))

/-- A shelf that is searched by author with a filter. -/
def filteredShelf : Collection :=
  { Collection.shelf with search := some { SearchTemplate.shelf with
      mappings := [Library.authorMapping (some Library.bookFilter), Library.pageMapping] } }

/-- The pattern of a filter stands between the assertions and the sorting, and whatever its solutions are, they are
    counted like the members. -/
theorem shelf_total_counts_members :
    let params := SearchParams.ofList [(Library.author, .literal (.plain "ann"))]
    let r : Resolver := { host := .ofRegistry [(Library.bookFilter, unreviewed)] [] }
    ∃ queries ∈ (assemble filteredShelf params {} r).value.1, ∃ s t,
      queries.members = .select s ∧ queries.total = .select t ∧
      (∃ front p sorting, s.pattern = .filter (.isIri ⟨"member"⟩) (.leftJoin (.join front (.foreign p)) sorting)) ∧
      (∀ d : Dataset, t.rows d = {Finmap.singleton totalVariable (.literal (.ofNat (s.rows d).card))}) ∧
      ∀ entries, ∃ sorted ∈ (assemble { filteredShelf with ordering := entries } params {} r).value.1,
        sorted.total = .select t ∧ ∃ s', sorted.members = .select s' ∧ ∀ d : Dataset, s'.rows d = s.rows d := by
  intro params r
  have hq := queriesOf_mem_assemble (c := filteredShelf) Collection.hasValidAssertion_shelf params {} r
  obtain ⟨s, t, hs, ht, hrows⟩ := total_counts_members filteredShelf params {} r _ hq
  refine ⟨_, hq, s, t, hs, ht, ?_, hrows⟩
  cases hs
  exact ⟨_, _, _, rfl⟩

/-! ### Members -/

theorem selected_assertions (t : Term) (v : Variable) :
    (∀ p ∈ (assertionPatterns c v).value, Selected d d.default v p t) ↔
      ∀ a ∈ c.assertions, a.IsValid → a.Admits d t := by
  simp only [mem_assertionPatterns]
  constructor
  · intro h a ha hv
    obtain ⟨ps, hps⟩ := MemberAssertion.exists_patterns_iff.mpr hv
    exact ((MemberAssertion.selects_patterns hps d).2 t).mp fun p hp => h p ⟨a, ha, ps, hps, hp⟩
  · rintro h p ⟨a, ha, ps, hps, hp⟩
    have hv := MemberAssertion.exists_patterns_iff.mp ⟨ps, hps⟩
    exact ((MemberAssertion.selects_patterns hps d).2 t).mpr (h a ha hv) p hp

theorem selected_equals {v : Variable} {p : Iri} {o : Term} (ho : o.IsConstant) (t : Term) :
    Selected d d.default v (triple (.var v) (.iri p) (.term o)) t ↔ d.Holds none ⟨t, p, o⟩ := by
  rw [(selects_triple (.subject p ho)).selected_iff]
  constructor
  · rintro ⟨i, hi, ht⟩
    cases hi
    exact ht
  · exact fun ht => ⟨p, rfl, ht⟩

theorem selected_filters (h : ∀ t ∈ c.search, ∀ x ∈ t.filters, params.values x.2 ≠ [] → x.1.filter = none)
    (t : Term) (v : Variable) :
    (∀ p ∈ (filterPatterns c params v r).value.1, Selected d d.default v p t) ↔
      ∀ s ∈ c.search, ∀ x ∈ s.filters, ∀ o ∈ (params.values x.2).head?, o.IsConstant → d.Holds none ⟨t, x.2, o⟩ := by
  simp only [mem_filterPatterns h]
  constructor
  · intro hp s hs x hx o ho hc
    exact (selected_equals hc t).mp (hp _ ⟨s, hs, x, hx, o, ho, hc, rfl⟩)
  · rintro ht p ⟨s, hs, x, hx, o, ho, hc, rfl⟩
    exact (selected_equals hc t).mpr (ht s hs x hx o ho hc)

/-- Every pattern that the queries share selects the values of the member alone. -/
theorem selects_shared (h : ∀ t ∈ c.search, ∀ x ∈ t.filters, params.values x.2 ≠ [] → x.1.filter = none)
    {v : Variable} {p : Pattern}
    (hp : p ∈ (assertionPatterns c v).value ++ (filterPatterns c params v r).value.1) :
    Selects d d.default v (Selected d d.default v p) p := by
  rcases List.mem_append.mp hp with hp | hp
  · obtain ⟨a, -, ps, hps, hp⟩ := mem_assertionPatterns.mp hp
    exact (MemberAssertion.selects_patterns hps d).1 p hp
  · obtain ⟨s, -, x, -, o, -, hc, rfl⟩ := (mem_filterPatterns h).mp hp
    exact (selects_triple (.subject x.2 hc)).selected

theorem mem_selected_shared (h : ∀ t ∈ c.search, ∀ x ∈ t.filters, params.values x.2 ≠ [] → x.1.filter = none)
    (hv : c.HasValidAssertion) (options : Options) (r : Resolver) {t : Term} :
    t ∈ selected d options.member (sharedFragments c params options r) ↔ ∃ m, t = .iri m ∧ c.IsMember params d m := by
  have hne : (assertionPatterns c options.member).value ++ (filterPatterns c params options.member r).value.1 ≠ [] := by
    intro hn
    exact assertionPatterns_eq_nil_iff.mp (List.append_eq_nil_iff.mp hn).1 hv
  have hgroup := selects_group hne fun p hp => selects_shared (d := d) h hp
  rw [mem_selected, ← exists_and_right]
  refine exists_congr fun m => and_congr_right fun ht => ?_
  subst ht
  have hrow : (∃ a ∈ (group (sharedFragments c params options r)).rows d d.default,
      a.lookup options.member = some (.iri m)) ↔ ∀ p ∈ (assertionPatterns c options.member).value ++
        (filterPatterns c params options.member r).value.1, Selected d d.default options.member p (.iri m) := by
    simp only [sharedFragments, hgroup.mem_rows]
    constructor
    · rintro ⟨_, ⟨t, ht, rfl⟩, hl⟩
      rw [Finmap.lookup_singleton_eq] at hl
      cases hl
      exact ht
    · exact fun ht => ⟨_, ⟨_, ht, rfl⟩, Finmap.lookup_singleton_eq⟩
  rw [hrow, List.forall_mem_append, selected_assertions, selected_filters h]
  exact ⟨fun ⟨ha, hf⟩ => ⟨ha, hf⟩, fun ⟨ha, hf⟩ => ⟨ha, hf⟩⟩

/-- The members query selects the members of the collection, and there is none exactly if no assertion is valid. -/
theorem assemble_selects_members (c : Collection) (params : SearchParams) (options : Options) (r : Resolver)
    (h : ∀ t ∈ c.search, ∀ x ∈ t.filters, params.values x.2 ≠ [] → x.1.filter = none) :
    ((assemble c params options r).value.1 = none ↔ ∀ a ∈ c.assertions, ¬a.IsValid) ∧
      ∀ queries ∈ (assemble c params options r).value.1, ∃ s, queries.members = .select s ∧ ∀ d : Dataset,
        {t | ∃ row ∈ s.rows d, row.lookup options.member = some t} = {t | ∃ m, t = .iri m ∧ c.IsMember params d m} := by
  refine ⟨?_, fun queries hq => ?_⟩
  · rw [value_assemble_eq_none_iff, Collection.HasValidAssertion]
    simp only [not_exists, not_and]
  · obtain ⟨hv, rfl⟩ := mem_value_assemble.mp hq
    refine ⟨_, rfl, fun d => Set.ext fun t => ?_⟩
    change (∃ row ∈ (queriesOf c params options r).members.selection.rows d, row.lookup options.member = some t) ↔
      ∃ m, t = .iri m ∧ c.IsMember params d m
    rw [rows_members hv, ← mem_selected_shared h hv options r]
    constructor
    · rintro ⟨row, hrow, hl⟩
      obtain ⟨u, hu, rfl⟩ := Multiset.mem_map.mp hrow
      rw [Finmap.lookup_singleton_eq] at hl
      cases hl
      exact hu
    · exact fun ht => ⟨_, Multiset.mem_map_of_mem _ ht, Finmap.lookup_singleton_eq⟩

theorem shelf_selects_members :
    let params := SearchParams.ofList [(Library.author, .literal (.plain "Le Guin"))]
    ∃ queries ∈ (assemble .shelf params {} { host := .ofRegistry [] [] }).value.1, ∃ s, queries.members = .select s ∧
      ∀ d : Dataset, {t | ∃ row ∈ s.rows d, row.lookup ⟨"member"⟩ = some t} =
        {t | ∃ m, t = .iri m ∧ Collection.shelf.IsMember params d m} := by
  intro params
  have h : ∀ t ∈ Collection.shelf.search, ∀ x ∈ t.filters, params.values x.2 ≠ [] → x.1.filter = none := by
    intro t ht x hx _
    cases ht
    obtain rfl := List.mem_singleton.mp hx
    rfl
  exact ⟨_, rfl, (assemble_selects_members .shelf params {} { host := .ofRegistry [] [] } h).2 _ rfl⟩

end MemberQueries
end CollectionQuery
