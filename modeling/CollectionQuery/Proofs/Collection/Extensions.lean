import CollectionQuery.Proofs.Collection.FilterCalls
import CollectionQuery.Proofs.Collection.Resolver

/-! Declared implementations and defaults. A declaration whose reference can be read is not passed over: the filter it
    refers to is called, or none is and a warning says so; the strategy it refers to describes the resource, or an
    error says why none does. A declaration without a readable reference counts as none. -/

namespace CollectionQuery

/-! ### Reports -/

/-- A warning was raised for every reference to a filter that nothing is known about. -/
def Resolver.Reports (ws : List Warning) (r : Resolver) : Prop :=
  ∀ reference, r.filters.lookup reference = some none → .filterUnresolved reference ∈ ws

/-- The resolver remembers what another one remembers of filters. -/
def Resolver.Extends (r r' : Resolver) : Prop :=
  ∀ reference known, r.filters.lookup reference = some known → r'.filters.lookup reference = some known

namespace Resolver
variable {r r' r'' : Resolver} {ws ws' : List Warning}

theorem Reports.mono (h : r.Reports ws) (hws : ws ⊆ ws') : r.Reports ws' := fun reference hl => hws (h reference hl)

theorem Extends.refl (r : Resolver) : r.Extends r := fun _ _ h => h

theorem Extends.trans (h : r.Extends r') (h' : r'.Extends r'') : r.Extends r'' :=
  fun reference known hl => h' reference known (h reference known hl)

/-- Resolving a filter makes it known. -/
theorem lookup_filter (r : Resolver) (reference : Iri) :
    (r.filter reference).value.2.filters.lookup reference = some (r.filter reference).value.1 := by
  rw [value_filter]
  cases hl : r.filters.lookup reference with
  | some known => exact hl
  | none => exact List.lookup_cons_self

theorem lookup_filter_of_ne {reference other : Iri} (h : other ≠ reference) :
    (r.filter reference).value.2.filters.lookup other = r.filters.lookup other := by
  rw [value_filter]
  cases r.filters.lookup reference with
  | some known => rfl
  | none =>
    dsimp only
    rw [List.lookup_cons, beq_false_of_ne h]

theorem extends_filter (r : Resolver) (reference : Iri) : r.Extends (r.filter reference).value.2 := by
  intro other known ho
  by_cases h : other = reference
  · subst h
    rwa [filter_of_known ho]
  · rwa [lookup_filter_of_ne h]

/-- The first time that nothing is known about a reference, a warning says so. -/
theorem mem_warnings_filter {reference : Iri} (hl : r.filters.lookup reference = none)
    (hnone : (r.filter reference).value.1 = none) : .filterUnresolved reference ∈ (r.filter reference).warnings := by
  rw [filter_of_new hl] at hnone ⊢
  dsimp only at hnone ⊢
  rw [hnone]
  exact List.mem_cons_self

theorem reports_filter (hr : r.Reports ws) (reference : Iri) :
    (r.filter reference).value.2.Reports (ws ++ (r.filter reference).warnings) := by
  intro other ho
  by_cases h : other = reference
  · subst h
    rw [lookup_filter] at ho
    cases hl : r.filters.lookup other with
    | some known =>
      rw [filter_of_known hl] at ho
      exact List.mem_append_left _ (hr other (hl.trans ho))
    | none => exact List.mem_append_right _ (mem_warnings_filter hl (Option.some.inj ho))
  · rw [lookup_filter_of_ne h] at ho
    exact List.mem_append_left _ (hr other ho)

end Resolver

namespace Snapshot
variable {r : Resolver} {ws : List Warning}

theorem reports_resolveFilters (hr : r.Reports ws) (references : List Iri) :
    (resolveFilters references r).value.Reports (ws ++ (resolveFilters references r).warnings) := by
  induction references generalizing r ws with
  | nil => exact hr.mono (List.subset_append_left _ _)
  | cons reference references ih =>
    have hrest := ih (Resolver.reports_filter hr reference)
    rwa [List.append_assoc] at hrest

theorem filters_resolveStrategies (references : List Iri) (r : Resolver) :
    (resolveStrategies references r).value.filters = r.filters := by
  induction references generalizing r with
  | nil => rfl
  | cons reference references ih => exact (ih _).trans (r.filters_strategy reference)

/-- While a snapshot is loaded, every unknown filter is reported. -/
theorem reports_load (graph : Graph) (host : Host) :
    (load graph host).value.resolver.Reports (load graph host).warnings := by
  have hempty : Resolver.Reports [] { host } := fun _ hl => nomatch hl
  have hfilters := reports_resolveFilters hempty (references graph Rule.filter)
  intro reference hl
  -- Strategies are resolved after the filters, which they leave as they are.
  have hl' : (resolveFilters (references graph Rule.filter) { host }).value.filters.lookup reference = some none := by
    rw [← hl]
    exact congrArg (List.lookup reference) (filters_resolveStrategies _ _).symm
  exact List.mem_append_left _ (hfilters reference hl')

end Snapshot

/-! ### Calls -/

namespace MemberQueries
variable {params : SearchParams} {r r' : Resolver} {ws : List Warning}

/-- The filter of a mapping as the resolver remembers it. -/
def knownFilter (r : Resolver) (m : Mapping) : Option Filter :=
  match m.filter with
  | none => some .equality
  | some reference => (r.filters.lookup reference).join

/-- The call for a mapping: none if its property has no value or its filter is unknown. -/
def callOf (params : SearchParams) (r : Resolver) (x : Mapping × Iri) : Option FilterCall :=
  if params.values x.2 = [] then none else (knownFilter r x.1).map (⟨x.1, x.2, ·⟩)

theorem mapped_of_callOf {x : Mapping × Iri} {call : FilterCall} (h : callOf params r x = some call) :
    call.mapped = x := by
  unfold callOf at h
  split at h
  · cases h
  · obtain ⟨f, -, rfl⟩ := Option.map_eq_some_iff.mp h
    rfl

theorem extends_filterOf (r : Resolver) (m : Mapping) : r.Extends (filterOf m r).value.2 := by
  unfold filterOf
  cases m.filter with
  | none => exact .refl r
  | some reference => exact r.extends_filter reference

theorem knownFilter_of_extends {m : Mapping} (h : (filterOf m r).value.2.Extends r') :
    knownFilter r' m = (filterOf m r).value.1 := by
  unfold knownFilter
  unfold filterOf at h ⊢
  cases hm : m.filter with
  | none => rfl
  | some reference =>
    rw [hm] at h
    have hl := h reference _ (r.lookup_filter reference)
    dsimp only
    rw [hl, Option.join_some]

theorem extends_callsOf (params : SearchParams) (xs : List (Mapping × Iri)) (r : Resolver) :
    r.Extends (callsOf params xs r).2 := by
  induction xs generalizing r with
  | nil => exact .refl r
  | cons x xs ih =>
    rw [callsOf]
    split
    · exact ih r
    · exact (extends_filterOf r x.1).trans (ih _)

/-- The calls are those that the resolver behind them remembers filters for. -/
theorem callsOf_eq (params : SearchParams) (xs : List (Mapping × Iri)) (r : Resolver) :
    (callsOf params xs r).1 = xs.filterMap (callOf params (callsOf params xs r).2) := by
  induction xs generalizing r with
  | nil => rfl
  | cons x xs ih =>
    obtain ⟨m, p⟩ := x
    rw [callsOf]
    by_cases hp : params.values p = []
    · have hcall : callOf params (callsOf params xs r).2 (m, p) = none := if_pos hp
      rw [if_pos hp, List.filterMap_cons_none hcall]
      exact ih r
    · rw [if_neg hp]
      -- What the first mapping is resolved to is not forgotten behind the others.
      have hcall : callOf params (callsOf params xs (filterOf m r).value.2).2 (m, p) =
          (filterOf m r).value.1.map (⟨m, p, ·⟩) := by
        unfold callOf
        rw [if_neg hp, knownFilter_of_extends (extends_callsOf params xs _)]
      dsimp only
      rw [List.filterMap_cons, hcall, ← ih]
      cases (filterOf m r).value.1 <;> rfl

/-- The filters that are declared for properties with values are known behind the calls. -/
theorem exists_lookup_callsOf {xs : List (Mapping × Iri)} {x : Mapping × Iri} (hx : x ∈ xs)
    (hvalues : params.values x.2 ≠ []) {reference : Iri} (hfilter : x.1.filter = some reference) :
    ∃ known, (callsOf params xs r).2.filters.lookup reference = some known := by
  induction xs generalizing r with
  | nil => cases hx
  | cons y xs ih =>
    rw [callsOf]
    rcases List.mem_cons.mp hx with rfl | hx
    · have hknown : (filterOf x.1 r).value.2.filters.lookup reference = some (r.filter reference).value.1 := by
        unfold filterOf
        rw [hfilter]
        exact r.lookup_filter reference
      rw [if_neg hvalues]
      exact ⟨_, extends_callsOf params xs _ reference _ hknown⟩
    · split
      · exact ih hx
      · exact ih hx

/-- The only filter that is called for the mapping, none if none is called. -/
def CalledWith (calls : List FilterCall) (x : Mapping × Iri) : Option Filter → Prop
  | some f => ⟨x.1, x.2, f⟩ ∈ calls ∧ ∀ call ∈ calls, call.mapped = x → call.filter = f
  | none => ∀ call ∈ calls, call.mapped ≠ x

theorem calledWith_callsOf {xs : List (Mapping × Iri)} {x : Mapping × Iri} (hx : x ∈ xs)
    (hvalues : params.values x.2 ≠ []) :
    CalledWith (callsOf params xs r).1 x (knownFilter (callsOf params xs r).2 x.1) := by
  have hcall : callOf params (callsOf params xs r).2 x =
      (knownFilter (callsOf params xs r).2 x.1).map (⟨x.1, x.2, ·⟩) := if_neg hvalues
  have hmapped {call : FilterCall} (hc : call ∈ (callsOf params xs r).1) (hm : call.mapped = x) :
      callOf params (callsOf params xs r).2 x = some call := by
    rw [callsOf_eq] at hc
    obtain ⟨y, -, hy⟩ := List.mem_filterMap.mp hc
    obtain rfl : y = x := (mapped_of_callOf hy).symm.trans hm
    exact hy
  cases hf : knownFilter (callsOf params xs r).2 x.1 with
  | none =>
    rw [hf] at hcall
    intro call hc hm
    exact absurd (hcall.symm.trans (hmapped hc hm)) (by simp)
  | some f =>
    rw [hf] at hcall
    refine ⟨?_, fun call hc hm => ?_⟩
    · rw [callsOf_eq]
      exact List.mem_filterMap.mpr ⟨x, hx, hcall⟩
    · have hsame := hcall.symm.trans (hmapped hc hm)
      exact congrArg FilterCall.filter (Option.some.inj hsame).symm

end MemberQueries

namespace Resolving
variable {α β : Type}

/-- What the resolver knows nothing about behind the computation was reported before it or in it. -/
def Reports (x : Resolving α) : Prop :=
  ∀ (ws : List Warning) (r : Resolver), r.Reports ws → (x r).value.2.Reports (ws ++ (x r).warnings)

theorem Reports.bind {x : Resolving α} {f : α → Resolving β} (hx : Reports x) (hf : ∀ a, Reports (f a)) :
    Reports (x >>= f) := fun ws r hr => by
  have hrest := hf (x r).value.1 _ _ (hx ws r hr)
  rwa [List.append_assoc] at hrest

theorem OnlyResolves.reports {x : Resolving α} (hx : OnlyResolves x) : Reports x := by
  induction hx with
  | pure a => exact fun ws _ hr => hr.mono (List.subset_append_left ws _)
  | lift x => exact fun ws _ hr => hr.mono (List.subset_append_left ws _)
  | filter reference => exact fun _ _ hr => Resolver.reports_filter hr reference
  | strategy reference =>
    intro ws r hr other hl
    rw [r.filters_strategy] at hl
    exact List.mem_append_left _ (hr other hl)
  | bind _ _ ihx ihf => exact ihx.bind ihf

end Resolving

/-! ### Reading -/

theorem Mapping.filter_of_mem_read {g : Graph} {node : Term} {m : Mapping} (h : (Mapping.read g node).value = some m) :
    m.filter = (g.object? node Rule.filter).bind g.implementation? := by
  unfold Mapping.read at h
  split at h
  · dsimp only at h
    split at h
    all_goals exact congrArg Mapping.filter (Option.some.inj h).symm
  · cases h

namespace MemberQueries
variable {params : SearchParams} {r : Resolver}

/-- For a mapping with a value the filter is called that its node refers to if that is known, and the default one if
    the node has no readable reference. -/
theorem calledWith_declared {g : Graph} {node : Term} {m : Mapping} (hm : (Mapping.read g node).value = some m)
    {xs : List (Mapping × Iri)} {p : Iri} (hx : (m, p) ∈ xs) (hvalues : params.values p ≠ []) :
    let declared := (g.object? node Rule.filter).bind g.implementation?
    (declared = none → CalledWith (callsOf params xs r).1 (m, p) (some .equality)) ∧
      ∀ reference, declared = some reference → ∃ known,
        (callsOf params xs r).2.filters.lookup reference = some known ∧
        CalledWith (callsOf params xs r).1 (m, p) known := by
  intro declared
  have hfilter : m.filter = declared := Mapping.filter_of_mem_read hm
  have hcalled := calledWith_callsOf (r := r) hx hvalues
  unfold knownFilter at hcalled
  dsimp only at hcalled
  rw [hfilter] at hcalled
  refine ⟨fun hnone => ?_, fun reference hsome => ?_⟩
  · rwa [hnone] at hcalled
  · obtain ⟨known, hl⟩ := exists_lookup_callsOf (r := r) hx hvalues (hfilter.trans hsome)
    rw [hsome] at hcalled
    dsimp only at hcalled
    rw [hl, Option.join_some] at hcalled
    exact ⟨known, hl, hcalled⟩

end MemberQueries

theorem SearchTemplate.mappings_of_mem_read {g : Graph} {node : Term} {t : SearchTemplate}
    (h : (SearchTemplate.read g node).value = some t) :
    t.mappings = (g.objects node Hydra.mapping).filterMap fun n => (Mapping.read g n).value := by
  unfold SearchTemplate.read at h
  split at h
  · simp only [Noted.value_bind, Noted.value_pure, Noted.value_keep] at h
    exact congrArg SearchTemplate.mappings (Option.some.inj h).symm
  · cases h

namespace Collection

theorem exists_read_of_mem_firstSearch {sources : List Source} {t : SearchTemplate}
    (h : (firstSearch sources).value = some t) :
    ∃ s ∈ sources, ∃ node, (SearchTemplate.read s.graph node).value = some t := by
  induction sources with
  | nil => cases h
  | cons s rest ih =>
    have hrest (h : (firstSearch rest).value = some t) :
        ∃ s' ∈ s :: rest, ∃ node, (SearchTemplate.read s'.graph node).value = some t := by
      obtain ⟨s', hs', hread⟩ := ih h
      exact ⟨s', List.mem_cons_of_mem _ hs', hread⟩
    rw [firstSearch] at h
    split at h
    · exact hrest h
    · next node _ =>
      rw [Noted.value_bind] at h
      split at h
      · next t' ht' =>
        obtain rfl := Option.some.inj h
        exact ⟨s, List.mem_cons_self, node, ht'⟩
      · exact hrest h

/-- The search template of a collection is read from its own graph or from the description of the API. -/
theorem exists_read_of_search {iri : Iri} {graph api : Graph} {t : SearchTemplate}
    (h : (read iri graph api).value.search = some t) :
    ∃ g node, (g = graph ∨ g = api) ∧ (SearchTemplate.read g node).value = some t := by
  obtain ⟨s, hs, node, ht⟩ := exists_read_of_mem_firstSearch h
  refine ⟨s.graph, node, ?_, ht⟩
  rcases List.mem_cons.mp hs with rfl | hs
  · exact .inl rfl
  · obtain ⟨c, -, rfl⟩ := List.mem_map.mp hs
    exact .inr rfl

end Collection

/-! ### Describing -/

theorem Graph.strategiesOf_eq_nil_iff {api : Graph} {types : List Iri} : api.strategiesOf types = [] ↔
    ∀ c ∈ types, ∀ node ∈ api.objects (.iri c) Rule.describeStrategy, api.implementation? node = none := by
  rw [List.eq_nil_iff_forall_not_mem]
  simp only [strategiesOf, List.mem_eraseDups, List.mem_flatMap, List.mem_filterMap]
  constructor
  · intro h c hc node hnode
    exact Option.eq_none_iff_forall_ne_some.mpr fun i hi => h i ⟨c, hc, node, hnode, hi⟩
  · rintro h i ⟨c, hc, node, hnode, hi⟩
    rw [h c hc node hnode] at hi
    cases hi

namespace Snapshot
open Rendering Conversation
variable {endpoint : List Query → Query → Reply} {sent : List Query} {r : Resolver} {options : Options} {resource : Iri}
  {references : List Iri} {reference : Iri} {includes : List IncludeRule}

theorem after_describing_nil :
    after endpoint sent r (describing options resource [] includes) =
      after endpoint sent r (conversing ((DescribeStrategy.following options.member includes).describe [resource])) := by
  unfold describing
  rw [after_bind_ok (after_resolving _)]
  exact after_bind_ok (after_outcome _)

theorem after_describing_known {s : DescribeStrategy} (h : (r.strategy reference).value.1 = some s) :
    after endpoint sent r (describing options resource [reference] includes) =
      after endpoint sent (r.strategy reference).value.2 (conversing (s.describe [resource])) := by
  unfold describing
  rw [after_bind_ok (after_resolving _), Resolver.value_onlyStrategy_singleton, h]
  exact after_bind_ok (after_outcome _)

theorem after_describing_unknown (h : (r.strategy reference).value.1 = none) :
    after endpoint sent r (describing options resource [reference] includes) =
      ⟨.error (.unresolvedStrategy (.iri resource) reference), (r.strategy reference).value.2, sent⟩ := by
  unfold describing
  rw [after_bind_ok (after_resolving _), Resolver.value_onlyStrategy_singleton, h]
  exact after_bind_error (after_outcome _)

theorem after_describing_ambiguous (h : 2 ≤ references.length) :
    after endpoint sent r (describing options resource references includes) =
      ⟨.error (.ambiguousStrategy (.iri resource) references.length), r, sent⟩ := by
  unfold describing
  rw [after_bind_ok (after_resolving _), Resolver.value_onlyStrategy_of_two_le h]
  exact after_bind_error (after_outcome _)

/-- What describing a resource comes to. -/
theorem hold_describeResource (s : Snapshot) (options : Options) (resource : Iri) (types : List Iri)
    (endpoint : List Query → Query → Reply) :
    let record := hold endpoint (s.describeResource options resource types)
    let result := after endpoint [] s.resolver
      (describing options resource (s.graph.strategiesOf types) (s.graph.includesOf types))
    record.outcome.1 = result.outcome ∧ record.queries = result.queries := by
  obtain ⟨houtcome, hqueries⟩ := holdAfter_run s
    (describing options resource (s.graph.strategiesOf types) (s.graph.includesOf types)) endpoint []
  exact ⟨congrArg Prod.fst houtcome, hqueries⟩

/-- For every mapping that is searched with, the filter is called that its node refers to, or none is if nothing is
    known about the reference, which is reported; the default filter is called if the node has no readable reference. A
    resource is described by the only strategy to which its classes refer, and an error says if that is unknown or not
    the only one; the includes are followed if the classes have no readable reference. -/
theorem declared_extensions_apply (s : Snapshot) {ws : List Warning} (hr : s.resolver.Reports ws) (options : Options) :
    (∀ iri graph params,
      let c := (Collection.read iri graph s.graph).value
      let filtered := MemberQueries.filterPatterns c params options.member s.resolver
      filtered.value.2.Reports (ws ++ filtered.warnings) ∧
      ∀ t, c.search = some t →
        (∃ g node, (g = graph ∨ g = s.graph) ∧
          t.mappings = (g.objects node Hydra.mapping).filterMap fun n => (Mapping.read g n).value) ∧
        ∃ calls, filtered.value.1 = (calls.zipIdx 1).filterMap (fun x => x.1.pattern? params options.member x.2) ∧
          (calls.map MemberQueries.FilterCall.mapped).Sublist t.filters ∧
          ∀ g n m p, (Mapping.read g n).value = some m → (m, p) ∈ t.filters → params.values p ≠ [] →
            let declared := (g.object? n Rule.filter).bind g.implementation?
            (declared = none → MemberQueries.CalledWith calls (m, p) (some .equality)) ∧
            ∀ reference, declared = some reference → ∃ known,
              filtered.value.2.filters.lookup reference = some known ∧ MemberQueries.CalledWith calls (m, p) known ∧
              (known = none → .filterUnresolved reference ∈ ws ++ filtered.warnings)) ∧
    ∀ resource types endpoint,
      let record := hold endpoint (s.describeResource options resource types)
      let references := s.graph.strategiesOf types
      let following := DescribeStrategy.following options.member (s.graph.includesOf types)
      (references = [] ↔ ∀ c ∈ types, ∀ node ∈ s.graph.objects (.iri c) Rule.describeStrategy,
        s.graph.implementation? node = none) ∧
      (references = [] → record.outcome.1 = (hold endpoint (following.describe [resource])).outcome ∧
        record.queries = (hold endpoint (following.describe [resource])).queries) ∧
      (∀ reference, references = [reference] →
        match (s.resolver.strategy reference).value.1 with
        | some strategy => record.outcome.1 = (hold endpoint (strategy.describe [resource])).outcome ∧
          record.queries = (hold endpoint (strategy.describe [resource])).queries
        | none => record.outcome.1 = .error (.unresolvedStrategy (.iri resource) reference) ∧ record.queries = []) ∧
      (2 ≤ references.length →
        record.outcome.1 = .error (.ambiguousStrategy (.iri resource) references.length) ∧ record.queries = []) := by
  refine ⟨fun iri graph params => ?_, fun resource types endpoint => ?_⟩
  · intro c filtered
    have hreports : filtered.value.2.Reports (ws ++ filtered.warnings) :=
      (Resolving.onlyResolves_filterPatterns c params options.member).reports ws s.resolver hr
    refine ⟨hreports, fun t ht => ?_⟩
    obtain ⟨g, node, hg, hread⟩ := Collection.exists_read_of_search ht
    have hfiltered := MemberQueries.value_filterPatterns_eq ht params options.member s.resolver
    refine ⟨⟨g, node, hg, SearchTemplate.mappings_of_mem_read hread⟩, _, congrArg Prod.fst hfiltered,
      MemberQueries.sublist_callsOf _ _, ?_⟩
    intro g n m p hm hx hvalues declared
    obtain ⟨hdefault, hdeclared⟩ := MemberQueries.calledWith_declared (r := s.resolver) hm hx hvalues
    refine ⟨hdefault, fun reference hsome => ?_⟩
    obtain ⟨known, hl, hcalled⟩ := hdeclared reference hsome
    have hlookup : filtered.value.2.filters.lookup reference = some known := by
      rw [← hl]
      exact congrArg (fun x => x.2.filters.lookup reference) hfiltered
    refine ⟨known, hlookup, hcalled, ?_⟩
    rintro rfl
    exact hreports reference hlookup
  · intro record references following
    obtain ⟨houtcome, hqueries⟩ := hold_describeResource s options resource types endpoint
    refine ⟨Graph.strategiesOf_eq_nil_iff, fun h => ?_, fun reference h => ?_, fun h => ?_⟩
    · rw [houtcome, hqueries, show s.graph.strategiesOf types = [] from h, after_describing_nil, after_conversing]
      exact ⟨rfl, rfl⟩
    · have hone : s.graph.strategiesOf types = [reference] := h
      cases hs : (s.resolver.strategy reference).value.1 with
      | some strategy =>
        rw [houtcome, hqueries, hone, after_describing_known hs, after_conversing]
        exact ⟨rfl, rfl⟩
      | none =>
        rw [houtcome, hqueries, hone, after_describing_unknown hs]
        exact ⟨rfl, rfl⟩
    · rw [houtcome, hqueries, after_describing_ambiguous h]
      exact ⟨rfl, rfl⟩

/-! ### Books -/

open Library

/-- Books, which are searched by author with a filter. -/
def bookSearch (filter : Term) : Graph :=
  .ofList (holdsBooks books ++ searchedBy books "http://example.org/books{?author}" "author" author ++
    [⟨.blank "mapping", Rule.filter, filter⟩])

/-- A snapshot of an API that declares a strategy for describing books, of a host that knows nothing. -/
def ofStrategy (strategy : Term) : Noted Snapshot :=
  load (.ofList [⟨.iri bookClass, Rule.describeStrategy, strategy⟩]) (.ofRegistry [] [])

theorem books_declared_extensions_apply :
    let loaded := ofStrategy (.iri bookStrategy)
    let s := loaded.value
    let c := (Collection.read books (bookSearch (.iri bookFilter)) s.graph).value
    let params := c.searchParams "author=ann"
    let filtered := MemberQueries.filterPatterns c params ⟨"member"⟩ s.resolver
    s.resolver.Reports loaded.warnings ∧
    (∃ calls : List MemberQueries.FilterCall,
      filtered.value.1 = (calls.zipIdx 1).filterMap (fun x => x.1.pattern? params ⟨"member"⟩ x.2) ∧
      (∀ call ∈ calls, call.mapped ≠ (authorMapping (some bookFilter), author)) ∧
      .filterUnresolved bookFilter ∈ loaded.warnings ++ filtered.warnings) ∧
    (hold silent (s.describeResource {} firstBook [bookClass])).outcome.1 =
      .error (.unresolvedStrategy (.iri firstBook) bookStrategy) := by
  intro loaded s c params filtered
  have hr : s.resolver.Reports loaded.warnings := reports_load _ _
  obtain ⟨hfilters, hstrategies⟩ := declared_extensions_apply s hr {}
  refine ⟨hr, ?_, ?_⟩
  · have hsearch : c.search =
        some ⟨"http://example.org/books{?author}", .basic, [authorMapping (some bookFilter)]⟩ := by decide +kernel
    obtain ⟨-, calls, hpatterns, -, hcalls⟩ := (hfilters books (bookSearch (.iri bookFilter)) params).2 _ hsearch
    have hread : (Mapping.read (bookSearch (.iri bookFilter)) (.blank "mapping")).value =
        some (authorMapping (some bookFilter)) := by decide +kernel
    have hvalues : params.values author ≠ [] := by decide +kernel
    obtain ⟨known, hlookup, hcalled, hreported⟩ :=
      (hcalls _ _ _ _ hread (by decide) hvalues).2 bookFilter (by decide +kernel)
    have hunknown : (filtered.value.2.filters.lookup bookFilter).any Option.isNone = true := by decide +kernel
    obtain rfl : known = none := by
      rw [hlookup] at hunknown
      exact Option.isNone_iff_eq_none.mp hunknown
    exact ⟨calls, hpatterns, hcalled, hreported rfl⟩
  · have hreferences : s.graph.strategiesOf [bookClass] = [bookStrategy] := by decide +kernel
    have hunknown : (s.resolver.strategy bookStrategy).value.1.isNone = true := by decide +kernel
    have hone := (hstrategies firstBook [bookClass] silent).2.2.1 bookStrategy hreferences
    rw [Option.isNone_iff_eq_none.mp hunknown] at hone
    exact hone.1

theorem unreadable_declarations_count_as_none :
    let member : Variable := ⟨"member"⟩
    let s := (ofStrategy (.literal (.plain "strategy"))).value
    let c := (Collection.read books (bookSearch (.blank "f")) s.graph).value
    let filtered := MemberQueries.filterPatterns c (c.searchParams "author=ann") member s.resolver
    (bookSearch (.blank "f")).objects (.blank "mapping") Rule.filter ≠ [] ∧
    filtered.value.1 = [.triple (.var member) (.iri author) (.term (.literal (.plain "ann")))] ∧
    filtered.warnings = [] ∧
    s.graph.objects (.iri bookClass) Rule.describeStrategy ≠ [] ∧
    (hold silent (s.describeResource {} firstBook [bookClass])).queries =
      [.describe { projection := [member], pattern := .values member [firstBook] }] := by
  decide +kernel

end Snapshot
end CollectionQuery
