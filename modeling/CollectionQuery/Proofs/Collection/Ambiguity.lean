import CollectionQuery.Proofs.Collection.Extensions
import CollectionQuery.Proofs.Collection.PageGraph

/-! When strategies are ambiguous. The classes of a resource may refer to one strategy several times, which is as good
    as once. For the members of a collection every reference counts, so that a repeated one is ambiguous too. -/

namespace CollectionQuery

/-! ### Repeated references -/

section Lists
variable {α : Type} [DecidableEq α] {as : List α}

/-- Two of the items differ. -/
def Differ (as : List α) : Prop := ∃ a ∈ as, ∃ b ∈ as, a ≠ b

theorem two_le_length_iff : 2 ≤ as.length ↔ ¬as.Nodup ∨ Differ as := by
  rcases as with _ | ⟨a, _ | ⟨b, as⟩⟩
  · simp [Differ]
  · simp [Differ]
  · refine iff_of_true (by simp) ?_
    by_cases h : a = b
    · subst h
      exact .inl (by simp)
    · exact .inr ⟨a, by simp, b, by simp, h⟩

theorem two_le_length_eraseDups_iff : 2 ≤ as.eraseDups.length ↔ Differ as := by
  simp only [two_le_length_iff, Differ, List.mem_eraseDups, nodup_eraseDups, not_true_eq_false, false_or]

end Lists

/-- The implementations that sources refer to by a predicate, as often as they do. -/
def Source.references (sources : List Source) (p : Iri) : List Iri :=
  sources.flatMap fun s => (s.objects p).filterMap s.graph.implementation?

/-- A triple of the predicate refers to the implementation. -/
def Graph.RefersTo (g : Graph) (p reference : Iri) : Prop :=
  ∃ t ∈ g.toList, t.predicate = p ∧ g.implementation? t.object = some reference

theorem Graph.refersTo_of_mem_objects {g : Graph} {p reference : Iri} {node o : Term} (ho : o ∈ g.objects node p)
    (h : g.implementation? o = some reference) : g.RefersTo p reference :=
  ⟨_, mem_objects.mp ho, rfl, h⟩

theorem Source.exists_refersTo_of_mem_references {sources : List Source} {p reference : Iri}
    (h : reference ∈ references sources p) : ∃ s ∈ sources, s.graph.RefersTo p reference := by
  obtain ⟨s, hs, h⟩ := List.mem_flatMap.mp h
  obtain ⟨o, ho, h⟩ := List.mem_filterMap.mp h
  exact ⟨s, hs, Graph.refersTo_of_mem_objects ho h⟩

theorem Collection.strategies_read (iri : Iri) (graph api : Graph) :
    (Collection.read iri graph api).value.strategies = Source.references
      (⟨graph, .iri iri⟩ :: Source.ofClasses api (Collection.classesOf iri graph api)) Rule.memberDescribeStrategy := rfl

/-- The strategies for members are named by the graph of the collection or by the API. -/
theorem Collection.refersTo_of_mem_strategies {iri reference : Iri} {graph api : Graph}
    (h : reference ∈ (Collection.read iri graph api).value.strategies) :
    graph.RefersTo Rule.memberDescribeStrategy reference ∨ api.RefersTo Rule.memberDescribeStrategy reference := by
  rw [strategies_read] at h
  obtain ⟨s, hs, hrefers⟩ := Source.exists_refersTo_of_mem_references h
  rcases List.mem_cons.mp hs with rfl | hs
  · exact .inl hrefers
  · obtain ⟨c, -, rfl⟩ := List.mem_map.mp hs
    exact .inr hrefers

theorem Graph.strategiesOf_eq (api : Graph) (types : List Iri) :
    api.strategiesOf types = (Source.references (Source.ofClasses api types) Rule.describeStrategy).eraseDups := by
  rw [Source.references, Source.ofClasses, List.flatMap_map]
  rfl

/-! ### Errors -/

open Rendering Conversation

/-- There is a single reference, and the strategy that the resolver finds for it ends with the error when it describes
    some resources. -/
def Resolver.StrategyFails (r : Resolver) (references : List Iri) (endpoint : List Query → Query → Reply)
    (sent : List Query) (resources : List Iri) (e : CollectionError) : Prop :=
  ∃ reference strategy, references = [reference] ∧ (r.strategy reference).value.1 = some strategy ∧
    (holdAfter endpoint sent (strategy.describe resources)).outcome = .error e

namespace Collection
variable {c : Collection} {params : SearchParams} {options : Options} {r : Resolver}
  {endpoint : List Query → Query → Reply} {e : CollectionError}

theorem reason_of_concludes {outcome : Except CollectionError Page} (h : outcome = .error e) {members : List Iri}
    {total : Nat} {reason : Option CollectionError} (hc : Concludes outcome members total reason) : reason = some e := by
  cases reason with
  | none =>
    obtain ⟨page, hpage, -⟩ := hc
    cases h.symm.trans hpage
  | some e' =>
    cases h.symm.trans hc
    rfl

theorem failure?_eq_some {α : Type} {outcome : Except CollectionError α} (h : failure? outcome = some e) :
    outcome = .error e := by
  cases outcome with
  | ok a => cases h
  | error e' =>
    cases h
    rfl

/-- A rendering fails with an error of the endpoint, with the error of the only strategy for its members, or because
    there are several references. -/
theorem render_error_cases (h : (after endpoint [] r (c.render params options)).outcome = .error e) :
    (∃ failure, e = .endpoint failure) ∨ ∃ members total r' sent,
      after endpoint [] r (c.select params options) = ⟨.ok (members, total), r', sent⟩ ∧ members ≠ [] ∧
      (r'.StrategyFails c.strategies endpoint sent members e ∨
        2 ≤ c.strategies.length ∧ e = .ambiguousStrategy (.iri c.iri) c.strategies.length) := by
  obtain ⟨selects, r', -, hselected⟩ := after_select c params options r endpoint
  rcases hselected with ⟨sent, failure, -, hfails⟩ | ⟨-, members, total, -, hfound⟩
  · rw [after_render_of_select_error hfails] at h
    cases h
    exact .inl ⟨failure, rfl⟩
  by_cases hm : members = []
  · cases reason_of_concludes h (after_render_of_nil hfound hm).2
  have hlacks (hs : c.LacksStrategy r') : ∃ failure, e = .endpoint failure := by
    have hreason := reason_of_concludes h (after_render_of_lacksStrategy hfound hm hs).2
    obtain ⟨failure, -, rfl⟩ := Option.map_eq_some_iff.mp hreason
    exact ⟨failure, rfl⟩
  rcases hs : c.strategies with _ | ⟨reference, _ | ⟨second, rest⟩⟩
  · exact .inl (hlacks (.inl hs))
  · cases hknown : (r'.strategy reference).value.1 with
    | none => exact .inl (hlacks (.inr ⟨reference, hs, hknown⟩))
    | some strategy =>
      have hreason := reason_of_concludes h (after_render_of_strategy hfound hm hs hknown).2
      have hfails : r'.StrategyFails [reference] endpoint selects members e :=
        ⟨reference, strategy, rfl, hknown, failure?_eq_some hreason⟩
      exact .inr ⟨members, total, r', selects, hfound, hm, .inl hfails⟩
  · have htwo : 2 ≤ c.strategies.length := by simp [hs]
    cases h.symm.trans (after_render_of_ambiguous hfound hm htwo).2
    exact .inr ⟨members, total, r', selects, hfound, hm, .inr ⟨hs ▸ htwo, by rw [hs]⟩⟩

end Collection

namespace Snapshot
variable {endpoint : List Query → Query → Reply} {sent : List Query} {r : Resolver} {options : Options} {resource : Iri}
  {references : List Iri} {includes : List IncludeRule} {e : CollectionError}

theorem describing_error_cases
    (h : (after endpoint sent r (describing options resource references includes)).outcome = .error e) :
    (∃ failure, e = .endpoint failure) ∨ r.StrategyFails references endpoint sent [resource] e ∨
      (2 ≤ references.length ∧ e = .ambiguousStrategy (.iri resource) references.length) ∨
      ∃ reference, references = [reference] ∧ e = .unresolvedStrategy (.iri resource) reference := by
  rcases references with _ | ⟨reference, _ | ⟨second, rest⟩⟩
  · rw [after_describing_nil] at h
    rcases Collection.after_following (List.cons_ne_nil resource []) options.member includes endpoint sent r with
      ⟨failure, -, hfails⟩ | ⟨-, ts, hloads⟩
    · rw [hfails] at h
      cases h
      exact .inl ⟨failure, rfl⟩
    · rw [hloads] at h
      cases h
  · cases hknown : (r.strategy reference).value.1 with
    | none =>
      rw [after_describing_unknown hknown] at h
      cases h
      exact .inr (.inr (.inr ⟨reference, rfl, rfl⟩))
    | some strategy =>
      rw [after_describing_known hknown, after_conversing] at h
      exact .inr (.inl ⟨reference, strategy, rfl, hknown, h⟩)
  · have htwo : 2 ≤ (reference :: second :: rest).length := by simp
    rw [after_describing_ambiguous htwo] at h
    cases h
    exact .inr (.inr (.inl ⟨htwo, rfl⟩))

/-! ### Ambiguity -/

/-- References of classes are ambiguous if two of them differ; repeated ones come to what a single one comes to. For
    members every repetition counts: with members to describe, several references are ambiguous, equal or not. Nothing
    else is ambiguous, unless the only strategy itself says so. -/
theorem ambiguous_strategies (s : Snapshot) (options : Options) (endpoint : List Query → Query → Reply) :
    (∀ resource types,
      let record := hold endpoint (s.describeResource options resource types)
      let references := Source.references (Source.ofClasses s.graph types) Rule.describeStrategy
      (Differ references →
        record.outcome.1 = .error (.ambiguousStrategy (.iri resource) references.eraseDups.length)) ∧
      (∀ reference ∈ references, ¬Differ references →
        let once := after endpoint [] s.resolver (describing options resource [reference] (s.graph.includesOf types))
        record.outcome.1 = once.outcome ∧ record.queries = once.queries) ∧
      ∀ node n, record.outcome.1 = .error (.ambiguousStrategy node n) →
        Differ references ∨
          s.resolver.StrategyFails references.eraseDups endpoint [] [resource] (.ambiguousStrategy node n)) ∧
    ∀ iri graph query,
      let c := (Collection.read iri graph s.graph).value
      let outcome := (hold endpoint (s.render options iri graph query)).outcome.1
      let references := Source.references
        (⟨graph, .iri iri⟩ :: Source.ofClasses s.graph (Collection.classesOf iri graph s.graph))
        Rule.memberDescribeStrategy
      let selected := after endpoint [] s.resolver (c.select (c.searchParams query) options)
      (∀ members total r' sent, selected = ⟨.ok (members, total), r', sent⟩ → members ≠ [] →
        ¬references.Nodup ∨ Differ references →
        outcome = .error (.ambiguousStrategy (.iri iri) references.length)) ∧
      ∀ node n, outcome = .error (.ambiguousStrategy node n) → ∃ members total r' sent,
        selected = ⟨.ok (members, total), r', sent⟩ ∧ members ≠ [] ∧
        ((¬references.Nodup ∨ Differ references) ∨
          r'.StrategyFails references endpoint sent members (.ambiguousStrategy node n)) := by
  refine ⟨fun resource types => ?_, fun iri graph query => ?_⟩
  · intro record references
    obtain ⟨houtcome, hqueries⟩ := hold_describeResource s options resource types endpoint
    rw [Graph.strategiesOf_eq] at houtcome hqueries
    refine ⟨fun hdiffer => ?_, fun reference hmem hsame => ?_, fun node n herror => ?_⟩
    · rw [houtcome, after_describing_ambiguous (two_le_length_eraseDups_iff.mpr hdiffer)]
    · have hone : references.eraseDups = [reference] := by
        refine eraseDups_eq_singleton_iff.mpr ⟨hmem, fun other hother => ?_⟩
        by_contra hne
        exact hsame ⟨other, hother, reference, hmem, hne⟩
      rw [houtcome, hqueries, hone]
      exact ⟨rfl, rfl⟩
    · rcases describing_error_cases (houtcome.symm.trans herror) with ⟨_, he⟩ | hfails | ⟨htwo, -⟩ | ⟨_, -, he⟩
      · cases he
      · exact .inr hfails
      · exact .inl (two_le_length_eraseDups_iff.mp htwo)
      · cases he
  · intro c outcome references selected
    have hafter : outcome = (after endpoint [] s.resolver (c.render (c.searchParams query) options)).outcome :=
      outcome_hold_render s options iri graph query endpoint
    refine ⟨fun members total r' sent hselect hm hseveral => ?_, fun node n herror => ?_⟩
    · rw [hafter]
      exact (Collection.after_render_of_ambiguous hselect hm (two_le_length_iff.mpr hseveral)).2
    · rcases Collection.render_error_cases (hafter.symm.trans herror) with
        ⟨_, he⟩ | ⟨members, total, r', sent, hselect, hm, hfails | ⟨htwo, -⟩⟩
      · cases he
      · exact ⟨members, total, r', sent, hselect, hm, .inr hfails⟩
      · exact ⟨members, total, r', sent, hselect, hm, .inl (two_le_length_iff.mp htwo)⟩

open Library

/-- A shelf with a book and a strategy for describing it. -/
def labelledShelf : Graph := .ofList [
  ⟨.iri shelf, Hydra.member, .iri firstBook⟩, ⟨.iri shelf, Rdf.type, .iri shelfClass⟩,
  ⟨.iri shelf, Rule.memberDescribeStrategy, .iri bookStrategy⟩]

/-- A snapshot of an API in which the class of shelves refers to strategies, of a host that knows nothing. -/
def shelves (strategies : List Iri) : Snapshot :=
  (load (.ofList (strategies.map fun i => ⟨.iri shelfClass, Rule.memberDescribeStrategy, .iri i⟩))
    (.ofRegistry [] [])).value

/-- The book is shown if the shelf alone refers to the strategy, but not if its class refers to the same one. -/
theorem repeated_reference_is_ambiguous :
    let references (s : Snapshot) := (Collection.read shelf labelledShelf s.graph).value.strategies
    let outcome (s : Snapshot) := (hold silent (s.render {} shelf labelledShelf "")).outcome.1
    references (shelves [bookStrategy]) = [bookStrategy, bookStrategy] ∧
      ¬Differ (references (shelves [bookStrategy])) ∧
      outcome (shelves [bookStrategy]) = .error (.ambiguousStrategy (.iri shelf) 2) ∧
      ∃ page, outcome (shelves []) = .ok page ∧ page.members = [firstBook] := by
  intro references outcome
  have htwice : references (shelves [bookStrategy]) = [bookStrategy, bookStrategy] := by decide +kernel
  have hfails : Collection.failure? (outcome (shelves [bookStrategy])) =
      some (.ambiguousStrategy (.iri shelf) 2) := by decide +kernel
  have hshown : (outcome (shelves [])).toOption.map Page.members = some [firstBook] := by decide +kernel
  refine ⟨htwice, ?_, Collection.failure?_eq_some hfails, exists_ok_of_map_toOption hshown⟩
  rw [htwice]
  rintro ⟨i, hi, j, hj, hne⟩
  simp only [List.mem_cons, List.not_mem_nil, or_false, or_self] at hi hj
  exact hne (hi.trans hj.symm)

end Snapshot
end CollectionQuery
