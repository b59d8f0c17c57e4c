import CollectionQuery.Proofs.Collection.Ambiguity
import CollectionQuery.Proofs.Collection.History
import CollectionQuery.Proofs.Collection.LookupHistory

/-! What is resolved when a snapshot is loaded. Loading goes through the triples of the API by their predicates, while
    later look-ups are of references that were read from nodes: those of search templates and their mappings, of
    collections, and of classes. Each node that is read in the API stands in one of those triples, so nothing that the
    API refers to is asked for again; only the graph of a collection itself may lead to new questions. -/

namespace CollectionQuery

/-! ### Computations as look-ups -/

namespace Resolver
variable {r : Resolver} {q : Lookup} {qs : List Lookup}

theorem resolver_findAll_cons (q : Lookup) (qs : List Lookup) (r : Resolver) :
    (findAll (q :: qs) r).value.2 = (findAll qs (find q r).value.2).value.2 := by
  unfold findAll
  rw [List.mapM_cons]
  rfl

theorem resolver_findAll_append (qs later : List Lookup) (r : Resolver) :
    (findAll (qs ++ later) r).value.2 = (findAll later (findAll qs r).value.2).value.2 := by
  unfold findAll
  rw [List.mapM_append]
  rfl

/-- Look-ups of what is remembered change nothing. -/
theorem resolver_findAll_of_known (h : ∀ q ∈ qs, (r.known? q).isSome) : (findAll qs r).value.2 = r := by
  induction qs with
  | nil => rfl
  | cons q qs ih =>
    obtain ⟨hq, hqs⟩ := List.forall_mem_cons.mp h
    obtain ⟨found, hfound⟩ := Option.isSome_iff_exists.mp hq
    rw [resolver_findAll_cons, find_of_known hfound]
    exact ih hqs

end Resolver

section LooksUp
variable {α : Type} {P : Lookup → Prop}
open Resolver

theorem Resolving.LooksUp.exists_findAll {x : Resolving α} (hx : LooksUp P x) (r : Resolver) :
    ∃ qs, (∀ q ∈ qs, P q) ∧ (x r).value.2 = (findAll qs r).value.2 := by
  induction hx generalizing r with
  | pure a => exact ⟨[], by simp, rfl⟩
  | lift x => exact ⟨[], by simp, rfl⟩
  | @filter reference h =>
    refine ⟨[⟨.filter, reference⟩], by simpa using h, ?_⟩
    rw [resolver_findAll_cons]
    rfl
  | @strategy reference h =>
    refine ⟨[⟨.describeStrategy, reference⟩], by simpa using h, ?_⟩
    rw [resolver_findAll_cons]
    rfl
  | @bind _ _ x f _ _ ihx ihf =>
    obtain ⟨qs, hqs, hx⟩ := ihx r
    obtain ⟨later, hlater, hf⟩ := ihf (x r).value.1 (x r).value.2
    refine ⟨qs ++ later, fun q hq => (List.mem_append.mp hq).elim (hqs q) (hlater q), ?_⟩
    rw [value_bind, hf, hx, resolver_findAll_append]

theorem Rendering.LooksUp.exists_findAll {x : Rendering α} (hx : LooksUp P x) (endpoint : List Query → Query → Reply)
    (sent : List Query) (r : Resolver) :
    ∃ qs, (∀ q ∈ qs, P q) ∧ (after endpoint sent r x).resolver = (findAll qs r).value.2 := by
  induction hx generalizing sent r with
  | pure a => exact ⟨[], by simp, rfl⟩
  | resolving hx =>
    rw [after_resolving]
    exact hx.exists_findAll r
  | noted x =>
    rw [after_noted]
    exact ⟨[], by simp, rfl⟩
  | conversing x =>
    rw [after_conversing]
    exact ⟨[], by simp, rfl⟩
  | outcome x => exact ⟨[], by simp, rfl⟩
  | @bind _ _ x f _ _ ihx ihf =>
    obtain ⟨qs, hqs, hx⟩ := ihx sent r
    rw [after_bind]
    generalize after endpoint sent r x = result at hx ⊢
    obtain ⟨outcome, r', sent'⟩ := result
    -- Behind an error nothing more is looked up.
    cases outcome with
    | error e => exact ⟨qs, hqs, hx⟩
    | ok a =>
      obtain ⟨later, hlater, hf⟩ := ihf a sent' r'
      refine ⟨qs ++ later, fun q hq => (List.mem_append.mp hq).elim (hqs q) (hlater q), ?_⟩
      rw [resolver_findAll_append, ← hx]
      exact hf

end LooksUp

/-! ### References -/

namespace Graph

/-- The graph declares a filter or a strategy for which the look-up asks. -/
def Declares (g : Graph) (q : Lookup) : Prop :=
  match q.kind with
  | .filter => g.RefersTo Rule.filter q.reference
  | .describeStrategy => g.RefersTo Rule.describeStrategy q.reference ∨ g.RefersTo Rule.memberDescribeStrategy q.reference

/-- The graph declares a filter, or a strategy for members, for which the look-up asks. -/
def DeclaresForMembers (g : Graph) (q : Lookup) : Prop :=
  match q.kind with
  | .filter => g.RefersTo Rule.filter q.reference
  | .describeStrategy => g.RefersTo Rule.memberDescribeStrategy q.reference

variable {g : Graph} {q : Lookup}

theorem not_declaresForMembers
    (h : ∀ t ∈ g.toList, t.predicate ≠ Rule.filter ∧ t.predicate ≠ Rule.memberDescribeStrategy) :
    ¬g.DeclaresForMembers q := by
  obtain ⟨kind, reference⟩ := q
  cases kind with
  | filter => exact fun ⟨t, ht, hp, _⟩ => (h t ht).1 hp
  | describeStrategy => exact fun ⟨t, ht, hp, _⟩ => (h t ht).2 hp

end Graph

/-- The filter of a mapping stands in a triple of the graph that the mapping is read from. -/
theorem SearchTemplate.refersTo_of_mem_read {g : Graph} {node : Term} {t : SearchTemplate}
    (ht : (read g node).value = some t) {x : Mapping × Iri} (hx : x ∈ t.filters) {reference : Iri}
    (h : x.1.filter = some reference) : g.RefersTo Rule.filter reference := by
  have hm : x.1 ∈ t.mappings := (MemberQueries.mem_filters hx).1
  rw [mappings_of_mem_read ht] at hm
  obtain ⟨n, -, hm⟩ := List.mem_filterMap.mp hm
  rw [Mapping.filter_of_mem_read hm] at h
  obtain ⟨o, ho, h⟩ := Option.bind_eq_some_iff.mp h
  exact Graph.refersTo_of_mem_objects (List.mem_of_mem_head? ho) h

/-- A collection refers to nothing but what the API declares, or what its own graph declares for members. -/
theorem Collection.refersOnly_read (iri : Iri) (own api : Graph) :
    (read iri own api).value.RefersOnly fun q => api.Declares q ∨ own.DeclaresForMembers q where
  filters t ht x hx reference h := by
    obtain ⟨g, node, hg, hread⟩ := exists_read_of_search ht
    have hrefers := SearchTemplate.refersTo_of_mem_read hread hx h
    rcases hg with rfl | rfl
    · exact .inr hrefers
    · exact .inl hrefers
  strategies reference h := by
    rcases refersTo_of_mem_strategies h with hrefers | hrefers
    · exact .inr hrefers
    · exact .inl (.inr hrefers)

theorem Graph.declares_of_mem_strategiesOf {api : Graph} {types : List Iri} {reference : Iri}
    (h : reference ∈ api.strategiesOf types) : api.Declares ⟨.describeStrategy, reference⟩ := by
  rw [strategiesOf_eq, List.mem_eraseDups] at h
  obtain ⟨s, hs, hrefers⟩ := Source.exists_refersTo_of_mem_references h
  obtain ⟨c, -, rfl⟩ := List.mem_map.mp hs
  exact .inl hrefers

/-! ### Loading -/

namespace Snapshot
open Resolver

/-- The look-ups of all references of an API, in the order in which they are made. -/
def declared (api : Graph) : List Lookup :=
  (references api Rule.filter).map (⟨.filter, ·⟩) ++
    (references api Rule.describeStrategy ++ references api Rule.memberDescribeStrategy).map (⟨.describeStrategy, ·⟩)

theorem mem_references {g : Graph} {p reference : Iri} : reference ∈ references g p ↔ g.RefersTo p reference := by
  unfold references Graph.RefersTo
  simp only [List.mem_filterMap, Graph.ofPredicate_eq, List.mem_filter, decide_eq_true_eq, and_assoc]

theorem mem_declared {api : Graph} {q : Lookup} : q ∈ declared api ↔ api.Declares q := by
  obtain ⟨kind, reference⟩ := q
  cases kind <;> simp [declared, Graph.Declares, mem_references]

theorem resolveFilters_eq (references : List Iri) (r : Resolver) :
    (resolveFilters references r).value = (findAll (references.map (⟨.filter, ·⟩)) r).value.2 := by
  induction references generalizing r with
  | nil => rfl
  | cons reference references ih =>
    rw [List.map_cons, resolver_findAll_cons]
    exact ih _

theorem resolveStrategies_eq (references : List Iri) (r : Resolver) :
    (resolveStrategies references r).value = (findAll (references.map (⟨.describeStrategy, ·⟩)) r).value.2 := by
  induction references generalizing r with
  | nil => rfl
  | cons reference references ih =>
    rw [List.map_cons, resolver_findAll_cons]
    exact ih _

theorem resolver_load (api : Graph) (h : Host) :
    (load api h).value.resolver = (findAll (declared api) { host := h }).value.2 := by
  rw [declared, resolver_findAll_append, ← resolveFilters_eq, ← resolveStrategies_eq]
  rfl

end Snapshot

/-! ### Uses of a snapshot -/

/-- What is done with a snapshot: the queries of a collection are compiled, a page is rendered for parameters that were
    read before, or a request is answered. -/
inductive Use where
  | compile (options : Options) (iri : Iri) (own : Graph) (params : SearchParams)
  | page (options : Options) (endpoint : List Query → Query → Reply) (iri : Iri) (own : Graph) (params : SearchParams)
  | answer (options : Options) (endpoint : List Query → Query → Reply) (request : Request)

/-- The graph of the collection that is used, if there is one. -/
def Use.own? : Use → Option Graph
  | compile _ _ own _ | page _ _ _ own _ | answer _ _ (.render _ own _) => some own
  | answer _ _ (.describe _ _) => none

namespace Snapshot
open Resolver Rendering Conversation

/-- The snapshot behind a use. -/
def behind (s : Snapshot) : Use → Snapshot
  | .compile options iri own params =>
    let c := (Collection.read iri own s.graph).value
    { s with resolver := (MemberQueries.assemble c params options s.resolver).value.2 }
  | .page options endpoint iri own params =>
    (hold endpoint (s.run ((Collection.read iri own s.graph).value.render params options))).outcome.2
  | .answer options endpoint request => (hold endpoint (s.answer options request)).outcome.2

/-- A rendering leaves the graph, and makes look-ups. -/
theorem exists_hold_run {α : Type} {P : Lookup → Prop} {x : Rendering α} (hx : LooksUp P x) (s : Snapshot)
    (endpoint : List Query → Query → Reply) : ∃ qs, (∀ q ∈ qs, P q) ∧
      (hold endpoint (s.run x)).outcome.2 = { s with resolver := (findAll qs s.resolver).value.2 } := by
  obtain ⟨qs, hqs, hx⟩ := hx.exists_findAll endpoint [] s.resolver
  refine ⟨qs, hqs, ?_⟩
  rw [hold, (holdAfter_run s x endpoint []).1, hx]

/-- A use of a snapshot comes to look-ups of what the API declares, or the graph of the collection for its members. -/
theorem exists_behind (s : Snapshot) (use : Use) : ∃ qs,
    (∀ q ∈ qs, s.graph.Declares q ∨ ∃ own ∈ use.own?, own.DeclaresForMembers q) ∧
      s.behind use = { s with resolver := (findAll qs s.resolver).value.2 } := by
  have hown {own : Graph} {q : Lookup} (hq : s.graph.Declares q ∨ own.DeclaresForMembers q) :
      s.graph.Declares q ∨ ∃ o ∈ some own, o.DeclaresForMembers q := hq.imp_right fun h => ⟨own, rfl, h⟩
  rcases use with ⟨options, iri, own, params⟩ | ⟨options, endpoint, iri, own, params⟩ |
    ⟨options, endpoint, ⟨iri, own, query⟩ | ⟨resource, types⟩⟩
  case compile =>
    have hrefers := Collection.refersOnly_read iri own s.graph
    obtain ⟨qs, hqs, hx⟩ := (Resolving.looksUp_assemble hrefers params options).exists_findAll s.resolver
    exact ⟨qs, fun q hq => hown (hqs q hq), congrArg (Snapshot.mk s.graph) hx⟩
  case page =>
    have hrefers := Collection.refersOnly_read iri own s.graph
    obtain ⟨qs, hqs, hx⟩ := exists_hold_run (looksUp_render hrefers params options) s endpoint
    exact ⟨qs, fun q hq => hown (hqs q hq), hx⟩
  case answer.render =>
    let c := (Collection.read iri own s.graph).value
    have hrefers := Collection.refersOnly_read iri own s.graph
    obtain ⟨qs, hqs, hx⟩ := exists_hold_run (looksUp_render hrefers (c.searchParams query) options) s endpoint
    refine ⟨qs, fun q hq => hown (hqs q hq), ?_⟩
    have hrender := congrArg Prod.snd (holdAfter_render s options iri own query endpoint []).1
    rw [← hx, hold, ← hrender]
    exact congrArg Prod.snd (holdAfter_map _ _).1
  -- Describing a resource has to do with no graph but that of the API.
  case answer.describe =>
    have hdeclared : ∀ reference ∈ s.graph.strategiesOf types, s.graph.Declares ⟨.describeStrategy, reference⟩ :=
      fun _ => Graph.declares_of_mem_strategiesOf
    obtain ⟨qs, hqs, hx⟩ :=
      exists_hold_run (looksUp_describing options resource hdeclared (s.graph.includesOf types)) s endpoint
    refine ⟨qs, fun q hq => .inl (hqs q hq), ?_⟩
    rw [← hx]
    exact congrArg Prod.snd (holdAfter_map _ _).1

/-! ### After loading -/

/-- The snapshot describes the API, and its resolver has looked up all that the API declares before anything else. -/
structure IsPreloaded (api : Graph) (h : Host) (s : Snapshot) : Prop where
  graph : s.graph = api
  resolver : ∃ later, s.resolver = (findAll (declared api ++ later) { host := h }).value.2

section Preloaded
variable {api : Graph} {h : Host} {s : Snapshot}

theorem asked_findAll (h : Host) (qs : List Lookup) : (findAll qs { host := h }).value.2.asked = qs.eraseDups :=
  (records_findAll h qs).asked

theorem isSome_known?_findAll (h : Host) {qs : List Lookup} {q : Lookup} (hq : q ∈ qs) :
    ((findAll qs { host := h }).value.2.known? q).isSome := by
  rw [(records_findAll h qs).known, if_pos hq]
  rfl

theorem isPreloaded_load (api : Graph) (h : Host) : (load api h).value.IsPreloaded api h :=
  ⟨rfl, [], by rw [List.append_nil, resolver_load]⟩

theorem IsPreloaded.behind (hs : s.IsPreloaded api h) (use : Use) : (s.behind use).IsPreloaded api h := by
  obtain ⟨later, hlater⟩ := hs.resolver
  obtain ⟨qs, -, hbehind⟩ := s.exists_behind use
  rw [hbehind]
  refine ⟨hs.graph, later ++ qs, ?_⟩
  rw [← List.append_assoc, resolver_findAll_append, ← hlater]

theorem IsPreloaded.foldl (hs : s.IsPreloaded api h) (uses : List Use) :
    (uses.foldl Snapshot.behind s).IsPreloaded api h := by
  induction uses generalizing s with
  | nil => exact hs
  | cons use uses ih => exact ih (hs.behind use)

/-- A use asks for what is looked up and was not looked up before, which is nothing that the API declares. -/
theorem IsPreloaded.exists_asked (hs : s.IsPreloaded api h) (use : Use) :
    ∃ asked, (s.behind use).resolver.asked = s.resolver.asked ++ asked ∧
      ∀ q ∈ asked, ¬api.Declares q ∧ ∃ own ∈ use.own?, own.DeclaresForMembers q := by
  obtain ⟨later, hlater⟩ := hs.resolver
  obtain ⟨qs, hqs, hbehind⟩ := s.exists_behind use
  rw [hs.graph] at hqs
  -- The questions are the look-ups without repetition, and those of the API come first.
  refine ⟨(qs.removeAll (declared api ++ later)).eraseDups, ?_, fun q hq => ?_⟩
  · rw [hbehind]
    dsimp only
    rw [hlater, ← resolver_findAll_append, asked_findAll, asked_findAll, List.eraseDups_append]
  · simp only [List.mem_eraseDups, List.removeAll, List.mem_filter, Bool.not_eq_true', List.elem_eq_mem,
      decide_eq_false_iff_not, List.mem_append, not_or, mem_declared] at hq
    obtain ⟨hmem, hnew, -⟩ := hq
    exact ⟨hnew, (hqs q hmem).resolve_left hnew⟩

theorem IsPreloaded.behind_eq_self (hs : s.IsPreloaded api h) {use : Use}
    (hnone : ∀ own ∈ use.own?, ∀ t ∈ own.toList,
      t.predicate ≠ Rule.filter ∧ t.predicate ≠ Rule.memberDescribeStrategy) : s.behind use = s := by
  obtain ⟨later, hlater⟩ := hs.resolver
  obtain ⟨qs, hqs, hbehind⟩ := s.exists_behind use
  rw [hs.graph] at hqs
  have hknown : ∀ q ∈ qs, (s.resolver.known? q).isSome := fun q hq => by
    have hdeclared : q ∈ declared api := mem_declared.mpr <| (hqs q hq).resolve_right fun ⟨own, hown, hq⟩ =>
      Graph.not_declaresForMembers (hnone own hown) hq
    rw [hlater]
    exact isSome_known?_findAll h (List.mem_append_left later hdeclared)
  rw [hbehind, resolver_findAll_of_known hknown]

/-- When a snapshot is loaded, its host is asked for all that the API declares. Whatever is done with the snapshot
    afterwards, no use of it asks for any of that again: a use asks only for what the graph of the collection declares
    for members and the API does not. Without filters and strategies in that graph nothing in the snapshot changes. -/
theorem load_resolves_declared (api : Graph) (h : Host) :
    let loaded := (load api h).value
    (∀ q, q ∈ loaded.resolver.asked ↔ api.Declares q) ∧
      ∀ (uses : List Use) (use : Use),
        let s := uses.foldl Snapshot.behind loaded
        s.graph = api ∧
        (∃ asked, (s.behind use).resolver.asked = s.resolver.asked ++ asked ∧
          ∀ q ∈ asked, ¬api.Declares q ∧ ∃ own ∈ use.own?, own.DeclaresForMembers q) ∧
        ((∀ own ∈ use.own?, ∀ t ∈ own.toList, t.predicate ≠ Rule.filter ∧ t.predicate ≠ Rule.memberDescribeStrategy) →
          s.behind use = s) := by
  intro loaded
  refine ⟨fun q => ?_, fun uses use => ?_⟩
  · rw [resolver_load, asked_findAll, List.mem_eraseDups, mem_declared]
  · intro s
    have hs : s.IsPreloaded api h := (isPreloaded_load api h).foldl uses
    exact ⟨hs.graph, hs.exists_asked use, hs.behind_eq_self⟩

end Preloaded

open Library

/-- An API in which shelves are searched by author, with a filter that is named by a link, and in which they refer to a
    strategy for describing books. -/
def shelvesByAuthor : Graph :=
  .ofList (holdsBooks shelfClass ++ searchedBy shelfClass "http://example.org/books{?author}" "author" author ++ [
    ⟨.blank "mapping", Rule.filter, .blank "filter"⟩,
    ⟨.blank "filter", Code.implementedBy, .blank "code"⟩, ⟨.blank "code", Code.link, .iri bookFilter⟩,
    ⟨.iri shelfClass, Rule.memberDescribeStrategy, .iri bookStrategy⟩])

/-- The filter and the strategy of shelves are asked for once, by the snapshot and not for a search; the filter that a
    collection has of its own is asked for when it is searched. -/
theorem shelves_load_resolves_declared :
    let loaded := (load shelvesByAuthor (.ofRegistry [] [])).value
    let shelf : Graph := .ofList [⟨.iri books, Rdf.type, .iri shelfClass⟩]
    let ownFilter : Iri := ⟨"http://example.org/own"⟩
    let search (own : Graph) := Use.answer {} (fun _ _ => .ok (.solutions [])) (.render books own "author=ann")
    loaded.resolver.asked = [⟨.filter, bookFilter⟩, ⟨.describeStrategy, bookStrategy⟩] ∧
      loaded.unresolvedFilters = 1 ∧
      (Collection.read books shelf shelvesByAuthor).value.search.map (·.mappings) = some [authorMapping (some bookFilter)] ∧
      loaded.behind (search shelf) = loaded ∧
      (loaded.behind (search (bookSearch (.iri ownFilter)))).resolver.asked =
        loaded.resolver.asked ++ [⟨.filter, ownFilter⟩] := by
  intro loaded shelf ownFilter search
  have hshelf : ∀ t ∈ shelf.toList, t.predicate ≠ Rule.filter ∧ t.predicate ≠ Rule.memberDescribeStrategy := by
    decide +kernel
  obtain ⟨-, hbehind⟩ := load_resolves_declared shelvesByAuthor (.ofRegistry [] [])
  obtain ⟨-, -, hsame⟩ := hbehind [] (search shelf)
  refine ⟨by decide +kernel, by decide +kernel, by decide +kernel, hsame ?_, by decide +kernel⟩
  rintro own ⟨⟩
  exact hshelf

end Snapshot
end CollectionQuery
