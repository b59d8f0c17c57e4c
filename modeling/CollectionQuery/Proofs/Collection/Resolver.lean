import CollectionQuery.Proofs.Conversation

/-! What resolving a reference comes to: what is remembered of it, otherwise what the host answers now. Putting queries
    together and finding a strategy have to do with the resolver in no other way. -/

namespace CollectionQuery
namespace Resolver

/-- What is remembered is found again. -/
theorem filter_of_known {r : Resolver} {reference : Iri} {known : Option Filter}
    (h : r.filters.lookup reference = some known) : r.filter reference = pure (known, r) := by
  unfold filter
  rw [h]

/-- The host is asked about what is new, and its answer is remembered. -/
theorem filter_of_new {r : Resolver} {reference : Iri} (h : r.filters.lookup reference = none) :
    let found := r.host.filter? r.asked reference
    r.filter reference =
      { value := (found, { r with
          asked := r.asked ++ [⟨.filter, reference⟩]
          filters := (reference, found) :: r.filters
          unresolvedFilters := if found.isNone then r.unresolvedFilters + 1 else r.unresolvedFilters })
        warnings := if found.isNone then [.filterUnresolved reference] else [] } := by
  unfold filter
  rw [h]
  dsimp only
  cases r.host.filter? r.asked reference <;> rfl

theorem strategy_of_known {r : Resolver} {reference : Iri} {known : Option DescribeStrategy}
    (h : r.strategies.lookup reference = some known) : r.strategy reference = pure (known, r) := by
  unfold strategy
  rw [h]

theorem strategy_of_new {r : Resolver} {reference : Iri} (h : r.strategies.lookup reference = none) :
    let found := r.host.strategy? r.asked reference
    r.strategy reference =
      { value := (found, { r with
          asked := r.asked ++ [⟨.describeStrategy, reference⟩]
          strategies := (reference, found) :: r.strategies })
        warnings := if found.isNone then [.strategyUnresolved reference] else [] } := by
  unfold strategy
  rw [h]
  dsimp only
  cases r.host.strategy? r.asked reference <;> rfl

theorem value_filter (r : Resolver) (reference : Iri) :
    (r.filter reference).value =
      match r.filters.lookup reference with
      | some known => (known, r)
      | none => (r.host.filter? r.asked reference,
        { r with
          asked := r.asked ++ [⟨.filter, reference⟩]
          filters := (reference, r.host.filter? r.asked reference) :: r.filters
          unresolvedFilters :=
            if (r.host.filter? r.asked reference).isNone then r.unresolvedFilters + 1 else r.unresolvedFilters }) := by
  cases h : r.filters.lookup reference with
  | some known => rw [filter_of_known h, Noted.value_pure]
  | none => rw [filter_of_new h]

theorem value_strategy (r : Resolver) (reference : Iri) :
    (r.strategy reference).value =
      match r.strategies.lookup reference with
      | some known => (known, r)
      | none => (r.host.strategy? r.asked reference,
        { r with
          asked := r.asked ++ [⟨.describeStrategy, reference⟩]
          strategies := (reference, r.host.strategy? r.asked reference) :: r.strategies }) := by
  cases h : r.strategies.lookup reference with
  | some known => rw [strategy_of_known h, Noted.value_pure]
  | none => rw [strategy_of_new h]

theorem filters_strategy (r : Resolver) (reference : Iri) :
    (r.strategy reference).value.2.filters = r.filters := by
  rw [value_strategy]
  cases r.strategies.lookup reference <;> rfl

theorem unresolvedFilters_strategy (r : Resolver) (reference : Iri) :
    (r.strategy reference).value.2.unresolvedFilters = r.unresolvedFilters := by
  rw [value_strategy]
  cases r.strategies.lookup reference <;> rfl

/-! ### The only strategy -/

variable {r : Resolver} {resource : Term} {reference : Iri} {required : Bool}

/-- A single reference is resolved; unknown, it is an error or no strategy. -/
theorem value_onlyStrategy_singleton :
    (onlyStrategy resource [reference] required r).value =
      (match (r.strategy reference).value.1 with
        | some s => .ok (some s)
        | none => if required then .error (.unresolvedStrategy resource reference) else .ok none,
        (r.strategy reference).value.2) := by
  unfold onlyStrategy
  rw [Resolving.value_bind]
  cases (r.strategy reference).value.1 with
  | some s => rfl
  | none => cases required <;> rfl

/-- Several references are not resolved at all. -/
theorem value_onlyStrategy_of_two_le {references : List Iri} (h : 2 ≤ references.length) :
    (onlyStrategy resource references required r).value =
      (.error (.ambiguousStrategy resource references.length), r) := by
  unfold onlyStrategy
  split
  · simp at h
  · simp at h
  · rfl

/-! ### Known filters -/

/-- All filters that the resolver remembers or that its host knows have the property. -/
structure HasOnly (P : Filter → Prop) (r : Resolver) : Prop where
  host : ∀ asked reference f, r.host.filter? asked reference = some f → P f
  filters : ∀ reference f, r.filters.lookup reference = some (some f) → P f

variable {P : Filter → Prop}

theorem HasOnly.filter (hr : r.HasOnly P) (reference : Iri) :
    (∀ f ∈ (r.filter reference).value.1, P f) ∧ (r.filter reference).value.2.HasOnly P := by
  rw [value_filter]
  cases hl : r.filters.lookup reference with
  | some known => exact ⟨fun f hf => hr.filters reference f (hl.trans (congrArg some hf)), hr⟩
  | none =>
    refine ⟨fun f hf => hr.host _ _ f hf, hr.host, fun other f hf => ?_⟩
    dsimp only at hf
    rw [List.lookup_cons] at hf
    split at hf
    · exact hr.host _ _ f (Option.some.inj hf)
    · exact hr.filters other f hf

theorem HasOnly.filterOf (hr : r.HasOnly P) (hdefault : P .equality) (m : Mapping) :
    (∀ f ∈ (MemberQueries.filterOf m r).value.1, P f) ∧ (MemberQueries.filterOf m r).value.2.HasOnly P := by
  unfold MemberQueries.filterOf
  cases m.filter with
  | none =>
    refine ⟨fun f hf => ?_, hr⟩
    obtain rfl := Option.some.inj hf
    exact hdefault
  | some reference => exact hr.filter reference

end Resolver

/-! ### Nothing but resolving -/

/-- The computation has to do with the resolver only by resolving references. -/
inductive Resolving.OnlyResolves : {α : Type} → Resolving α → Prop
  | pure {α : Type} (a : α) : OnlyResolves (Pure.pure a)
  | lift {α : Type} (x : Noted α) : OnlyResolves (liftM x)
  | filter (reference : Iri) : OnlyResolves fun r => r.filter reference
  | strategy (reference : Iri) : OnlyResolves fun r => r.strategy reference
  | bind {α β : Type} {x : Resolving α} {f : α → Resolving β} (hx : OnlyResolves x)
      (hf : ∀ a, OnlyResolves (f a)) : OnlyResolves (x >>= f)

/-- The computation has to do with the resolver only by resolving references that have the property. -/
inductive Resolving.LooksUp (P : Lookup → Prop) : {α : Type} → Resolving α → Prop
  | pure {α : Type} (a : α) : LooksUp P (Pure.pure a)
  | lift {α : Type} (x : Noted α) : LooksUp P (liftM x)
  | filter {reference : Iri} (h : P ⟨.filter, reference⟩) : LooksUp P fun r => r.filter reference
  | strategy {reference : Iri} (h : P ⟨.describeStrategy, reference⟩) : LooksUp P fun r => r.strategy reference
  | bind {α β : Type} {x : Resolving α} {f : α → Resolving β} (hx : LooksUp P x) (hf : ∀ a, LooksUp P (f a)) :
      LooksUp P (x >>= f)

/-- All references to filters and strategies that the collection may resolve have the property. -/
structure Collection.RefersOnly (P : Lookup → Prop) (c : Collection) : Prop where
  filters : ∀ t ∈ c.search, ∀ x ∈ t.filters, ∀ reference ∈ x.1.filter, P ⟨.filter, reference⟩
  strategies : ∀ reference ∈ c.strategies, P ⟨.describeStrategy, reference⟩

theorem Collection.refersOnly_true (c : Collection) : c.RefersOnly fun _ => True :=
  ⟨fun _ _ _ _ _ _ => trivial, fun _ _ => trivial⟩

namespace Resolving
variable {P : Lookup → Prop} {c : Collection}

theorem LooksUp.onlyResolves {α : Type} {x : Resolving α} (hx : LooksUp P x) : OnlyResolves x := by
  induction hx with
  | pure a => exact .pure a
  | lift x => exact .lift x
  | filter _ => exact .filter _
  | strategy _ => exact .strategy _
  | bind _ _ ihx ihf => exact ihx.bind ihf

theorem looksUp_onlyStrategy (resource : Term) {references : List Iri}
    (h : ∀ reference ∈ references, P ⟨.describeStrategy, reference⟩) (required : Bool) :
    LooksUp P (Resolver.onlyStrategy resource references required) := by
  unfold Resolver.onlyStrategy
  split
  · exact .pure _
  · refine (LooksUp.strategy (h _ List.mem_cons_self)).bind fun found => ?_
    split
    · exact .pure _
    · split <;> exact .pure _
  · exact .pure _

theorem looksUp_filterOf {m : Mapping} (h : ∀ reference ∈ m.filter, P ⟨.filter, reference⟩) :
    LooksUp P (MemberQueries.filterOf m) := by
  unfold MemberQueries.filterOf
  split
  · next hm => exact .filter (h _ hm)
  · exact .pure _

theorem looksUp_filterPatternsFrom (params : SearchParams) (v : Variable) (count : Nat) {xs : List (Mapping × Iri)}
    (h : ∀ x ∈ xs, ∀ reference ∈ x.1.filter, P ⟨.filter, reference⟩) :
    LooksUp P (MemberQueries.filterPatternsFrom params v count xs) := by
  induction xs generalizing count with
  | nil => exact .pure _
  | cons x xs ih =>
    obtain ⟨hx, hxs⟩ := List.forall_mem_cons.mp h
    rw [MemberQueries.filterPatternsFrom]
    split
    · exact ih count hxs
    · refine (looksUp_filterOf hx).bind fun found => ?_
      split
      · exact ih count hxs
      · exact (LooksUp.lift _).bind fun _ => (ih (count + 1) hxs).bind fun _ => .pure _

theorem looksUp_filterPatterns (hc : c.RefersOnly P) (params : SearchParams) (v : Variable) :
    LooksUp P (MemberQueries.filterPatterns c params v) := by
  unfold MemberQueries.filterPatterns
  split
  · next t ht => exact looksUp_filterPatternsFrom _ _ _ (hc.filters t ht)
  · exact .pure _

theorem looksUp_assemble (hc : c.RefersOnly P) (params : SearchParams) (options : Options) :
    LooksUp P (MemberQueries.assemble c params options) := by
  unfold MemberQueries.assemble
  refine (LooksUp.lift _).bind fun assertions => ?_
  split
  · exact .pure _
  · exact (looksUp_filterPatterns hc _ _).bind fun _ => (LooksUp.lift _).bind fun _ => .pure _

theorem onlyResolves_filterPatterns (c : Collection) (params : SearchParams) (v : Variable) :
    OnlyResolves (MemberQueries.filterPatterns c params v) :=
  (looksUp_filterPatterns c.refersOnly_true params v).onlyResolves

end Resolving

/-! ### Describing -/

namespace Snapshot
open Rendering Conversation
variable {α : Type}

theorem holdAfter_run (s : Snapshot) (x : Rendering α) (endpoint : List Query → Query → Reply) (sent : List Query) :
    let result := after endpoint sent s.resolver x
    (holdAfter endpoint sent (s.run x)).outcome = (result.outcome, { s with resolver := result.resolver }) ∧
      (holdAfter endpoint sent (s.run x)).queries = result.queries := by
  have hrun : s.run x = x.run s.resolver >>= fun y => pure (y.1, { s with resolver := y.2 }) := rfl
  rw [hrun, holdAfter_bind, queries_holdAfter_bind]
  exact ⟨rfl, rfl⟩

/-- Reading the collection sends nothing, and takes nothing from the snapshot but its graph. -/
theorem holdAfter_render (s : Snapshot) (options : Options) (iri : Iri) (graph : Graph) (query : String)
    (endpoint : List Query → Query → Reply) (sent : List Query) :
    let c := (Collection.read iri graph s.graph).value
    let x := s.run (c.render (c.searchParams query) options)
    (holdAfter endpoint sent (s.render options iri graph query)).outcome = (holdAfter endpoint sent x).outcome ∧
      (holdAfter endpoint sent (s.render options iri graph query)).queries = (holdAfter endpoint sent x).queries := by
  have hread : s.render options iri graph query =
    ofNoted (Collection.read iri graph s.graph) >>= fun c => s.run (c.render (c.searchParams query) options) := rfl
  rw [hread, holdAfter_bind, queries_holdAfter_bind, outcome_ofNoted, queries_ofNoted]
  exact ⟨rfl, rfl⟩

theorem outcome_hold_render (s : Snapshot) (options : Options) (iri : Iri) (graph : Graph) (query : String)
    (endpoint : List Query → Query → Reply) :
    let c := (Collection.read iri graph s.graph).value
    (hold endpoint (s.render options iri graph query)).outcome.1 =
      (after endpoint [] s.resolver (c.render (c.searchParams query) options)).outcome := by
  intro c
  rw [hold, (holdAfter_render ..).1, (holdAfter_run ..).1]

/-- The describing of a resource that declares some references to strategies. -/
def describing (options : Options) (resource : Iri) (references : List Iri) (includes : List IncludeRule) :
    Rendering (List Triple) := do
  match ← outcome (← resolving (Resolver.onlyStrategy (.iri resource) references true)) with
  | some strategy => conversing (strategy.describe [resource])
  | none => conversing ((DescribeStrategy.following options.member includes).describe [resource])

theorem describeResource_eq (s : Snapshot) (options : Options) (resource : Iri) (types : List Iri) :
    s.describeResource options resource types =
      s.run (describing options resource (s.graph.strategiesOf types) (s.graph.includesOf types)) := rfl

end Snapshot

/-! ### Look-ups of a rendering -/

/-- The rendering has to do with the resolver only by resolving references that have the property. -/
inductive Rendering.LooksUp (P : Lookup → Prop) : {α : Type} → Rendering α → Prop
  | pure {α : Type} (a : α) : LooksUp P (Pure.pure a)
  | resolving {α : Type} {x : Resolving α} (hx : x.LooksUp P) : LooksUp P (resolving x)
  | noted {α : Type} (x : Noted α) : LooksUp P (noted x)
  | conversing {α : Type} (x : Conversation (Except CollectionError α)) : LooksUp P (conversing x)
  | outcome {α : Type} (x : Except CollectionError α) : LooksUp P (outcome x)
  | bind {α β : Type} {x : Rendering α} {f : α → Rendering β} (hx : LooksUp P x) (hf : ∀ a, LooksUp P (f a)) :
      LooksUp P (x >>= f)

namespace Rendering
variable {P : Lookup → Prop} {c : Collection}

theorem looksUp_select (hc : c.RefersOnly P) (params : SearchParams) (options : Options) :
    LooksUp P (c.select params options) := by
  unfold Collection.select
  split
  · exact .pure _
  · refine (LooksUp.resolving (Resolving.looksUp_assemble hc params options)).bind fun queries => ?_
    split
    · exact .pure _
    · exact (LooksUp.conversing _).bind fun _ => (LooksUp.conversing _).bind fun _ => (LooksUp.noted _).bind fun _ =>
        .pure _

theorem looksUp_loadMembers (hc : c.RefersOnly P) (options : Options) (members : List Iri) :
    LooksUp P (c.loadMembers options members) := by
  unfold Collection.loadMembers
  split
  · exact .pure _
  · refine (LooksUp.resolving (Resolving.looksUp_onlyStrategy _ hc.strategies _)).bind fun found => ?_
    refine (LooksUp.outcome found).bind fun strategy => ?_
    split
    · exact .conversing _
    · refine (LooksUp.conversing _).bind fun own => ?_
      split
      · exact .pure _
      · exact (LooksUp.conversing _).bind fun _ => .pure _

theorem looksUp_render (hc : c.RefersOnly P) (params : SearchParams) (options : Options) :
    LooksUp P (c.render params options) := by
  unfold Collection.render
  refine (looksUp_select hc params options).bind fun found => ?_
  refine (looksUp_loadMembers hc options _).bind fun data => ?_
  split
  · exact (LooksUp.noted _).bind fun _ => .pure _
  · exact .pure _

theorem looksUp_describing (options : Options) (resource : Iri) {references : List Iri}
    (h : ∀ reference ∈ references, P ⟨.describeStrategy, reference⟩) (includes : List IncludeRule) :
    LooksUp P (Snapshot.describing options resource references includes) := by
  unfold Snapshot.describing
  refine (LooksUp.resolving (Resolving.looksUp_onlyStrategy _ h _)).bind fun found => ?_
  refine (LooksUp.outcome found).bind fun strategy => ?_
  split <;> exact .conversing _

end Rendering
end CollectionQuery
