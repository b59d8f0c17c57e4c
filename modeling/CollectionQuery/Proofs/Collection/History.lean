import CollectionQuery.Proofs.Collection.Resolver
import CollectionQuery.Proofs.Library

/-! Requests to one engine after others. A resolver remembers nothing but what its host answers, and a steady host would
    answer the same again; so an answer and its queries depend on the current description of the API alone, and not on
    the requests that were answered with it before. -/

namespace CollectionQuery

/-- The host answers a question in the same way whatever it was asked before. -/
structure Host.IsSteady (h : Host) : Prop where
  filter : ∀ asked reference, h.filter? asked reference = h.filter? [] reference
  strategy : ∀ asked reference, h.strategy? asked reference = h.strategy? [] reference

/-- All that the resolver remembers is what the host answers. -/
structure Resolver.Remembers (h : Host) (r : Resolver) : Prop where
  host : r.host = h
  filters : ∀ reference known, r.filters.lookup reference = some known → known = h.filter? [] reference
  strategies : ∀ reference known, r.strategies.lookup reference = some known → known = h.strategy? [] reference

/-! ### Resolving -/

/-- What is remembered stays right if one more answer is. -/
theorem eq_of_lookup_cons {α β : Type} [DecidableEq α] {answer : α → β} {known : List (α × β)} {a : α}
    (h : ∀ x b, known.lookup x = some b → b = answer x) :
    ∀ x b, ((a, answer a) :: known).lookup x = some b → b = answer x := by
  intro x b hb
  rw [List.lookup_cons] at hb
  split at hb
  · next hx =>
    obtain rfl := beq_iff_eq.mp hx
    exact (Option.some.inj hb).symm
  · exact h x b hb

namespace Resolver
variable {h : Host} {r : Resolver}

theorem Remembers.filter (hh : h.IsSteady) (hr : r.Remembers h) (reference : Iri) :
    (r.filter reference).value.1 = h.filter? [] reference ∧ (r.filter reference).value.2.Remembers h := by
  rw [value_filter]
  cases hl : r.filters.lookup reference with
  | some known => exact ⟨hr.filters reference known hl, hr⟩
  | none =>
    have hanswer : r.host.filter? r.asked reference = h.filter? [] reference := by
      rw [hr.host, hh.filter]
    dsimp only
    rw [hanswer]
    exact ⟨rfl, hr.host, eq_of_lookup_cons hr.filters, hr.strategies⟩

theorem Remembers.strategy (hh : h.IsSteady) (hr : r.Remembers h) (reference : Iri) :
    (r.strategy reference).value.1 = h.strategy? [] reference ∧ (r.strategy reference).value.2.Remembers h := by
  rw [value_strategy]
  cases hl : r.strategies.lookup reference with
  | some known => exact ⟨hr.strategies reference known hl, hr⟩
  | none =>
    have hanswer : r.host.strategy? r.asked reference = h.strategy? [] reference := by
      rw [hr.host, hh.strategy]
    dsimp only
    rw [hanswer]
    exact ⟨rfl, hr.host, hr.filters, eq_of_lookup_cons hr.strategies⟩

end Resolver

namespace Resolving
variable {α β : Type} {h : Host}

/-- The value is the same for all resolvers that remember answers of the host, and they go on remembering them. -/
def IsSteady (h : Host) (x : Resolving α) : Prop :=
  ∃ a, ∀ r : Resolver, r.Remembers h → (x r).value.1 = a ∧ (x r).value.2.Remembers h

theorem IsSteady.bind {x : Resolving α} {f : α → Resolving β} (hx : IsSteady h x) (hf : ∀ a, IsSteady h (f a)) :
    IsSteady h (x >>= f) := by
  obtain ⟨a, hx⟩ := hx
  obtain ⟨b, hf⟩ := hf a
  refine ⟨b, fun r hr => ?_⟩
  obtain ⟨ha, hr'⟩ := hx r hr
  rw [value_bind, ha]
  exact hf _ hr'

theorem OnlyResolves.isSteady (hh : h.IsSteady) {x : Resolving α} (hx : OnlyResolves x) : IsSteady h x := by
  induction hx with
  | pure a => exact ⟨a, fun _ hr => ⟨rfl, hr⟩⟩
  | lift x => exact ⟨x.value, fun _ hr => ⟨rfl, hr⟩⟩
  | filter reference => exact ⟨_, fun _ hr => hr.filter hh reference⟩
  | strategy reference => exact ⟨_, fun _ hr => hr.strategy hh reference⟩
  | bind _ _ ihx ihf => exact ihx.bind ihf

end Resolving

namespace Rendering
variable {α β : Type} {h : Host}

/-- The outcome and the queries are the same for all resolvers that remember answers of the host, and they go on
    remembering them. -/
def IsSteady (h : Host) (x : Rendering α) : Prop :=
  ∀ endpoint sent, ∃ outcome sent', ∀ r : Resolver, r.Remembers h →
    ∃ r' : Resolver, r'.Remembers h ∧ after endpoint sent r x = ⟨outcome, r', sent'⟩

theorem IsSteady.pure (a : α) : IsSteady h (Pure.pure a) := fun _ sent =>
  ⟨.ok a, sent, fun r hr => ⟨r, hr, after_pure a⟩⟩

theorem IsSteady.bind {x : Rendering α} {f : α → Rendering β} (hx : IsSteady h x) (hf : ∀ a, IsSteady h (f a)) :
    IsSteady h (x >>= f) := by
  intro endpoint sent
  obtain ⟨a | a, sent', hx⟩ := hx endpoint sent
  · refine ⟨.error a, sent', fun r hr => ?_⟩
    obtain ⟨r', hr', ha⟩ := hx r hr
    exact ⟨r', hr', after_bind_error ha⟩
  · obtain ⟨b, sent'', hf⟩ := hf a endpoint sent'
    refine ⟨b, sent'', fun r hr => ?_⟩
    obtain ⟨r', hr', ha⟩ := hx r hr
    obtain ⟨r'', hr'', hb⟩ := hf r' hr'
    exact ⟨r'', hr'', (after_bind_ok ha).trans hb⟩

theorem IsSteady.resolving (hh : h.IsSteady) {x : Resolving α} (hx : Resolving.OnlyResolves x) :
    IsSteady h (resolving x) := by
  obtain ⟨a, hx⟩ := hx.isSteady hh
  refine fun endpoint sent => ⟨.ok a, sent, fun r hr => ?_⟩
  obtain ⟨ha, hr'⟩ := hx r hr
  exact ⟨_, hr', by rw [after_resolving, ha]⟩

theorem IsSteady.noted (x : Noted α) : IsSteady h (noted x) := fun _ _ => ⟨_, _, fun r hr => ⟨r, hr, after_noted x⟩⟩

theorem IsSteady.conversing (x : Conversation (Except CollectionError α)) : IsSteady h (conversing x) := fun _ _ =>
  ⟨_, _, fun r hr => ⟨r, hr, after_conversing x⟩⟩

theorem IsSteady.outcome (x : Except CollectionError α) : IsSteady h (outcome x) := fun _ _ =>
  ⟨_, _, fun r hr => ⟨r, hr, after_outcome x⟩⟩

theorem LooksUp.isSteady (hh : h.IsSteady) {P : Lookup → Prop} {x : Rendering α} (hx : LooksUp P x) :
    IsSteady h x := by
  induction hx with
  | pure a => exact .pure a
  | resolving hx => exact .resolving hh hx.onlyResolves
  | noted x => exact .noted x
  | conversing x => exact .conversing x
  | outcome x => exact .outcome x
  | bind _ _ ihx ihf => exact ihx.bind ihf

theorem isSteady_render (hh : h.IsSteady) (c : Collection) (params : SearchParams) (options : Options) :
    IsSteady h (c.render params options) :=
  (looksUp_render c.refersOnly_true params options).isSteady hh

theorem isSteady_describing (hh : h.IsSteady) (options : Options) (resource : Iri) (references : List Iri)
    (includes : List IncludeRule) : IsSteady h (Snapshot.describing options resource references includes) :=
  (looksUp_describing (P := fun _ => True) options resource (fun _ _ => trivial) includes).isSteady hh

end Rendering

namespace Snapshot
open Rendering Conversation
variable {h : Host}

/-- The snapshot describes the API by the graph, and its resolver remembers answers of the host. -/
structure IsOf (graph : Graph) (h : Host) (s : Snapshot) : Prop where
  graph : s.graph = graph
  resolver : s.resolver.Remembers h

/-! ### Loading -/

theorem remembers_resolveFilters (hh : h.IsSteady) (references : List Iri) {r : Resolver} (hr : r.Remembers h) :
    (resolveFilters references r).value.Remembers h := by
  induction references generalizing r with
  | nil => exact hr
  | cons reference references ih => exact ih (hr.filter hh reference).2

theorem remembers_resolveStrategies (hh : h.IsSteady) (references : List Iri) {r : Resolver} (hr : r.Remembers h) :
    (resolveStrategies references r).value.Remembers h := by
  induction references generalizing r with
  | nil => exact hr
  | cons reference references ih => exact ih (hr.strategy hh reference).2

theorem isOf_load (hh : h.IsSteady) (graph : Graph) : (load graph h).value.IsOf graph h := by
  have hempty : Resolver.Remembers h { host := h } :=
    { host := rfl
      filters := fun _ _ hl => nomatch hl
      strategies := fun _ _ hl => nomatch hl }
  exact ⟨rfl, remembers_resolveStrategies hh _ (remembers_resolveFilters hh _ hempty)⟩

end Snapshot

/-! ### Requests -/

/-- A request to an engine. -/
inductive Request where
  | render (iri : Iri) (graph : Graph) (query : String)
  | describe (resource : Iri) (types : List Iri)

/-- What a request comes to. -/
inductive Answer where
  | page (outcome : Except CollectionError Page)
  | data (outcome : Except CollectionError (List Triple))

namespace Snapshot
open Rendering Conversation
variable {α : Type} {h : Host} {graph : Graph} {endpoint : List Query → Query → Reply} {options : Options}

def answer (s : Snapshot) (options : Options) : Request → Conversation (Answer × Snapshot)
  | .render iri graph query => Prod.map Answer.page id <$> s.render options iri graph query
  | .describe resource types => Prod.map Answer.data id <$> s.describeResource options resource types

/-- Snapshots of one graph and host run a steady rendering alike. -/
theorem exists_run {x : Rendering α} (hx : IsSteady h x) (graph : Graph)
    (endpoint : List Query → Query → Reply) (sent : List Query) :
    ∃ outcome sent', ∀ s : Snapshot, s.IsOf graph h → ∃ s' : Snapshot, s'.IsOf graph h ∧
      (holdAfter endpoint sent (s.run x)).outcome = (outcome, s') ∧
      (holdAfter endpoint sent (s.run x)).queries = sent' := by
  obtain ⟨outcome, sent', hx⟩ := hx endpoint sent
  refine ⟨outcome, sent', fun s hs => ?_⟩
  obtain ⟨r', hr', he⟩ := hx s.resolver hs.resolver
  obtain ⟨ho, hq⟩ := holdAfter_run s x endpoint sent
  rw [he] at ho hq
  exact ⟨{ s with resolver := r' }, ⟨hs.graph, hr'⟩, ho, hq⟩

/-- Snapshots of one graph and host give one answer to a request and send the same queries for it. -/
theorem exists_answer (hh : h.IsSteady) (graph : Graph) (endpoint : List Query → Query → Reply) (options : Options)
    (request : Request) : ∃ answer queries, ∀ s : Snapshot, s.IsOf graph h → ∃ s' : Snapshot, s'.IsOf graph h ∧
      (hold endpoint (s.answer options request)).outcome = (answer, s') ∧
      (hold endpoint (s.answer options request)).queries = queries := by
  cases request with
  | render iri own query =>
    let c := (Collection.read iri own graph).value
    obtain ⟨outcome, queries, hrun⟩ :=
      exists_run (isSteady_render hh c (c.searchParams query) options) graph endpoint []
    refine ⟨.page outcome, queries, fun s hs => ?_⟩
    obtain ⟨s', hs', ho, hq⟩ := hrun s hs
    obtain ⟨houtcome, hqueries⟩ := holdAfter_render s options iri own query endpoint []
    rw [hs.graph] at houtcome hqueries
    refine ⟨s', hs', ?_, ?_⟩
    · unfold hold answer
      rw [(holdAfter_map _ _).1, houtcome, ho]
      rfl
    · unfold hold answer
      rw [(holdAfter_map _ _).2, hqueries, hq]
  | describe resource types =>
    obtain ⟨outcome, queries, hrun⟩ := exists_run (isSteady_describing hh options resource (graph.strategiesOf types)
      (graph.includesOf types)) graph endpoint []
    refine ⟨.data outcome, queries, fun s hs => ?_⟩
    obtain ⟨s', hs', ho, hq⟩ := hrun s hs
    refine ⟨s', hs', ?_, ?_⟩
    · unfold hold answer
      rw [(holdAfter_map _ _).1, describeResource_eq, hs.graph, ho]
      rfl
    · unfold hold answer
      rw [(holdAfter_map _ _).2, describeResource_eq, hs.graph, hq]

end Snapshot

/-! ### Histories -/

/-- What is done with an engine. -/
inductive Operation where
  | request (request : Request)
  | reload (graph : Graph)

inductive Event where
  | answered (answer : Answer) (queries : List Query)
  | replaced (previous : Snapshot)

namespace Api
open Snapshot Conversation

/-- The API with the snapshot of a graph that was just loaded. -/
def fresh (graph : Graph) (h : Host) : Api := ⟨(Snapshot.load graph h).value⟩

/-- Performs an operation on an engine with a client. -/
def perform (client : Query → Reply) (options : Options) (h : Host) (api : Api) : Operation → Event × Api
  | .request request =>
    let record := hold (fun _ => client) (api.current.answer options request)
    (.answered record.outcome.1 record.queries, ⟨record.outcome.2⟩)
  | .reload graph =>
    let (previous, api) := api.reload (Snapshot.load graph h).value
    (.replaced previous, api)

/-- The API behind a history of operations. -/
def behind (client : Query → Reply) (options : Options) (h : Host) (api : Api) (history : List Operation) : Api :=
  history.foldl (fun api operation => (api.perform client options h operation).2) api

/-- The graph that was installed last. -/
def latest (graph : Graph) (history : List Operation) : Graph :=
  history.foldl (fun graph operation => match operation with
    | .reload next => next
    | .request _ => graph) graph

variable {client : Query → Reply} {options : Options} {h : Host} {graph : Graph} {api : Api}

theorem perform_request (api : Api) (request : Request) :
    api.perform client options h (.request request) =
      (.answered (hold (fun _ => client) (api.current.answer options request)).outcome.1
        (hold (fun _ => client) (api.current.answer options request)).queries,
        ⟨(hold (fun _ => client) (api.current.answer options request)).outcome.2⟩) := rfl

theorem isOf_perform (hh : h.IsSteady) (ha : api.current.IsOf graph h) (operation : Operation) :
    (api.perform client options h operation).2.current.IsOf (latest graph [operation]) h := by
  cases operation with
  | request request =>
    obtain ⟨answer, queries, hanswer⟩ := exists_answer hh graph (fun _ => client) options request
    obtain ⟨s', hs', ho, -⟩ := hanswer api.current ha
    rw [perform_request, ho]
    exact hs'
  | reload next => exact isOf_load hh next

theorem isOf_behind (hh : h.IsSteady) (ha : api.current.IsOf graph h) (history : List Operation) :
    (api.behind client options h history).current.IsOf (latest graph history) h := by
  induction history generalizing graph api with
  | nil => exact ha
  | cons operation history ih => exact ih (isOf_perform hh ha operation)

/-- Behind any history a request is answered, with the same queries, as if the snapshot of the last graph had just been
    loaded; and a reload gives back the snapshot that it replaces. -/
theorem perform_behind (hh : h.IsSteady) (client : Query → Reply) (options : Options) (graph : Graph)
    (history : List Operation) :
    let api := (fresh graph h).behind client options h history
    (∀ request, (api.perform client options h (.request request)).1 =
      ((fresh (latest graph history) h).perform client options h (.request request)).1) ∧
    ∀ next, (api.perform client options h (.reload next)).1 = .replaced api.current ∧
      (api.perform client options h (.reload next)).2 = fresh next h ∧ api.current.graph = latest graph history := by
  intro api
  have hapi : api.current.IsOf (latest graph history) h := isOf_behind hh (isOf_load hh graph) history
  refine ⟨fun request => ?_, fun next => ⟨rfl, rfl, hapi.graph⟩⟩
  obtain ⟨answer, queries, hanswer⟩ := exists_answer hh (latest graph history) (fun _ => client) options request
  obtain ⟨s', -, ho, hq⟩ := hanswer api.current hapi
  obtain ⟨s'', -, ho', hq'⟩ := hanswer (fresh (latest graph history) h).current (isOf_load hh _)
  rw [perform_request, perform_request, ho, hq, ho', hq']

/-! ### A registry -/

theorem isSteady_ofRegistry (filters : List (Iri × Filter)) (strategies : List (Iri × DescribeStrategy)) :
    (Host.ofRegistry filters strategies).IsSteady := ⟨fun _ _ => rfl, fun _ _ => rfl⟩

open Library

/-- Books are described by a strategy. -/
def describedBooks : Graph := .ofList [⟨.iri bookClass, Rule.describeStrategy, .iri bookStrategy⟩]

theorem registry_perform_behind :
    let h := Host.ofRegistry [] []
    let client : Query → Reply := fun _ => .ok (.graph [])
    let request := Request.describe firstBook [bookClass]
    let api := (fresh .empty h).behind client {} h [.request request, .reload describedBooks, .request request]
    h.IsSteady ∧
    (api.perform client {} h (.request request)).1 =
      ((fresh describedBooks h).perform client {} h (.request request)).1 ∧
    (api.perform client {} h (.reload .empty)).1 = .replaced api.current ∧ api.current.graph = describedBooks := by
  intro h client request api
  have hh : h.IsSteady := isSteady_ofRegistry [] []
  obtain ⟨hrequest, hreload⟩ :=
    perform_behind hh client {} .empty [.request request, .reload describedBooks, .request request]
  obtain ⟨hreplaced, -, hgraph⟩ := hreload .empty
  exact ⟨hh, hrequest request, hreplaced, hgraph⟩

end Api
end CollectionQuery
