import CollectionQuery.Proofs.Collection.Assemble
import CollectionQuery.Proofs.Collection.Links
import CollectionQuery.Proofs.Collection.Resolver
import CollectionQuery.Proofs.Search.Params

/-! The queries that a rendering sends, and the error that it ends with. First come the queries that select the members,
    which the collection and the parameters decide, and then those that load their data, which the members decide as
    well. Either are put in turn, up to the first one that fails. -/

namespace CollectionQuery

/-! ### Queries in turn -/

/-- The shape of the answers to the query. -/
def Query.shape : Query → Shape
  | select _ => .solutions
  | construct _ _ | describe _ => .graph
  | ask _ => .boolean

/-- Why a reply is no answer to the query, none if it is one. -/
def Query.error? (q : Query) : Reply → Option EndpointError
  | .error e => some e
  | .ok result => if result.shape = q.shape then none else some (.unexpectedShape q.shape result.shape)

/-- Puts some queries in turn up to the first one that fails. The result is what was sent, and why the last one
    failed. -/
def attempt (endpoint : List Query → Query → Reply) :
    (sent : List Query) → List Query → List Query × Option EndpointError
  | sent, [] => (sent, none)
  | sent, q :: qs =>
    match q.error? (endpoint sent q) with
    | some e => (sent ++ [q], some e)
    | none => attempt endpoint (sent ++ [q]) qs

section Attempt
variable {endpoint : List Query → Query → Reply} {sent : List Query} {q : Query}

/-- Solutions are read from a reply unless it is no answer. -/
theorem Reply.solutions_cases (hq : q.shape = .solutions) (reply : Reply) :
    (∃ e, q.error? reply = some e ∧ reply.solutions = .error e) ∨
      q.error? reply = none ∧ ∃ rows, reply = .ok (.solutions rows) := by
  rcases reply with e | result
  · exact .inl ⟨e, rfl, rfl⟩
  · cases result <;> simp [solutions, Query.error?, QueryResult.shape, hq]

theorem Reply.triples_cases (hq : q.shape = .graph) (reply : Reply) :
    (∃ e, q.error? reply = some e ∧ reply.triples = .error e) ∨
      q.error? reply = none ∧ ∃ ts, reply.triples = .ok ts := by
  rcases reply with e | result
  · exact .inl ⟨e, rfl, rfl⟩
  · cases result <;> simp [triples, Query.error?, QueryResult.shape, hq]

theorem attempt_singleton : attempt endpoint sent [q] = (sent ++ [q], q.error? (endpoint sent q)) := by
  unfold attempt
  cases q.error? (endpoint sent q) <;> rfl

theorem attempt_cons_some {e : EndpointError} (h : q.error? (endpoint sent q) = some e) (qs : List Query) :
    attempt endpoint sent (q :: qs) = (sent ++ [q], some e) := by
  rw [attempt, h]

theorem attempt_cons_none (h : q.error? (endpoint sent q) = none) (qs : List Query) :
    attempt endpoint sent (q :: qs) = attempt endpoint (sent ++ [q]) qs := by
  rw [attempt, h]

theorem length_attempt_le (endpoint : List Query → Query → Reply) (sent qs : List Query) :
    (attempt endpoint sent qs).1.length ≤ sent.length + qs.length := by
  induction qs generalizing sent with
  | nil => exact Nat.le_refl _
  | cons q qs ih =>
    cases h : q.error? (endpoint sent q) with
    | some e =>
      rw [attempt_cons_some h]
      simp
    | none =>
      rw [attempt_cons_none h]
      have hle := ih (sent ++ [q])
      simp only [List.length_append, List.length_cons, List.length_nil] at hle ⊢
      omega

end Attempt

namespace Collection
open Rendering Conversation
variable {c : Collection} {params : SearchParams} {options : Options} {r r' : Resolver}
  {endpoint : List Query → Query → Reply} {sent selects : List Query} {members : List Iri} {total : Nat}

/-! ### Selecting -/

/-- The queries that select the members, and the resolver behind putting them together: none if the members are listed
    or there is no valid assertion. -/
structure SelectsBy (c : Collection) (params : SearchParams) (options : Options) (r : Resolver) (selects : List Query)
    (r' : Resolver) : Prop where
  listed : c.members ≠ none → selects = [] ∧ r' = r
  unruled : c.members = none → ¬c.HasValidAssertion → selects = [] ∧ r' = r
  queried : c.members = none → c.HasValidAssertion → ∃ queries,
    (MemberQueries.assemble c params options r).value = (some queries, r') ∧ selects = [queries.members, queries.total]

/-- The members and their number: as listed, none without a valid assertion, and otherwise what the replies tell. -/
structure FindsBy (c : Collection) (options : Options) (endpoint : List Query → Query → Reply) (selects : List Query)
    (members : List Iri) (total : Nat) : Prop where
  nodup : members.Nodup
  listed : ∀ listed, c.members = some listed → members = listed.eraseDups ∧ total = members.length
  unruled : c.members = none → ¬c.HasValidAssertion → members = [] ∧ total = 0
  queried : ∀ first second, selects = [first, second] → ∃ rows counts,
    endpoint [] first = .ok (.solutions rows) ∧ endpoint [first] second = .ok (.solutions counts) ∧
    members = membersOf options.member rows ∧ total = (totalOf counts).value

/-- Asking ends with the reason why the reply is no answer, and otherwise with its solutions. -/
theorem after_asking_solutions {q : Query} (hq : q.shape = .solutions) (endpoint : List Query → Query → Reply)
    (sent : List Query) (r : Resolver) :
    (∃ e, q.error? (endpoint sent q) = some e ∧
      after endpoint sent r (asking q Reply.solutions) = ⟨.error (.endpoint e), r, sent ++ [q]⟩) ∨
    q.error? (endpoint sent q) = none ∧ ∃ rows, endpoint sent q = .ok (.solutions rows) ∧
      after endpoint sent r (asking q Reply.solutions) = ⟨.ok rows, r, sent ++ [q]⟩ := by
  rw [after_asking]
  rcases Reply.solutions_cases hq (endpoint sent q) with ⟨e, he, hread⟩ | ⟨he, rows, hread⟩
  · exact .inl ⟨e, he, by rw [hread]; rfl⟩
  · exact .inr ⟨he, rows, hread, by rw [hread]; rfl⟩

theorem after_select_of_listed {listed : List Iri} (hc : c.members = some listed) :
    after endpoint sent r (c.select params options) = ⟨.ok (listed.eraseDups, listed.eraseDups.length), r, sent⟩ := by
  unfold select
  rw [hc]
  rfl

theorem after_select_of_unruled (hc : c.members = none) (hv : ¬c.HasValidAssertion) :
    after endpoint sent r (c.select params options) = ⟨.ok ([], 0), r, sent⟩ := by
  have hassemble : (MemberQueries.assemble c params options r).value = (none, r) := by
    rw [MemberQueries.value_assemble, if_pos]
    rwa [List.isEmpty_iff, MemberQueries.assertionPatterns_eq_nil_iff]
  unfold select
  rw [hc, after_bind_ok (after_resolving _), hassemble]
  rfl

/-- The query for the members is put first. Unless it fails, the one for their number is put. -/
theorem after_select_of_queries (hc : c.members = none) {queries : MemberQueries}
    (hq : (MemberQueries.assemble c params options r).value = (some queries, r'))
    (hmembers : queries.members.shape = .solutions) (htotal : queries.total.shape = .solutions)
    (endpoint : List Query → Query → Reply) (sent : List Query) :
    (∃ sent' e, attempt endpoint sent [queries.members, queries.total] = (sent', some e) ∧
      after endpoint sent r (c.select params options) = ⟨.error (.endpoint e), r', sent'⟩) ∨
    attempt endpoint sent [queries.members, queries.total] = (sent ++ [queries.members, queries.total], none) ∧
      ∃ rows counts, endpoint sent queries.members = .ok (.solutions rows) ∧
        endpoint (sent ++ [queries.members]) queries.total = .ok (.solutions counts) ∧
        after endpoint sent r (c.select params options) =
          ⟨.ok (membersOf options.member rows, (totalOf counts).value), r',
            sent ++ [queries.members, queries.total]⟩ := by
  unfold select
  rw [hc, after_bind_ok (after_resolving _), hq]
  dsimp only
  rcases after_asking_solutions hmembers endpoint sent r' with
    ⟨e, he, hfirst⟩ | ⟨he, rows, hrows, hfirst⟩
  · exact .inl ⟨_, e, attempt_cons_some he _, after_bind_error hfirst⟩
  rw [attempt_cons_none he, attempt_singleton, after_bind_ok hfirst]
  rcases after_asking_solutions htotal endpoint (sent ++ [queries.members]) r' with
    ⟨e, he, hsecond⟩ | ⟨he, counts, hcounts, hsecond⟩
  · exact .inl ⟨_, e, by rw [he], after_bind_error hsecond⟩
  rw [he, after_bind_ok hsecond, after_bind_ok (after_noted _), List.append_assoc]
  exact .inr ⟨rfl, rows, counts, hrows, hcounts, rfl⟩

/-- Selecting puts its queries in turn. It ends with the error of the first that fails, and otherwise with the members
    and their number. -/
theorem after_select (c : Collection) (params : SearchParams) (options : Options) (r : Resolver)
    (endpoint : List Query → Query → Reply) : ∃ selects r', c.SelectsBy params options r selects r' ∧
      ((∃ sent e, attempt endpoint [] selects = (sent, some e) ∧
        after endpoint [] r (c.select params options) = ⟨.error (.endpoint e), r', sent⟩) ∨
      attempt endpoint [] selects = (selects, none) ∧ ∃ members total,
        c.FindsBy options endpoint selects members total ∧
        after endpoint [] r (c.select params options) = ⟨.ok (members, total), r', selects⟩) := by
  cases hc : c.members with
  | some listed =>
    have hsome {P : Prop} (h : c.members = none) : P := nomatch hc.symm.trans h
    refine ⟨[], r, ⟨fun _ => ⟨rfl, rfl⟩, hsome, hsome⟩, .inr ⟨rfl, _, _, ?_, after_select_of_listed hc⟩⟩
    exact {
      nodup := nodup_eraseDups listed
      listed := fun listed' h => by
        obtain rfl := Option.some.inj (hc.symm.trans h)
        exact ⟨rfl, rfl⟩
      unruled := hsome
      queried := fun _ _ h => nomatch h }
  | none =>
    by_cases hv : c.HasValidAssertion
    · have hq : (MemberQueries.assemble c params options r).value =
          (some (MemberQueries.queriesOf c params options r), (MemberQueries.assemble c params options r).value.2) :=
        Prod.ext (MemberQueries.queriesOf_mem_assemble hv _ _ _) rfl
      refine ⟨_, _, ⟨fun h => absurd hc h, fun _ h => absurd hv h, fun _ _ => ⟨_, hq, rfl⟩⟩, ?_⟩
      rcases after_select_of_queries hc hq rfl rfl endpoint [] with
        hfails | ⟨hall, rows, counts, hrows, hcounts, hfound⟩
      · exact .inl hfails
      refine .inr ⟨hall, _, _, ?_, hfound⟩
      exact {
        nodup := nodup_eraseDups _
        listed := fun _ h => nomatch hc.symm.trans h
        unruled := fun _ h => absurd hv h
        queried := fun first second h => by
          cases h
          exact ⟨rows, counts, hrows, hcounts, rfl, rfl⟩ }
    · refine ⟨[], r, ⟨fun _ => ⟨rfl, rfl⟩, fun _ _ => ⟨rfl, rfl⟩, fun _ h => absurd h hv⟩,
        .inr ⟨rfl, _, _, ?_, after_select_of_unruled hc hv⟩⟩
      exact {
        nodup := List.nodup_nil
        listed := fun _ h => nomatch hc.symm.trans h
        unruled := fun _ _ => ⟨rfl, rfl⟩
        queried := fun _ _ h => nomatch h }

/-! ### Loading -/

/-- The queries that load the members through includes: one for those of the collection, and one for those of the
    classes if there are any. -/
def describes (c : Collection) (options : Options) (members : List Iri) : List Query :=
  Links.describe options.member members (Links.branches options.member c.includes) ::
    if c.classIncludes.isEmpty then []
    else [Links.describe options.member members (Links.branches options.member c.classIncludes)]

theorem shape_describe (v : Variable) (members : List Iri) (branches : List Pattern) :
    (Links.describe v members branches).shape = .graph := by
  cases branches <;> rfl

theorem holdAfter_load (hm : members ≠ []) (v : Variable) (includes : List IncludeRule)
    (endpoint : List Query → Query → Reply) (sent : List Query) :
    let q := Links.describe v members (Links.branches v includes)
    (holdAfter endpoint sent (Links.load v members includes)).outcome = (endpoint sent q).triples ∧
      (holdAfter endpoint sent (Links.load v members includes)).queries = sent ++ [q] := by
  unfold Links.load
  rw [holdAfter_bind, queries_holdAfter_bind, outcome_ofNoted, queries_ofNoted, Links.value_query, if_neg hm]
  exact ⟨rfl, rfl⟩

/-- Following includes puts one query. It ends with the reason why the reply is no answer, and otherwise with its
    triples. -/
theorem after_following (hm : members ≠ []) (v : Variable) (includes : List IncludeRule)
    (endpoint : List Query → Query → Reply) (sent : List Query) (r : Resolver) :
    let q := Links.describe v members (Links.branches v includes)
    let result := after endpoint sent r (conversing ((DescribeStrategy.following v includes).describe members))
    (∃ e, q.error? (endpoint sent q) = some e ∧ result = ⟨.error (.endpoint e), r, sent ++ [q]⟩) ∨
    q.error? (endpoint sent q) = none ∧ ∃ ts, result = ⟨.ok ts, r, sent ++ [q]⟩ := by
  intro q result
  obtain ⟨houtcome, hqueries⟩ := holdAfter_load hm v includes endpoint sent
  have hresult : result = ⟨(endpoint sent q).triples.mapError .endpoint, r, sent ++ [q]⟩ := by
    unfold result DescribeStrategy.following
    rw [after_conversing, holdAfter_bind, queries_holdAfter_bind, houtcome, hqueries]
    cases (endpoint sent q).triples <;> rfl
  rw [hresult]
  rcases Reply.triples_cases (shape_describe v members _) (endpoint sent q) with ⟨e, he, hread⟩ | ⟨he, ts, hread⟩
  · exact .inl ⟨e, he, by rw [hread]; rfl⟩
  · exact .inr ⟨he, ts, by rw [hread]; rfl⟩

theorem after_loadMembers_nil : after endpoint sent r (c.loadMembers options []) = ⟨.ok [], r, sent⟩ := rfl

/-- The resolver finds no strategy of the collection: it declares none, or a single one that nothing is known about. -/
def LacksStrategy (c : Collection) (r : Resolver) : Prop :=
  c.strategies = [] ∨ ∃ reference, c.strategies = [reference] ∧ (r.strategy reference).value.1 = none

theorem after_onlyStrategy (h : c.LacksStrategy r) (endpoint : List Query → Query → Reply) (sent : List Query) :
    ∃ r', after endpoint sent r (resolving (Resolver.onlyStrategy (.iri c.iri) c.strategies false)) =
      ⟨.ok (.ok none), r', sent⟩ := by
  rw [after_resolving]
  rcases h with h | ⟨reference, h, hnone⟩
  · rw [h]
    exact ⟨r, rfl⟩
  · rw [h, Resolver.value_onlyStrategy_singleton, hnone]
    exact ⟨_, rfl⟩

/-- Without a strategy the data is loaded through includes, by queries in turn. -/
theorem after_loadMembers_of_lacksStrategy (hm : members ≠ []) (h : c.LacksStrategy r) :
    ∃ r', (∃ sent' e, attempt endpoint sent (c.describes options members) = (sent', some e) ∧
        after endpoint sent r (c.loadMembers options members) = ⟨.error (.endpoint e), r', sent'⟩) ∨
      ∃ sent' ts, attempt endpoint sent (c.describes options members) = (sent', none) ∧
        after endpoint sent r (c.loadMembers options members) = ⟨.ok ts, r', sent'⟩ := by
  obtain ⟨r', hnone⟩ := after_onlyStrategy h endpoint sent
  refine ⟨r', ?_⟩
  unfold loadMembers
  rw [if_neg (by simpa using hm), after_bind_ok hnone, after_bind_ok (after_outcome _)]
  unfold describes
  rcases after_following hm options.member c.includes endpoint sent r' with
    ⟨e, he, hown⟩ | ⟨he, own, hown⟩
  · exact .inl ⟨_, e, attempt_cons_some he _, after_bind_error hown⟩
  rw [attempt_cons_none he, after_bind_ok hown]
  -- Without includes of classes there is no second query.
  split
  · exact .inr ⟨_, own, rfl, rfl⟩
  rw [attempt_singleton]
  rcases after_following hm options.member c.classIncludes endpoint _ r' with
    ⟨e, he, htyped⟩ | ⟨he, typed, htyped⟩
  · exact .inl ⟨_, e, by rw [he], after_bind_error htyped⟩
  · exact .inr ⟨_, _, by rw [he]; rfl, after_bind_ok htyped⟩

theorem after_loadMembers_of_strategy (hm : members ≠ []) {reference : Iri} (hs : c.strategies = [reference])
    {s : DescribeStrategy} (h : (r.strategy reference).value.1 = some s) :
    ∃ r', after endpoint sent r (c.loadMembers options members) =
      ⟨(holdAfter endpoint sent (s.describe members)).outcome, r',
        (holdAfter endpoint sent (s.describe members)).queries⟩ := by
  refine ⟨(r.strategy reference).value.2, ?_⟩
  unfold loadMembers
  rw [if_neg (by simpa using hm), hs, after_bind_ok (after_resolving _), Resolver.value_onlyStrategy_singleton, h,
    after_bind_ok (after_outcome _)]
  exact after_conversing _

theorem after_loadMembers_of_ambiguous (hm : members ≠ []) (h : 2 ≤ c.strategies.length) :
    after endpoint sent r (c.loadMembers options members) =
      ⟨.error (.ambiguousStrategy (.iri c.iri) c.strategies.length), r, sent⟩ := by
  unfold loadMembers
  rw [if_neg (by simpa using hm), after_bind_ok (after_resolving _), Resolver.value_onlyStrategy_of_two_le h,
    after_bind_error (after_outcome _)]

/-! ### Rendering -/

/-- The outcome is an error if there is one, and otherwise a page of the members that tells the number of all. -/
def Concludes (outcome : Except CollectionError Page) (members : List Iri) (total : Nat) : Option CollectionError → Prop
  | some e => outcome = .error e
  | none => ∃ page, outcome = .ok page ∧ page.members = members ∧ page.total = total

/-- Why there is no outcome, if there is none. -/
def failure? {α : Type} : Except CollectionError α → Option CollectionError
  | .error e => some e
  | .ok _ => none

theorem after_render_of_select_error {e : CollectionError}
    (h : after endpoint sent r (c.select params options) = ⟨.error e, r', selects⟩) :
    after endpoint sent r (c.render params options) = ⟨.error e, r', selects⟩ := after_bind_error h

/-- Behind loading nothing is sent and nothing fails. -/
theorem after_render_of_select
    (h : after endpoint sent r (c.select params options) = ⟨.ok (members, total), r', selects⟩)
    {loaded : Result (List Triple)} (hload : after endpoint selects r' (c.loadMembers options members) = loaded) :
    (after endpoint sent r (c.render params options)).queries = loaded.queries ∧
      Concludes (after endpoint sent r (c.render params options)).outcome members total (failure? loaded.outcome) := by
  have hrender : after endpoint sent r (c.render params options) = _ := after_bind_ok h
  obtain ⟨outcome, r'', queries⟩ := loaded
  cases outcome with
  | error e =>
    rw [hrender.trans (after_bind_error hload)]
    exact ⟨rfl, rfl⟩
  | ok ts =>
    rw [hrender.trans (after_bind_ok hload)]
    dsimp only
    split
    · rw [after_bind_ok (after_noted _)]
      exact ⟨rfl, _, rfl, rfl, rfl⟩
    · rw [after_bind_ok (after_pure _)]
      exact ⟨rfl, _, rfl, rfl, rfl⟩

/-! ### Traces -/

theorem mem_describes {q : Query} (h : q ∈ c.describes options members) : ∃ s : Select, q = .describe s ∧
    (s.pattern = .values options.member members ∨ ∃ p, s.pattern = .leftJoin (.values options.member members) p) := by
  have hvalues : ∀ includes, ∃ s : Select,
      Links.describe options.member members (Links.branches options.member includes) = .describe s ∧
      (s.pattern = .values options.member members ∨ ∃ p, s.pattern = .leftJoin (.values options.member members) p) := by
    intro includes
    cases Links.branches options.member includes with
    | nil => exact ⟨_, rfl, .inl rfl⟩
    | cons b bs => exact ⟨_, rfl, .inr ⟨_, rfl⟩⟩
  unfold describes at h
  rcases List.mem_cons.mp h with rfl | h
  · exact hvalues c.includes
  · split at h
    · cases h
    · obtain rfl := List.mem_singleton.mp h
      exact hvalues c.classIncludes

theorem length_describes (c : Collection) (options : Options) (members : List Iri) :
    (c.describes options members).length = if c.classIncludes.isEmpty then 1 else 2 := by
  unfold describes
  split <;> rfl

theorem SelectsBy.length_le (h : c.SelectsBy params options r selects r') : selects.length ≤ 2 := by
  cases hc : c.members with
  | some listed => simp [(h.listed (by simp [hc])).1]
  | none =>
    by_cases hv : c.HasValidAssertion
    · obtain ⟨queries, -, rfl⟩ := h.queried hc hv
      rfl
    · simp [(h.unruled hc hv).1]

section Selected
variable (h : after endpoint sent r (c.select params options) = ⟨.ok (members, total), r', selects⟩)
include h

theorem after_render_of_nil (hm : members = []) :
    (after endpoint sent r (c.render params options)).queries = selects ∧
      Concludes (after endpoint sent r (c.render params options)).outcome members total none := by
  subst hm
  exact after_render_of_select h after_loadMembers_nil

theorem after_render_of_lacksStrategy (hm : members ≠ []) (hs : c.LacksStrategy r') :
    let loads := attempt endpoint selects (c.describes options members)
    (after endpoint sent r (c.render params options)).queries = loads.1 ∧
      Concludes (after endpoint sent r (c.render params options)).outcome members total (loads.2.map .endpoint) := by
  obtain ⟨r'', ⟨sent', e, hloads, hload⟩ | ⟨sent', ts, hloads, hload⟩⟩ := after_loadMembers_of_lacksStrategy hm hs
  all_goals
    rw [hloads]
    exact after_render_of_select h hload

theorem after_render_of_strategy (hm : members ≠ []) {reference : Iri} (hs : c.strategies = [reference])
    {s : DescribeStrategy} (hknown : (r'.strategy reference).value.1 = some s) :
    let own := holdAfter endpoint selects (s.describe members)
    (after endpoint sent r (c.render params options)).queries = own.queries ∧
      Concludes (after endpoint sent r (c.render params options)).outcome members total (failure? own.outcome) := by
  obtain ⟨r'', hload⟩ := after_loadMembers_of_strategy hm hs hknown
  exact after_render_of_select h hload

theorem after_render_of_ambiguous (hm : members ≠ []) (hs : 2 ≤ c.strategies.length) :
    (after endpoint sent r (c.render params options)).queries = selects ∧
      (after endpoint sent r (c.render params options)).outcome =
        .error (.ambiguousStrategy (.iri c.iri) c.strategies.length) :=
  after_render_of_select h (after_loadMembers_of_ambiguous hm hs)

/-- Unless a strategy is found, at most the queries for the includes follow. -/
theorem length_queries_le (hs : ∀ reference s, c.strategies = [reference] → (r'.strategy reference).value.1 ≠ some s) :
    (after endpoint sent r (c.render params options)).queries.length ≤ selects.length + 2 := by
  by_cases hm : members = []
  · rw [(after_render_of_nil h hm).1]
    exact Nat.le_add_right _ _
  by_cases htwo : 2 ≤ c.strategies.length
  · rw [(after_render_of_ambiguous h hm htwo).1]
    exact Nat.le_add_right _ _
  -- What is left is no reference, or a single one that is unknown.
  have hlacks : c.LacksStrategy r' := by
    cases hc : c.strategies with
    | nil => exact .inl hc
    | cons reference rest =>
      obtain rfl : rest = [] := by
        rw [hc, List.length_cons] at htwo
        exact List.length_eq_zero_iff.mp (by omega)
      exact .inr ⟨reference, hc, Option.eq_none_iff_forall_ne_some.mpr fun s => hs reference s hc⟩
  rw [(after_render_of_lacksStrategy h hm hlacks).1]
  refine (length_attempt_le endpoint selects _).trans (Nat.add_le_add_left ?_ _)
  rw [length_describes]
  split <;> decide

end Selected

/-- A rendering puts the queries that select members, and if none fails and there are members, it loads their data: by
    the queries for the includes, unless a strategy of the collection is found or it declares several. It ends with the
    error of the first query that fails. -/
theorem render_trace (c : Collection) (params : SearchParams) (options : Options) (r : Resolver)
    (endpoint : List Query → Query → Reply) :
    let record := hold endpoint ((c.render params options).run r)
    ∃ selects r', c.SelectsBy params options r selects r' ∧ selects.length ≤ 2 ∧
      (∀ sent e, attempt endpoint [] selects = (sent, some e) →
        record.queries = sent ∧ record.outcome.1 = .error (.endpoint e)) ∧
      ((attempt endpoint [] selects).2 = none → ∃ members total, c.FindsBy options endpoint selects members total ∧
        (members = [] → record.queries = selects ∧ Concludes record.outcome.1 members total none) ∧
        (members ≠ [] → c.LacksStrategy r' →
          let loads := attempt endpoint selects (c.describes options members)
          record.queries = loads.1 ∧ Concludes record.outcome.1 members total (loads.2.map .endpoint)) ∧
        (∀ q ∈ c.describes options members, ∃ s : Select, q = .describe s ∧
          (s.pattern = .values options.member members ∨
            ∃ p, s.pattern = .leftJoin (.values options.member members) p)) ∧
        (c.describes options members).length = (if c.classIncludes.isEmpty then 1 else 2) ∧
        (members ≠ [] → ∀ reference s, c.strategies = [reference] → (r'.strategy reference).value.1 = some s →
          let own := holdAfter endpoint selects (s.describe members)
          record.queries = own.queries ∧ Concludes record.outcome.1 members total (failure? own.outcome)) ∧
        (members ≠ [] → 2 ≤ c.strategies.length → record.queries = selects ∧
          record.outcome.1 = .error (.ambiguousStrategy (.iri c.iri) c.strategies.length))) ∧
      ((∀ reference s, c.strategies = [reference] → (r'.strategy reference).value.1 ≠ some s) →
        record.queries.length ≤ 4) := by
  intro record
  obtain ⟨selects, r', hselects, hselected⟩ := after_select c params options r endpoint
  have hlength : selects.length ≤ 2 := hselects.length_le
  refine ⟨selects, r', hselects, hlength, ?_⟩
  rcases hselected with ⟨sent, e, hattempt, hfails⟩ | ⟨hattempt, members, total, hfinds, hfound⟩
  · have hrender := after_render_of_select_error hfails
    have hqueries : record.queries = sent := congrArg Result.queries hrender
    have hsent : sent.length ≤ selects.length := by
      have hle := length_attempt_le endpoint [] selects
      rwa [hattempt, List.length_nil, Nat.zero_add] at hle
    refine ⟨fun sent' e' h => ?_, fun h => ?_, fun _ => ?_⟩
    · cases hattempt.symm.trans h
      exact ⟨hqueries, congrArg Result.outcome hrender⟩
    · rw [hattempt] at h
      cases h
    · rw [hqueries]
      omega
  · refine ⟨fun sent' e' h => (nomatch hattempt.symm.trans h), fun _ => ⟨members, total, hfinds, ?_⟩, fun hs => ?_⟩
    · exact ⟨after_render_of_nil hfound, after_render_of_lacksStrategy hfound, fun q => mem_describes,
        length_describes c options members, fun hm reference s hs => after_render_of_strategy hfound hm hs,
        after_render_of_ambiguous hfound⟩
    · exact (length_queries_le hfound hs).trans (by omega)

end Collection
end CollectionQuery
