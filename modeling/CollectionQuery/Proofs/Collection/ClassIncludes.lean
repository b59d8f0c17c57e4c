import CollectionQuery.Proofs.Collection.Ambiguity
import CollectionQuery.Proofs.Collection.ClassRules
import CollectionQuery.Proofs.Collection.Trace
import CollectionQuery.Proofs.Rdf.Graph

/-! Includes of classes, followed in two ways. The members of a page are put to one query with the includes of all
    classes, each of them for members of its class; a resource is put to a query with the includes of the classes that
    it is known to have. If these are its types in the dataset, both queries describe the same for it. -/

namespace CollectionQuery
open Pattern Rendering

/-! ### Two lists of includes -/

section Includes
variable {api g : Graph} {classes types : List Iri} {rule : IncludeRule} {x y : Term}

theorem Collection.mem_typedIncludes : rule ∈ Collection.typedIncludes api ↔ ∃ c node,
    ⟨.iri c, Rule.includes, node⟩ ∈ api.toList ∧ { IncludeRule.read api node with memberType := some c } = rule := by
  unfold typedIncludes
  rw [List.mem_filterMap]
  constructor
  · rintro ⟨⟨s, p, node⟩, ht, h⟩
    rw [Graph.ofPredicate_eq, List.mem_filter] at ht
    obtain ⟨ht, hp⟩ := ht
    obtain rfl : p = Rule.includes := of_decide_eq_true hp
    cases s with
    | iri c => exact ⟨c, node, ht, Option.some.inj h⟩
    | blank _ | literal _ => cases h
  · rintro ⟨c, node, ht, rfl⟩
    refine ⟨⟨.iri c, Rule.includes, node⟩, ?_, rfl⟩
    rw [Graph.ofPredicate_eq]
    exact List.mem_filter.mpr ⟨ht, decide_eq_true rfl⟩

theorem Graph.mem_includesOf : rule ∈ api.includesOf classes ↔ ∃ c ∈ classes, ∃ node,
    ⟨.iri c, Rule.includes, node⟩ ∈ api.toList ∧ IncludeRule.read api node = rule := by
  have hlinks (c : Iri) (node : Term) :
      node ∈ Source.links ⟨api, .iri c⟩ [Rule.includes] ↔ ⟨.iri c, Rule.includes, node⟩ ∈ api.toList := by
    rw [Source.links, List.flatMap_singleton]
    exact mem_objects
  unfold includesOf
  simp only [List.mem_map, Prod.exists, Source.mem_declared_ofClasses, hlinks]
  constructor
  · rintro ⟨_, node, ⟨rfl, c, hc, ht⟩, rfl⟩
    exact ⟨c, hc, node, ht, rfl⟩
  · rintro ⟨c, hc, node, ht, rfl⟩
    exact ⟨api, node, ⟨rfl, c, hc, ht⟩, rfl⟩

/-- An include leads from a term of its class if it leads from the term at all. -/
theorem IncludeRule.leads_withType {path : Except ReadError Path} {node : Term} {c : Iri} :
    IncludeRule.Leads g ⟨node, path, some c⟩ x y ↔
      IncludeRule.Leads g ⟨node, path, none⟩ x y ∧ ⟨x, Rdf.type, .iri c⟩ ∈ g.toList := by
  simp only [Leads, Option.mem_def, Option.some.injEq, forall_eq', reduceCtorEq, false_implies, implies_true, and_true,
    ← exists_and_right, and_assoc]

/-- Includes for the types of a term lead to what the includes of all classes lead to from it. -/
theorem exists_leads_typedIncludes_iff (htypes : ∀ c, c ∈ types ↔ ⟨x, Rdf.type, .iri c⟩ ∈ g.toList) :
    (∃ rule ∈ Collection.typedIncludes api, rule.Leads g x y) ↔ ∃ rule ∈ api.includesOf types, rule.Leads g x y := by
  simp only [Collection.mem_typedIncludes, Graph.mem_includesOf]
  constructor
  · rintro ⟨_, ⟨c, node, ht, rfl⟩, hleads⟩
    obtain ⟨hleads, htype⟩ := IncludeRule.leads_withType.mp hleads
    exact ⟨_, ⟨c, (htypes c).mpr htype, node, ht, rfl⟩, hleads⟩
  · rintro ⟨_, ⟨c, hc, node, ht, rfl⟩, hleads⟩
    exact ⟨_, ⟨c, node, ht, rfl⟩, IncludeRule.leads_withType.mpr ⟨hleads, (htypes c).mp hc⟩⟩

end Includes

/-! ### What is described for one member -/

namespace Links
variable {d : Dataset} {v : Variable} {members : List Iri} {m : Iri}

/-- The terms that a query describes for a member: the values of the member and of the linked resource in the
    solutions for it. -/
def describedFor (d : Dataset) (v : Variable) (q : Query) (m : Iri) : Set Term :=
  {t | ∃ row ∈ q.selection.rows d, row.lookup v = some (.iri m) ∧
    (row.lookup v = some t ∨ row.lookup linkedVariable = some t)}

/-- The rows for one of several members are those for the member alone. -/
theorem mem_rows_leftJoin_alone {g : Graph} {p : Pattern} (hp : ∀ b ∈ p.rows d g, v ∈ b) (hm : m ∈ members)
    {r : Row Variable} : r ∈ (Pattern.leftJoin (.values v [m]) p).rows d g ↔
      r ∈ (Pattern.leftJoin (.values v members) p).rows d g ∧ r.lookup v = some (.iri m) := by
  simp only [mem_rows_leftJoin_values hp, List.mem_singleton, exists_eq_left]
  constructor
  · rintro (⟨hr, hlookup⟩ | ⟨rfl, hnone⟩)
    · exact ⟨.inl ⟨hr, m, hm, hlookup⟩, hlookup⟩
    · exact ⟨.inr ⟨m, hm, rfl, hnone⟩, Finmap.lookup_singleton_eq⟩
  · rintro ⟨⟨hr, -⟩ | ⟨m', -, rfl, hnone⟩, hlookup⟩
    · exact .inl ⟨hr, hlookup⟩
    · rw [Finmap.lookup_singleton_eq] at hlookup
      obtain rfl : m' = m := Term.iri.inj (Option.some.inj hlookup)
      exact .inr ⟨rfl, hnone⟩

/-- Asking for several members describes for each of them what asking for it alone does. -/
theorem describedFor_describe {ps : List Pattern} (hps : ∀ p ∈ ps, ∀ b ∈ p.rows d d.default, v ∈ b) (hm : m ∈ members) :
    describedFor d v (describe v members ps) m = described d v (describe v [m] ps) := by
  ext t
  cases ps with
  | nil =>
    simp only [describedFor, described, Set.mem_ofPred_eq, mem_rows_describe_nil, List.mem_singleton, exists_eq_left]
    constructor
    · rintro ⟨_, ⟨m', -, rfl⟩, hlookup, h⟩
      rw [Finmap.lookup_singleton_eq] at hlookup
      obtain rfl : m' = m := Term.iri.inj (Option.some.inj hlookup)
      exact ⟨_, rfl, h⟩
    · rintro ⟨_, rfl, h⟩
      exact ⟨_, ⟨m, hm, rfl⟩, Finmap.lookup_singleton_eq, h⟩
  | cons p ps =>
    have hbind := mem_of_mem_rows_union hps
    have hall : t ∈ describedFor d v (describe v members (p :: ps)) m ↔ _ :=
      exists_row_describe_cons fun x y => x = some (.iri m) ∧ (x = some t ∨ y = some t)
    have halone : t ∈ described d v (describe v [m] (p :: ps)) ↔ _ :=
      exists_row_describe_cons fun x y => x = some t ∨ y = some t
    simp only [hall, halone, mem_rows_leftJoin_alone hbind hm, and_assoc]

theorem describedFor_branches (hv : v ≠ linkedVariable) (includes : List IncludeRule) (hm : m ∈ members) :
    describedFor d v (describe v members (branches v includes)) m =
      described d v (describe v [m] (branches v includes)) :=
  describedFor_describe (fun _ hp => mem_of_mem_rows_branches hv hp) hm

/-- The query with the includes of all classes describes for a member what the query with the includes of its types
    describes. -/
theorem describedFor_typedIncludes (hv : v ≠ linkedVariable) {types : List Iri}
    (htypes : ∀ c, c ∈ types ↔ ⟨.iri m, Rdf.type, .iri c⟩ ∈ d.default.toList) (api : Graph) (hm : m ∈ members) :
    describedFor d v (describe v members (branches v (Collection.typedIncludes api))) m =
      described d v (describe v [m] (branches v (api.includesOf types))) := by
  rw [describedFor_branches hv _ hm, described_query hv, described_query hv]
  simp only [List.mem_singleton, exists_eq_left, exists_leads_typedIncludes_iff htypes]

end Links

/-! ### The queries that are sent -/

section Queries
variable {iri : Iri} {own api : Graph} {options : Options} {members : List Iri} {m : Iri} {types : List Iri}
  {endpoint : List Query → Query → Reply} {sent : List Query} {r : Resolver}

theorem Collection.strategies_read_eq_nil (hown : ∀ t ∈ own.toList, t.predicate ≠ Rule.memberDescribeStrategy)
    (hapi : ∀ t ∈ api.toList, t.predicate ≠ Rule.memberDescribeStrategy) :
    (Collection.read iri own api).value.strategies = [] := by
  refine List.eq_nil_iff_forall_not_mem.mpr fun reference hreference => ?_
  rcases Collection.refersTo_of_mem_strategies hreference with ⟨t, ht, hp, -⟩ | ⟨t, ht, hp, -⟩
  · exact hown t ht hp
  · exact hapi t ht hp

/-- A collection without strategies loads its members by two queries, unless the first one fails: with the includes of
    its own, and with those of all classes. -/
theorem queries_loadMembers {c : Collection} (hm : members ≠ []) (hstrategies : c.strategies = [])
    (hincludes : c.classIncludes ≠ []) :
    let query includes := Links.describe options.member members (Links.branches options.member includes)
    (query c.includes).error? (endpoint sent (query c.includes)) = none →
      (after endpoint sent r (c.loadMembers options members)).queries =
        sent ++ [query c.includes, query c.classIncludes] := by
  intro query hanswered
  have hdescribes : c.describes options members = [query c.includes, query c.classIncludes] := by
    unfold Collection.describes
    rw [if_neg (by simpa using hincludes)]
  have hattempt : (attempt endpoint sent (c.describes options members)).1 =
      sent ++ [query c.includes, query c.classIncludes] := by
    rw [hdescribes, attempt_cons_none hanswered, attempt_singleton, List.append_assoc]
    rfl
  have hlacks : c.LacksStrategy r := .inl hstrategies
  obtain ⟨r', ⟨sent', e, hloads, hload⟩ | ⟨sent', ts, hloads, hload⟩⟩ :=
    Collection.after_loadMembers_of_lacksStrategy hm hlacks
  all_goals
    rw [hloads] at hattempt
    rw [hload]
    exact hattempt

/-- A resource whose classes refer to no strategy is described by one query, with the includes of its classes. -/
theorem queries_describeResource {s : Snapshot} (hstrategies : s.graph.strategiesOf types = []) :
    (Conversation.hold endpoint (s.describeResource options m types)).queries =
      [Links.describe options.member [m] (Links.branches options.member (s.graph.includesOf types))] := by
  rw [(Snapshot.hold_describeResource s options m types endpoint).2, hstrategies, Snapshot.after_describing_nil]
  rcases Collection.after_following (List.cons_ne_nil m []) options.member (s.graph.includesOf types) endpoint []
    s.resolver with ⟨e, -, hfails⟩ | ⟨-, ts, hloads⟩
  · rw [hfails]
    rfl
  · rw [hloads]
    rfl

/-- Where an API has includes of classes and no strategies, the members of a page are put to a query with the includes
    of all classes, and a resource to one with those of its types. If its types are those that the dataset gives it, the
    first query describes for it, among other members or alone, what the second one describes. -/
theorem class_includes_agree (s : Snapshot) (hincludes : ∃ c node, ⟨.iri c, Rule.includes, node⟩ ∈ s.graph.toList)
    (hstrategies : ∀ t ∈ s.graph.toList,
      t.predicate ≠ Rule.describeStrategy ∧ t.predicate ≠ Rule.memberDescribeStrategy)
    (options : Options) (hv : options.member = ({} : Options).member) (d : Dataset) (m : Iri) (types : List Iri)
    (htypes : ∀ c, c ∈ types ↔ ⟨.iri m, Rdf.type, .iri c⟩ ∈ d.default.toList) :
    let single := Links.describe options.member [m] (Links.branches options.member (s.graph.includesOf types))
    (∀ endpoint, (Conversation.hold endpoint (s.describeResource options m types)).queries = [single]) ∧
      ∀ iri own members, m ∈ members →
        let c := (Collection.read iri own s.graph).value
        let query includes := Links.describe options.member members (Links.branches options.member includes)
        ((∀ t ∈ own.toList, t.predicate ≠ Rule.memberDescribeStrategy) →
          ∀ endpoint sent r, (query c.includes).error? (endpoint sent (query c.includes)) = none →
            (after endpoint sent r (c.loadMembers options members)).queries =
              sent ++ [query c.includes, query c.classIncludes]) ∧
        Links.describedFor d options.member (query c.classIncludes) m = Links.described d options.member single ∧
        (members = [m] →
          Links.described d options.member (query c.classIncludes) = Links.described d options.member single) := by
  have hlinked : options.member ≠ Links.linkedVariable := by
    rw [hv]
    decide
  have hnone : s.graph.strategiesOf types = [] := Graph.strategiesOf_eq_nil_iff.mpr fun c _ node hnode =>
    absurd rfl (hstrategies _ (Graph.mem_objects.mp hnode)).1
  refine ⟨fun endpoint => queries_describeResource hnone, fun iri own members hm => ?_⟩
  intro c query
  have hsome : c.classIncludes ≠ [] := by
    obtain ⟨class', node, ht⟩ := hincludes
    exact List.ne_nil_of_mem (Collection.mem_typedIncludes.mpr ⟨class', node, ht, rfl⟩)
  have hdescribed (ms : List Iri) (hms : m ∈ ms) :=
    Links.describedFor_typedIncludes (d := d) hlinked htypes s.graph hms
  refine ⟨fun hown => ?_, hdescribed members hm, ?_⟩
  · have hlacks : c.strategies = [] := Collection.strategies_read_eq_nil hown fun t ht => (hstrategies t ht).2
    exact fun endpoint sent r => queries_loadMembers (List.ne_nil_of_mem hm) hlacks hsome
  · rintro rfl
    rw [← Links.describedFor_branches hlinked _ hm]
    exact hdescribed [m] hm

end Queries

/-! ### Books and their authors -/

open Library Conversation

/-- The author of a book, which the API includes, is described along with the book, which may be put to the query with
    others or alone. -/
theorem authors_class_includes_agree :
    let ann : Iri := ⟨"http://example.org/ann"⟩
    let s := (Snapshot.load (.ofList [⟨.iri bookClass, Rule.includes, .iri author⟩]) (.ofRegistry [] [])).value
    let d : Dataset := { default := .ofList [
      ⟨.iri firstBook, Rdf.type, .iri bookClass⟩, ⟨.iri firstBook, author, .iri ann⟩,
      ⟨.iri secondBook, author, .iri ⟨"http://example.org/bob"⟩⟩] }
    let c := (Collection.read books .empty s.graph).value
    ∃ first second single,
      (after silent [] s.resolver (c.loadMembers {} [secondBook, firstBook])).queries = [first, second] ∧
      (hold silent (s.describeResource {} firstBook [bookClass])).queries = [single] ∧
      Links.describedFor d ⟨"member"⟩ second firstBook = Links.described d ⟨"member"⟩ single ∧
      .iri ann ∈ Links.described d ⟨"member"⟩ single := by
  intro ann s d c
  have hgraph : s.graph.toList = [⟨.iri bookClass, Rule.includes, .iri author⟩] := by decide +kernel
  have hincludes : ∃ c node, ⟨.iri c, Rule.includes, node⟩ ∈ s.graph.toList :=
    ⟨_, _, hgraph ▸ List.mem_singleton.mpr rfl⟩
  have hstrategies : ∀ t ∈ s.graph.toList,
      t.predicate ≠ Rule.describeStrategy ∧ t.predicate ≠ Rule.memberDescribeStrategy := by
    rw [hgraph]
    decide
  have hdata : d.default.toList = [⟨.iri firstBook, Rdf.type, .iri bookClass⟩, ⟨.iri firstBook, author, .iri ann⟩,
      ⟨.iri secondBook, author, .iri ⟨"http://example.org/bob"⟩⟩] := by decide +kernel
  have htypes : ∀ c, c ∈ [bookClass] ↔ ⟨.iri firstBook, Rdf.type, .iri c⟩ ∈ d.default.toList := by
    intro c
    rw [hdata]
    simp [author, firstBook, Rdf.type]
  obtain ⟨halone, hpage⟩ := class_includes_agree s hincludes hstrategies {} rfl d firstBook [bookClass] htypes
  obtain ⟨hqueries, hagree, -⟩ := hpage books .empty [secondBook, firstBook] (by decide)
  refine ⟨_, _, _, hqueries (by decide +kernel) silent [] s.resolver ?_, halone _, hagree, ?_⟩
  · decide +kernel
  · rw [Links.described_query (by decide)]
    refine ⟨ann, rfl, .inr ⟨_, List.mem_singleton.mpr rfl, IncludeRule.read s.graph (.iri author), ?_,
      .predicate author, by decide +kernel, ?_, ?_⟩⟩
    · exact Graph.mem_includesOf.mpr ⟨_, List.mem_singleton.mpr rfl, _, hgraph ▸ List.mem_singleton.mpr rfl, rfl⟩
    · show _ ∈ d.default.toList
      rw [hdata]
      simp
    · rintro c ⟨⟩

end CollectionQuery
