import CollectionQuery.Collection.Links
import CollectionQuery.Collection.MemberQuery
import CollectionQuery.Proofs.Sparql.Path
import CollectionQuery.Proofs.Sparql.Selection

/-! What the query for members and their links describes: every member, and the IRIs to which a readable include leads
    from a member of its type. The branches of the includes stand in an optional part, so a member without links is not
    lost, and each of them binds the member, so no link is followed from another resource. -/

namespace CollectionQuery
open Pattern Row Sparql

/-- The include can be read, its path leads from the first term to the second one, and the first one has the type that
    the include is for. -/
def IncludeRule.Leads (g : Graph) (rule : IncludeRule) (x y : Term) : Prop :=
  ∃ path, rule.path = .ok path ∧ path.Leads g x y ∧ ∀ c ∈ rule.memberType, ⟨x, Rdf.type, .iri c⟩ ∈ g.toList

namespace Links
variable {d : Dataset} {g : Graph} {v : Variable} {members : List Iri} {t : Term}

/-- The terms that a query describes: the values of the member and of the linked resource in its solutions. -/
def described (d : Dataset) (v : Variable) (q : Query) : Set Term :=
  {t | ∃ row ∈ q.selection.rows d, row.lookup v = some t ∨ row.lookup linkedVariable = some t}

/-! ### Branches -/

/-- A type is asked for by a triple pattern that is merged with the path. -/
theorem branch_some (v : Variable) (c : Iri) (path : Path) :
    branch v (some c) path =
      (triple (.var v) (.iri Rdf.type) (.term (.iri c))).merge (along (.var v) path (.var linkedVariable)) := by
  unfold branch triple
  generalize along (.var v) path (.var linkedVariable) = link
  cases link <;> rfl

/-- The row of a member and a linked resource. -/
def link (v : Variable) (x y : Term) : Row Variable := Finmap.singleton v x ∪ Finmap.singleton linkedVariable y

theorem lookup_link_member (v : Variable) (x y : Term) : (link v x y).lookup v = some x := by
  rw [link, lookup_union, Finmap.lookup_singleton_eq, Option.some_or]

theorem lookup_link_linked (hv : v ≠ linkedVariable) (x y : Term) : (link v x y).lookup linkedVariable = some y := by
  rw [link, lookup_union, lookup_singleton, if_neg hv.symm, Option.none_or, Finmap.lookup_singleton_eq]

theorem mem_rows_branch (hv : v ≠ linkedVariable) {type : Option Iri} {path : Path} {r : Row Variable} :
    r ∈ (branch v type path).rows d g ↔ ∃ x y, x ∈ nodes g ∧ path.Leads g x y ∧
      (∀ c ∈ type, ⟨x, Rdf.type, .iri c⟩ ∈ g.toList) ∧ link v x y = r := by
  cases type with
  | none =>
    have hrows : r ∈ (along (.var v) path (.var linkedVariable)).rows d g ↔ _ := mem_rows_along hv
    simpa [branch, link] using hrows
  | some c =>
    have htyped := selects_triple (d := d) (g := g) (.subject (v := v) Rdf.type (o := .iri c) trivial)
    rw [branch_some, rows_merge _ htyped.blankFree, mem_join]
    simp only [htyped.mem_rows, mem_rows_along hv]
    constructor
    · rintro ⟨_, ⟨s, ⟨i, hi, hs⟩, rfl⟩, _, ⟨x, y, hx, hl, rfl⟩, hc, rfl⟩
      cases hi
      obtain rfl := (compatible_singleton_iff (lookup_link_member v x y)).mp hc
      refine ⟨s, y, hx, hl, ?_, (singleton_union (lookup_link_member v s y)).symm⟩
      rintro c' ⟨⟩
      exact hs
    · rintro ⟨x, y, hx, hl, hc, rfl⟩
      have hlookup := lookup_link_member v x y
      exact ⟨_, ⟨x, ⟨Rdf.type, rfl, hc c rfl⟩, rfl⟩, _, ⟨x, y, hx, hl, rfl⟩,
        (compatible_singleton_iff hlookup).mpr rfl, singleton_union hlookup⟩

theorem mem_rows_union {p : Pattern} {ps : List Pattern} {r : Row Variable} :
    r ∈ (ps.foldl Pattern.union p).rows d g ↔ ∃ q ∈ p :: ps, r ∈ q.rows d g := by
  induction ps generalizing p with
  | nil => simp
  | cons q ps ih =>
    rw [List.foldl_cons, ih]
    simp [Pattern.rows, or_assoc]

theorem mem_of_mem_rows_union {p : Pattern} {ps : List Pattern} (h : ∀ q ∈ p :: ps, ∀ b ∈ q.rows d g, v ∈ b) :
    ∀ b ∈ (ps.foldl Pattern.union p).rows d g, v ∈ b := by
  intro b hb
  obtain ⟨q, hq, hb⟩ := mem_rows_union.mp hb
  exact h q hq b hb

/-! ### Members and their links -/

/-- A left join keeps the rows for members, and adds to a member the rows that bind it. -/
theorem mem_rows_leftJoin_values {p : Pattern} (hp : ∀ b ∈ p.rows d g, v ∈ b) {r : Row Variable} :
    r ∈ (Pattern.leftJoin (.values v members) p).rows d g ↔
      (r ∈ p.rows d g ∧ ∃ m ∈ members, r.lookup v = some (.iri m)) ∨
        ∃ m ∈ members, Finmap.singleton v (.iri m) = r ∧ ∀ b ∈ p.rows d g, b.lookup v ≠ some (.iri m) := by
  have hagree {b : Row Variable} (hb : b ∈ p.rows d g) (m : Iri) :
      Compatible (Finmap.singleton v (.iri m)) b ↔ b.lookup v = some (.iri m) := by
    obtain ⟨t, ht⟩ := Finmap.mem_iff.mp (hp b hb)
    rw [compatible_singleton_iff ht, ht, Option.some.injEq, eq_comm]
  simp only [Pattern.rows, Row.leftJoin, Multiset.mem_add, mem_join, mem_diff, Multiset.mem_map, Multiset.mem_coe]
  refine or_congr ?_ ?_
  · constructor
    · rintro ⟨_, ⟨m, hm, rfl⟩, b, hb, hc, rfl⟩
      have hlookup := (hagree hb m).mp hc
      rw [singleton_union hlookup]
      exact ⟨hb, m, hm, hlookup⟩
    · rintro ⟨hb, m, hm, hlookup⟩
      exact ⟨_, ⟨m, hm, rfl⟩, r, hb, (hagree hb m).mpr hlookup, singleton_union hlookup⟩
  · constructor
    · rintro ⟨⟨m, hm, rfl⟩, hnone⟩
      exact ⟨m, hm, rfl, fun b hb hlookup => hnone b hb ((hagree hb m).mpr hlookup)⟩
    · rintro ⟨m, hm, rfl, hnone⟩
      exact ⟨⟨m, hm, rfl⟩, fun b hb hc => hnone b hb ((hagree hb m).mp hc)⟩

theorem mem_rows_describe_nil {row : Row Variable} :
    row ∈ (describe v members []).selection.rows d ↔ ∃ m ∈ members, Finmap.singleton v (.iri m) = row := by
  simp [describe, Query.selection, Select.rows, Pattern.rows, restrict_singleton_of_lookup]

/-- Both variables are shown, so the rows of the left join can be looked at instead. -/
theorem exists_row_describe_cons {p : Pattern} {ps : List Pattern} (P : Option Term → Option Term → Prop) :
    (∃ row ∈ (describe v members (p :: ps)).selection.rows d, P (row.lookup v) (row.lookup linkedVariable)) ↔
      ∃ row ∈ (Pattern.leftJoin (.values v members) (ps.foldl .union p)).rows d d.default,
        P (row.lookup v) (row.lookup linkedVariable) := by
  simp [describe, Query.selection, Select.rows, lookup_restrict]

theorem lookup_singleton_linked (hv : v ≠ linkedVariable) (m : Iri) :
    (Finmap.singleton v (.iri m) : Row Variable).lookup linkedVariable = none := by
  rw [lookup_singleton, if_neg hv.symm]

/-- All members are described, and what the branches bind along with a member. -/
theorem mem_described (hv : v ≠ linkedVariable) {ps : List Pattern}
    (hps : ∀ p ∈ ps, ∀ b ∈ p.rows d d.default, v ∈ b) :
    t ∈ described d v (describe v members ps) ↔ (∃ m ∈ members, t = .iri m) ∨
      ∃ p ∈ ps, ∃ b ∈ p.rows d d.default, (∃ m ∈ members, b.lookup v = some (.iri m)) ∧
        b.lookup linkedVariable = some t := by
  cases ps with
  | nil =>
    simp only [described, Set.mem_ofPred_eq, mem_rows_describe_nil]
    constructor
    · rintro ⟨_, ⟨m, hm, rfl⟩, h | h⟩
      · rw [Finmap.lookup_singleton_eq] at h
        exact .inl ⟨m, hm, (Option.some.inj h).symm⟩
      · rw [lookup_singleton_linked hv] at h
        cases h
    · rintro (⟨m, hm, rfl⟩ | ⟨p, hp, -⟩)
      · exact ⟨_, ⟨m, hm, rfl⟩, .inl Finmap.lookup_singleton_eq⟩
      · cases hp
  | cons p ps =>
    have hbind := mem_of_mem_rows_union hps
    have hrows : t ∈ described d v (describe v members (p :: ps)) ↔ _ :=
      exists_row_describe_cons fun x y => x = some t ∨ y = some t
    simp only [hrows, mem_rows_leftJoin_values hbind, mem_rows_union]
    constructor
    · rintro ⟨r, ⟨⟨q, hq, hr⟩, m, hm, hlookup⟩ | ⟨m, hm, rfl, -⟩, h⟩
      · rcases h with h | h
        · rw [hlookup] at h
          exact .inl ⟨m, hm, (Option.some.inj h).symm⟩
        · exact .inr ⟨q, hq, r, hr, ⟨m, hm, hlookup⟩, h⟩
      · rw [Finmap.lookup_singleton_eq, lookup_singleton_linked hv] at h
        exact .inl ⟨m, hm, (Option.some.inj (h.resolve_right (by simp))).symm⟩
    · rintro (⟨m, hm, rfl⟩ | ⟨q, hq, b, hb, hmember, h⟩)
      · by_cases hfound : ∃ b, (∃ q ∈ p :: ps, b ∈ q.rows d d.default) ∧ b.lookup v = some (.iri m)
        · obtain ⟨b, hb, hlookup⟩ := hfound
          exact ⟨b, .inl ⟨hb, m, hm, hlookup⟩, .inl hlookup⟩
        · refine ⟨_, .inr ⟨m, hm, rfl, fun b hb hlookup => hfound ⟨b, hb, hlookup⟩⟩, ?_⟩
          exact .inl Finmap.lookup_singleton_eq
      · exact ⟨b, .inl ⟨⟨q, hq, hb⟩, hmember⟩, .inr h⟩

/-! ### Includes -/

/-- The branches of the includes that can be read. -/
def branches (v : Variable) (includes : List IncludeRule) : List Pattern :=
  includes.filterMap fun rule => (branchOf v rule).value

theorem value_query (v : Variable) (members : List Iri) (includes : List IncludeRule) :
    (query v members includes).value =
      if members = [] then none else some (describe v members (branches v includes)) := by
  unfold query
  cases members with
  | nil => rfl
  | cons m ms => simp [Noted.value_keep, branches]

theorem value_branchOf_eq_some {rule : IncludeRule} {p : Pattern} :
    (branchOf v rule).value = some p ↔
      ∃ path, rule.path = .ok path ∧ .filter (.isIri linkedVariable) (branch v rule.memberType path) = p := by
  unfold branchOf
  cases rule.path with
  | ok path => simp
  | error e => simp

theorem mem_branches {includes : List IncludeRule} {p : Pattern} :
    p ∈ branches v includes ↔ ∃ rule ∈ includes, ∃ path, rule.path = .ok path ∧
      .filter (.isIri linkedVariable) (branch v rule.memberType path) = p := by
  simp only [branches, List.mem_filterMap, value_branchOf_eq_some]

/-- The branch of an include binds a node and an IRI to which the include leads from it. -/
theorem mem_rows_filter_branch (hv : v ≠ linkedVariable) {type : Option Iri} {path : Path} {b : Row Variable} :
    b ∈ (Pattern.filter (.isIri linkedVariable) (branch v type path)).rows d g ↔ ∃ x o, x ∈ nodes g ∧
      path.Leads g x (.iri o) ∧ (∀ c ∈ type, ⟨x, Rdf.type, .iri c⟩ ∈ g.toList) ∧ link v x (.iri o) = b := by
  simp only [Pattern.rows, Multiset.mem_filter, mem_rows_branch hv, Condition.holds_isIri]
  constructor
  · rintro ⟨⟨x, y, hx, hl, hc, rfl⟩, o, ho⟩
    rw [lookup_link_linked hv] at ho
    cases ho
    exact ⟨x, o, hx, hl, hc, rfl⟩
  · rintro ⟨x, o, hx, hl, hc, rfl⟩
    exact ⟨⟨x, _, hx, hl, hc, rfl⟩, o, lookup_link_linked hv x _⟩

/-- An include that cannot be read has no branch. -/
theorem branches_filter (v : Variable) (includes : List IncludeRule) :
    branches v (includes.filter (·.path.isOk)) = branches v includes := by
  unfold branches
  rw [List.filterMap_filter]
  refine List.filterMap_congr fun rule _ => ?_
  cases hp : rule.path with
  | ok path => rfl
  | error e => simp [branchOf, hp, Except.isOk, Except.toBool]

/-- Each row of a branch binds the member. -/
theorem mem_of_mem_rows_branches (hv : v ≠ linkedVariable) {includes : List IncludeRule} {p : Pattern}
    (hp : p ∈ branches v includes) : ∀ b ∈ p.rows d g, v ∈ b := by
  intro b hb
  obtain ⟨rule, -, path, -, rfl⟩ := mem_branches.mp hp
  obtain ⟨x, o, -, -, -, rfl⟩ := (mem_rows_filter_branch hv).mp hb
  exact Finmap.mem_of_lookup_eq_some (lookup_link_member v x _)

/-- The members are described, and the IRIs to which includes lead from them. A path from a term that is no node of the
    graph leads to the term alone, and that is a member. -/
theorem described_query (hv : v ≠ linkedVariable) (d : Dataset) (members : List Iri) (includes : List IncludeRule) :
    described d v (describe v members (branches v includes)) = {t | ∃ o, t = .iri o ∧
      (o ∈ members ∨ ∃ m ∈ members, ∃ rule ∈ includes, rule.Leads d.default (.iri m) (.iri o))} := by
  ext t
  rw [mem_described hv fun p hp => mem_of_mem_rows_branches hv hp]
  constructor
  · rintro (⟨m, hm, rfl⟩ | ⟨p, hp, b, hb, ⟨m, hm, hmember⟩, hlinked⟩)
    · exact ⟨m, rfl, .inl hm⟩
    · obtain ⟨rule, hrule, path, hpath, rfl⟩ := mem_branches.mp hp
      obtain ⟨x, o, -, hl, hc, rfl⟩ := (mem_rows_filter_branch hv).mp hb
      rw [lookup_link_member] at hmember
      rw [lookup_link_linked hv] at hlinked
      cases hmember
      cases hlinked
      exact ⟨o, rfl, .inr ⟨m, hm, rule, hrule, path, hpath, hl, hc⟩⟩
  · rintro ⟨o, rfl, ho | ⟨m, hm, rule, hrule, path, hpath, hl, hc⟩⟩
    · exact .inl ⟨o, ho, rfl⟩
    · rcases hl.eq_or_mem_nodes with hself | ⟨hnode, -⟩
      · exact .inl ⟨m, hm, hself.symm⟩
      · refine .inr ⟨_, mem_branches.mpr ⟨rule, hrule, path, hpath, rfl⟩, link v (.iri m) (.iri o), ?_, ⟨m, hm, ?_⟩, ?_⟩
        · exact (mem_rows_filter_branch hv).mpr ⟨_, o, hnode, hl, hc, rfl⟩
        · exact lookup_link_member v _ _
        · exact lookup_link_linked hv _ _

/-- There is a query unless there are no members. It describes the members and the IRIs to which an include leads from
    one of them; includes that cannot be read make no difference. -/
theorem query_describes_links (members : List Iri) (includes : List IncludeRule) :
    let v := ({} : Options).member
    ∃ s : Select, (query v members includes).value = (if members = [] then none else some (.describe s)) ∧
      (∀ d : Dataset, {t | ∃ row ∈ s.rows d, row.lookup v = some t ∨ row.lookup linkedVariable = some t} =
        {t | ∃ o, t = .iri o ∧
          (o ∈ members ∨ ∃ m ∈ members, ∃ rule ∈ includes, rule.Leads d.default (.iri m) (.iri o))}) ∧
      (query v members (includes.filter (·.path.isOk))).value = (query v members includes).value := by
  intro v
  have hv : v ≠ linkedVariable := by decide
  obtain ⟨s, hs⟩ : ∃ s, describe v members (branches v includes) = .describe s := by
    cases branches v includes <;> exact ⟨_, rfl⟩
  refine ⟨s, ?_, fun d => ?_, ?_⟩
  · rw [value_query, hs]
  · rw [← described_query hv d members includes, hs]
    rfl
  · rw [value_query, value_query, branches_filter]

end Links
end CollectionQuery
