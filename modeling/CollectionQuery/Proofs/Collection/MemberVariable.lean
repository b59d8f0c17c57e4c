import CollectionQuery.Proofs.Collection.FilterCalls
import CollectionQuery.Proofs.Collection.Links
import CollectionQuery.Proofs.Collection.Resolver
import CollectionQuery.Proofs.Collection.View
import CollectionQuery.Proofs.Sparql.Variables

/-! The variable that stands for a member, among the other variables of the queries. Sort keys, filters, the total and
    the linked resources bring variables whose names are given, and no name that is given is kept from the member. So
    the member is told apart from them exactly if its name is none of these. -/

namespace CollectionQuery

/-- The names of the variables that queries have beside the one for members. -/
inductive Variable.IsReserved : Variable → Prop
  | total : IsReserved MemberQueries.totalVariable
  | linked : IsReserved Links.linkedVariable
  | key {n : Nat} (hn : 0 < n) : IsReserved (Sorting.key n)
  | filter {n : Nat} (hn : 0 < n) (name : String) : IsReserved (VariableGenerator.make ⟨"filter" ++ toString n⟩ name)

namespace Variable

theorem IsReserved.head? {v : Variable} (h : v.IsReserved) :
    v.name.toList.head? ∈ [some 't', some 'l', some 'o', some 'f'] := by
  cases h with
  | total => decide
  | linked => decide
  | key => simp [Sorting.key]
  | filter => simp [VariableGenerator.make]

theorem not_isReserved_default : ¬({} : Options).member.IsReserved := fun h => absurd h.head? (by decide)

end Variable

/-! ### Filters -/

namespace Filter

/-- The variables of the pattern are the one for members and such as the generator gives. -/
def IsOwn (f : Filter) : Prop := ∀ input p, (f.pattern input).value = some p → ∀ w ∈ p.vars,
  w = input.subject ∨ ∃ name, w = input.generator.make name

/-- The filter has the variable in its pattern also where another one stands for a member. -/
def Introduces (f : Filter) (input : FilterInput) (w : Variable) : Prop :=
  ∃ s p, s ≠ w ∧ (f.pattern { input with subject := s }).value = some p ∧ w ∈ p.vars

theorem IsOwn.exists_make {f : Filter} (hf : f.IsOwn) {input : FilterInput} {w : Variable} (h : f.Introduces input w) :
    ∃ name, w = input.generator.make name := by
  obtain ⟨s, p, hs, hp, hw⟩ := h
  exact (hf _ p hp w hw).resolve_left fun hsame => hs hsame.symm

theorem isOwn_equality : equality.IsOwn := by
  intro input p hp w hw
  rw [value_equality] at hp
  obtain ⟨o, -, hp⟩ := Option.bind_eq_some_iff.mp hp
  obtain ⟨-, rfl⟩ := MemberQueries.equals?_eq_some.mp hp
  rw [Pattern.vars_triple] at hw
  exact .inl (by simpa [TermPattern.vars, NamePattern.vars] using hw)

end Filter

/-- All filters of the resolver take their variables from their generator. -/
structure Resolver.IsOwn (r : Resolver) : Prop where
  host : ∀ asked reference f, r.host.filter? asked reference = some f → f.IsOwn
  filters : ∀ reference f, r.filters.lookup reference = some (some f) → f.IsOwn

namespace MemberQueries
variable {c : Collection} {params : SearchParams} {options : Options} {r : Resolver} {queries : MemberQueries}
  {v w : Variable}

theorem isOwn_filterOf (hr : r.IsOwn) (m : Mapping) :
    (∀ f ∈ (filterOf m r).value.1, f.IsOwn) ∧ (filterOf m r).value.2.IsOwn := by
  have honly : r.HasOnly Filter.IsOwn := ⟨hr.host, hr.filters⟩
  obtain ⟨hfound, hrest⟩ := honly.filterOf Filter.isOwn_equality m
  exact ⟨hfound, hrest.host, hrest.filters⟩

theorem isOwn_of_mem_callsOf (hr : r.IsOwn) {xs : List (Mapping × Iri)} {call : FilterCall}
    (h : call ∈ (callsOf params xs r).1) : call.filter.IsOwn := by
  induction xs generalizing r with
  | nil => cases h
  | cons x xs ih =>
    obtain ⟨hfound, hrest⟩ := isOwn_filterOf hr x.1
    rw [callsOf] at h
    split at h
    · exact ih hr h
    · rcases List.mem_append.mp h with h | h
      · obtain ⟨f, hf, rfl⟩ := List.mem_map.mp h
        exact hfound f (by simpa using hf)
      · exact ih hrest h

/-! ### Introduced variables -/

/-- The queries for a page have the variable beside the one for members: it is a sort key, a filter introduces it, or
    it is the one for the total. -/
inductive Introduces (c : Collection) (params : SearchParams) (options : Options) (r : Resolver) : Variable → Prop
  | key {queries : MemberQueries} {condition : OrderCondition}
      (hq : queries ∈ (assemble c params options r).value.1)
      (h : condition ∈ queries.members.selection.order) : Introduces c params options r condition.key
  | filter {queries : MemberQueries} {t : SearchTemplate} {call : FilterCall} {n : Nat} {w : Variable}
      (hq : queries ∈ (assemble c params options r).value.1) (ht : c.search = some t)
      (hcall : (call, n) ∈ (callsOf params t.filters r).1.zipIdx 1)
      (h : call.filter.Introduces (call.input params options.member n) w) : Introduces c params options r w
  | total {queries : MemberQueries} (hq : queries ∈ (assemble c params options r).value.1) :
      Introduces c params options r totalVariable

/-- The conditions sort by keys that are numbered from one. -/
theorem exists_key_of_mem_conditions {entries : List OrderEntry} {o : OrderCondition}
    (h : o ∈ (Sorting.ofEntries v entries).conditions) : ∃ n, 0 < n ∧ o.key = Sorting.key n := by
  obtain ⟨⟨⟨path, descending⟩, n⟩, hx, rfl⟩ := List.mem_map.mp h
  exact ⟨n, List.le_snd_of_mem_zipIdx hx, rfl⟩

theorem value_sortingOf_none (c : Collection) (v : Variable) : (sortingOf c v none).value = {} := by
  unfold sortingOf
  cases c.ordering.isEmpty <;> rfl

theorem exists_key_of_mem_sortingOf {page : Option PageRequest} {o : OrderCondition}
    (h : o ∈ (sortingOf c v page).value.conditions) : ∃ n, 0 < n ∧ o.key = Sorting.key n := by
  cases page with
  | some page => exact exists_key_of_mem_conditions h
  | none =>
    rw [value_sortingOf_none] at h
    cases h

theorem isReserved_of_introduces (hr : r.IsOwn) (h : Introduces c params options r w) : w.IsReserved := by
  cases h with
  | key hq h =>
    obtain ⟨-, rfl⟩ := mem_value_assemble.mp hq
    obtain ⟨n, hn, hkey⟩ := exists_key_of_mem_sortingOf h
    rw [hkey]
    exact .key hn
  | @filter _ _ call n _ hq ht hcall h =>
    have hown : call.filter.IsOwn := isOwn_of_mem_callsOf hr (List.fst_mem_of_mem_zipIdx hcall)
    obtain ⟨name, rfl⟩ := hown.exists_make h
    exact .filter (List.le_snd_of_mem_zipIdx hcall) name
  | total => exact .total

/-! ### All variables -/

theorem eq_of_mem_vars_standing {w : Variable} {s : TermPattern} {ts : List Term}
    (hs : s ∈ MemberAssertion.standing (.var v) (ts.map .term)) (hw : w ∈ s.vars) : w = v := by
  rcases MemberAssertion.mem_standing.mp hs with ⟨-, rfl⟩ | hs
  · exact List.mem_singleton.mp hw
  · obtain ⟨t, -, rfl⟩ := List.mem_map.mp hs
    cases hw

/-- The patterns of assertions have no variable but the one for members. -/
theorem eq_of_mem_vars_assertion {p : Pattern} (hp : p ∈ (assertionPatterns c v).value) (hw : w ∈ p.vars) :
    w = v := by
  obtain ⟨a, -, ps, hps, hp⟩ := mem_assertionPatterns.mp hp
  obtain ⟨-, is, -, rfl⟩ := MemberAssertion.patterns_eq_ok.mp hps
  simp only [List.mem_flatMap, List.mem_map] at hp
  obtain ⟨s, hs, n, hn, o, ho, rfl⟩ := hp
  have htriple (hw : w ∈ (Pattern.triple s n o).vars) : w = v := by
    rw [Pattern.vars_triple, List.mem_append, List.mem_append] at hw
    rcases hw with (hw | hw) | hw
    · exact eq_of_mem_vars_standing hs hw
    · rcases MemberAssertion.mem_standing.mp hn with ⟨-, rfl⟩ | hn
      · exact List.mem_singleton.mp hw
      · obtain ⟨i, -, rfl⟩ := List.mem_map.mp hn
        cases hw
    · exact eq_of_mem_vars_standing ho hw
  unfold MemberAssertion.place at hw
  split at hw
  · rcases List.mem_append.mp hw with hw | hw
    · exact List.mem_singleton.mp hw
    · exact htriple hw
  · exact htriple hw

theorem mem_vars_filters (hq : queries ∈ (assemble c params options r).value.1) {p : Pattern}
    (hp : p ∈ (filterPatterns c params options.member r).value.1) (hw : w ∈ p.vars) :
    w = options.member ∨ Introduces c params options r w := by
  cases ht : c.search with
  | none =>
    unfold filterPatterns at hp
    rw [ht] at hp
    cases hp
  | some t =>
    rw [value_filterPatterns_eq ht] at hp
    obtain ⟨⟨call, n⟩, hcall, hp⟩ := List.mem_filterMap.mp hp
    by_cases h : w = options.member
    · exact .inl h
    · exact .inr (.filter hq ht hcall ⟨options.member, p, fun hsame => h hsame.symm, hp, hw⟩)

theorem mem_vars_shared (hq : queries ∈ (assemble c params options r).value.1)
    (hw : w ∈ (Pattern.group (sharedFragments c params options r)).vars) :
    w = options.member ∨ Introduces c params options r w := by
  rw [Pattern.vars_group] at hw
  obtain ⟨f, hf, hw⟩ := List.mem_flatMap.mp hw
  obtain ⟨p, hp, rfl⟩ := List.mem_map.mp hf
  rcases List.mem_append.mp hp with hp | hp
  · exact .inl (eq_of_mem_vars_assertion hp hw)
  · exact mem_vars_filters hq hp hw

theorem mem_vars_sorting {page : Option PageRequest} {f : Fragment}
    (hf : f ∈ (sortingOf c v page).value.fragments) (hw : w ∈ f.pattern.vars) :
    w = v ∨ ∃ o ∈ (sortingOf c v page).value.conditions, o.key = w := by
  cases page with
  | none =>
    rw [value_sortingOf_none] at hf
    cases hf
  | some page =>
    obtain ⟨⟨⟨path, descending⟩, n⟩, hx, rfl⟩ := List.mem_map.mp hf
    rcases Pattern.mem_vars_along.mp hw with hw | hw
    · exact .inl (List.mem_singleton.mp hw)
    · obtain rfl := List.mem_singleton.mp hw
      exact .inr ⟨_, List.mem_map_of_mem hx, rfl⟩

/-- The query for members has no variables but the one for them and those that are introduced. -/
theorem mem_vars_members (hq : queries ∈ (assemble c params options r).value.1)
    (hw : w ∈ queries.members.vars) : w = options.member ∨ Introduces c params options r w := by
  -- Each sort key in the query is the key of a condition.
  have hkey {o : OrderCondition} (ho : o ∈ queries.members.selection.order) : Introduces c params options r o.key :=
    .key hq ho
  obtain ⟨-, rfl⟩ := mem_value_assemble.mp hq
  rcases List.mem_append.mp hw with hw | hw
  · rcases List.mem_append.mp hw with hw | hw
    · exact .inl (List.mem_singleton.mp hw)
    · rcases List.mem_append.mp hw with hw | hw
      · exact .inl (List.mem_singleton.mp hw)
      · rw [Pattern.vars_group, List.flatMap_append, ← Pattern.vars_group] at hw
        rcases List.mem_append.mp hw with hw | hw
        · exact mem_vars_shared hq hw
        · obtain ⟨f, hf, hw⟩ := List.mem_flatMap.mp hw
          rcases mem_vars_sorting hf hw with rfl | ⟨o, ho, rfl⟩
          · exact .inl rfl
          · exact .inr (hkey ho)
  · obtain ⟨o, ho, rfl⟩ := List.mem_map.mp hw
    exact .inr (hkey ho)

/-- The query for the total has no variables but these either. -/
theorem mem_vars_total (hq : queries ∈ (assemble c params options r).value.1)
    (hw : w ∈ queries.total.vars) : w = options.member ∨ Introduces c params options r w := by
  have htotal : Introduces c params options r totalVariable := .total hq
  obtain ⟨-, rfl⟩ := mem_value_assemble.mp hq
  have hw : w ∈ totalVariable :: options.member :: totalVariable :: options.member ::
      (Pattern.group (sharedFragments c params options r)).vars := by
    simpa [queriesOf, selectTotal, Query.vars, Select.vars, Pattern.vars, Condition.vars] using hw
  simp only [List.mem_cons] at hw
  rcases hw with rfl | rfl | rfl | rfl | hw
  · exact .inr htotal
  · exact .inl rfl
  · exact .inr htotal
  · exact .inl rfl
  · exact mem_vars_shared hq hw

end MemberQueries

/-! ### Links -/

namespace Links
variable {v w : Variable} {members : List Iri} {includes : List IncludeRule}

/-- The query for members and their links has the variable beside the one for members: it is the one for linked
    resources, and some include can be read. -/
def Introduces (v : Variable) (members : List Iri) (includes : List IncludeRule) (w : Variable) : Prop :=
  members ≠ [] ∧ branches v includes ≠ [] ∧ w = linkedVariable

theorem mem_vars_branch {type : Option Iri} {path : Path} (hw : w ∈ (branch v type path).vars) :
    w = v ∨ w = linkedVariable := by
  have hlink (hw : w ∈ (Pattern.along (.var v) path (.var linkedVariable)).vars) : w = v ∨ w = linkedVariable := by
    simpa [TermPattern.vars] using Pattern.mem_vars_along.mp hw
  cases type with
  | none => exact hlink hw
  | some c =>
    rw [branch_some, Pattern.vars_merge, Pattern.vars_triple] at hw
    rcases List.mem_append.mp hw with hw | hw
    · exact .inl (by simpa [TermPattern.vars, NamePattern.vars] using hw)
    · exact hlink hw

theorem mem_vars_foldl_union {p : Pattern} {ps : List Pattern} (hw : w ∈ (ps.foldl Pattern.union p).vars) :
    ∃ q ∈ p :: ps, w ∈ q.vars := by
  induction ps generalizing p with
  | nil => exact ⟨p, List.mem_cons_self, hw⟩
  | cons q ps ih =>
    obtain ⟨x, hx, hwx⟩ := ih hw
    rcases List.mem_cons.mp hx with rfl | hx
    · rcases List.mem_append.mp hwx with h | h
      · exact ⟨p, List.mem_cons_self, h⟩
      · exact ⟨q, List.mem_cons_of_mem _ List.mem_cons_self, h⟩
    · exact ⟨x, List.mem_cons_of_mem _ (List.mem_cons_of_mem _ hx), hwx⟩

theorem mem_vars_query {q : Query} (hq : q ∈ (query v members includes).value) (hw : w ∈ q.vars) :
    w = v ∨ Introduces v members includes w := by
  rw [value_query] at hq
  split at hq
  · cases hq
  · next hm =>
    obtain rfl := Option.some.inj hq
    cases hb : branches v includes with
    | nil =>
      rw [hb] at hw
      exact .inl (by simpa [describe, Query.vars, Select.vars, Pattern.vars] using hw)
    | cons b bs =>
      rw [hb] at hw
      have hlinked (h : w = v ∨ w = linkedVariable) : w = v ∨ Introduces v members includes w :=
        h.imp_right fun h => ⟨hm, by simp [hb], h⟩
      refine hlinked ?_
      have hw : w ∈ v :: linkedVariable :: v :: (bs.foldl Pattern.union b).vars := by
        simpa [describe, Query.vars, Select.vars, Pattern.vars] using hw
      simp only [List.mem_cons] at hw
      rcases hw with rfl | rfl | rfl | hw
      · exact .inl rfl
      · exact .inr rfl
      · exact .inl rfl
      · obtain ⟨x, hx, hwx⟩ := mem_vars_foldl_union hw
        rw [← hb] at hx
        obtain ⟨rule, -, path, -, rfl⟩ := mem_branches.mp hx
        rcases List.mem_cons.mp hwx with rfl | hwx
        · exact .inr rfl
        · exact mem_vars_branch hwx

theorem introduces_linked (v : Variable) (p : Iri) : Introduces v [p] [.ofPredicate p] linkedVariable :=
  ⟨List.cons_ne_nil _ _, List.cons_ne_nil _ _, rfl⟩

end Links

/-! ### Collisions -/

namespace MemberQueries
open Library
variable {v : Variable}

def byTitle : OrderEntry := { path := some (.predicate title) }

/-- A shelf that is sorted by several entries. -/
def sortedShelf (n : Nat) : Collection := { Collection.shelf with ordering := List.replicate n byTitle }

theorem key_mem_conditions {n : Nat} (hn : 0 < n) (v : Variable) :
    ⟨false, Sorting.key n⟩ ∈ (Sorting.ofEntries v (List.replicate n byTitle)).conditions := by
  let path : Path := .predicate title
  have hused : Sorting.used (List.replicate n byTitle) = List.replicate n (path, false) :=
    List.filterMap_replicate_of_some rfl
  -- The last of the entries has the number `n`.
  have hlast : ((path, false), n) ∈ (Sorting.used (List.replicate n byTitle)).zipIdx 1 := by
    rw [hused, List.mk_mem_zipIdx_iff_le_and_getElem?_sub, List.getElem?_replicate_of_lt (by omega)]
    exact ⟨hn, rfl⟩
  exact List.mem_map_of_mem hlast

theorem introduces_key {n : Nat} (hn : 0 < n) (options : Options) (r : Resolver) :
    Introduces (sortedShelf n) .empty options r (Sorting.key n) := by
  have hq := queriesOf_mem_assemble (c := sortedShelf n) Collection.hasValidAssertion_shelf .empty options r
  have hpage := PageRequest.resolve_of_isPaged (c := sortedShelf n) rfl (by decide) .empty options.pageSize
  have ho : ⟨false, Sorting.key n⟩ ∈ (queriesOf (sortedShelf n) .empty options r).members.selection.order := by
    unfold queriesOf
    rw [hpage]
    exact key_mem_conditions hn options.member
  exact .key hq ho

theorem introduces_total (options : Options) (r : Resolver) :
    Introduces Collection.shelf .empty options r totalVariable :=
  .total (queriesOf_mem_assemble Collection.hasValidAssertion_shelf _ _ _)

/-- A filter that asks for some value of the property, by a variable with a name. -/
def naming (name : String) : Filter where
  pattern input := pure (some (.triple (.var input.subject) (.iri input.predicate) (.var (input.generator.make name))))

theorem isOwn_naming (name : String) : (naming name).IsOwn := by
  intro input p hp w hw
  obtain rfl := Option.some.inj hp
  have hw : w = input.subject ∨ w = input.generator.make name := by
    simpa [Pattern.vars_triple, TermPattern.vars, NamePattern.vars] using hw
  exact hw.imp_right fun h => ⟨name, h⟩

/-- The filter has its own variable, whichever stands for a member. -/
theorem introduces_naming (name : String) (input : FilterInput) {s : Variable} (hs : s ≠ input.generator.make name) :
    (naming name).Introduces input (input.generator.make name) :=
  ⟨s, _, hs, rfl, by simp [Pattern.vars_triple, TermPattern.vars]⟩

/-- The resolver of a host that knows a single filter. -/
def knowing (f : Filter) : Resolver :=
  { host := .ofRegistry [(bookFilter, f)] [], filters := [(bookFilter, some f)] }

theorem hasOnly_knowing {P : Filter → Prop} {f : Filter} (hf : P f) : (knowing f).HasOnly P where
  host := by
    intro asked reference g hg
    have hg : List.lookup reference [(bookFilter, f)] = some g := hg
    rw [List.lookup_cons] at hg
    split at hg
    · exact Option.some.inj hg ▸ hf
    · cases hg
  filters := by
    intro reference g hg
    have hg : List.lookup reference [(bookFilter, some f)] = some (some g) := hg
    rw [List.lookup_cons] at hg
    split at hg
    · exact Option.some.inj (Option.some.inj hg) ▸ hf
    · cases hg

theorem isOwn_knowing {f : Filter} (hf : f.IsOwn) : (knowing f).IsOwn :=
  ⟨(hasOnly_knowing hf).host, (hasOnly_knowing hf).filters⟩

def filtered : Mapping := creatorMapping "author" (some bookFilter)

/-- A shelf that is searched by several variables with the same filter. -/
def searchedShelf (n : Nat) : Collection :=
  { Collection.shelf with search := some { creators with mappings := List.replicate n filtered } }

/-- A search for one author. -/
def ann : SearchParams := .ofList [(creator, .literal (.plain "ann"))]

theorem callsOf_replicate {params : SearchParams} {r : Resolver} (x : Mapping × Iri) {f : Filter}
    (hvalues : params.values x.2 ≠ []) (hf : (filterOf x.1 r).value = (some f, r)) (n : Nat) :
    callsOf params (List.replicate n x) r = (List.replicate n ⟨x.1, x.2, f⟩, r) := by
  induction n with
  | zero => rfl
  | succ n ih =>
    rw [List.replicate_succ, callsOf, if_neg hvalues, hf]
    dsimp only
    rw [ih]
    rfl

theorem introduces_make {n : Nat} (hn : 0 < n) (name : String) (options : Options) :
    Introduces (searchedShelf n) ann options (knowing (naming name))
      (VariableGenerator.make ⟨"filter" ++ toString n⟩ name) := by
  have hq := queriesOf_mem_assemble (c := searchedShelf n) Collection.hasValidAssertion_shelf ann options
    (knowing (naming name))
  have hfilters : SearchTemplate.filters { creators with mappings := List.replicate n filtered } =
      List.replicate n (filtered, creator) := List.filterMap_replicate_of_some (by decide)
  have hvalues : ann.values creator ≠ [] := by decide
  have hcalls := callsOf_replicate (r := knowing (naming name)) (filtered, creator) hvalues rfl n
  have hlast : ((⟨filtered, creator, naming name⟩ : FilterCall), n) ∈
      (callsOf ann (SearchTemplate.filters { creators with mappings := List.replicate n filtered })
        (knowing (naming name))).1.zipIdx 1 := by
    rw [hfilters, hcalls, List.mk_mem_zipIdx_iff_le_and_getElem?_sub, List.getElem?_replicate_of_lt (by omega)]
    exact ⟨hn, rfl⟩
  have hdistinct : ({} : Options).member ≠ VariableGenerator.make ⟨"filter" ++ toString n⟩ name := fun h =>
    Variable.not_isReserved_default (h ▸ .filter hn name)
  exact .filter hq rfl hlast (introduces_naming name _ hdistinct)

/-- The member is told apart from all variables that a collection, a request and filters of their own may bring to the
    queries exactly if its name is not reserved, and the queries have no further variables. -/
theorem member_distinct_iff (v : Variable) :
    (((∀ c params options r, options.member = v → r.IsOwn → ∀ w, Introduces c params options r w → w ≠ v) ∧
      ∀ members includes w, Links.Introduces v members includes w → w ≠ v) ↔ ¬v.IsReserved) ∧
    (∀ c params options r queries, queries ∈ (assemble c params options r).value.1 →
      ∀ w ∈ queries.members.vars ++ queries.total.vars,
        w = options.member ∨ Introduces c params options r w) ∧
    ∀ members includes q, q ∈ (Links.query v members includes).value →
      ∀ w ∈ q.vars, w = v ∨ Links.Introduces v members includes w := by
  refine ⟨⟨fun ⟨hpage, hlinks⟩ hreserved => ?_, fun hv => ⟨?_, ?_⟩⟩, ?_, ?_⟩
  · have hequality : (knowing .equality).IsOwn := isOwn_knowing Filter.isOwn_equality
    cases hreserved with
    | total => exact hpage _ .empty { member := _ } _ rfl hequality _ (introduces_total _ _) rfl
    | linked => exact hlinks [creator] [.ofPredicate creator] _ (Links.introduces_linked _ _) rfl
    | key hn => exact hpage _ _ { member := _ } _ rfl hequality _ (introduces_key hn _ _) rfl
    | filter hn name =>
      exact hpage _ _ { member := _ } _ rfl (isOwn_knowing (isOwn_naming name)) _ (introduces_make hn name _) rfl
  · rintro c params options r rfl hr w hw rfl
    exact hv (isReserved_of_introduces hr hw)
  · rintro members includes w ⟨-, -, rfl⟩ rfl
    exact hv .linked
  · intro c params options r queries hq w hw
    exact (List.mem_append.mp hw).elim (mem_vars_members hq) (mem_vars_total hq)
  · exact fun members includes q hq w hw => Links.mem_vars_query hq hw

/-- Members that are called like a sort key are sorted by themselves, and those called like the variable of a filter are
    asked for as their own creator. -/
theorem member_collides :
    (∃ queries ∈ (assemble (sortedShelf 1) .empty { member := ⟨"order1"⟩ } (knowing .equality)).value.1,
      queries.members.selection.order = [⟨false, ⟨"order1"⟩⟩] ∧ queries.members.selection.projection = [⟨"order1"⟩]) ∧
    (knowing (naming "name")).IsOwn ∧
    (filterPatterns (searchedShelf 1) ann ⟨"filter1_name"⟩ (knowing (naming "name"))).value.1 =
      [.triple (.var ⟨"filter1_name"⟩) (.iri creator) (.var ⟨"filter1_name"⟩)] := by
  have hq := queriesOf_mem_assemble (c := sortedShelf 1) Collection.hasValidAssertion_shelf .empty
    { member := ⟨"order1"⟩ } (knowing .equality)
  refine ⟨⟨_, hq, ?_, rfl⟩, isOwn_knowing (isOwn_naming _), ?_⟩
  · decide +kernel
  · decide +kernel

end MemberQueries
end CollectionQuery
