import CollectionQuery.Collection.Render
import CollectionQuery.Proofs.Collection.Assemble
import CollectionQuery.Proofs.Search.Query
import CollectionQuery.Proofs.Sparql.Variables
import Mathlib.Data.List.Forall2

/-! The shape of queries. What a query string searches for ends up in the objects of triples only: two query strings
    that search by the same properties and ask for the same page have queries of the same variables, which are alike
    apart from these objects. -/

namespace CollectionQuery

/-! ### Alike patterns -/

/-- Patterns of one shape whose triples are related one by one. -/
inductive Pattern.Alike (R : TriplePattern → TriplePattern → Prop) : Pattern → Pattern → Prop
  | basic {ts us : List TriplePattern} (h : List.Forall₂ R ts us) : Alike R (.basic ts) (.basic us)
  | path (s : TermPattern) (p : Path) (o : TermPattern) : Alike R (.path s p o) (.path s p o)
  | graph (name : NamePattern) {p q : Pattern} (h : Alike R p q) : Alike R (.graph name p) (.graph name q)
  | filter (condition : Condition) {p q : Pattern} (h : Alike R p q) :
    Alike R (.filter condition p) (.filter condition q)
  | union {l l' r r' : Pattern} (hl : Alike R l l') (hr : Alike R r r') : Alike R (.union l r) (.union l' r')
  | join {l l' r r' : Pattern} (hl : Alike R l l') (hr : Alike R r r') : Alike R (.join l r) (.join l' r')
  | leftJoin {l l' r r' : Pattern} (hl : Alike R l l') (hr : Alike R r r') : Alike R (.leftJoin l r) (.leftJoin l' r')
  | values (v : Variable) (rows : List Iri) : Alike R (.values v rows) (.values v rows)
  | count (counted total : Variable) {p q : Pattern} (h : Alike R p q) :
    Alike R (.count counted total p) (.count counted total q)
  | foreign (p : ForeignPattern) : Alike R (.foreign p) (.foreign p)

inductive Fragment.Alike (R : TriplePattern → TriplePattern → Prop) : Fragment → Fragment → Prop
  | required {p q : Pattern} (h : p.Alike R q) : Alike R (.required p) (.required q)
  | optional {p q : Pattern} (h : p.Alike R q) : Alike R (.optional p) (.optional q)

structure Select.Alike (R : TriplePattern → TriplePattern → Prop) (s t : Select) : Prop where
  distinct : s.distinct = t.distinct
  projection : s.projection = t.projection
  pattern : s.pattern.Alike R t.pattern
  order : s.order = t.order
  slice : s.slice = t.slice

inductive Query.Alike (R : TriplePattern → TriplePattern → Prop) : Query → Query → Prop
  | select {s t : Select} (h : s.Alike R t) : Alike R (.select s) (.select t)

structure MemberQueries.Alike (R : TriplePattern → TriplePattern → Prop) (q q' : MemberQueries) : Prop where
  members : q.members.Alike R q'.members
  total : q.total.Alike R q'.total
  page : q.page = q'.page

section Alike
variable {R : TriplePattern → TriplePattern → Prop}

namespace Pattern

theorem Alike.refl (hR : ∀ t, R t t) (p : Pattern) : p.Alike R p := by
  induction p with
  | basic ts => exact .basic (List.forall₂_same.mpr fun t _ => hR t)
  | path s p o => exact .path s p o
  | graph name _ ih => exact .graph name ih
  | filter condition _ ih => exact .filter condition ih
  | union _ _ ihl ihr => exact .union ihl ihr
  | join _ _ ihl ihr => exact .join ihl ihr
  | leftJoin _ _ ihl ihr => exact .leftJoin ihl ihr
  | values v rows => exact .values v rows
  | count counted total _ ih => exact .count counted total ih
  | foreign p => exact .foreign p

theorem Alike.vars_eq (hR : ∀ t u, R t u → t.vars = u.vars) {p q : Pattern} (h : p.Alike R q) : p.vars = q.vars := by
  induction h with
  | basic h =>
    induction h with
    | nil => rfl
    | cons h _ ih => exact congrArg₂ (· ++ ·) (hR _ _ h) ih
  | path | values | foreign => rfl
  | graph name _ ih => exact congrArg (name.vars ++ ·) ih
  | filter condition _ ih => exact congrArg (condition.vars ++ ·) ih
  | union _ _ ihl ihr | join _ _ ihl ihr | leftJoin _ _ ihl ihr => exact congrArg₂ (· ++ ·) ihl ihr
  | count counted total _ ih => exact congrArg (counted :: total :: ·) ih

theorem Alike.merge {l l' r r' : Pattern} (hl : l.Alike R l') (hr : r.Alike R r') :
    (l.merge r).Alike R (l'.merge r') := by
  -- Basic patterns are merged, and alike ones are empty at the same time.
  have hl' := hl
  have hr' := hr
  cases hl with
  | basic hts =>
    cases hr with
    | basic hus => exact .basic (List.rel_append hts hus)
    | _ =>
      cases hts with
      | nil => exact hr'
      | cons _ _ => exact .join hl' hr'
  | _ =>
    cases hr with
    | basic hus =>
      cases hus with
      | nil => exact hl'
      | cons _ _ => exact .join hl' hr'
    | _ => exact .join hl' hr'

theorem Alike.extend {p q : Pattern} (h : p.Alike R q) {f g : Fragment} (hf : f.Alike R g) :
    (p.extend f).Alike R (q.extend g) := by
  cases hf with
  | required hr => exact h.merge hr
  | optional ho => exact .leftJoin h ho

theorem Alike.foldl_extend {p q : Pattern} (h : p.Alike R q) {fs gs : List Fragment}
    (hf : List.Forall₂ (Fragment.Alike R) fs gs) : (fs.foldl Pattern.extend p).Alike R (gs.foldl Pattern.extend q) := by
  induction hf generalizing p q with
  | nil => exact h
  | cons hf _ ih => exact ih (h.extend hf)

theorem Alike.group {fs gs : List Fragment} (h : List.Forall₂ (Fragment.Alike R) fs gs) :
    (Pattern.group fs).Alike R (Pattern.group gs) := .foldl_extend (.basic .nil) h

end Pattern

theorem Query.Alike.vars_eq (hR : ∀ t u, R t u → t.vars = u.vars) {q q' : Query} (h : q.Alike R q') :
    q.vars = q'.vars := by
  cases h with
  | select h => simp only [Query.vars, Select.vars, h.projection, h.pattern.vars_eq hR, h.order]

namespace MemberQueries
variable {member : Variable} {fs gs : List Fragment}

theorem alike_selectMembers (hR : ∀ t, R t t) (h : List.Forall₂ (Fragment.Alike R) fs gs) (sorting : Sorting)
    (page : Option PageRequest) :
    (selectMembers member fs sorting page).Alike R (selectMembers member gs sorting page) := by
  have hsorting : List.Forall₂ (Fragment.Alike R) sorting.fragments sorting.fragments :=
    List.forall₂_same.mpr fun f _ => by
      cases f with
      | required p => exact .required (.refl hR p)
      | optional p => exact .optional (.refl hR p)
  exact .select ⟨rfl, rfl, .filter _ (.group (List.rel_append h hsorting)), rfl, rfl⟩

theorem alike_selectTotal (h : List.Forall₂ (Fragment.Alike R) fs gs) :
    (selectTotal member fs).Alike R (selectTotal member gs) :=
  .select ⟨rfl, rfl, .count _ _ (.filter _ (.group h)), rfl, rfl⟩

end MemberQueries
end Alike

/-! ### Values of a search -/

/-- The properties that restrict the members. -/
def Collection.filterProperties (c : Collection) : List Iri :=
  match c.search with
  | some t => t.filters.map (·.2)
  | none => []

namespace MemberQueries

/-- The triples are the same, or say that the member has the value that each of two searches gives to a property. -/
inductive SameButValue (c : Collection) (member : Variable) (params params' : SearchParams) :
    TriplePattern → TriplePattern → Prop
  | same (t : TriplePattern) : SameButValue c member params params' t t
  | value {p : Iri} {o o' : Term} (hp : p ∈ c.filterProperties) (ho : o ∈ (params.values p).head?)
      (ho' : o' ∈ (params'.values p).head?) (hc : o.IsConstant) (hc' : o'.IsConstant) :
    SameButValue c member params params' ⟨.var member, .iri p, .term o⟩ ⟨.var member, .iri p, .term o'⟩

theorem SameButValue.vars_eq {c : Collection} {member : Variable} {params params' : SearchParams} {t u : TriplePattern}
    (h : SameButValue c member params params' t u) : t.vars = u.vars := by
  cases h <;> rfl

/-- The queries are alike but for the values of two searches, and have the same variables. -/
structure DifferInValues (c : Collection) (member : Variable) (params params' : SearchParams) (q q' : MemberQueries) :
    Prop where
  alike : q.Alike (SameButValue c member params params') q'
  members_vars : q.members.vars = q'.members.vars
  total_vars : q.total.vars = q'.total.vars

theorem Alike.differInValues {c : Collection} {member : Variable} {params params' : SearchParams} {q q' : MemberQueries}
    (h : q.Alike (SameButValue c member params params') q') : DifferInValues c member params params' q q' where
  alike := h
  members_vars := h.members.vars_eq fun _ _ => SameButValue.vars_eq
  total_vars := h.total.vars_eq fun _ _ => SameButValue.vars_eq

end MemberQueries

theorem Collection.isConstant_of_mem_values (c : Collection) (query : String) {p : Iri} {v : Term}
    (h : v ∈ (c.searchParams query).values p) : v.IsConstant := by
  unfold searchParams at h
  split at h
  · next t _ =>
    obtain ⟨_, w, -, rfl⟩ := SearchTemplate.exists_of_mem_values_parseQuery h
    obtain ⟨s, hs, -⟩ := t.exists_writeValue_readValue p w
    generalize t.readValue p w = v at hs ⊢
    cases v with
    | blank label => cases hs
    | iri _ | literal _ => trivial
  · cases h

namespace MemberQueries
variable {c : Collection} {params params' : SearchParams} {member : Variable} {r r' : Resolver}

/-- Both searches restrict a property to their own first value, or neither restricts it. -/
theorem alike_equals? {p : Iri} (hp : p ∈ c.filterProperties) (hc : ∀ v ∈ params.values p, v.IsConstant)
    (hc' : ∀ v ∈ params'.values p, v.IsConstant) (h : params.values p = [] ↔ params'.values p = []) :
    Option.Rel (Pattern.Alike (SameButValue c member params params'))
      ((params.values p).head?.bind (Pattern.equals? member p))
      ((params'.values p).head?.bind (Pattern.equals? member p)) := by
  by_cases hv : params.values p = []
  · rw [hv, h.mp hv]
    exact .none
  · obtain ⟨o, os, ho⟩ := List.exists_cons_of_ne_nil hv
    obtain ⟨o', os', ho'⟩ := List.exists_cons_of_ne_nil (mt h.mpr hv)
    have hoc := hc o (ho ▸ List.mem_cons_self)
    have hoc' := hc' o' (ho' ▸ List.mem_cons_self)
    have htriple : SameButValue c member params params' ⟨.var member, .iri p, .term o⟩
      ⟨.var member, .iri p, .term o'⟩ := .value hp (by rw [ho]; rfl) (by rw [ho']; rfl) hoc hoc'
    rw [ho, ho', List.head?_cons, List.head?_cons, Option.bind_some, Option.bind_some, equals?_eq_some.mpr ⟨hoc, rfl⟩,
      equals?_eq_some.mpr ⟨hoc', rfl⟩]
    exact .some (.basic (.cons htriple .nil))

theorem alike_filterPatterns (hfilter : ∀ t ∈ c.search, ∀ x ∈ t.filters, x.1.filter = none)
    (hc : ∀ p, ∀ v ∈ params.values p, v.IsConstant) (hc' : ∀ p, ∀ v ∈ params'.values p, v.IsConstant)
    (h : ∀ p ∈ c.filterProperties, params.values p = [] ↔ params'.values p = []) :
    List.Forall₂ (Pattern.Alike (SameButValue c member params params')) (filterPatterns c params member r).value.1
      (filterPatterns c params' member r').value.1 := by
  unfold filterPatterns
  cases hs : c.search with
  | none => exact .nil
  | some t =>
    have hfilter := hfilter t hs
    simp only [value_filterPatternsFrom fun x hx _ => hfilter x hx]
    refine List.rel_filterMap (R := fun x y => x = y ∧ x ∈ t.filters) ?_ (List.forall₂_same.mpr fun x hx => ⟨rfl, hx⟩)
    rintro x _ ⟨rfl, hx⟩
    have hp : x.2 ∈ c.filterProperties := by
      rw [Collection.filterProperties, hs]
      exact List.mem_map_of_mem hx
    exact alike_equals? hp (hc x.2) (hc' x.2) (h x.2 hp)

/-- What a query string searches for changes neither the shape of the queries nor their variables. -/
theorem assemble_alike (c : Collection) (options : Options) (r r' : Resolver) (query query' : String)
    (hfilter : ∀ t ∈ c.search, ∀ x ∈ t.filters, x.1.filter = none)
    (h : ∀ p ∈ c.filterProperties, (c.searchParams query).values p = [] ↔ (c.searchParams query').values p = [])
    (hpage : PageRequest.resolve c (c.searchParams query) options.pageSize =
      PageRequest.resolve c (c.searchParams query') options.pageSize) :
    Option.Rel (DifferInValues c options.member (c.searchParams query) (c.searchParams query'))
      (assemble c (c.searchParams query) options r).value.1
      (assemble c (c.searchParams query') options r').value.1 := by
  rw [value_assemble, value_assemble]
  split
  · exact .none
  · have hfragments : List.Forall₂ (Fragment.Alike (SameButValue c options.member (c.searchParams query)
        (c.searchParams query'))) (sharedFragments c (c.searchParams query) options r)
        (sharedFragments c (c.searchParams query') options r') :=
      List.rel_map (fun _ _ hp => .required hp) (List.rel_append (List.forall₂_same.mpr fun p _ => .refl .same p)
        (alike_filterPatterns hfilter (fun _ _ => c.isConstant_of_mem_values query)
          (fun _ _ => c.isConstant_of_mem_values query') h))
    refine .some (Alike.differInValues ⟨?_, alike_selectTotal hfragments, hpage⟩)
    unfold queriesOf
    dsimp only
    rw [hpage]
    exact alike_selectMembers .same hfragments _ _

/-- A text that is meant to close the pattern is a literal like any other. -/
theorem shelf_assemble_alike :
    let query := "author=Ann"
    let query' := "author=%3E%20.%20%7D%20%23&author=Eve"
    let c := Collection.shelf
    let r : Resolver := { host := .ofRegistry [] [] }
    (∀ t ∈ c.search, ∀ x ∈ t.filters, x.1.filter = none) ∧
      (∀ p ∈ c.filterProperties, (c.searchParams query).values p = [] ↔ (c.searchParams query').values p = []) ∧
      PageRequest.resolve c (c.searchParams query) 10 = PageRequest.resolve c (c.searchParams query') 10 ∧
      Option.Rel (DifferInValues c ⟨"member"⟩ (c.searchParams query) (c.searchParams query'))
        (assemble c (c.searchParams query) {} r).value.1 (assemble c (c.searchParams query') {} r).value.1 := by
  intro query query' c r
  have hfilter : ∀ t ∈ c.search, ∀ x ∈ t.filters, x.1.filter = none := by decide
  have h : ∀ p ∈ c.filterProperties,
    (c.searchParams query).values p = [] ↔ (c.searchParams query').values p = [] := by decide
  have hpage : PageRequest.resolve c (c.searchParams query) 10 = PageRequest.resolve c (c.searchParams query') 10 := by
    decide
  exact ⟨hfilter, h, hpage, assemble_alike c {} r r query query' hfilter h hpage⟩

end MemberQueries
end CollectionQuery
