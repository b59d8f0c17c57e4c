import CollectionQuery.Proofs.Failure
import CollectionQuery.Proofs.Sparql.Selection

/-! Valid member assertions and the members they admit. The patterns of an assertion exist exactly if it is valid, and
    together they select the terms that it admits. -/

namespace CollectionQuery
open Pattern

/-- The triple is in the default graph, or in the graph with the given name. -/
def Dataset.Holds (d : Dataset) (name : Option Term) (t : Triple) : Prop :=
  match name with
  | none => t ∈ d.default.toList
  | some n => ∃ x ∈ d.named, x.1 = n ∧ t ∈ x.2.toList

namespace MemberAssertion

/-- Two positions are bound, subjects and objects by IRIs or literals and properties by IRIs. -/
structure IsValid (a : MemberAssertion) : Prop where
  bound : [a.subjects, a.properties, a.objects].countP (· ≠ []) = 2
  subjects : ∀ t ∈ a.subjects, t.IsConstant
  properties : ∀ t ∈ a.properties, ∃ i, t = .iri i
  objects : ∀ t ∈ a.objects, t.IsConstant

/-- What stands at a position: its bound values, or `x` if it has none. -/
def standing {α : Type} (x : α) (bound : List α) : List α := if bound.isEmpty then [x] else bound

/-- Each combination of the bound values makes a triple with the term in the third position. -/
def Admits (a : MemberAssertion) (d : Dataset) (m : Term) : Prop :=
  ∀ s ∈ standing m a.subjects, ∀ p ∈ standing m a.properties, ∀ o ∈ standing m a.objects,
    ∃ i, p = .iri i ∧ d.Holds (if a.ownGraphOnly then some m else none) ⟨s, i, o⟩

theorem map_standing {α β : Type} (f : α → β) (x : α) (bound : List α) :
    (standing x bound).map f = standing (f x) (bound.map f) := by
  unfold standing
  split <;> simp_all

theorem mem_standing {α : Type} {x y : α} {bound : List α} : y ∈ standing x bound ↔ bound = [] ∧ y = x ∨ y ∈ bound := by
  unfold standing
  split <;> simp_all

theorem standing_ne_nil {α : Type} (x : α) (bound : List α) : standing x bound ≠ [] := by
  unfold standing
  split <;> simp_all

/-! ### Bound values -/

theorem constants_eq_ok {ts : List Term} {cs : List TermPattern} :
    constants ts = .ok cs ↔ (∀ t ∈ ts, t.IsConstant) ∧ ts.map .term = cs := by
  unfold constants
  rw [mapM_eq_ok_iff, ← List.forall₂_eq_eq_eq, List.forall₂_map_left_iff, ← List.forall₂_and_left]
  refine iff_of_eq (congrArg (List.Forall₂ · ts cs) (funext₂ fun t c => propext ?_))
  cases t <;> simp [Term.constant?, Term.IsConstant]

theorem propertyNames_eq_ok {ts : List Term} {ns : List NamePattern} :
    propertyNames ts = .ok ns ↔ ∃ is : List Iri, is.map .iri = ts ∧ is.map .iri = ns := by
  unfold propertyNames
  rw [mapM_eq_ok_iff]
  constructor
  · intro h
    induction h with
    | nil => exact ⟨[], rfl, rfl⟩
    | @cons t n _ _ hn _ ih =>
      obtain ⟨is, rfl, rfl⟩ := ih
      cases t with
      | iri i =>
        cases hn
        exact ⟨i :: is, rfl, rfl⟩
      | blank label => cases hn
      | literal l => cases hn
  · rintro ⟨is, rfl, rfl⟩
    rw [List.forall₂_map_left_iff, List.forall₂_map_right_iff, List.forall₂_same]
    exact fun i _ => rfl

/-! ### Patterns -/

/-- The pattern of one combination. -/
def place (a : MemberAssertion) (v : Variable) (p : Pattern) : Pattern :=
  if a.ownGraphOnly then .graph (.var v) p else p

theorem patterns_eq_ok {a : MemberAssertion} {v : Variable} {ps : List Pattern} :
    a.patterns v = .ok ps ↔ a.IsValid ∧ ∃ is : List Iri, is.map .iri = a.properties ∧
      ((standing (.var v) (a.subjects.map .term)).flatMap fun s => (standing (.var v) (is.map .iri)).flatMap fun n =>
        (standing (.var v) (a.objects.map .term)).map fun o => a.place v (triple s n o)) = ps := by
  have hcount (is : List Iri) (h : is.map .iri = a.properties) :
      [(a.subjects.map TermPattern.term).isEmpty, (is.map NamePattern.iri).isEmpty,
        (a.objects.map TermPattern.term).isEmpty].count false =
      [a.subjects, a.properties, a.objects].countP (· ≠ []) := by
    rw [← h]
    cases a.subjects <;> cases is <;> cases a.objects <;> rfl
  unfold patterns
  simp only [bind_eq_ok_iff]
  simp only [constants_eq_ok, propertyNames_eq_ok]
  constructor
  · rintro ⟨_, ⟨hs, rfl⟩, _, ⟨is, hp, rfl⟩, _, ⟨ho, rfl⟩, h⟩
    rw [hcount is hp] at h
    split at h
    · cases h
    · next hb =>
      cases h
      refine ⟨⟨of_not_not hb, hs, ?_, ho⟩, is, hp, rfl⟩
      rw [← hp]
      simp
  · rintro ⟨h, is, hp, rfl⟩
    refine ⟨_, ⟨h.subjects, rfl⟩, _, ⟨is, hp, rfl⟩, _, ⟨h.objects, rfl⟩, ?_⟩
    rw [hcount is hp, if_neg (not_not.mpr h.bound)]
    rfl

/-! ### Members -/

theorem IsValid.exists_unbound {a : MemberAssertion} (h : a.IsValid) :
    (a.subjects = [] ∧ a.properties ≠ [] ∧ a.objects ≠ []) ∨ (a.subjects ≠ [] ∧ a.properties = [] ∧ a.objects ≠ []) ∨
      (a.subjects ≠ [] ∧ a.properties ≠ [] ∧ a.objects = []) := by
  have hb := h.bound
  by_cases hs : a.subjects = [] <;> by_cases hp : a.properties = [] <;> by_cases ho : a.objects = [] <;>
    simp [hs, hp, ho] at hb ⊢

/-- The bound positions of a valid assertion leave one for the variable. -/
theorem IsValid.openTriple {a : MemberAssertion} (h : a.IsValid) {is : List Iri} (hp : is.map .iri = a.properties)
    {v : Variable} {s : TermPattern} (hs : s ∈ standing (.var v) (a.subjects.map .term))
    {n : NamePattern} (hn : n ∈ standing (.var v) (is.map .iri))
    {o : TermPattern} (ho : o ∈ standing (.var v) (a.objects.map .term)) : OpenTriple v s n o := by
  have h₀ := h.exists_unbound
  rw [← hp] at h₀
  simp only [mem_standing, ne_eq, List.map_eq_nil_iff, List.mem_map] at hs hn ho h₀
  rcases h₀ with ⟨hs₀, hp₀, ho₀⟩ | ⟨hs₀, hp₀, ho₀⟩ | ⟨hs₀, hp₀, ho₀⟩
  · obtain rfl : s = .var v := by simpa [hs₀] using hs
    obtain ⟨i, -, rfl⟩ := hn.resolve_left fun x => hp₀ x.1
    obtain ⟨t, ht, rfl⟩ := ho.resolve_left fun x => ho₀ x.1
    exact .subject i (h.objects t ht)
  · obtain ⟨t, ht, rfl⟩ := hs.resolve_left fun x => hs₀ x.1
    obtain rfl : n = .var v := by simpa [hp₀] using hn
    obtain ⟨u, hu, rfl⟩ := ho.resolve_left fun x => ho₀ x.1
    exact .predicate (h.subjects t ht) (h.objects u hu)
  · obtain ⟨t, ht, rfl⟩ := hs.resolve_left fun x => hs₀ x.1
    obtain ⟨i, -, rfl⟩ := hn.resolve_left fun x => hp₀ x.1
    obtain rfl : o = .var v := by simpa [ho₀] using ho
    exact .object (h.subjects t ht) i

theorem exists_patterns_iff {a : MemberAssertion} {v : Variable} : (∃ ps, a.patterns v = .ok ps) ↔ a.IsValid := by
  simp only [patterns_eq_ok]
  constructor
  · rintro ⟨_, h, -⟩
    exact h
  · intro h
    obtain ⟨is, his⟩ : a.properties ∈ Set.range (List.map Term.iri) := by
      rw [Set.range_list_map]
      intro t ht
      obtain ⟨i, rfl⟩ := h.properties t ht
      exact ⟨i, rfl⟩
    exact ⟨_, h, is, his, rfl⟩

theorem selects_place {d : Dataset} {v : Variable} (a : MemberAssertion) {s : TermPattern} {n : NamePattern}
    {o : TermPattern} (h : OpenTriple v s n o) :
    Selects d d.default v
      (fun m => ∃ i, n.fill m = .iri i ∧ d.Holds (if a.ownGraphOnly then some m else none) ⟨s.fill m, i, o.fill m⟩)
      (a.place v (triple s n o)) := by
  unfold place
  split
  · refine (selects_graph fun g => selects_triple h).congr fun m => ?_
    simp only [Dataset.Holds]
    constructor
    · rintro ⟨x, hx, hm, i, hi, ht⟩
      exact ⟨i, hi, x, hx, hm, ht⟩
    · rintro ⟨i, hi, x, hx, hm, ht⟩
      exact ⟨x, hx, hm, i, hi, ht⟩
  · exact selects_triple h

theorem patterns_ne_nil {a : MemberAssertion} {v : Variable} {ps : List Pattern} (h : a.patterns v = .ok ps) : ps ≠ [] := by
  obtain ⟨-, is, -, rfl⟩ := patterns_eq_ok.mp h
  obtain ⟨s, hs⟩ := List.exists_mem_of_ne_nil _ (standing_ne_nil (TermPattern.var v) (a.subjects.map .term))
  obtain ⟨n, hn⟩ := List.exists_mem_of_ne_nil _ (standing_ne_nil (NamePattern.var v) (is.map .iri))
  obtain ⟨o, ho⟩ := List.exists_mem_of_ne_nil _ (standing_ne_nil (TermPattern.var v) (a.objects.map .term))
  refine List.ne_nil_of_mem (a := a.place v (triple s n o)) ?_
  simp only [List.mem_flatMap, List.mem_map]
  exact ⟨s, hs, n, hn, o, ho, rfl⟩

/-- Together the patterns of an assertion select the terms that it admits. -/
theorem selects_patterns {a : MemberAssertion} {v : Variable} {ps : List Pattern} (h : a.patterns v = .ok ps)
    (d : Dataset) :
    (∀ p ∈ ps, Selects d d.default v (Selected d d.default v p) p) ∧
      ∀ m, (∀ p ∈ ps, Selected d d.default v p m) ↔ a.Admits d m := by
  obtain ⟨hv, is, hp, rfl⟩ := patterns_eq_ok.mp h
  have hsel (s : TermPattern) (hs : s ∈ standing (.var v) (a.subjects.map .term))
      (n : NamePattern) (hn : n ∈ standing (.var v) (is.map .iri))
      (o : TermPattern) (ho : o ∈ standing (.var v) (a.objects.map .term)) :=
    selects_place (d := d) a (hv.openTriple hp hs hn ho)
  refine ⟨fun p hp => ?_, fun m => ?_⟩
  · simp only [List.mem_flatMap, List.mem_map] at hp
    obtain ⟨s, hs, n, hn, o, ho, rfl⟩ := hp
    exact (hsel s hs n hn o ho).selected
  · have hs : standing m a.subjects = (standing (.var v) (a.subjects.map .term)).map (TermPattern.fill m) := by
      rw [map_standing, List.map_map]
      simp [Function.comp_def, TermPattern.fill]
    have hn : standing m a.properties = (standing (.var v) (is.map .iri)).map (NamePattern.fill m) := by
      rw [map_standing, List.map_map, ← hp]
      simp [Function.comp_def, NamePattern.fill]
    have ho : standing m a.objects = (standing (.var v) (a.objects.map .term)).map (TermPattern.fill m) := by
      rw [map_standing, List.map_map]
      simp [Function.comp_def, TermPattern.fill]
    unfold Admits
    rw [hs, hn, ho]
    simp only [List.forall_mem_flatMap, List.forall_mem_map]
    exact forall₂_congr fun s hs => forall₂_congr fun n hn => forall₂_congr fun o ho =>
      (hsel s hs n hn o ho).selected_iff m

end MemberAssertion
end CollectionQuery
