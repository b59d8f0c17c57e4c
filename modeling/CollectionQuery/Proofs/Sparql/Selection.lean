import CollectionQuery.Proofs.Sparql.Group

/-! Patterns that bind a single variable. A triple pattern with the variable in one position selects the terms that
    make it a triple of the graph, and a group of such patterns selects what all of them select. -/

namespace CollectionQuery
open Row

/-- The term that a pattern with one variable is for a value of the variable. -/
def TermPattern.fill (t : Term) : TermPattern → Term
  | .var _ => t
  | .term c => c

def NamePattern.fill (t : Term) : NamePattern → Term
  | .var _ => t
  | .iri i => .iri i

/-- IRIs and literals, which a pattern can hold as they are. -/
def Term.IsConstant : Term → Prop
  | .blank _ => False
  | .iri _ | .literal _ => True

instance : DecidablePred Term.IsConstant
  | .blank _ => isFalse id
  | .iri _ | .literal _ => isTrue trivial

theorem Condition.holds_isIri {a : Row Variable} {v : Variable} :
    (Condition.isIri v).holds a = true ↔ ∃ i, a.lookup v = some (.iri i) := by
  unfold Condition.holds
  cases h : a.lookup v with
  | none => simp [h]
  | some t => cases t <;> simp [h]

namespace Pattern

/-- The solutions of the pattern bind `v` alone, to the terms with `P`. -/
structure Selects (d : Dataset) (g : Graph) (v : Variable) (P : Term → Prop) (p : Pattern) : Prop where
  blankFree : p.BlankFree
  mem_rows : ∀ {r}, r ∈ p.rows d g ↔ ∃ t, P t ∧ Finmap.singleton v t = r

/-- One of the solutions of the pattern binds `v` to the term and nothing else. -/
def Selected (d : Dataset) (g : Graph) (v : Variable) (p : Pattern) (t : Term) : Prop :=
  Finmap.singleton v t ∈ p.rows d g

/-- The variable stands in one position, and constants stand in the others. -/
inductive OpenTriple (v : Variable) : TermPattern → NamePattern → TermPattern → Prop
  | subject (i : Iri) {o : Term} (ho : o.IsConstant) : OpenTriple v (.var v) (.iri i) (.term o)
  | predicate {s o : Term} (hs : s.IsConstant) (ho : o.IsConstant) : OpenTriple v (.term s) (.var v) (.term o)
  | object {s : Term} (hs : s.IsConstant) (i : Iri) : OpenTriple v (.term s) (.iri i) (.var v)

variable {d : Dataset} {g : Graph} {v : Variable}

section Selects
variable {P : Term → Prop} {p : Pattern}

theorem Selects.selected_iff (h : Selects d g v P p) (t : Term) : Selected d g v p t ↔ P t := by
  rw [Selected, h.mem_rows]
  constructor
  · rintro ⟨u, hu, he⟩
    obtain rfl := singleton_injective v he
    exact hu
  · exact fun ht => ⟨t, ht, rfl⟩

theorem Selects.congr {Q : Term → Prop} (h : Selects d g v P p) (hQ : ∀ t, P t ↔ Q t) : Selects d g v Q p where
  blankFree := h.blankFree
  mem_rows := by simp only [h.mem_rows, hQ, implies_true]

theorem Selects.selected (h : Selects d g v P p) : Selects d g v (Selected d g v p) p :=
  h.congr fun t => (h.selected_iff t).symm

end Selects

/-! ### Triple patterns -/

theorem rows_var (v : Variable) (t : Term) : (TermPattern.var v).rows t = {Finmap.singleton (.inl v) t} := rfl

theorem rows_constant {c : Term} (hc : c.IsConstant) (t : Term) :
    (TermPattern.term c).rows t = if c = t then {∅} else 0 := by
  cases c with
  | blank label => exact hc.elim
  | iri i => rfl
  | literal l => rfl

theorem rows_name (c i : Iri) : (NamePattern.iri c).rows i = if c = i then {∅} else 0 := rfl

theorem blankFree_constant {c : Term} (hc : c.IsConstant) : (TermPattern.term c).BlankFree := by
  cases c with
  | blank label => exact hc.elim
  | iri i => trivial
  | literal l => trivial

theorem mem_rows_triple {s : TermPattern} {n : NamePattern} {o : TermPattern} {r : Row Variable} :
    r ∈ (triple s n o).rows d g ↔ ∃ t ∈ g.toList,
      r ∈ (Row.join (s.rows t.subject) (Row.join (n.rows t.predicate) (o.rows t.object))).map visible := by
  simp only [triple, rows, Sparql.solve, join_empty, TriplePattern.rows, Multiset.map_bind, Multiset.mem_bind,
    Multiset.mem_coe]

/-- A bag that holds one row under a condition. -/
theorem mem_map_visible_ite {p : Prop} [Decidable p] {x : Row Slot} {r : Row Variable} :
    r ∈ (if p then {x} else 0 : Multiset (Row Slot)).map visible ↔ p ∧ x.visible = r := by
  split
  · next h => simp [h, eq_comm]
  · next h => simp [h]

theorem selects_triple {s : TermPattern} {n : NamePattern} {o : TermPattern} (h : OpenTriple v s n o) :
    Selects d g v (fun t => ∃ i, n.fill t = .iri i ∧ ⟨s.fill t, i, o.fill t⟩ ∈ g.toList) (triple s n o) where
  blankFree := by
    intro t ht
    obtain rfl := List.mem_singleton.mp ht
    cases h with
    | subject i ho => exact ⟨trivial, blankFree_constant ho⟩
    | predicate hs ho => exact ⟨blankFree_constant hs, blankFree_constant ho⟩
    | object hs i => exact ⟨blankFree_constant hs, trivial⟩
  mem_rows {r} := by
    rw [mem_rows_triple]
    cases h with
    | @subject i o ho =>
      simp only [rows_constant ho, rows_var, rows_name, join_ite, ← ite_and, mem_map_visible_ite,
        visible_singleton]
      constructor
      · rintro ⟨⟨s, _, _⟩, ht, ⟨rfl, rfl⟩, hr⟩
        exact ⟨s, ⟨i, rfl, ht⟩, hr⟩
      · rintro ⟨s, ⟨_, hi, ht⟩, hr⟩
        cases hi
        exact ⟨_, ht, ⟨rfl, rfl⟩, hr⟩
    | @predicate s o hs ho =>
      simp only [rows_constant hs, rows_constant ho, NamePattern.rows, ite_join, join_ite, ← ite_and,
        mem_map_visible_ite, visible_singleton]
      constructor
      · rintro ⟨⟨_, i, _⟩, ht, ⟨rfl, rfl⟩, hr⟩
        exact ⟨.iri i, ⟨i, rfl, ht⟩, hr⟩
      · rintro ⟨_, ⟨i, rfl, ht⟩, hr⟩
        exact ⟨_, ht, ⟨rfl, rfl⟩, hr⟩
    | @object s hs i =>
      simp only [rows_constant hs, rows_var, rows_name, ite_join, ← ite_and, mem_map_visible_ite, visible_singleton]
      constructor
      · rintro ⟨⟨_, _, o⟩, ht, ⟨rfl, rfl⟩, hr⟩
        exact ⟨o, ⟨i, rfl, ht⟩, hr⟩
      · rintro ⟨o, ⟨_, hi, ht⟩, hr⟩
        cases hi
        exact ⟨_, ht, ⟨rfl, rfl⟩, hr⟩

/-- Within the graph that the variable names, the named graph must have the triple. -/
theorem selects_graph {P : Graph → Term → Prop} {p : Pattern} (h : ∀ g, Selects d g v (P g) p) :
    Selects d g v (fun t => ∃ x ∈ d.named, x.1 = t ∧ P x.2 t) (.graph (.var v) p) where
  blankFree := (h g).blankFree
  mem_rows {r} := by
    simp only [rows, Multiset.mem_bind, Multiset.mem_coe, mem_join, Multiset.mem_singleton, (h _).mem_rows]
    constructor
    · rintro ⟨x, hx, _, rfl, _, ⟨t, ht, rfl⟩, hc, rfl⟩
      obtain rfl := compatible_singleton.mp hc
      exact ⟨x.1, ⟨x, hx, rfl, ht⟩, (union_self _).symm⟩
    · rintro ⟨_, ⟨x, hx, rfl, ht⟩, rfl⟩
      exact ⟨x, hx, _, rfl, _, ⟨x.1, ht, rfl⟩, compatible_singleton.mpr rfl, union_self _⟩

/-! ### Groups -/

theorem Selects.merge {P Q : Term → Prop} {p q : Pattern} (hp : Selects d g v P p) (hq : Selects d g v Q q) :
    Selects d g v (fun t => P t ∧ Q t) (p.merge q) where
  blankFree := blankFree_merge hp.blankFree hq.blankFree
  mem_rows {r} := by
    simp only [rows_merge q hp.blankFree, mem_join, hp.mem_rows, hq.mem_rows]
    constructor
    · rintro ⟨_, ⟨t, hP, rfl⟩, _, ⟨u, hQ, rfl⟩, hc, rfl⟩
      obtain rfl := compatible_singleton.mp hc
      exact ⟨t, ⟨hP, hQ⟩, (union_self _).symm⟩
    · rintro ⟨t, ⟨hP, hQ⟩, rfl⟩
      exact ⟨_, ⟨t, hP, rfl⟩, _, ⟨t, hQ, rfl⟩, compatible_singleton.mpr rfl, union_self _⟩

/-- A group of patterns selects what all of them select. -/
theorem selects_group {P : Pattern → Term → Prop} {ps : List Pattern} (hne : ps ≠ [])
    (h : ∀ p ∈ ps, Selects d g v (P p) p) :
    Selects d g v (fun t => ∀ p ∈ ps, P p t) (group (ps.map .required)) := by
  obtain ⟨p, ps, rfl⟩ := List.exists_cons_of_ne_nil hne
  rw [List.map_cons, group_required_cons]
  -- The patterns before `ps` are merged into one that selects `Q`.
  suffices H : ∀ (Q : Term → Prop) (l : Pattern), Selects d g v Q l →
      Selects d g v (fun t => Q t ∧ ∀ q ∈ ps, P q t) ((ps.map Fragment.required).foldl extend l) by
    simpa using H (P p) p (h p (by simp))
  have hps : ∀ q ∈ ps, Selects d g v (P q) q := fun q hq => h q (by simp [hq])
  clear h hne
  induction ps with
  | nil => exact fun Q l hl => by simpa using hl
  | cons q ps ih =>
    intro Q l hl
    have := ih (fun q' hq' => hps q' (by simp [hq'])) _ _ (hl.merge (hps q (by simp)))
    simpa [and_assoc, extend] using this

end Pattern
end CollectionQuery
