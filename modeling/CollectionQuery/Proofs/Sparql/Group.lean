import CollectionQuery.Collection.Fragment
import CollectionQuery.Proofs.Sparql.Evaluate

/-! The solutions of groups of fragments. Merging neighbouring basic patterns and leaving out empty ones gives the
    solutions of a join, as long as no blank node of one pattern can meet its namesake in the other. An optional part
    extends each solution in front of it and loses none. -/

namespace CollectionQuery
open Row

/-! ### Rows without blank nodes -/

namespace Row

theorem lookup_visible (r : Row Slot) (v : Variable) : (visible r).lookup v = r.lookup (.inl v) := by
  refine Option.ext fun t => ?_
  rw [Finmap.lookup_eq_some_iff, Finmap.lookup_eq_some_iff]
  simp only [visible, Multiset.mem_filterMap, Option.map_eq_some_iff, Sum.getLeft?_eq_some_iff]
  constructor
  · rintro ⟨⟨k, t'⟩, he, v', hk, heq⟩
    cases hk
    cases heq
    exact he
  · exact fun h => ⟨⟨.inl v, t⟩, h, v, rfl, rfl⟩

theorem visible_union (a b : Row Slot) : visible (a ∪ b) = visible a ∪ visible b :=
  Finmap.ext_lookup fun v => by simp only [lookup_union, lookup_visible]

@[simp] theorem visible_empty : visible ∅ = ∅ := Finmap.ext_lookup fun v => by simp [lookup_visible]

@[simp] theorem visible_singleton (v : Variable) (t : Term) :
    visible (Finmap.singleton (.inl v) t) = Finmap.singleton v t :=
  Finmap.ext_lookup fun v' => by simp [lookup_visible, lookup_singleton]

theorem Extends.visible {r a : Row Slot} (h : Extends r a) : Extends (visible r) (visible a) := fun v t hv => by
  rw [lookup_visible] at hv ⊢
  exact h (.inl v) t hv

/-- The row binds no blank node. -/
def BlankFree (r : Row Slot) : Prop := ∀ label, Sum.inr label ∉ r

theorem blankFree_empty : BlankFree ∅ := fun _ => Finmap.notMem_empty

theorem blankFree_singleton (v : Variable) (t : Term) : BlankFree (Finmap.singleton (.inl v) t) := fun label h => by
  rw [Finmap.mem_singleton] at h
  cases h

theorem BlankFree.union {a b : Row Slot} (ha : BlankFree a) (hb : BlankFree b) : BlankFree (a ∪ b) := fun label h =>
  (Finmap.mem_union.mp h).elim (ha label) (hb label)

theorem compatible_visible {a b : Row Slot} (ha : BlankFree a) : Compatible (visible a) (visible b) ↔ Compatible a b := by
  simp only [compatible_iff, lookup_visible]
  constructor
  · rintro h (v | label) s t hs ht
    · exact h v s t hs ht
    · exact absurd (Finmap.mem_of_lookup_eq_some hs) (ha label)
  · exact fun h v s t hs ht => h (.inl v) s t hs ht

theorem map_visible_join {A B : Multiset (Row Slot)} (hA : ∀ a ∈ A, BlankFree a) :
    (join A B).map visible = join (A.map visible) (B.map visible) := by
  unfold join
  rw [Multiset.map_bind, Multiset.bind_map]
  refine Multiset.bind_congr fun a ha => ?_
  rw [Multiset.filter_map, Multiset.map_map, Multiset.map_map]
  refine congrArg₂ Multiset.map (funext fun b => visible_union a b) ?_
  exact Multiset.filter_congr fun b _ => (compatible_visible (hA a ha)).symm

end Row

/-! ### Patterns without blank nodes -/

def TermPattern.BlankFree : TermPattern → Prop
  | .term (.blank _) => False
  | _ => True

def TriplePattern.BlankFree (p : TriplePattern) : Prop := p.subject.BlankFree ∧ p.object.BlankFree

/-- The pattern has no blank nodes. -/
def Pattern.BlankFree : Pattern → Prop
  | .basic ts => ∀ t ∈ ts, t.BlankFree
  | .path s _ o => s.BlankFree ∧ o.BlankFree
  | .graph _ inner | .filter _ inner | .count _ _ inner => inner.BlankFree
  | .union l r | .join l r | .leftJoin l r => l.BlankFree ∧ r.BlankFree
  | .values _ _ | .foreign _ => True

theorem TermPattern.BlankFree.rows {p : TermPattern} (hp : p.BlankFree) {t : Term} {r : Row Slot} (h : r ∈ p.rows t) :
    r.BlankFree := by
  match p with
  | .var v =>
    obtain rfl := Multiset.mem_singleton.mp h
    exact blankFree_singleton v t
  | .term (.blank label) => exact hp.elim
  | .term (.iri i) =>
    simp only [TermPattern.rows] at h
    split at h
    · obtain rfl := Multiset.mem_singleton.mp h
      exact blankFree_empty
    · simp at h
  | .term (.literal l) =>
    simp only [TermPattern.rows] at h
    split at h
    · obtain rfl := Multiset.mem_singleton.mp h
      exact blankFree_empty
    · simp at h

theorem NamePattern.blankFree_of_mem_rows {p : NamePattern} {i : Iri} {r : Row Slot} (h : r ∈ p.rows i) :
    r.BlankFree := by
  match p with
  | .var v =>
    obtain rfl := Multiset.mem_singleton.mp h
    exact blankFree_singleton v _
  | .iri c =>
    simp only [NamePattern.rows] at h
    split at h
    · obtain rfl := Multiset.mem_singleton.mp h
      exact blankFree_empty
    · simp at h

theorem TriplePattern.BlankFree.rows {p : TriplePattern} (hp : p.BlankFree) {g : Graph} {r : Row Slot}
    (h : r ∈ p.rows g) : r.BlankFree := by
  obtain ⟨t, -, hr⟩ := Multiset.mem_bind.mp h
  obtain ⟨s, hs, po, hpo, -, rfl⟩ := mem_join.mp hr
  obtain ⟨n, hn, o, ho, -, rfl⟩ := mem_join.mp hpo
  exact (hp.1.rows hs).union ((NamePattern.blankFree_of_mem_rows hn).union (hp.2.rows ho))

/-! ### Basic patterns -/

namespace Sparql

theorem solve_append (g : Graph) (ps qs : List TriplePattern) : solve g (ps ++ qs) = join (solve g ps) (solve g qs) := by
  induction ps with
  | nil => simp [solve]
  | cons p ps ih => simp only [List.cons_append, solve, ih, join_assoc]

theorem blankFree_of_mem_solve {g : Graph} {ps : List TriplePattern} (hps : ∀ p ∈ ps, p.BlankFree) {r : Row Slot}
    (h : r ∈ solve g ps) : r.BlankFree := by
  induction ps generalizing r with
  | nil =>
    obtain rfl := Multiset.mem_singleton.mp h
    exact blankFree_empty
  | cons p ps ih =>
    obtain ⟨a, ha, b, hb, -, rfl⟩ := mem_join.mp h
    exact ((hps p (by simp)).rows ha).union (ih (fun q hq => hps q (by simp [hq])) hb)

end Sparql

namespace Pattern
variable {d : Dataset} {g : Graph}

@[simp] theorem rows_basic_nil : (basic []).rows d g = {∅} := by simp [rows, Sparql.solve]

theorem rows_basic_append {ts us : List TriplePattern} (h : ∀ t ∈ ts, t.BlankFree) :
    (basic (ts ++ us)).rows d g = Row.join ((basic ts).rows d g) ((basic us).rows d g) := by
  simp only [rows, Sparql.solve_append]
  exact map_visible_join fun _ hr => Sparql.blankFree_of_mem_solve h hr

/-! ### Merged patterns -/

theorem rows_merge {l : Pattern} (r : Pattern) (h : l.BlankFree) : (l.merge r).rows d g = Row.join (l.rows d g) (r.rows d g) := by
  unfold merge
  split
  · next ts us => exact rows_basic_append h
  · rw [rows_basic_nil, empty_join]
  · rw [rows_basic_nil, join_empty]
  · rfl

theorem blankFree_merge {l r : Pattern} (hl : l.BlankFree) (hr : r.BlankFree) : (l.merge r).BlankFree := by
  unfold merge
  split
  · next ts us => exact fun t ht => (List.mem_append.mp ht).elim (hl t) (hr t)
  · exact hr
  · exact hl
  · exact ⟨hl, hr⟩

/-- Also with blank nodes, a solution of merged patterns extends one of the first pattern. -/
theorem exists_extends_of_mem_merge {l r : Pattern} {x : Row Variable} (h : x ∈ (l.merge r).rows d g) :
    ∃ a ∈ l.rows d g, Extends x a := by
  unfold merge at h
  split at h
  · next ts us =>
    obtain ⟨x, hx, rfl⟩ := Multiset.mem_map.mp h
    rw [Sparql.solve_append] at hx
    obtain ⟨a, ha, hax⟩ := exists_extends_of_mem_join hx
    exact ⟨a.visible, Multiset.mem_map_of_mem _ ha, hax.visible⟩
  · exact ⟨∅, by simp, extends_empty x⟩
  · exact ⟨x, h, .refl x⟩
  · exact exists_extends_of_mem_join h

/-! ### Groups -/

theorem exists_extends_of_mem_foldl {fs : List Fragment} {l : Pattern} {x : Row Variable}
    (h : x ∈ (fs.foldl extend l).rows d g) : ∃ a ∈ l.rows d g, Extends x a := by
  induction fs generalizing l with
  | nil => exact ⟨x, h, .refl x⟩
  | cons f fs ih =>
    obtain ⟨b, hb, hxb⟩ := ih h
    cases f with
    | required p =>
      obtain ⟨a, ha, hba⟩ := exists_extends_of_mem_merge hb
      exact ⟨a, ha, hxb.trans hba⟩
    | optional p =>
      obtain ⟨a, ha, hba⟩ := exists_extends_of_mem_leftJoin hb
      exact ⟨a, ha, hxb.trans hba⟩

theorem group_append (fs gs : List Fragment) : group (fs ++ gs) = gs.foldl extend (group fs) := by
  rw [group, List.foldl_append, group]

/-- A group begins with its first pattern. -/
theorem group_required_cons (p : Pattern) (fs : List Fragment) : group (.required p :: fs) = fs.foldl extend p := by
  rw [group, List.foldl_cons]
  cases p <;> rfl

/-- Optional parts lose no solution. -/
theorem exists_mem_foldl_optional (ps : List Pattern) {l : Pattern} {a : Row Variable} (ha : a ∈ l.rows d g) :
    ∃ x ∈ ((ps.map Fragment.optional).foldl extend l).rows d g, Extends x a := by
  induction ps generalizing l a with
  | nil => exact ⟨a, ha, .refl a⟩
  | cons p ps ih =>
    obtain ⟨b, hb, hba⟩ := exists_mem_leftJoin_extends (B := p.rows d g) ha
    obtain ⟨x, hx, hxb⟩ := ih (l := .leftJoin l p) hb
    exact ⟨x, hx, hxb.trans hba⟩

/-- Optional parts keep the values of a variable that is always bound in front of them. -/
theorem lookup_optional_iff {fs : List Fragment} {ps : List Pattern} {v : Variable}
    (hv : ∀ a ∈ (group fs).rows d g, v ∈ a) {t : Term} :
    (∃ x ∈ (group (fs ++ ps.map .optional)).rows d g, x.lookup v = some t) ↔
      ∃ a ∈ (group fs).rows d g, a.lookup v = some t := by
  rw [group_append]
  constructor
  · rintro ⟨x, hx, hxv⟩
    obtain ⟨a, ha, hxa⟩ := exists_extends_of_mem_foldl hx
    obtain ⟨s, hs⟩ := Finmap.mem_iff.mp (hv a ha)
    have := hxa v s hs
    rw [hxv] at this
    cases this
    exact ⟨a, ha, hs⟩
  · rintro ⟨a, ha, hav⟩
    obtain ⟨x, hx, hxa⟩ := exists_mem_foldl_optional ps ha
    exact ⟨x, hx, hxa v t hav⟩

end Pattern
end CollectionQuery
