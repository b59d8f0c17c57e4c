import CollectionQuery.Proofs.Sparql.Group
import Mathlib.Data.Finset.Card
import Mathlib.Logic.Relation

/-! Paths as relations between terms (SPARQL 1.1, §9). The ends that are found in a graph are related by the path, and
    from a node of the graph all related terms are found: a way of any length needs at most as many steps as the graph
    has nodes. From other terms a path leads nowhere but to themselves. A pattern in which a predicate between two terms
    is written as a triple has the solutions of the path. -/

namespace CollectionQuery

/-- The path leads from the first term to the second one. -/
def Path.Leads (g : Graph) : Path → Term → Term → Prop
  | predicate i, x, y => ⟨x, i, y⟩ ∈ g.toList
  | inverse p, x, y => Leads g p y x
  | sequence p q, x, y => ∃ z, Leads g p x z ∧ Leads g q z y
  | alternative p q, x, y => Leads g p x y ∨ Leads g q x y
  | zeroOrOne p, x, y => x = y ∨ Leads g p x y
  | zeroOrMore p, x, y => Relation.ReflTransGen (Leads g p) x y
  | oneOrMore p, x, y => Relation.TransGen (Leads g p) x y
  | negated is, x, y => ∃ i, i ∉ is ∧ ⟨x, i, y⟩ ∈ g.toList

namespace Sparql

/-! ### Steps -/

section Reach
variable {step : Term → List Term} {seen : List Term} {n : Nat} {y : Term}

theorem subset_reach (step : Term → List Term) (n : Nat) (seen : List Term) : seen ⊆ reach step n seen := by
  induction n generalizing seen with
  | zero => exact fun x hx => List.mem_dedup.mpr hx
  | succ n ih => exact fun x hx => ih _ (List.mem_dedup.mpr (List.mem_append_left _ hx))

theorem exists_of_mem_reach (h : y ∈ reach step n seen) :
    ∃ x ∈ seen, Relation.ReflTransGen (fun a b => b ∈ step a) x y := by
  induction n generalizing seen with
  | zero => exact ⟨y, List.mem_dedup.mp h, .refl⟩
  | succ n ih =>
    obtain ⟨x, hx, hxy⟩ := ih h
    rcases List.mem_append.mp (List.mem_dedup.mp hx) with hx | hx
    · exact ⟨x, hx, hxy⟩
    · obtain ⟨z, hz, hzx⟩ := List.mem_flatMap.mp hx
      exact ⟨z, hz, .head hzx hxy⟩

theorem mem_of_reflTransGen (hclosed : ∀ x ∈ seen, ∀ y ∈ step x, y ∈ seen) {x : Term} (hx : x ∈ seen)
    (h : Relation.ReflTransGen (fun a b => b ∈ step a) x y) : y ∈ seen := by
  induction h with
  | refl => exact hx
  | tail _ hstep ih => exact hclosed _ ih _ hstep

/-- No step leaves the terms that are reached, if there are at most `n` terms more than those seen first. -/
theorem reach_closed {U : Finset Term} (hstep : ∀ x ∈ U, ∀ y ∈ step x, y ∈ U) (hseen : seen.toFinset ⊆ U)
    (hn : U.card ≤ n + seen.toFinset.card) : ∀ x ∈ reach step n seen, ∀ y ∈ step x, y ∈ reach step n seen := by
  induction n generalizing seen with
  | zero =>
    have hall : seen.toFinset = U := Finset.eq_of_subset_of_card_le hseen (by omega)
    have hmem (z : Term) : z ∈ reach step 0 seen ↔ z ∈ U := by rw [reach, List.mem_dedup, ← hall, List.mem_toFinset]
    intro x hx y hy
    exact (hmem y).mpr (hstep x ((hmem x).mp hx) y hy)
  | succ n ih =>
    by_cases hclosed : ∀ x ∈ seen, ∀ y ∈ step x, y ∈ seen
    · -- Nothing new comes in this step, nor in any later one.
      intro x hx y hy
      obtain ⟨z, hz, hzx⟩ := exists_of_mem_reach hx
      exact subset_reach step _ _ (hclosed x (mem_of_reflTransGen hclosed hz hzx) y hy)
    · push Not at hclosed
      obtain ⟨z, hz, w, hw, hnew⟩ := hclosed
      have hmore : (seen ++ seen.flatMap step).dedup.toFinset ⊆ U := by
        intro x hx
        rcases List.mem_append.mp (List.mem_dedup.mp (List.mem_toFinset.mp hx)) with hx | hx
        · exact hseen (List.mem_toFinset.mpr hx)
        · obtain ⟨a, ha, hax⟩ := List.mem_flatMap.mp hx
          exact hstep a (hseen (List.mem_toFinset.mpr ha)) x hax
      have hlt : seen.toFinset ⊂ (seen ++ seen.flatMap step).dedup.toFinset := by
        refine Finset.ssubset_iff_of_subset (fun x hx => ?_) |>.mpr ⟨w, ?_, mt List.mem_toFinset.mp hnew⟩
        · simp [List.mem_toFinset.mp hx]
        · simpa using Or.inr ⟨z, hz, hw⟩
      have := Finset.card_lt_card hlt
      exact ih hmore (by omega)

theorem mem_reach_iff {U : Finset Term} (hstep : ∀ x ∈ U, ∀ y ∈ step x, y ∈ U) (hseen : seen.toFinset ⊆ U)
    (hn : U.card ≤ n + seen.toFinset.card) :
    y ∈ reach step n seen ↔ ∃ x ∈ seen, Relation.ReflTransGen (fun a b => b ∈ step a) x y := by
  refine ⟨exists_of_mem_reach, ?_⟩
  rintro ⟨x, hx, hxy⟩
  exact mem_of_reflTransGen (reach_closed hstep hseen hn) (subset_reach step n seen hx) hxy

end Reach

/-! ### Ends -/

theorem fits_some {c t : Term} : fits (some c) t = true ↔ c = t := by simp [fits]

theorem mem_nodes {g : Graph} {x : Term} : x ∈ nodes g ↔ ∃ t ∈ g.toList, x = t.subject ∨ x = t.object := by
  simp [nodes]

end Sparql

namespace Path
open Sparql
variable {g : Graph} {start stop : Option Term} {x y : Term}

/-- A path leads between nodes of the graph, or a term is its own end. -/
theorem Leads.eq_or_mem_nodes {p : Path} (h : p.Leads g x y) : x = y ∨ x ∈ nodes g ∧ y ∈ nodes g := by
  have hgen {p : Path} (ih : ∀ {x y}, p.Leads g x y → x = y ∨ x ∈ nodes g ∧ y ∈ nodes g) {x y : Term}
      (h : Relation.ReflTransGen (p.Leads g) x y) : x = y ∨ x ∈ nodes g ∧ y ∈ nodes g := by
    induction h with
    | refl => exact .inl rfl
    | tail _ hstep ihxy =>
      rcases ih hstep with rfl | ⟨hb, hc⟩
      · exact ihxy
      · rcases ihxy with rfl | ⟨ha, -⟩
        · exact .inr ⟨hb, hc⟩
        · exact .inr ⟨ha, hc⟩
  induction p generalizing x y with
  | predicate i => exact .inr ⟨mem_nodes.mpr ⟨_, h, .inl rfl⟩, mem_nodes.mpr ⟨_, h, .inr rfl⟩⟩
  | inverse p ih => exact (ih h).imp Eq.symm And.symm
  | sequence p q ihp ihq =>
    obtain ⟨z, hp, hq⟩ := h
    rcases ihp hp with rfl | ⟨hx, hz⟩
    · exact ihq hq
    · rcases ihq hq with rfl | ⟨-, hy⟩
      · exact .inr ⟨hx, hz⟩
      · exact .inr ⟨hx, hy⟩
  | alternative p q ihp ihq => exact h.elim ihp ihq
  | zeroOrOne p ih => exact h.elim .inl ih
  | zeroOrMore p ih => exact hgen ih h
  | oneOrMore p ih => exact hgen ih h.to_reflTransGen
  | negated is =>
    obtain ⟨i, -, ht⟩ := h
    exact .inr ⟨mem_nodes.mpr ⟨_, ht, .inl rfl⟩, mem_nodes.mpr ⟨_, ht, .inr rfl⟩⟩

/-! ### Ways that are found -/

/-- The terms to which a path leads from a given one. -/
def next (g : Graph) (p : Path) (x : Term) : List Term := (p.ends g (some x) none).map (·.2)

/-- A way follows the path from end to end, and starts at a node of the graph unless one of its ends is given. -/
structure IsWay (g : Graph) (p : Path) (start stop : Option Term) (x y : Term) : Prop where
  leads : p.Leads g x y
  fits_start : fits start x = true
  fits_stop : fits stop y = true
  anchored : x ∈ nodes g ∨ start = some x ∨ stop = some y

theorem fits_of_mem_starts {t : Term} (h : t ∈ starts g start stop) : fits start t = true := by
  cases start with
  | none => rfl
  | some c => exact fits_some.mpr (List.mem_singleton.mp h).symm

theorem anchored_of_mem_starts {t : Term} (h : t ∈ starts g start stop) :
    t ∈ nodes g ∨ start = some t ∨ stop = some t := by
  cases start with
  | none =>
    rcases List.mem_append.mp (List.mem_dedup.mp h) with h | h
    · exact .inl h
    · exact .inr (.inr (Option.mem_toList.mp h))
  | some c => exact .inr (.inl (congrArg some (List.mem_singleton.mp h).symm))

theorem leads_of_mem_next {p : Path}
    (h : ∀ {start stop x y}, (x, y) ∈ p.ends g start stop → p.IsWay g start stop x y) (hy : y ∈ p.next g x) :
    p.Leads g x y := by
  obtain ⟨⟨a, b⟩, hab, rfl⟩ := List.mem_map.mp hy
  obtain rfl := fits_some.mp (h hab).fits_start
  exact (h hab).leads

theorem isWay_of_mem_starts {p : Path} (hx : x ∈ starts g start stop) (h : p.Leads g x y)
    (hstop : fits stop y = true) : p.IsWay g start stop x y where
  leads := h
  fits_start := fits_of_mem_starts hx
  fits_stop := hstop
  anchored := by
    rcases anchored_of_mem_starts hx with hx | hx | rfl
    · exact .inl hx
    · exact .inr (.inl hx)
    · exact .inr (.inr (congrArg some (fits_some.mp hstop)))

theorem isWay_of_mem_ends {p : Path} (h : (x, y) ∈ p.ends g start stop) : p.IsWay g start stop x y := by
  induction p generalizing start stop x y with
  | predicate i =>
    obtain ⟨⟨s, q, o⟩, ht, he⟩ := List.mem_map.mp h
    cases he
    simp only [List.mem_filter, Bool.and_eq_true, decide_eq_true_eq] at ht
    obtain ⟨ht, ⟨rfl, hs⟩, ho⟩ := ht
    exact ⟨ht, hs, ho, .inl (mem_nodes.mpr ⟨_, ht, .inl rfl⟩)⟩
  | inverse p ih =>
    obtain ⟨⟨a, b⟩, hab, he⟩ := List.mem_map.mp h
    cases he
    obtain ⟨hl, hs, ho, hy⟩ := ih hab
    refine ⟨hl, ho, hs, ?_⟩
    rcases hy with hy | hy | hy
    · rcases Leads.eq_or_mem_nodes hl with rfl | ⟨-, hx⟩
      · exact .inl hy
      · exact .inl hx
    · exact .inr (.inr hy)
    · exact .inr (.inl hy)
  | sequence p q ihp ihq =>
    obtain ⟨⟨a, b⟩, hab, hmem⟩ := List.mem_flatMap.mp h
    obtain ⟨⟨c, d⟩, hmem, he⟩ := List.mem_map.mp hmem
    obtain ⟨hcd, hbc⟩ := List.mem_filter.mp hmem
    cases he
    obtain rfl : c = b := by simpa using hbc
    obtain ⟨hp, hs, -, hx⟩ := ihp hab
    obtain ⟨hq, -, ho, -⟩ := ihq hcd
    exact ⟨⟨_, hp, hq⟩, hs, ho, hx.imp_right fun hx => hx.imp_right fun hx => absurd hx (by simp)⟩
  | alternative p q ihp ihq =>
    rcases List.mem_append.mp h with h | h
    · exact { ihp h with leads := .inl (ihp h).leads }
    · exact { ihq h with leads := .inr (ihq h).leads }
  | zeroOrOne p ih =>
    rcases List.mem_append.mp (List.mem_dedup.mp h) with h | h
    · obtain ⟨h, ho⟩ := List.mem_filter.mp h
      obtain ⟨t, ht, he⟩ := List.mem_map.mp h
      cases he
      exact isWay_of_mem_starts ht (.inl rfl) ho
    · exact { ih h with leads := .inr (ih h).leads }
  | zeroOrMore p ih =>
    obtain ⟨t, ht, hmem⟩ := List.mem_flatMap.mp h
    obtain ⟨z, hz, he⟩ := List.mem_map.mp hmem
    obtain ⟨hz, ho⟩ := List.mem_filter.mp hz
    cases he
    obtain ⟨a, ha, hsteps⟩ := exists_of_mem_reach hz
    obtain rfl := List.mem_singleton.mp ha
    exact isWay_of_mem_starts ht (Relation.ReflTransGen.mono (fun _ _ => leads_of_mem_next ih) _ _ hsteps) ho
  | oneOrMore p ih =>
    obtain ⟨t, ht, hmem⟩ := List.mem_flatMap.mp h
    obtain ⟨z, hz, he⟩ := List.mem_map.mp hmem
    obtain ⟨hz, ho⟩ := List.mem_filter.mp hz
    cases he
    obtain ⟨a, ha, hsteps⟩ := exists_of_mem_reach hz
    have hrest := Relation.ReflTransGen.mono (fun _ _ => leads_of_mem_next ih) _ _ hsteps
    exact isWay_of_mem_starts ht (.head' (leads_of_mem_next ih ha) hrest) ho
  | negated is =>
    obtain ⟨⟨s, q, o⟩, ht, he⟩ := List.mem_map.mp (List.mem_dedup.mp h)
    cases he
    simp only [List.mem_filter, Bool.and_eq_true, decide_eq_true_eq] at ht
    obtain ⟨ht, ⟨hq, hs⟩, ho⟩ := ht
    exact ⟨⟨q, hq, ht⟩, hs, ho, .inl (mem_nodes.mpr ⟨_, ht, .inl rfl⟩)⟩

/-! ### Ways from nodes -/

theorem mem_starts {t : Term} (ht : t ∈ nodes g) (hstart : fits start t = true) : t ∈ starts g start stop := by
  cases start with
  | none => exact List.mem_dedup.mpr (List.mem_append_left _ ht)
  | some c => exact List.mem_singleton.mpr (fits_some.mp hstart).symm

theorem mem_nodes_of_mem_next {p : Path} (hx : x ∈ nodes g) (hy : y ∈ p.next g x) : y ∈ nodes g := by
  rcases (leads_of_mem_next isWay_of_mem_ends hy).eq_or_mem_nodes with rfl | ⟨-, h⟩
  · exact hx
  · exact h

/-- Within as many steps as there are nodes, all terms are reached to which any number of steps lead. -/
theorem mem_reach_next {p : Path} {seen : List Term} (hseen : ∀ x ∈ seen, x ∈ nodes g) :
    y ∈ reach (p.next g) (nodes g).length seen ↔
      ∃ x ∈ seen, Relation.ReflTransGen (fun a b => b ∈ p.next g a) x y := by
  refine mem_reach_iff (U := (nodes g).toFinset) (fun x hx y hy => ?_) (fun x hx => ?_) ?_
  · exact List.mem_toFinset.mpr (mem_nodes_of_mem_next (List.mem_toFinset.mp hx) hy)
  · exact List.mem_toFinset.mpr (hseen x (List.mem_toFinset.mp hx))
  · exact Nat.le_add_right_of_le (List.toFinset_card_le (nodes g))

theorem reflTransGen_next {p : Path} (h : ∀ {x y}, x ∈ nodes g → p.Leads g x y → y ∈ p.next g x) (hx : x ∈ nodes g)
    (hsteps : Relation.ReflTransGen (p.Leads g) x y) : Relation.ReflTransGen (fun a b => b ∈ p.next g a) x y := by
  induction hsteps using Relation.ReflTransGen.head_induction_on with
  | refl => exact .refl
  | head hstep _ ih =>
    have hnext := h hx hstep
    exact .head hnext (ih (mem_nodes_of_mem_next hx hnext))

/-- Every way from a node of the graph is found. -/
theorem mem_ends_of_leads {p : Path} (hx : x ∈ nodes g) (h : p.Leads g x y) (hstart : fits start x = true)
    (hstop : fits stop y = true) : (x, y) ∈ p.ends g start stop := by
  induction p generalizing start stop x y with
  | predicate i => exact List.mem_map.mpr ⟨⟨x, i, y⟩, List.mem_filter.mpr ⟨h, by simp [hstart, hstop]⟩, rfl⟩
  | inverse p ih =>
    have hback : p.Leads g y x := h
    have hy : y ∈ nodes g := hback.eq_or_mem_nodes.elim (· ▸ hx) And.left
    exact List.mem_map.mpr ⟨(y, x), ih hy hback hstop hstart, rfl⟩
  | sequence p q ihp ihq =>
    obtain ⟨z, hp, hq⟩ := h
    have hz : z ∈ nodes g := hp.eq_or_mem_nodes.elim (· ▸ hx) And.right
    refine List.mem_flatMap.mpr ⟨(x, z), ihp hx hp hstart rfl, List.mem_map.mpr ⟨(z, y), ?_, rfl⟩⟩
    exact List.mem_filter.mpr ⟨ihq hz hq rfl hstop, by simp⟩
  | alternative p q ihp ihq =>
    rcases h with h | h
    · exact List.mem_append_left _ (ihp hx h hstart hstop)
    · exact List.mem_append_right _ (ihq hx h hstart hstop)
  | zeroOrOne p ih =>
    rcases h with rfl | h
    · refine List.mem_dedup.mpr (List.mem_append_left _ (List.mem_filter.mpr ⟨?_, hstop⟩))
      exact List.mem_map.mpr ⟨x, mem_starts hx hstart, rfl⟩
    · exact List.mem_dedup.mpr (List.mem_append_right _ (ih hx h hstart hstop))
  | zeroOrMore p ih =>
    have hnext {x y : Term} (hx : x ∈ nodes g) (h : p.Leads g x y) : y ∈ p.next g x :=
      List.mem_map.mpr ⟨(x, y), ih hx h (fits_some.mpr rfl) rfl, rfl⟩
    refine List.mem_flatMap.mpr ⟨x, mem_starts hx hstart, List.mem_map.mpr ⟨y, List.mem_filter.mpr ⟨?_, hstop⟩, rfl⟩⟩
    refine (mem_reach_next fun z hz => ?_).mpr ⟨x, List.mem_singleton_self x, reflTransGen_next hnext hx h⟩
    exact List.mem_singleton.mp hz ▸ hx
  | oneOrMore p ih =>
    have hnext {x y : Term} (hx : x ∈ nodes g) (h : p.Leads g x y) : y ∈ p.next g x :=
      List.mem_map.mpr ⟨(x, y), ih hx h (fits_some.mpr rfl) rfl, rfl⟩
    obtain ⟨z, hstep, hsteps⟩ := Relation.TransGen.head'_iff.mp h
    have hz := hnext hx hstep
    refine List.mem_flatMap.mpr ⟨x, mem_starts hx hstart, List.mem_map.mpr ⟨y, List.mem_filter.mpr ⟨?_, hstop⟩, rfl⟩⟩
    exact (mem_reach_next fun w hw => mem_nodes_of_mem_next hx hw).mpr
      ⟨z, hz, reflTransGen_next hnext (mem_nodes_of_mem_next hx hz) hsteps⟩
  | negated is =>
    obtain ⟨i, hi, ht⟩ := h
    refine List.mem_dedup.mpr (List.mem_map.mpr ⟨⟨x, i, y⟩, List.mem_filter.mpr ⟨ht, ?_⟩, rfl⟩)
    simp [hi, hstart, hstop]

/-- Between open ends the ways from nodes of the graph are found. -/
theorem mem_ends_open {p : Path} : (x, y) ∈ p.ends g none none ↔ x ∈ nodes g ∧ p.Leads g x y := by
  constructor
  · intro h
    have hway := isWay_of_mem_ends h
    exact ⟨hway.anchored.resolve_right (by simp), hway.leads⟩
  · exact fun ⟨hx, h⟩ => mem_ends_of_leads hx h rfl rfl

end Path

/-! ### Path patterns -/

open Sparql

theorem TermPattern.rows_of_not_fits {p : TermPattern} {t : Term} (h : fits p.given? t = false) : p.rows t = 0 := by
  match p with
  | .var v => cases h
  | .term (.blank label) => cases h
  | .term (.iri i) => exact if_neg fun hi => by simp [TermPattern.given?, fits, hi] at h
  | .term (.literal l) => exact if_neg fun hl => by simp [TermPattern.given?, fits, hl] at h

theorem bind_map_filter {α β γ : Type} (as : List α) (p : α → Bool) (f : α → β) (h : β → Multiset γ) :
    (((as.filter p).map f : List β) : Multiset β).bind h =
      (as : Multiset α).bind fun a => if p a then h (f a) else 0 := by
  induction as with
  | nil => rfl
  | cons a as ih =>
    rw [← Multiset.cons_coe, Multiset.cons_bind, ← ih]
    cases hp : p a with
    | true => rw [List.filter_cons_of_pos hp, List.map_cons, ← Multiset.cons_coe, Multiset.cons_bind, if_pos rfl]
    | false => simp [List.filter_cons_of_neg (by simp [hp] : ¬p a = true)]

namespace Pattern
variable {d : Dataset} {g : Graph}

theorem rows_triple_iri (s : TermPattern) (i : Iri) (o : TermPattern) :
    (triple s (.iri i) o).rows d g = ((g.toList : Multiset Triple).bind fun t =>
      if i = t.predicate then Row.join (s.rows t.subject) (o.rows t.object) else 0).map Row.visible := by
  have hjoin (t : Triple) :
      Row.join (s.rows t.subject) (Row.join ((NamePattern.iri i).rows t.predicate) (o.rows t.object)) =
      if i = t.predicate then Row.join (s.rows t.subject) (o.rows t.object) else 0 := by
    rw [NamePattern.rows, Row.ite_join]
    split
    · rfl
    · exact Row.join_zero _
  simp only [triple, rows, solve, Row.join_empty, TriplePattern.rows, hjoin]

/-- The ways along a predicate are its triples. -/
theorem rows_path_predicate (s : TermPattern) (i : Iri) (o : TermPattern) :
    (Pattern.path s (.predicate i) o).rows d g = (triple s (.iri i) o).rows d g := by
  rw [rows_triple_iri, rows, Path.ends, bind_map_filter]
  refine congrArg _ (Multiset.bind_congr fun t _ => ?_)
  by_cases hi : t.predicate = i
  · rw [if_pos hi.symm]
    cases hs : fits s.given? t.subject with
    | false => simp [TermPattern.rows_of_not_fits hs]
    | true =>
      cases ho : fits o.given? t.object with
      | false => simp [TermPattern.rows_of_not_fits ho]
      | true => simp [hi]
  · simp [hi, Ne.symm hi]

/-- A path has the solutions of its inverse in the other direction. -/
theorem rows_path_inverse (s : TermPattern) (p : Path) (o : TermPattern) :
    (Pattern.path s (.inverse p) o).rows d g = (Pattern.path o p s).rows d g := by
  simp only [rows, Path.ends, ← Multiset.map_coe, Multiset.bind_map, Prod.fst_swap, Prod.snd_swap]
  refine congrArg _ (Multiset.bind_congr fun x _ => ?_)
  exact Row.join_comm _ _

/-- Predicates and inverted predicates that are written as triples have the solutions of a path. -/
theorem rows_along (s : TermPattern) (path : Path) (o : TermPattern) :
    (along s path o).rows d g = (Pattern.path s path o).rows d g := by
  unfold along
  split
  · exact (rows_path_predicate s _ o).symm
  · rw [rows_path_inverse, rows_path_predicate]
  · rfl

/-- Between two variables a path pattern binds the ends of its ways. -/
theorem mem_rows_along {v w : Variable} {path : Path} {r : Row Variable} (h : v ≠ w) :
    r ∈ (along (.var v) path (.var w)).rows d g ↔
      ∃ x y, x ∈ nodes g ∧ path.Leads g x y ∧ Finmap.singleton v x ∪ Finmap.singleton w y = r := by
  have hagree (x y : Term) : Row.Compatible (Finmap.singleton (.inl v) x : Row Slot) (Finmap.singleton (.inl w) y) :=
    Row.compatible_iff.mpr fun k s t hs ht => by
      rw [Row.lookup_singleton] at hs ht
      split at hs
      · next hk => simp [hk, h] at ht
      · cases hs
  have hrow (x y : Term) : (Finmap.singleton (.inl v) x ∪ Finmap.singleton (.inl w) y : Row Slot).visible =
      Finmap.singleton v x ∪ Finmap.singleton w y := by
    rw [Row.visible_union, Row.visible_singleton, Row.visible_singleton]
  simp only [rows_along, rows, Multiset.mem_map, Multiset.mem_bind, Multiset.mem_coe, TermPattern.rows, Row.mem_join,
    Multiset.mem_singleton, TermPattern.given?]
  constructor
  · rintro ⟨_, ⟨⟨x, y⟩, hxy, _, rfl, _, rfl, -, rfl⟩, rfl⟩
    obtain ⟨hx, hl⟩ := Path.mem_ends_open.mp hxy
    exact ⟨x, y, hx, hl, (hrow x y).symm⟩
  · rintro ⟨x, y, hx, hl, rfl⟩
    exact ⟨_, ⟨(x, y), Path.mem_ends_open.mpr ⟨hx, hl⟩, _, rfl, _, rfl, hagree x y, rfl⟩, hrow x y⟩

end Pattern
end CollectionQuery
