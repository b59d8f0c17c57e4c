import CollectionQuery.Proofs.Rdf.ListReading
import CollectionQuery.Proofs.Rdf.TripleList
import CollectionQuery.Rdf.Implementation

/-! A graph without the triples of one predicate. Look-ups of the other predicates come to the same, and so does
    everything that is read by such look-ups only, such as lists and references. -/

namespace CollectionQuery

namespace Graph
variable {g : Graph} {p q : Iri}

/-- The triples of all predicates but one. -/
def without (g : Graph) (p : Iri) : Graph := .ofList (g.toList.filter fun t => t.predicate ≠ p)

theorem toList_without (g : Graph) (p : Iri) : (g.without p).toList = g.toList.filter fun t => t.predicate ≠ p :=
  (toList_ofList _).trans (eraseDups_eq_self (List.Nodup.filter _ g.nodup))

theorem ofPredicate_without (h : q ≠ p) : (g.without p).ofPredicate q = g.ofPredicate q := by
  rw [ofPredicate_eq, ofPredicate_eq, toList_without, List.filter_filter]
  refine List.filter_congr fun t _ => ?_
  by_cases ht : t.predicate = q
  · simp [ht, h]
  · simp [ht]

theorem objects_eq_ofPredicate (g : Graph) (s : Term) (q : Iri) :
    g.objects s q = ((g.ofPredicate q).filter fun t => t.subject = s).map (·.object) := by
  rw [objects, ofSubject_eq, ofPredicate_eq, List.filter_comm]

theorem objects_without (h : q ≠ p) (s : Term) : (g.without p).objects s q = g.objects s q := by
  rw [objects_eq_ofPredicate, objects_eq_ofPredicate, ofPredicate_without h]

theorem objects_without_self (g : Graph) (p : Iri) (s : Term) : (g.without p).objects s p = [] := by
  refine objects_eq_nil fun o h => ?_
  rw [toList_without, List.mem_filter] at h
  simp at h

theorem object?_without (h : q ≠ p) (s : Term) : (g.without p).object? s q = g.object? s q :=
  congrArg List.head? (objects_without h s)

/-- A triple of the predicate makes no difference, wherever it stands. -/
theorem ofList_without (ts us : List Triple) {t : Triple} (h : t.predicate = p) :
    (ofList (ts ++ t :: us)).without p = (ofList (ts ++ us)).without p := by
  simp only [without, toList_ofList, ← eraseDups_filter]
  simp [h]

/-- The first value at the objects is that at the triples of the list. -/
theorem findSome?_objects_ofList {α : Type} (ts : List Triple) (s : Term) (f : Term → Option α) :
    ((ofList ts).objects s p).findSome? f =
      ts.findSome? fun t => if t.subject = s ∧ t.predicate = p then f t.object else none := by
  rw [(searchesAs_toList _).objects, toList_ofList, ← eraseDups_filter, List.findSome?_map, findSome?_eraseDups]
  induction ts with
  | nil => rfl
  | cons t ts ih =>
    by_cases ht : t.subject = s ∧ t.predicate = p
    · rw [List.filter_cons, if_pos (decide_eq_true ht), List.findSome?_cons, List.findSome?_cons, if_pos ht, ih]
      rfl
    · rw [List.filter_cons, if_neg (mt of_decide_eq_true ht), List.findSome?_cons, if_neg ht, ih]

/-! ### Lists and references -/

theorem Lists.congr {g' : Graph} {head : Term} {items : List Term}
    (hfirst : ∀ s, g'.objects s Rdf.first = g.objects s Rdf.first)
    (hrest : ∀ s, g'.objects s Rdf.rest = g.objects s Rdf.rest) (h : g.Lists head items) : g'.Lists head items := by
  induction h with
  | nil => exact .nil
  | cons hne hitem hnext _ ih => exact .cons hne ((hfirst _).trans hitem) ((hrest _).trans hnext) ih

theorem lists_without_iff (hfirst : Rdf.first ≠ p) (hrest : Rdf.rest ≠ p) {head : Term} {items : List Term} :
    (g.without p).Lists head items ↔ g.Lists head items :=
  ⟨.congr (fun s => (objects_without hfirst s).symm) fun s => (objects_without hrest s).symm,
    .congr (objects_without hfirst) (objects_without hrest)⟩

theorem list_without (hfirst : Rdf.first ≠ p) (hrest : Rdf.rest ≠ p) (head : Term) :
    (g.without p).list head = g.list head := by
  cases h : g.list head with
  | ok items => exact list_eq_ok_iff.mpr ((lists_without_iff hfirst hrest).mpr (list_eq_ok_iff.mp h))
  | error e =>
    obtain ⟨rfl, hnone⟩ := list_eq_error_iff.mp h
    exact list_eq_error_iff.mpr ⟨rfl, fun items => mt (lists_without_iff hfirst hrest).mp (hnone items)⟩

theorem implementation?_without (himplementedBy : Code.implementedBy ≠ p) (hlink : Code.link ≠ p) :
    (g.without p).implementation? = g.implementation? := by
  funext node
  cases node <;> simp only [implementation?, object?_without himplementedBy, object?_without hlink]

end Graph
end CollectionQuery
