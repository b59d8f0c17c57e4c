import CollectionQuery.Proofs.Distinct
import CollectionQuery.Proofs.Rdf.Graph

/-! Graphs and lists of triples. A graph that is built from a list answers every look-up as a search through the list
    would, once the later duplicates are left out, and its tables hold positions of triples only. -/

namespace CollectionQuery

/-! ### Stored positions -/

namespace Table
variable {κ : Type} [DecidableEq κ] {t : Table κ} {n : Nat}

/-- All positions in the table, under whichever key, are below `n`. -/
def Below (t : Table κ) (n : Nat) : Prop := ∀ entry ∈ t.entries, ∀ i ∈ entry.2, i < n

/-- The positions of an entry are those that the table had, apart from the new one. -/
theorem mem_of_mem_store {k : κ} {i j : Nat} {entry : κ × List Nat} {entries : List (κ × List Nat)}
    (h : entry ∈ store k i entries) (hj : j ∈ entry.2) : j = i ∨ ∃ old ∈ entries, j ∈ old.2 := by
  induction entries with
  | nil =>
    rw [store, List.mem_singleton] at h
    subst h
    exact .inl (List.mem_singleton.mp hj)
  | cons first rest ih =>
    obtain ⟨key, positions⟩ := first
    rw [store] at h
    split at h
    · rcases List.mem_cons.mp h with rfl | h
      · rcases List.mem_append.mp hj with hj | hj
        · exact .inr ⟨_, List.mem_cons_self, hj⟩
        · exact .inl (List.mem_singleton.mp hj)
      · exact .inr ⟨_, List.mem_cons_of_mem _ h, hj⟩
    · rcases List.mem_cons.mp h with rfl | h
      · exact .inr ⟨_, List.mem_cons_self, hj⟩
      · refine (ih h).imp_right ?_
        rintro ⟨old, hold, hj⟩
        exact ⟨old, List.mem_cons_of_mem _ hold, hj⟩

theorem Below.add (h : t.Below n) (k : κ) : (t.add k n).Below (n + 1) := by
  intro entry hentry i hi
  rcases mem_of_mem_store hentry hi with rfl | ⟨old, hold, hi⟩
  · exact Nat.lt_succ_self _
  · exact Nat.lt_succ_of_lt (h old hold i hi)

end Table

namespace Graph

/-- The tables hold positions of triples only. -/
structure Positioned (g : Graph) : Prop where
  subjects : g.bySubject.Below g.size
  predicates : g.byPredicate.Below g.size
  objects : g.byObject.Below g.size

theorem positioned_empty : empty.Positioned :=
  ⟨fun _ h => (List.not_mem_nil h).elim, fun _ h => (List.not_mem_nil h).elim, fun _ h => (List.not_mem_nil h).elim⟩

theorem Positioned.insert {g : Graph} (h : g.Positioned) (t : Triple) : (g.insert t).Positioned := by
  by_cases ht : g.contains t = true
  · have hsame : g.insert t = g := by rw [Graph.insert, dif_pos ht]
    rw [hsame]
    exact h
  · have hsize : (g.triples.push t).size = g.size + 1 := Array.size_push t
    rw [Graph.insert, dif_neg ht]
    constructor <;> rw [Graph.size, hsize]
    · exact h.subjects.add t.subject
    · exact h.predicates.add t.predicate
    · exact h.objects.add t.object

/-! ### Building from a list -/

theorem ofList_concat (ts : List Triple) (t : Triple) : ofList (ts ++ [t]) = (ofList ts).insert t := by
  simp [ofList, insertAll]

theorem positioned_ofList (ts : List Triple) : (ofList ts).Positioned := by
  induction ts using List.reverseRecOn with
  | nil => exact positioned_empty
  | append_singleton ts t ih =>
    rw [ofList_concat]
    exact ih.insert t

theorem toList_ofList (ts : List Triple) : (ofList ts).toList = ts.eraseDups := by
  induction ts using List.reverseRecOn with
  | nil => rfl
  | append_singleton ts t ih =>
    rw [ofList_concat, toList_insert, eraseDups_concat, ih]
    exact if_congr List.mem_eraseDups rfl rfl

/-! ### Look-ups -/

/-- The graph holds the triples of `d` in their order, and each look-up gives what a search through `d` finds. -/
structure SearchesAs (g : Graph) (d : List Triple) : Prop where
  toList : g.toList = d
  size : g.size = d.length
  ofSubject : ∀ s, g.ofSubject s = d.filter fun t => t.subject = s
  ofPredicate : ∀ p, g.ofPredicate p = d.filter fun t => t.predicate = p
  objects : ∀ s p, g.objects s p = (d.filter fun t => t.subject = s ∧ t.predicate = p).map (·.object)
  subjects : ∀ p o, g.subjects p o = (d.filter fun t => t.predicate = p ∧ t.object = o).map (·.subject)
  contains : ∀ t, g.contains t = true ↔ t ∈ d
  object? : ∀ s p, g.object? s p = (g.objects s p).head?

theorem searchesAs_toList (g : Graph) : g.SearchesAs g.toList where
  toList := rfl
  size := Array.length_toList.symm
  ofSubject := g.ofSubject_eq
  ofPredicate := g.ofPredicate_eq
  objects s p := by simp only [Graph.objects, ofSubject_eq, List.filter_filter, Bool.decide_and, Bool.and_comm]
  subjects p o := by simp only [Graph.subjects, ofObject_eq, List.filter_filter, Bool.decide_and]
  contains _ := contains_iff
  object? _ _ := rfl

/-- A graph stands for its list of triples: built from `ts`, it searches as `ts` without later duplicates does, finds no
    object and no subject twice, and stores nothing but positions of its triples. -/
theorem ofList_searchesAs_eraseDups (ts : List Triple) :
    (ofList ts).SearchesAs ts.eraseDups ∧
      (∀ t, (ofList ts).contains t = true ↔ t ∈ ts) ∧
      (∀ s p, ((ofList ts).objects s p).Nodup) ∧ (∀ p o, ((ofList ts).subjects p o).Nodup) ∧
      (ofList ts).Positioned := by
  have hsearches : (ofList ts).SearchesAs ts.eraseDups := by
    rw [← toList_ofList]
    exact searchesAs_toList _
  refine ⟨hsearches, fun t => ?_, nodup_objects _, nodup_subjects _, positioned_ofList ts⟩
  rw [hsearches.contains, List.mem_eraseDups]

end Graph
end CollectionQuery
