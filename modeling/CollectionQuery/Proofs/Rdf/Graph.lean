import CollectionQuery.Rdf.Graph
import Mathlib.Data.List.Nodup
import Mathlib.Data.List.Perm.Subperm

/-! Look-ups in a graph: the objects of a subject and a predicate are those of its triples, each once, and every subject
    of a triple has an entry in the table of subjects. -/

namespace CollectionQuery

namespace Table
variable {κ : Type} [DecidableEq κ]

theorem mem_keys_of_find_ne_nil {k : κ} {entries : List (κ × List Nat)} (h : find k entries ≠ []) :
    k ∈ entries.map Prod.fst := by
  induction entries with
  | nil => exact absurd rfl h
  | cons entry rest ih =>
    obtain ⟨key, positions⟩ := entry
    rw [find] at h
    split at h
    · next hk => exact hk ▸ List.mem_cons_self
    · exact List.mem_cons_of_mem _ (ih h)

end Table

namespace Graph
variable {g : Graph} {s o : Term} {p : Iri}

theorem mem_objects : o ∈ g.objects s p ↔ ⟨s, p, o⟩ ∈ g.toList := by
  simp only [objects, ofSubject_eq, List.mem_map, List.mem_filter, decide_eq_true_eq]
  constructor
  · rintro ⟨⟨s', p', o'⟩, ⟨⟨hx, rfl⟩, rfl⟩, rfl⟩
    exact hx
  · exact fun h => ⟨_, ⟨⟨h, rfl⟩, rfl⟩, rfl⟩

theorem nodup_objects (g : Graph) (s : Term) (p : Iri) : (g.objects s p).Nodup := by
  have hsame : ∀ t ∈ (g.ofSubject s).filter fun t => t.predicate = p, t = ⟨s, p, t.object⟩ := by
    intro t ht
    simp only [ofSubject_eq, List.mem_filter, decide_eq_true_eq] at ht
    obtain ⟨⟨-, hs⟩, hp⟩ := ht
    rw [← hs, ← hp]
  refine List.Nodup.map_on (fun t ht u hu h => ?_) ?_
  · rw [hsame t ht, hsame u hu, h]
  · rw [ofSubject_eq]
    exact (List.Nodup.filter _ g.nodup).filter _

theorem nodup_subjects (g : Graph) (p : Iri) (o : Term) : (g.subjects p o).Nodup := by
  have hsame : ∀ t ∈ (g.ofObject o).filter fun t => t.predicate = p, t = ⟨t.subject, p, o⟩ := by
    intro t ht
    simp only [ofObject_eq, List.mem_filter, decide_eq_true_eq] at ht
    obtain ⟨⟨-, ho⟩, hp⟩ := ht
    rw [← ho, ← hp]
  refine List.Nodup.map_on (fun t ht u hu h => ?_) ?_
  · rw [hsame t ht, hsame u hu, h]
  · rw [ofObject_eq]
    exact (List.Nodup.filter _ g.nodup).filter _

theorem objects_eq_nil (h : ∀ o, ⟨s, p, o⟩ ∉ g.toList) : g.objects s p = [] :=
  List.eq_nil_iff_forall_not_mem.mpr fun o ho => h o (mem_objects.mp ho)

theorem objects_eq_singleton (h : ∀ o', ⟨s, p, o'⟩ ∈ g.toList ↔ o' = o) : g.objects s p = [o] := by
  refine List.perm_singleton.mp ((List.perm_ext_iff_of_nodup (g.nodup_objects s p) (List.nodup_singleton o)).mpr ?_)
  intro o'
  rw [mem_objects, h, List.mem_singleton]

/-! ### Subjects -/

theorem mem_keys_of_mem_toList {x : Triple} (h : x ∈ g.toList) : x.subject ∈ g.bySubject.entries.map Prod.fst := by
  have hx : x ∈ g.ofSubject x.subject := by
    rw [ofSubject_eq]
    exact List.mem_filter.mpr ⟨h, by simp⟩
  refine Table.mem_keys_of_find_ne_nil fun hnil => ?_
  have hnone : g.ofSubject x.subject = [] := by rw [ofSubject, Table.get, hnil]; rfl
  rw [hnone] at hx
  cases hx

/-- Different subjects of triples have different entries. -/
theorem length_le_countP_entries {subjects : List Term} (hnodup : subjects.Nodup) {P : Term × List Nat → Bool}
    (h : ∀ s ∈ subjects, (∀ positions, P (s, positions)) ∧ ∃ p o, ⟨s, p, o⟩ ∈ g.toList) :
    subjects.length ≤ g.bySubject.entries.countP P := by
  have hsubset : subjects ⊆ (g.bySubject.entries.filter P).map Prod.fst := by
    intro s hs
    obtain ⟨hP, p, o, hx⟩ := h s hs
    obtain ⟨entry, hentry, rfl⟩ := List.mem_map.mp (mem_keys_of_mem_toList hx)
    exact List.mem_map_of_mem (List.mem_filter.mpr ⟨hentry, hP entry.2⟩)
  calc subjects.length
    _ ≤ ((g.bySubject.entries.filter P).map Prod.fst).length := (List.subperm_of_subset hnodup hsubset).length_le
    _ = g.bySubject.entries.countP P := by rw [List.length_map, List.countP_eq_length_filter]

end Graph
end CollectionQuery
