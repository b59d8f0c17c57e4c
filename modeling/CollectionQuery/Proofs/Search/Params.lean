import CollectionQuery.Proofs.Distinct
import CollectionQuery.Proofs.Text.Decimal

/-! The values that parameters give to properties after bindings are added, removed and replaced. -/

namespace CollectionQuery

namespace SearchParams

/-! ### Values -/

theorem mem_values {s : SearchParams} {p : Iri} {v : Term} : v ∈ s.values p ↔ (p, v) ∈ s.bindings := by
  simp [values]

theorem values_bind_of_ne (s : SearchParams) {p q : Iri} (h : q ≠ p) (v : Term) :
    (s.bind (p, v)).values q = s.values q := by
  unfold values
  rw [bindings_bind]
  split
  · rfl
  · rw [List.filter_append]
    simp [h.symm]

theorem values_bind_self (s : SearchParams) (p : Iri) (v : Term) :
    (s.bind (p, v)).values p = if v ∈ s.values p then s.values p else s.values p ++ [v] := by
  simp only [mem_values]
  unfold values
  rw [bindings_bind]
  split
  · rfl
  · rw [List.filter_append]
    simp

theorem values_without_of_ne (s : SearchParams) {p q : Iri} (h : q ≠ p) : (s.without p).values q = s.values q := by
  unfold values without
  rw [List.filter_filter]
  refine congrArg _ (List.filter_congr fun b _ => ?_)
  by_cases hb : b.1 = q
  · simp [hb, h]
  · simp [hb]

theorem values_without_self (s : SearchParams) (p : Iri) : (s.without p).values p = [] := by
  simp [values, without, List.filter_filter]

/-- Replacing the values of a property keeps those of the others. -/
theorem values_replace_of_ne (s : SearchParams) {p q : Iri} (h : q ≠ p) (vs : List Term) :
    (s.replace p vs).values q = s.values q := by
  have hfold (s' : SearchParams) : ((vs.map fun v => (p, v)).foldl bind s').values q = s'.values q := by
    induction vs generalizing s' with
    | nil => rfl
    | cons v vs ih =>
      rw [List.map_cons, List.foldl_cons, ih, values_bind_of_ne s' h]
  rw [replace, hfold, values_without_of_ne s h]

theorem values_replace_nil (s : SearchParams) (p : Iri) : (s.replace p []).values p = [] := values_without_self s p

theorem values_replace_singleton (s : SearchParams) (p : Iri) (v : Term) : (s.replace p [v]).values p = [v] := by
  have h : (s.replace p [v]).values p = ((s.without p).bind (p, v)).values p := rfl
  rw [h, values_bind_self, values_without_self]
  rfl

theorem nodup_values (s : SearchParams) (p : Iri) : (s.values p).Nodup := by
  refine List.Nodup.map_on ?_ (s.nodup.filter _)
  intro a ha b hb hv
  have ha : a.1 = p := by simpa using (List.mem_filter.mp ha).2
  have hb : b.1 = p := by simpa using (List.mem_filter.mp hb).2
  exact Prod.ext (ha.trans hb.symm) hv

/-! ### Parameters of a list -/

theorem ofList_concat (bs : List (Iri × Term)) (b : Iri × Term) : ofList (bs ++ [b]) = (ofList bs).bind b := by
  simp [ofList]

/-- A property has the values that the list binds to it, each where it comes first. -/
theorem values_ofList (bs : List (Iri × Term)) (p : Iri) :
    (ofList bs).values p = ((bs.filter fun b => b.1 = p).map (·.2)).eraseDups := by
  -- Bindings are added at the back, where a value that is there already changes nothing.
  induction bs using List.reverseRecOn with
  | nil => rfl
  | append_singleton bs b ih =>
    obtain ⟨q, v⟩ := b
    rw [ofList_concat, List.filter_append, List.map_append]
    by_cases hp : q = p
    · subst hp
      have hmem : v ∈ (ofList bs).values q ↔ v ∈ (bs.filter fun b => b.1 = q).map (·.2) := by
        rw [ih, List.mem_eraseDups]
      have hlast : ([(q, v)].filter fun b => b.1 = q).map (·.2) = [v] := by simp
      rw [values_bind_self, hlast, eraseDups_concat, ← ih]
      exact if_congr hmem rfl rfl
    · rw [values_bind_of_ne _ (Ne.symm hp), ih]
      simp [hp]

end SearchParams
end CollectionQuery
