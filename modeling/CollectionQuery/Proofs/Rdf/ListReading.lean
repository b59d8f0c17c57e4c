import CollectionQuery.Proofs.Distinct
import CollectionQuery.Proofs.Rdf.LinkedList

/-! Reading a list node by node. The reader remembers the nodes it has passed, so it stops at each node at most once, in
    whichever way the nodes of the graph are linked, and ends with the items exactly if the list is well formed. -/

namespace CollectionQuery
namespace Graph
variable {g : Graph} {head : Term} {items : List Term}

/-! ### Turns -/

namespace ListReader

/-- The reader takes a turn at each of some nodes and comes to a result. -/
inductive Runs (g : Graph) : ListReader → (nodes : List Term) → (result : Option (List Term)) → Prop
  | stop {r : ListReader} {result : Option (List Term)} (h : r.turn g = .inl result) : Runs g r [r.node] result
  | pass {r r' : ListReader} {nodes : List Term} {result : Option (List Term)} (h : r.turn g = .inr r')
      (hrun : Runs g r' nodes result) : Runs g r (r.node :: nodes) result

variable {r r' : ListReader} {nodes : List Term} {result : Option (List Term)}

theorem turn_eq_inr (h : r.turn g = .inr r') : r.node ≠ .iri Rdf.nil ∧ r.node ∉ r.visited ∧
    ∃ item next, g.objects r.node Rdf.first = [item] ∧ g.objects r.node Rdf.rest = [next] ∧
      r' = { node := next, visited := r.node :: r.visited, items := r.items ++ [item] } := by
  unfold turn at h
  split at h
  · cases h
  · next hne =>
    split at h
    · cases h
    · next hnew =>
      split at h
      · next item next hfirst hrest => exact ⟨hne, hnew, item, next, hfirst, hrest, (Sum.inr.inj h).symm⟩
      · cases h

theorem turn_eq_inl (h : r.turn g = .inl result) :
    (r.node = .iri Rdf.nil ∧ result = some r.items) ∨ (result = none ∧ r.node ≠ .iri Rdf.nil ∧
      (r.node ∈ r.visited ∨
        ∀ item next, g.objects r.node Rdf.first = [item] → g.objects r.node Rdf.rest ≠ [next])) := by
  unfold turn at h
  split at h
  · next hnil => exact .inl ⟨hnil, (Sum.inl.inj h).symm⟩
  · next hne =>
    split at h
    · next hold => exact .inr ⟨(Sum.inl.inj h).symm, hne, .inl hold⟩
    · split at h
      · cases h
      · next hcell => exact .inr ⟨(Sum.inl.inj h).symm, hne, .inr hcell⟩

/-! ### What a turn keeps -/

/-- The different nodes that are the subject of a triple. -/
def subjectNodes (g : Graph) : List Term := (g.toList.map (·.subject)).eraseDups

/-- The reader has passed different subjects, from each of which a chain that ends leads on to where it stands. -/
structure Valid (g : Graph) (r : ListReader) : Prop where
  nodup : r.visited.Nodup
  subjects : r.visited ⊆ subjectNodes g
  ne_nil : ∀ n ∈ r.visited, n ≠ .iri Rdf.nil
  leads : ∀ n ∈ r.visited, ∀ items, g.Lists n items → ∃ rest, g.Lists r.node rest ∧ rest.length < items.length

theorem valid_start (g : Graph) (head : Term) : Valid g { node := head } :=
  ⟨List.nodup_nil, List.nil_subset _, fun _ hn => absurd hn List.not_mem_nil, fun _ hn => absurd hn List.not_mem_nil⟩

theorem Valid.pass (hr : r.Valid g) (h : r.turn g = .inr r') : r'.Valid g := by
  obtain ⟨hne, hnew, item, next, hfirst, hrest, rfl⟩ := turn_eq_inr h
  -- The chain from the node goes on with the one from the next node.
  have hnode : ∀ items, g.Lists r.node items → ∃ rest, g.Lists next rest ∧ rest.length < items.length := by
    intro items hitems
    obtain ⟨others, rfl, hothers⟩ := (lists_cell_iff hne hfirst hrest).mp hitems
    exact ⟨others, hothers, Nat.lt_succ_self _⟩
  constructor
  · exact List.nodup_cons.mpr ⟨hnew, hr.nodup⟩
  · refine List.cons_subset.mpr ⟨List.mem_eraseDups.mpr ?_, hr.subjects⟩
    exact List.mem_map.mpr ⟨⟨r.node, Rdf.first, item⟩, mem_objects.mp (hfirst ▸ List.mem_cons_self), rfl⟩
  · exact List.forall_mem_cons.mpr ⟨hne, hr.ne_nil⟩
  · refine List.forall_mem_cons.mpr ⟨hnode, fun n hn items hitems => ?_⟩
    obtain ⟨rest, hrest, hlt⟩ := hr.leads n hn items hitems
    obtain ⟨rest', hrest', hlt'⟩ := hnode rest hrest
    exact ⟨rest', hrest', Nat.lt_trans hlt' hlt⟩

/-- A chain does not come back to a node that it has passed. -/
theorem Valid.not_lists_of_mem (hr : r.Valid g) (h : r.node ∈ r.visited) (items : List Term) :
    ¬g.Lists r.node items := fun hitems => by
  obtain ⟨rest, hrest, hlt⟩ := hr.leads _ h items hitems
  obtain rfl := hitems.unique hrest
  exact Nat.lt_irrefl _ hlt

/-! ### What a run comes to -/

/-- The reader ends with the items that it had and those of the list at which it stands. -/
theorem Runs.result_eq_some_iff (h : Runs g r nodes result) (hr : r.Valid g) (all : List Term) :
    result = some all ↔ ∃ items, g.Lists r.node items ∧ all = r.items ++ items := by
  induction h with
  | @stop r result h =>
    rcases turn_eq_inl h with ⟨hnil, rfl⟩ | ⟨rfl, hne, hend⟩
    · have hempty : g.Lists r.node [] := hnil ▸ Lists.nil
      constructor
      · rintro ⟨⟩
        exact ⟨[], hempty, (List.append_nil _).symm⟩
      · rintro ⟨items, hitems, rfl⟩
        rw [hitems.unique hempty, List.append_nil]
    · refine iff_of_false nofun ?_
      rintro ⟨items, hitems, -⟩
      rcases hend with hold | hcell
      · exact hr.not_lists_of_mem hold items hitems
      · obtain ⟨item, next, hfirst, hrest⟩ := hitems.exists_cell hne
        exact hcell item next hfirst hrest
  | @pass r r' nodes result h _ ih =>
    rw [ih (hr.pass h)]
    obtain ⟨hne, -, item, next, hfirst, hrest, rfl⟩ := turn_eq_inr h
    constructor
    · rintro ⟨items, hitems, rfl⟩
      exact ⟨item :: items, .cons hne hfirst hrest hitems, by simp⟩
    · rintro ⟨items, hitems, rfl⟩
      obtain ⟨others, rfl, hothers⟩ := (lists_cell_iff hne hfirst hrest).mp hitems
      exact ⟨others, hothers, by simp⟩

theorem Runs.ne_nil (h : Runs g r nodes result) : nodes ≠ [] := by
  cases h <;> exact List.cons_ne_nil _ _

/-- The nodes of all turns but the last are passed, each once. -/
theorem Runs.passed (h : Runs g r nodes result) (hr : r.Valid g) :
    (nodes.dropLast ++ r.visited).Nodup ∧ nodes.dropLast ++ r.visited ⊆ subjectNodes g := by
  induction h with
  | stop => exact ⟨hr.nodup, hr.subjects⟩
  | @pass r r' nodes result h hrun ih =>
    obtain ⟨hnodup, hsubjects⟩ := ih (hr.pass h)
    obtain ⟨-, -, item, next, -, -, rfl⟩ := turn_eq_inr h
    have hperm : (nodes.dropLast ++ r.node :: r.visited).Perm (r.node :: nodes.dropLast ++ r.visited) :=
      List.perm_middle
    rw [List.dropLast_cons_of_ne_nil hrun.ne_nil]
    exact ⟨hperm.nodup_iff.mp hnodup, fun n hn => hsubjects (hperm.mem_iff.mpr hn)⟩

/-- The last turn is at a new node too, unless the reader has come back to a node and ends there without items. -/
theorem Runs.nodup_or_back (h : Runs g r nodes result) (hr : r.Valid g) : (nodes ++ r.visited).Nodup ∨
    (result = none ∧ ∃ n ∈ nodes.dropLast ++ r.visited, nodes.getLast? = some n) := by
  induction h with
  | @stop r result h =>
    by_cases hold : r.node ∈ r.visited
    · rcases turn_eq_inl h with ⟨hnil, -⟩ | ⟨hnone, -⟩
      · exact absurd hnil (hr.ne_nil _ hold)
      · exact .inr ⟨hnone, r.node, hold, rfl⟩
    · exact .inl (List.nodup_cons.mpr ⟨hold, hr.nodup⟩)
  | @pass r r' nodes result h hrun ih =>
    have hback := ih (hr.pass h)
    obtain ⟨-, -, item, next, -, -, rfl⟩ := turn_eq_inr h
    refine hback.imp List.perm_middle.nodup_iff.mp ?_
    rintro ⟨hnone, n, hn, hlast⟩
    refine ⟨hnone, n, ?_, by rw [List.getLast?_cons, hlast]; rfl⟩
    rw [List.dropLast_cons_of_ne_nil hrun.ne_nil]
    exact List.perm_middle.mem_iff.mp hn

/-- Every turn that passes a node leaves fewer subjects to pass. -/
theorem exists_runs (r : ListReader) (hr : r.Valid g) : ∃ nodes result, Runs g r nodes result := by
  cases h : r.turn g with
  | inl result => exact ⟨_, result, .stop h⟩
  | inr r' =>
    have hr' : r'.Valid g := hr.pass h
    have hle : r'.visited.length ≤ (subjectNodes g).length := (List.subperm_of_subset hr'.nodup hr'.subjects).length_le
    have hlength : r'.visited.length = r.visited.length + 1 := by
      obtain ⟨-, -, _, _, -, -, rfl⟩ := turn_eq_inr h
      rfl
    obtain ⟨nodes, result, hrun⟩ := exists_runs r' hr'
    exact ⟨_, result, .pass h hrun⟩
termination_by (subjectNodes g).length - r.visited.length

/-- There is a turn at most for each subject that is still to be passed, and a last one. -/
theorem Runs.length_le (h : Runs g r nodes result) (hr : r.Valid g) :
    nodes.length + r.visited.length ≤ (subjectNodes g).length + 1 := by
  obtain ⟨hnodup, hsubjects⟩ := h.passed hr
  have hle := (List.subperm_of_subset hnodup hsubjects).length_le
  rw [List.length_append, List.length_dropLast] at hle
  omega

theorem Runs.run_eq (h : Runs g r nodes result) {turns : Nat} (hturns : nodes.length ≤ turns) :
    r.run g turns = result := by
  induction h generalizing turns with
  | stop h =>
    obtain ⟨n, rfl⟩ := Nat.exists_eq_succ_of_ne_zero (Nat.ne_of_gt hturns)
    rw [run, h]
  | pass h _ ih =>
    obtain ⟨n, rfl⟩ := Nat.exists_eq_succ_of_ne_zero (Nat.ne_of_gt (Nat.lt_of_lt_of_le (Nat.zero_lt_succ _) hturns))
    rw [run, h]
    exact ih (Nat.le_of_succ_le_succ hturns)

theorem length_subjectNodes_le (g : Graph) : (subjectNodes g).length ≤ g.subjectCount := by
  have hsubject : ∀ s ∈ subjectNodes g, ∃ p o, ⟨s, p, o⟩ ∈ g.toList := fun s hs => by
    obtain ⟨t, ht, rfl⟩ := List.mem_map.mp (List.mem_eraseDups.mp hs)
    exact ⟨t.predicate, t.object, ht⟩
  have hle := length_le_countP_entries (nodup_eraseDups _) (P := fun _ => true) fun s hs => ⟨fun _ => rfl, hsubject s hs⟩
  exact Nat.le_trans hle List.countP_le_length

/-- The turns that `list` gives a reader are enough. -/
theorem exists_runs_run (g : Graph) (head : Term) :
    ∃ nodes result, Runs g { node := head } nodes result ∧ run g (g.subjectCount + 1) { node := head } = result := by
  obtain ⟨nodes, result, hrun⟩ := exists_runs _ (valid_start g head)
  have hlength : nodes.length ≤ (subjectNodes g).length + 1 := hrun.length_le (valid_start g head)
  exact ⟨nodes, result, hrun, hrun.run_eq (Nat.le_trans hlength (Nat.succ_le_succ (length_subjectNodes_le g)))⟩

theorem run_eq_some_iff : run g (g.subjectCount + 1) { node := head } = some items ↔ g.Lists head items := by
  obtain ⟨nodes, result, hrun, hresult⟩ := exists_runs_run g head
  rw [hresult, hrun.result_eq_some_iff (valid_start g head)]
  simp

end ListReader

/-! ### Lists -/

theorem list_eq_ok_iff : g.list head = .ok items ↔ g.Lists head items := by
  rw [← ListReader.run_eq_some_iff, list]
  cases ListReader.run g (g.subjectCount + 1) { node := head } <;> simp

/-- Without a chain that ends, the list is malformed, and there is no other error. -/
theorem list_eq_error_iff {e : ReadError} :
    g.list head = .error e ↔ e = .malformedList head ∧ ∀ items, ¬g.Lists head items := by
  simp only [← ListReader.run_eq_some_iff]
  rw [list]
  cases ListReader.run g (g.subjectCount + 1) { node := head } <;> simp [eq_comm]

/-! ### Well-formed lists -/

/-- Nodes lead from `head` to `rdf:nil`, and each of the others has a single item and a single node behind it. -/
def HasList (g : Graph) (head : Term) (items : List Term) : Prop :=
  ∃ nodes : Nat → Term, nodes 0 = head ∧ nodes items.length = .iri Rdf.nil ∧
    ∀ i (h : i < items.length), nodes i ≠ .iri Rdf.nil ∧
      (∀ o, ⟨nodes i, Rdf.first, o⟩ ∈ g.toList ↔ o = items[i]) ∧
      ∀ o, ⟨nodes i, Rdf.rest, o⟩ ∈ g.toList ↔ o = nodes (i + 1)

theorem Lists.hasList (h : g.Lists head items) : g.HasList head items := by
  induction h with
  | nil => exact ⟨fun _ => .iri Rdf.nil, rfl, rfl, fun i hi => absurd hi (Nat.not_lt_zero i)⟩
  | @cons node item next items hne hfirst hrest _ ih =>
    obtain ⟨nodes, hzero, hlast, hcells⟩ := ih
    have hitem (o : Term) : ⟨node, Rdf.first, o⟩ ∈ g.toList ↔ o = item := by
      rw [← mem_objects, hfirst, List.mem_singleton]
    have hnext (o : Term) : ⟨node, Rdf.rest, o⟩ ∈ g.toList ↔ o = nodes 0 := by
      rw [← mem_objects, hrest, List.mem_singleton, hzero]
    refine ⟨fun i => i.casesOn node nodes, rfl, hlast, fun i hi => ?_⟩
    cases i with
    | zero => exact ⟨hne, hitem, hnext⟩
    | succ i => exact hcells i (Nat.lt_of_succ_lt_succ hi)

theorem HasList.lists (h : g.HasList head items) : g.Lists head items := by
  induction items generalizing head with
  | nil =>
    obtain ⟨nodes, rfl, hlast, -⟩ := h
    rw [show nodes 0 = .iri Rdf.nil from hlast]
    exact .nil
  | cons item items ih =>
    obtain ⟨nodes, rfl, hlast, hcells⟩ := h
    obtain ⟨hne, hfirst, hrest⟩ := hcells 0 (Nat.zero_lt_succ _)
    refine .cons hne (objects_eq_singleton hfirst) (objects_eq_singleton hrest) (ih ?_)
    exact ⟨fun i => nodes (i + 1), rfl, hlast, fun i hi => hcells (i + 1) (Nat.succ_lt_succ hi)⟩

theorem lists_iff_hasList : g.Lists head items ↔ g.HasList head items := ⟨Lists.hasList, HasList.lists⟩

/-- A list is read exactly if it is well formed, and is malformed otherwise. The reader passes no node twice: it takes one
    turn at most for each subject of the graph and a last one, which is at a passed node only to end there. -/
theorem list_reads_each_node_once (g : Graph) (head : Term) :
    (∀ items, g.list head = .ok items ↔ g.HasList head items) ∧
      (∀ e, g.list head = .error e ↔ e = .malformedList head ∧ ∀ items, ¬g.HasList head items) ∧
      ∃ nodes result, ListReader.Runs g { node := head } nodes result ∧
        g.list head = (match result with
          | some items => .ok items
          | none => .error (.malformedList head)) ∧
        nodes.dropLast.Nodup ∧ (nodes.Nodup ∨ result = none ∧ ∃ n ∈ nodes.dropLast, nodes.getLast? = some n) ∧
        nodes.dropLast ⊆ ListReader.subjectNodes g ∧ nodes.length ≤ (ListReader.subjectNodes g).length + 1 := by
  simp only [← lists_iff_hasList]
  refine ⟨fun _ => list_eq_ok_iff, fun _ => list_eq_error_iff, ?_⟩
  have hvalid := ListReader.valid_start g head
  obtain ⟨nodes, result, hrun, hresult⟩ := ListReader.exists_runs_run g head
  obtain ⟨hnodup, hsubjects⟩ := hrun.passed hvalid
  rw [List.append_nil] at hnodup hsubjects
  have hback := hrun.nodup_or_back hvalid
  rw [List.append_nil, List.append_nil] at hback
  refine ⟨nodes, result, hrun, ?_, hnodup, hback, hsubjects, hrun.length_le hvalid⟩
  cases result <;> simp only [list, hresult]

end Graph
end CollectionQuery
