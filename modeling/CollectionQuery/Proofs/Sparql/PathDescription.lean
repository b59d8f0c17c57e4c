import CollectionQuery.Proofs.Library
import CollectionQuery.Proofs.Sparql.PathDepth

/-! Paths that are described in a graph and read from it again. A description takes a blank node for each inverted path
    and one for each step of a sequence. A graph that says nothing else about these nodes gives the path back, whatever
    it says about others and in whichever order. -/

namespace CollectionQuery

inductive PathKind where
  | path
  /-- The steps of a sequence behind some others. -/
  | steps

/-- A path, or the rest of a sequence, with the labels of the blank nodes that describe it. -/
inductive PathDescription : PathKind → Type
  | predicate (iri : Iri) : PathDescription .path
  | inverse (label : String) (inner : PathDescription .path) : PathDescription .path
  | nil : PathDescription .steps
  /-- A step and those behind it: a sequence, or the rest of one. -/
  | cell {kind : PathKind} (label : String) (step : PathDescription .path) (rest : PathDescription .steps) :
      PathDescription kind

/-- What is described: a path, or the paths of the steps. -/
def PathKind.Meaning : PathKind → Type
  | path => Path
  | steps => List Path

namespace PathDescription
variable {kind : PathKind}

/-- Sequences are grouped from the left; a sequence of a single step is that step. -/
def meaning : {kind : PathKind} → PathDescription kind → kind.Meaning
  | _, predicate i => Path.predicate i
  | _, inverse _ inner => Path.inverse inner.meaning
  | _, nil => ([] : List Path)
  | .path, cell _ step rest => List.foldl Path.sequence step.meaning rest.meaning
  | .steps, cell _ step rest => (List.cons step.meaning rest.meaning : List Path)

/-- The node that stands for the path or the list. -/
def node : PathDescription kind → Term
  | predicate i => .iri i
  | inverse label _ | cell label _ _ => .blank label
  | nil => .iri Rdf.nil

def labels {kind : PathKind} : PathDescription kind → List String
  | predicate _ | nil => []
  | inverse label inner => label :: inner.labels
  | cell label step rest => label :: (step.labels ++ rest.labels)

def triples {kind : PathKind} : PathDescription kind → List Triple
  | predicate _ | nil => []
  | inverse label inner => ⟨.blank label, Shacl.inversePath, inner.node⟩ :: inner.triples
  | cell label step rest =>
    ⟨.blank label, Rdf.first, step.node⟩ :: ⟨.blank label, Rdf.rest, rest.node⟩ :: (step.triples ++ rest.triples)

/-- The graph has the description, whose blank nodes are different and have no other triples. -/
structure IsIn (d : PathDescription kind) (g : Graph) : Prop where
  nodup : d.labels.Nodup
  present : ∀ x ∈ d.triples, x ∈ g.toList
  own : ∀ label ∈ d.labels, ∀ x ∈ g.toList, x.subject = .blank label → x ∈ d.triples

/-! ### Subjects -/

theorem exists_label {d : PathDescription kind} {x : Triple} (h : x ∈ d.triples) :
    ∃ label ∈ d.labels, x.subject = .blank label := by
  induction d with
  | predicate | nil => cases h
  | inverse label inner ih =>
    rcases List.mem_cons.mp h with rfl | h
    · exact ⟨label, List.mem_cons_self, rfl⟩
    · obtain ⟨l, hl, hx⟩ := ih h
      exact ⟨l, List.mem_cons_of_mem _ hl, hx⟩
  | cell label step rest ihstep ihrest =>
    rcases List.mem_cons.mp h with rfl | h
    · exact ⟨label, List.mem_cons_self, rfl⟩
    rcases List.mem_cons.mp h with rfl | h
    · exact ⟨label, List.mem_cons_self, rfl⟩
    rcases List.mem_append.mp h with h | h
    · obtain ⟨l, hl, hx⟩ := ihstep h
      exact ⟨l, List.mem_cons_of_mem _ (List.mem_append_left _ hl), hx⟩
    · obtain ⟨l, hl, hx⟩ := ihrest h
      exact ⟨l, List.mem_cons_of_mem _ (List.mem_append_right _ hl), hx⟩

theorem notMem_triples {d : PathDescription kind} {label : String} (h : label ∉ d.labels) (p : Iri) (o : Term) :
    ⟨.blank label, p, o⟩ ∉ d.triples := fun hx => by
  obtain ⟨l, hl, hsubject⟩ := exists_label hx
  cases hsubject
  exact h hl

theorem exists_triple {d : PathDescription kind} {label : String} (h : label ∈ d.labels) :
    ∃ p o, ⟨.blank label, p, o⟩ ∈ d.triples := by
  induction d with
  | predicate | nil => cases h
  | inverse l inner ih =>
    rcases List.mem_cons.mp h with rfl | h
    · exact ⟨_, _, List.mem_cons_self⟩
    · obtain ⟨p, o, hx⟩ := ih h
      exact ⟨p, o, List.mem_cons_of_mem _ hx⟩
  | cell l step rest ihstep ihrest =>
    rcases List.mem_cons.mp h with rfl | h
    · exact ⟨_, _, List.mem_cons_self⟩
    rcases List.mem_append.mp h with h | h
    · obtain ⟨p, o, hx⟩ := ihstep h
      exact ⟨p, o, List.mem_cons_of_mem _ (List.mem_cons_of_mem _ (List.mem_append_left _ hx))⟩
    · obtain ⟨p, o, hx⟩ := ihrest h
      exact ⟨p, o, List.mem_cons_of_mem _ (List.mem_cons_of_mem _ (List.mem_append_right _ hx))⟩

/-- The blank nodes of a description are among the subjects of the graph. -/
theorem IsIn.length_labels_le {d : PathDescription kind} {g : Graph} (h : d.IsIn g) :
    d.labels.length ≤ Path.depthOf g := by
  refine Path.length_le_depthOf h.nodup fun label hlabel => ?_
  obtain ⟨p, o, hx⟩ := exists_triple hlabel
  exact ⟨p, o, h.present _ hx⟩

/-! ### Nodes of a graph -/

variable {g : Graph}

/-- The graph says of every node of the description what the description says. -/
inductive Holds (g : Graph) : {kind : PathKind} → PathDescription kind → Prop
  | predicate (i : Iri) : Holds g (.predicate i)
  | inverse {label : String} {inner : PathDescription .path}
      (hinverse : g.objects (.blank label) Shacl.inversePath = [inner.node]) (hinner : Holds g inner) :
      Holds g (.inverse label inner)
  | nil : Holds g .nil
  | cell {kind : PathKind} {label : String} {step : PathDescription .path} {rest : PathDescription .steps}
      (hinverse : g.objects (.blank label) Shacl.inversePath = [])
      (hfirst : g.objects (.blank label) Rdf.first = [step.node])
      (hrest : g.objects (.blank label) Rdf.rest = [rest.node]) (hstep : Holds g step) (hsteps : Holds g rest) :
      Holds g (.cell label step rest : PathDescription kind)

/-- The triples of a graph about the nodes of the description are its own. -/
theorem holds_of_mem_iff {d : PathDescription kind} (hnodup : d.labels.Nodup)
    (h : ∀ label ∈ d.labels, ∀ p o, ⟨.blank label, p, o⟩ ∈ g.toList ↔ ⟨.blank label, p, o⟩ ∈ d.triples) :
    d.Holds g := by
  induction d with
  | predicate i => exact .predicate i
  | nil => exact .nil
  | inverse label inner ih =>
    obtain ⟨hlabel, hinner⟩ := List.nodup_cons.mp hnodup
    refine .inverse (Graph.objects_eq_singleton fun o => ?_) (ih hinner fun l hl p o => ?_)
    · rw [h label List.mem_cons_self]
      simp [triples, notMem_triples hlabel]
    · have hne : l ≠ label := fun e => hlabel (e ▸ hl)
      rw [h l (List.mem_cons_of_mem _ hl)]
      simp [triples, hne]
  | cell label step rest ihstep ihrest =>
    obtain ⟨hlabel, hnodup⟩ := List.nodup_cons.mp hnodup
    obtain ⟨hstep, hrest, hdisjoint⟩ := List.nodup_append.mp hnodup
    have hstepLabel : label ∉ step.labels := fun hl => hlabel (List.mem_append_left _ hl)
    have hrestLabel : label ∉ rest.labels := fun hl => hlabel (List.mem_append_right _ hl)
    -- Only the first two triples are about the node of the cell itself.
    have hown (p : Iri) (o : Term) : ⟨.blank label, p, o⟩ ∈ g.toList ↔
        (p = Rdf.first ∧ o = step.node) ∨ (p = Rdf.rest ∧ o = rest.node) := by
      rw [h label List.mem_cons_self]
      simp [triples, notMem_triples hstepLabel, notMem_triples hrestLabel]
    refine .cell (Graph.objects_eq_nil fun o => ?_) (Graph.objects_eq_singleton fun o => ?_)
      (Graph.objects_eq_singleton fun o => ?_) (ihstep hstep fun l hl p o => ?_) (ihrest hrest fun l hl p o => ?_)
    · have hne : Shacl.inversePath ≠ Rdf.first ∧ Shacl.inversePath ≠ Rdf.rest := by decide
      simp [hown, hne]
    · have hne : Rdf.first ≠ Rdf.rest := by decide
      simp [hown, hne]
    · have hne : Rdf.rest ≠ Rdf.first := by decide
      simp [hown, hne]
    · have hmem : l ∈ step.labels ++ rest.labels := List.mem_append_left _ hl
      have hne : l ≠ label := fun e => hlabel (e ▸ hmem)
      have hother : l ∉ rest.labels := fun hl' => hdisjoint l hl l hl' rfl
      rw [h l (List.mem_cons_of_mem _ hmem)]
      simp [triples, hne, notMem_triples hother]
    · have hmem : l ∈ step.labels ++ rest.labels := List.mem_append_right _ hl
      have hne : l ≠ label := fun e => hlabel (e ▸ hmem)
      have hother : l ∉ step.labels := fun hl' => hdisjoint l hl' l hl rfl
      rw [h l (List.mem_cons_of_mem _ hmem)]
      simp [triples, hne, notMem_triples hother]

theorem IsIn.holds {d : PathDescription kind} (h : d.IsIn g) : d.Holds g :=
  holds_of_mem_iff h.nodup fun label hlabel _ _ => ⟨fun hx => h.own label hlabel _ hx rfl, h.present _⟩

/-! ### Reading -/

/-- The nodes of the steps. -/
def items {kind : PathKind} : PathDescription kind → List Term
  | predicate _ | inverse _ _ | nil => []
  | cell _ step rest => step.node :: rest.items

theorem lists_node : {d : PathDescription .steps} → d.Holds g → g.Lists d.node d.items
  | nil, _ => .nil
  | cell _ _ _, .cell _ hfirst hrest _ h => .cons Term.noConfusion hfirst hrest (lists_node h)

/-- The description is read within a depth. -/
def IsRead (g : Graph) (depth : Nat) : {kind : PathKind} → PathDescription kind → Prop
  | .path, d => Path.readWithin g depth d.node = .ok d.meaning
  | .steps, d => d.items.mapM (Path.readWithin g depth) = .ok d.meaning

/-- Each blank node on the way leads one level deeper at most. -/
theorem Holds.isRead {d : PathDescription kind} (h : d.Holds g) {depth : Nat} (hdepth : d.labels.length < depth) :
    d.IsRead g depth := by
  induction h generalizing depth with
  | predicate i =>
    obtain ⟨n, rfl⟩ := Nat.exists_eq_succ_of_ne_zero (Nat.ne_of_gt hdepth)
    rfl
  | nil => rfl
  | @inverse label inner hinverse _ ih =>
    obtain ⟨n, rfl⟩ := Nat.exists_eq_succ_of_ne_zero (Nat.ne_of_gt (Nat.zero_lt_of_lt hdepth))
    have hinner : Path.readWithin g n inner.node = .ok inner.meaning := ih (Nat.lt_of_succ_lt_succ hdepth)
    have hobject : g.object? (.blank label) Shacl.inversePath = some inner.node := by
      rw [Graph.object?, hinverse]
      rfl
    change Path.readWithin g (n + 1) (.blank label) = _
    rw [Path.readWithin_inverse (Path.formOf_eq_inverse_iff.mpr hobject), hinner]
    rfl
  | @cell kind label step rest hinverse hfirst hrest hstep hsteps ihstep ihrest =>
    have hlength : step.labels.length + rest.labels.length + 1 < depth := by
      simpa [labels] using hdepth
    have hitems {n : Nat} (hn : step.labels.length + rest.labels.length < n) :
        (step.node :: rest.items).mapM (Path.readWithin g n) = .ok (List.cons step.meaning rest.meaning) := by
      have hfirst : Path.readWithin g n step.node = .ok step.meaning := ihstep (by omega)
      have hothers : rest.items.mapM (Path.readWithin g n) = .ok rest.meaning := ihrest (by omega)
      rw [List.mapM_cons, hfirst, hothers]
      rfl
    cases kind with
    | steps => exact hitems (by omega)
    | path =>
      obtain ⟨n, rfl⟩ := Nat.exists_eq_succ_of_ne_zero (Nat.ne_of_gt (Nat.zero_lt_of_lt hdepth))
      have hnone : g.object? (.blank label) Shacl.inversePath = none := by
        rw [Graph.object?, hinverse]
        rfl
      have hnodes : g.Lists (.blank label) (step.node :: rest.items) :=
        .cons Term.noConfusion hfirst hrest (lists_node hsteps)
      change Path.readWithin g (n + 1) (.blank label) = _
      rw [Path.readWithin_sequence (Path.formOf_eq_sequence_iff.mpr ⟨hnone, hnodes⟩), hitems (n := n) (by omega)]
      rfl

/-- Reading undoes describing. -/
theorem read_node (d : PathDescription .path) (h : d.IsIn g) : Path.read g d.node = .ok d.meaning := by
  have hread : Path.readWithin g (Path.depthOf g + 1) d.node = .ok d.meaning :=
    h.holds.isRead (Nat.lt_succ_of_le h.length_labels_le)
  rw [Path.read, hread]

/-! ### A nested path -/

open Library

def member : Iri := ⟨"http://example.org/member"⟩

/-- From a name back to the works of the groups with a member of that name. -/
def nested : PathDescription .path :=
  .inverse "path" (.cell "1" (.predicate author) (.cell "2"
    (.inverse "of" (.cell "single" (.predicate member) .nil)) (.cell "3" (.predicate name) .nil)))

/-- A graph that has the description backwards, among other triples. -/
def nestedGraph : Graph :=
  .ofList (⟨.iri firstBook, author, .blank "group"⟩ :: nested.triples.reverse ++
    [⟨.iri firstBook, Rdf.first, .blank "1"⟩])

theorem nested_read_node : nested.IsIn nestedGraph ∧ Path.read nestedGraph (.blank "path") =
    .ok (.inverse (.sequence (.sequence (.predicate author) (.inverse (.predicate member))) (.predicate name))) := by
  have h : nested.IsIn nestedGraph :=
    { nodup := by decide
      present := by decide +kernel
      own := by decide +kernel }
  exact ⟨h, read_node nested h⟩

end PathDescription
end CollectionQuery
