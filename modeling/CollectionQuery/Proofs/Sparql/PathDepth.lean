import CollectionQuery.Proofs.Failure
import CollectionQuery.Proofs.Rdf.ListReading
import CollectionQuery.Sparql.Path

/-! How deep a path is nested. Once reading has come to an end within some depth, more depth changes nothing. Nodes with
    different depths are different, and each depth above the first is that of a blank node with triples, so that a
    path that is read within any depth is read within the number of these nodes and one. -/

namespace CollectionQuery
namespace Path
variable {g : Graph} {node : Term} {label : String} {depth depth' : Nat}

/-! ### Blank nodes -/

/-- What a blank node is in the place of a path. -/
inductive Form where
  | inverse (inner : Term)
  | sequence (items : List Term)
  | unreadable (error : ReadError)

/-- The nodes in the place of paths that a form leads to. -/
def Form.parts : Form → List Term
  | inverse inner => [inner]
  | sequence items => items
  | unreadable _ => []

def formOf (g : Graph) (label : String) : Form :=
  match g.object? (.blank label) Shacl.inversePath with
  | some inner => .inverse inner
  | none =>
    if g.isList (.blank label) then
      match g.list (.blank label) with
      | .ok items => .sequence items
      | .error e => .unreadable e
    else .unreadable (.unsupportedPath (.blank label))

theorem readWithin_blank : readWithin g (depth + 1) (.blank label) =
    match formOf g label with
    | .inverse inner => (readWithin g depth inner).map inverse
    | .sequence items => items.mapM (readWithin g depth) >>= chain (.blank label)
    | .unreadable e => .error (.unreadable e) := by
  rw [readWithin, formOf]
  cases g.object? (.blank label) Shacl.inversePath with
  | some inner => rfl
  | none =>
    dsimp only
    split
    · cases g.list (.blank label) <;> rfl
    · rfl

theorem readWithin_inverse {inner : Term} (h : formOf g label = .inverse inner) :
    readWithin g (depth + 1) (.blank label) = (readWithin g depth inner).map inverse := by
  rw [readWithin_blank, h]

theorem readWithin_sequence {items : List Term} (h : formOf g label = .sequence items) :
    readWithin g (depth + 1) (.blank label) = items.mapM (readWithin g depth) >>= chain (.blank label) := by
  rw [readWithin_blank, h]

theorem readWithin_unreadable {e : ReadError} (h : formOf g label = .unreadable e) :
    readWithin g (depth + 1) (.blank label) = .error (.unreadable e) := by
  rw [readWithin_blank, h]

theorem formOf_eq_inverse_iff {inner : Term} :
    formOf g label = .inverse inner ↔ g.object? (.blank label) Shacl.inversePath = some inner := by
  rw [formOf]
  cases g.object? (.blank label) Shacl.inversePath with
  | some inner' => simp
  | none =>
    dsimp only
    split
    · cases g.list (.blank label) <;> simp
    · simp

theorem formOf_eq_sequence_iff {items : List Term} : formOf g label = .sequence items ↔
    g.object? (.blank label) Shacl.inversePath = none ∧ g.Lists (.blank label) items := by
  rw [formOf, ← Graph.list_eq_ok_iff]
  cases g.object? (.blank label) Shacl.inversePath with
  | some inner => simp
  | none =>
    dsimp only
    split
    · cases g.list (.blank label) <;> simp
    · next hlist =>
      -- The head of a list has a first item.
      refine iff_of_false nofun ?_
      rintro ⟨-, h⟩
      obtain ⟨item, -, hfirst, -⟩ := (Graph.list_eq_ok_iff.mp h).exists_cell nofun
      simp [Graph.isList, Graph.object?, hfirst] at hlist

/-- A blank node with parts is the subject of a triple. -/
theorem exists_triple_of_mem_parts {part : Term} (h : part ∈ (formOf g label).parts) :
    ∃ p o, ⟨.blank label, p, o⟩ ∈ g.toList := by
  cases hform : formOf g label with
  | inverse inner =>
    have hinner := formOf_eq_inverse_iff.mp hform
    exact ⟨_, inner, Graph.mem_objects.mp (List.mem_of_mem_head? hinner)⟩
  | sequence items =>
    obtain ⟨item, -, hfirst, -⟩ := (formOf_eq_sequence_iff.mp hform).2.exists_cell nofun
    exact ⟨_, item, Graph.mem_objects.mp (hfirst ▸ List.mem_cons_self)⟩
  | unreadable e =>
    rw [hform] at h
    cases h

/-- Different blank nodes with triples are no more than the graph has of them. -/
theorem length_le_depthOf {labels : List String} (hnodup : labels.Nodup)
    (h : ∀ label ∈ labels, ∃ p o, ⟨.blank label, p, o⟩ ∈ g.toList) : labels.length ≤ depthOf g := by
  rw [← List.length_map Term.blank]
  refine Graph.length_le_countP_entries (hnodup.map fun _ _ => Term.blank.inj) fun s hs => ?_
  obtain ⟨label, hlabel, rfl⟩ := List.mem_map.mp hs
  exact ⟨fun _ => rfl, h label hlabel⟩

/-! ### Depth -/

/-- Reading comes to an end within the depth, with a path or an error. -/
def Settles (g : Graph) (depth : Nat) (node : Term) : Prop := readWithin g depth node ≠ .error .tooDeep

theorem not_settles_zero : ¬Settles g 0 node := fun h => h rfl

theorem settles_of_ok {path : Path} (h : readWithin g depth node = .ok path) : Settles g depth node := by
  rw [Settles, h]
  exact nofun

theorem chain_ne_tooDeep (head : Term) (paths : List Path) : chain head paths ≠ .error .tooDeep := by
  cases paths <;> exact nofun

theorem settles_sequence_iff {items : List Term} (hform : formOf g label = .sequence items) :
    Settles g (depth + 1) (.blank label) ↔ items.mapM (readWithin g depth) ≠ .error .tooDeep := by
  rw [Settles, readWithin_sequence hform]
  cases items.mapM (readWithin g depth) with
  | error fault => simp [bind, Except.bind]
  | ok paths => exact iff_of_true (chain_ne_tooDeep _ paths) nofun

theorem settles_inverse_iff {inner : Term} (hform : formOf g label = .inverse inner) :
    Settles g (depth + 1) (.blank label) ↔ Settles g depth inner := by
  rw [Settles, Settles, readWithin_inverse hform]
  cases readWithin g depth inner with
  | error fault => simp [Except.map]
  | ok path => exact iff_of_true nofun nofun

/-- Reading on with what agrees where the reading has settled changes nothing. -/
theorem mapM_congr_of_settled {f f' : Term → Except Fault Path} {items : List Term}
    (hf : ∀ item, f item ≠ .error .tooDeep → f' item = f item) (h : items.mapM f ≠ .error .tooDeep) :
    items.mapM f' = items.mapM f := by
  have hok {item : Term} {path : Path} (hpath : f item = .ok path) : f' item = .ok path :=
    (hf item (hpath ▸ nofun)).trans hpath
  cases hm : items.mapM f with
  | ok paths => exact mapM_eq_ok_iff.mpr ((mapM_eq_ok_iff.mp hm).imp fun _ _ => hok)
  | error fault =>
    obtain ⟨before, item, after, rfl, hbefore, hitem⟩ := exists_of_mapM_eq_error hm
    have hsettled : f item ≠ .error .tooDeep := fun hdeep => by
      obtain rfl := Except.error.inj (hitem.symm.trans hdeep)
      exact h hm
    refine mapM_append_cons_eq_error (fun b hb => ?_) ((hf item hsettled).trans hitem)
    obtain ⟨path, hpath⟩ := hbefore b hb
    exact ⟨path, hok hpath⟩

theorem readWithin_succ (h : Settles g depth node) : readWithin g (depth + 1) node = readWithin g depth node := by
  induction depth generalizing node with
  | zero => exact absurd h not_settles_zero
  | succ depth ih =>
    cases node with
    | iri i => rfl
    | literal l => rfl
    | blank label =>
      cases hform : formOf g label with
      | inverse inner =>
        have hinner := ih ((settles_inverse_iff hform).mp h)
        rw [readWithin_inverse hform, readWithin_inverse hform, hinner]
      | sequence items =>
        have hitems := mapM_congr_of_settled (fun item => ih) ((settles_sequence_iff hform).mp h)
        rw [readWithin_sequence hform, readWithin_sequence hform, hitems]
      | unreadable e => rw [readWithin_unreadable hform, readWithin_unreadable hform]

theorem readWithin_of_le (h : Settles g depth node) (hle : depth ≤ depth') :
    readWithin g depth' node = readWithin g depth node := by
  induction hle with
  | refl => rfl
  | @step depth' _ ih => rw [readWithin_succ (by rw [Settles, ih]; exact h), ih]

theorem Settles.of_le (h : Settles g depth node) (hle : depth ≤ depth') : Settles g depth' node := by
  rw [Settles, readWithin_of_le h hle]
  exact h

/-- Reading comes to an end with `n` levels below the node, and not with fewer. -/
def HasLevels (g : Graph) (node : Term) (n : Nat) : Prop := Settles g (n + 1) node ∧ ¬Settles g n node

theorem HasLevels.unique {n n' : Nat} (h : HasLevels g node n) (h' : HasLevels g node n') : n = n' := by
  have hle : n ≤ n' := Nat.le_of_not_lt fun hlt => h.2 (h'.1.of_le hlt)
  have hge : n' ≤ n := Nat.le_of_not_lt fun hlt => h'.2 (h.1.of_le hlt)
  exact Nat.le_antisymm hle hge

theorem Settles.exists_hasLevels (h : Settles g depth node) : ∃ n, n < depth ∧ HasLevels g node n := by
  induction depth with
  | zero => exact absurd h not_settles_zero
  | succ depth ih =>
    by_cases hless : Settles g depth node
    · obtain ⟨n, hlt, hn⟩ := ih hless
      exact ⟨n, Nat.lt_succ_of_lt hlt, hn⟩
    · exact ⟨depth, Nat.lt_succ_self _, h, hless⟩

/-- Levels below a node are those below one of its parts and one. -/
theorem HasLevels.exists_part {n : Nat} (h : HasLevels g node (n + 1)) :
    ∃ label, node = .blank label ∧ ∃ part ∈ (formOf g label).parts, HasLevels g part n := by
  obtain ⟨hsettles, hnot⟩ := h
  cases node with
  | iri i => exact absurd nofun hnot
  | literal l => exact absurd nofun hnot
  | blank label =>
    refine ⟨label, rfl, ?_⟩
    cases hform : formOf g label with
    | inverse inner =>
      exact ⟨inner, List.mem_cons_self, (settles_inverse_iff hform).mp hsettles,
        mt (settles_inverse_iff hform).mpr hnot⟩
    | sequence items =>
      have hsettled := (settles_sequence_iff hform).mp hsettles
      have hdeep := not_not.mp (mt (settles_sequence_iff hform).mpr hnot)
      obtain ⟨before, item, after, rfl, hbefore, hitem⟩ := exists_of_mapM_eq_error hdeep
      -- The steps before are read as before, so reading fails at this one if it still is too deep.
      have hbefore' : ∀ b ∈ before, ∃ path, readWithin g (n + 1) b = .ok path := fun b hb => by
        obtain ⟨path, hpath⟩ := hbefore b hb
        exact ⟨path, (readWithin_succ (settles_of_ok hpath)).trans hpath⟩
      exact ⟨item, List.mem_append_right _ List.mem_cons_self,
        fun hitem' => hsettled (mapM_append_cons_eq_error hbefore' hitem'), not_not.mpr hitem⟩
    | unreadable e =>
      refine absurd ?_ hnot
      rw [Settles, readWithin_unreadable hform]
      exact nofun

/-- There is a blank node for each level, and they are different since they have different levels. -/
theorem HasLevels.exists_labels {n : Nat} (h : HasLevels g node n) : ∃ labels : List String, labels.length = n ∧
    labels.Nodup ∧ ∀ label ∈ labels, (∃ p o, ⟨.blank label, p, o⟩ ∈ g.toList) ∧
      ∃ m, m ≤ n ∧ HasLevels g (.blank label) m := by
  induction n generalizing node with
  | zero => exact ⟨[], rfl, List.nodup_nil, fun _ h => absurd h List.not_mem_nil⟩
  | succ n ih =>
    obtain ⟨label, rfl, part, hpart, hlevels⟩ := h.exists_part
    obtain ⟨labels, hlength, hnodup, hlabels⟩ := ih hlevels
    have hnew : label ∉ labels := fun hmem => by
      obtain ⟨-, m, hle, hm⟩ := hlabels label hmem
      obtain rfl := h.unique hm
      exact Nat.not_succ_le_self n hle
    refine ⟨label :: labels, congrArg (· + 1) hlength, List.nodup_cons.mpr ⟨hnew, hnodup⟩, ?_⟩
    refine List.forall_mem_cons.mpr ⟨⟨exists_triple_of_mem_parts hpart, n + 1, Nat.le_refl _, h⟩, fun l hl => ?_⟩
    obtain ⟨htriple, m, hle, hm⟩ := hlabels l hl
    exact ⟨htriple, m, Nat.le_succ_of_le hle, hm⟩

theorem HasLevels.le_depthOf {n : Nat} (h : HasLevels g node n) : n ≤ depthOf g := by
  obtain ⟨labels, rfl, hnodup, hlabels⟩ := h.exists_labels
  exact length_le_depthOf hnodup fun label hlabel => (hlabels label hlabel).1

/-- What is read within any depth is read. -/
theorem readWithin_depthOf (h : Settles g depth node) : readWithin g (depthOf g + 1) node = readWithin g depth node := by
  obtain ⟨n, hlt, hn⟩ := h.exists_hasLevels
  rw [readWithin_of_le hn.1 (Nat.succ_le_succ hn.le_depthOf), readWithin_of_le hn.1 hlt]

theorem read_eq_ok_iff {path : Path} : read g node = .ok path ↔ ∃ depth, readWithin g depth node = .ok path := by
  constructor
  · intro h
    rw [read] at h
    split at h
    · next path' hpath =>
      obtain rfl := Except.ok.inj h
      exact ⟨_, hpath⟩
    · cases h
    · cases h
  · rintro ⟨depth, hpath⟩
    rw [read, readWithin_depthOf (settles_of_ok hpath), hpath]

end Path
end CollectionQuery
