import CollectionQuery.Collection.Fragment
import CollectionQuery.Collection.Links
import CollectionQuery.Proofs.Library
import CollectionQuery.Proofs.Sparql.PathDepth

/-! The places of paths in a description. Every IRI in such a place is read as a predicate. The empty list is no
    exception: its node is the IRI `rdf:nil`, so that an empty list of steps is the step along `rdf:nil`, at whichever
    depth it stands. -/

namespace CollectionQuery
namespace Path
variable {g : Graph} {node place : Term} {label : String} {items : List Term} {depth : Nat} {path : Path}

/-- The node describes a path: it is an IRI, or a blank node that has an inverted path or lists paths, and paths are
    nowhere within themselves. -/
inductive IsPath (g : Graph) : Term → Prop
  | iri (i : Iri) : IsPath g (.iri i)
  | inverse {label : String} {inner : Term} (h : g.object? (.blank label) Shacl.inversePath = some inner)
      (hinner : IsPath g inner) : IsPath g (.blank label)
  | list {label : String} {items : List Term} (hnone : g.object? (.blank label) Shacl.inversePath = none)
      (h : g.Lists (.blank label) items) (hitems : ∀ item ∈ items, IsPath g item) : IsPath g (.blank label)

/-- A node is in the place of a path: it is the node itself, or within its inverted path or one of its listed paths. -/
inductive HasPlace (g : Graph) : (node place : Term) → Prop
  | self (node : Term) : HasPlace g node node
  | inverse {label : String} {inner place : Term} (h : g.object? (.blank label) Shacl.inversePath = some inner)
      (hinner : HasPlace g inner place) : HasPlace g (.blank label) place
  | list {label : String} {items : List Term} {item place : Term}
      (hnone : g.object? (.blank label) Shacl.inversePath = none) (h : g.Lists (.blank label) items)
      (hitem : item ∈ items) (hplace : HasPlace g item place) : HasPlace g (.blank label) place

/-- The predicates along which a path leads, in either direction, and those that it excludes. -/
def predicates : Path → List Iri
  | predicate i => [i]
  | inverse p | zeroOrMore p | oneOrMore p | zeroOrOne p => p.predicates
  | sequence p q | alternative p q => p.predicates ++ q.predicates
  | negated is => is

/-! ### Places -/

theorem hasPlace_iri {i : Iri} : HasPlace g (.iri i) place ↔ place = .iri i := by
  constructor
  · rintro ⟨⟩
    rfl
  · rintro rfl
    exact .self _

theorem hasPlace_inverse {inner : Term} (h : g.object? (.blank label) Shacl.inversePath = some inner) {i : Iri} :
    HasPlace g (.blank label) (.iri i) ↔ HasPlace g inner (.iri i) := by
  constructor
  · intro hplace
    cases hplace with
    | inverse h' hinner =>
      obtain rfl := Option.some.inj (h.symm.trans h')
      exact hinner
    | list hnone => cases h.symm.trans hnone
  · exact .inverse h

theorem hasPlace_list (hnone : g.object? (.blank label) Shacl.inversePath = none) (h : g.Lists (.blank label) items)
    {i : Iri} : HasPlace g (.blank label) (.iri i) ↔ ∃ item ∈ items, HasPlace g item (.iri i) := by
  constructor
  · intro hplace
    cases hplace with
    | inverse h' => cases hnone.symm.trans h'
    | list _ h' hitem hplace =>
      obtain rfl := h.unique h'
      exact ⟨_, hitem, hplace⟩
  · rintro ⟨item, hitem, hplace⟩
    exact .list hnone h hitem hplace

/-! ### Reading -/

/-- Steps are read in the depth of the deepest. -/
theorem exists_mapM_readWithin (h : ∀ item ∈ items, ∃ depth path, readWithin g depth item = .ok path) :
    ∃ depth paths, items.mapM (readWithin g depth) = .ok paths := by
  induction items with
  | nil => exact ⟨0, [], rfl⟩
  | cons item items ih =>
    obtain ⟨⟨depth, path, hpath⟩, hitems⟩ := List.forall_mem_cons.mp h
    obtain ⟨depth', paths, hpaths⟩ := ih hitems
    refine ⟨max depth depth', path :: paths, mapM_eq_ok_iff.mpr (.cons ?_ ?_)⟩
    · exact (readWithin_of_le (settles_of_ok hpath) (Nat.le_max_left _ _)).trans hpath
    · refine (mapM_eq_ok_iff.mp hpaths).imp fun item path hitem => ?_
      exact (readWithin_of_le (settles_of_ok hitem) (Nat.le_max_right _ _)).trans hitem

/-- The steps of a list, which has at least one, make a path. -/
theorem exists_chain {head : Term} {paths : List Path} (hne : items ≠ [])
    (h : items.mapM (readWithin g depth) = .ok paths) : ∃ path, chain head paths = .ok path := by
  cases mapM_eq_ok_iff.mp h with
  | nil => exact absurd rfl hne
  | cons => exact ⟨_, rfl⟩

theorem IsPath.exists_readWithin (h : IsPath g node) : ∃ depth path, readWithin g depth node = .ok path := by
  induction h with
  | iri i => exact ⟨1, _, rfl⟩
  | inverse h _ ih =>
    obtain ⟨depth, path, hpath⟩ := ih
    refine ⟨depth + 1, path.inverse, ?_⟩
    rw [readWithin_inverse (formOf_eq_inverse_iff.mpr h), hpath]
    rfl
  | @list label items hnone h _ ih =>
    obtain ⟨depth, paths, hpaths⟩ := exists_mapM_readWithin ih
    obtain ⟨path, hpath⟩ := exists_chain (h.ne_nil nofun) hpaths
    refine ⟨depth + 1, path, ?_⟩
    rw [readWithin_sequence (formOf_eq_sequence_iff.mpr ⟨hnone, h⟩), bind_eq_ok_iff]
    exact ⟨paths, hpaths, hpath⟩

/-- The node describes a path whose predicates are the IRIs in the places of paths. -/
def HasPredicates (g : Graph) (node : Term) (path : Path) : Prop :=
  IsPath g node ∧ ∀ i, i ∈ path.predicates ↔ HasPlace g node (.iri i)

theorem mem_predicates_foldl {i : Iri} {p : Path} {ps : List Path} :
    i ∈ (ps.foldl sequence p).predicates ↔ ∃ q ∈ p :: ps, i ∈ q.predicates := by
  induction ps generalizing p with
  | nil => simp
  | cons q ps ih => simp [ih, predicates, or_assoc]

theorem exists_mem_predicates_iff {paths : List Path} (h : List.Forall₂ (HasPredicates g) items paths) (i : Iri) :
    (∃ p ∈ paths, i ∈ p.predicates) ↔ ∃ item ∈ items, HasPlace g item (.iri i) := by
  induction h with
  | nil => simp
  | cons hitem _ ih => simp [hitem.2 i, ih]

theorem forall_isPath {paths : List Path} (h : List.Forall₂ (HasPredicates g) items paths) :
    ∀ item ∈ items, IsPath g item := by
  induction h with
  | nil => exact fun _ h => absurd h List.not_mem_nil
  | cons hitem _ ih => exact List.forall_mem_cons.mpr ⟨hitem.1, ih⟩

theorem hasPredicates_of_readWithin (h : readWithin g depth node = .ok path) : HasPredicates g node path := by
  induction depth generalizing node path with
  | zero => cases h
  | succ depth ih =>
    cases node with
    | iri i =>
      obtain rfl := Except.ok.inj h
      refine ⟨.iri i, fun j => ?_⟩
      rw [hasPlace_iri, Term.iri.injEq]
      exact List.mem_singleton
    | literal l => cases h
    | blank label =>
      cases hform : formOf g label with
      | inverse inner =>
        have hinner := formOf_eq_inverse_iff.mp hform
        rw [readWithin_inverse hform] at h
        cases hpath : readWithin g depth inner with
        | error fault =>
          rw [hpath] at h
          cases h
        | ok path' =>
          rw [hpath] at h
          obtain rfl := Except.ok.inj h
          obtain ⟨hisPath, hpredicates⟩ := ih hpath
          refine ⟨.inverse hinner hisPath, fun i => ?_⟩
          rw [hasPlace_inverse hinner]
          exact hpredicates i
      | sequence items =>
        obtain ⟨hnone, hitems⟩ := formOf_eq_sequence_iff.mp hform
        rw [readWithin_sequence hform, bind_eq_ok_iff] at h
        obtain ⟨paths, hpaths, hchain⟩ := h
        have hread : List.Forall₂ (HasPredicates g) items paths := (mapM_eq_ok_iff.mp hpaths).imp fun _ _ => ih
        refine ⟨.list hnone hitems (forall_isPath hread), fun i => ?_⟩
        cases paths with
        | nil => cases hchain
        | cons p ps =>
          obtain rfl := Except.ok.inj hchain
          rw [hasPlace_list hnone hitems, mem_predicates_foldl, exists_mem_predicates_iff hread]
      | unreadable e =>
        rw [readWithin_unreadable hform] at h
        cases h

/-! ### Empty lists -/

theorem formOf_ne_emptyPath (head : Term) : formOf g label ≠ .unreadable (.emptyPath head) := by
  rw [formOf]
  split
  · rintro ⟨⟩
  · split
    · split
      · rintro ⟨⟩
      · next e herror =>
        obtain ⟨rfl, -⟩ := Graph.list_eq_error_iff.mp herror
        rintro ⟨⟩
    · rintro ⟨⟩

/-- A blank node that lists paths lists at least one, and the empty list is no blank node. -/
theorem readWithin_ne_emptyPath (head : Term) : readWithin g depth node ≠ .error (.unreadable (.emptyPath head)) := by
  induction depth generalizing node with
  | zero => rintro ⟨⟩
  | succ depth ih =>
    cases node with
    | iri i => rintro ⟨⟩
    | literal l => rintro ⟨⟩
    | blank label =>
      cases hform : formOf g label with
      | inverse inner =>
        rw [readWithin_inverse hform]
        cases hpath : readWithin g depth inner with
        | error fault =>
          rintro ⟨⟩
          exact ih hpath
        | ok path => rintro ⟨⟩
      | sequence items =>
        rw [readWithin_sequence hform]
        cases hpaths : items.mapM (readWithin g depth) with
        | error fault =>
          rintro ⟨⟩
          obtain ⟨_, item, _, -, -, hitem⟩ := exists_of_mapM_eq_error hpaths
          exact ih hitem
        | ok paths =>
          have hne := (formOf_eq_sequence_iff.mp hform).2.ne_nil nofun
          obtain ⟨path, hpath⟩ : ∃ path, chain (.blank label) paths = .ok path := exists_chain hne hpaths
          intro h
          cases hpath.symm.trans h
      | unreadable e =>
        rw [readWithin_unreadable hform]
        rintro ⟨⟩
        exact formOf_ne_emptyPath head hform

theorem read_ne_emptyPath (head : Term) : read g node ≠ .error (.emptyPath head) := by
  rw [read]
  split
  · rintro ⟨⟩
  · next e herror =>
    rintro ⟨⟩
    exact readWithin_ne_emptyPath head herror
  · rintro ⟨⟩

/-- A path is read exactly if the node describes one, and its predicates are the IRIs in the places of paths. The empty
    list, which is the IRI `rdf:nil`, is one of them wherever it stands; no path is ever found to be empty. -/
theorem iris_in_places_are_predicates (g : Graph) (node : Term) :
    ((∃ path, read g node = .ok path) ↔ IsPath g node) ∧
      (∀ path, read g node = .ok path → ∀ i, i ∈ path.predicates ↔ HasPlace g node (.iri i)) ∧
      ∀ head, read g node ≠ .error (.emptyPath head) := by
  refine ⟨⟨?_, fun h => ?_⟩, fun path hpath => ?_, read_ne_emptyPath⟩
  · rintro ⟨path, hpath⟩
    obtain ⟨depth, hdepth⟩ := read_eq_ok_iff.mp hpath
    exact (hasPredicates_of_readWithin hdepth).1
  · obtain ⟨depth, path, hdepth⟩ := h.exists_readWithin
    exact ⟨path, read_eq_ok_iff.mpr ⟨depth, hdepth⟩⟩
  · obtain ⟨depth, hdepth⟩ := read_eq_ok_iff.mp hpath
    exact (hasPredicates_of_readWithin hdepth).2

/-! ### Empty steps -/

/-- A way back along the author and a second step that is the empty list, and a rule whose path is the empty list. -/
def emptySteps : Graph :=
  .ofList [
    ⟨.blank "path", Shacl.inversePath, .blank "1"⟩,
    ⟨.blank "1", Rdf.first, .iri Library.author⟩, ⟨.blank "1", Rdf.rest, .blank "2"⟩,
    ⟨.blank "2", Rdf.first, .iri Rdf.nil⟩, ⟨.blank "2", Rdf.rest, .iri Rdf.nil⟩,
    ⟨.blank "rule", Rule.path, .iri Rdf.nil⟩]

theorem isPath_emptySteps : IsPath emptySteps (.blank "path") ∧ HasPlace emptySteps (.blank "path") (.iri Rdf.nil) := by
  have hinverse : emptySteps.object? (.blank "path") Shacl.inversePath = some (.blank "1") := by decide +kernel
  have hnone : emptySteps.object? (.blank "1") Shacl.inversePath = none := by decide +kernel
  have hlist : emptySteps.Lists (.blank "1") [.iri Library.author, .iri Rdf.nil] :=
    Graph.list_eq_ok_iff.mp (by decide +kernel)
  constructor
  · refine .inverse hinverse (.list hnone hlist ?_)
    simp [IsPath.iri]
  · exact .inverse hinverse (.list hnone hlist (by simp) (.self _))

theorem empty_list_is_step :
    (¬∀ g node, IsPath g node → HasPlace g node (.iri Rdf.nil) → ∃ head, read g node = .error (.emptyPath head)) ∧
      read emptySteps (.blank "path") =
        .ok (.inverse (.sequence (.predicate Library.author) (.predicate Rdf.nil))) ∧
      (Sorting.ofEntries ⟨"member"⟩ [(OrderEntry.read emptySteps (.blank "rule")).value]).fragments =
        [.optional (.triple (.var ⟨"member"⟩) (.iri Rdf.nil) (.var (Sorting.key 1)))] ∧
      (Links.branchOf ⟨"member"⟩ (IncludeRule.read emptySteps (.blank "rule"))).value =
        some (.filter (.isIri Links.linkedVariable)
          (.triple (.var ⟨"member"⟩) (.iri Rdf.nil) (.var Links.linkedVariable))) := by
  refine ⟨fun h => ?_, by decide +kernel, by decide +kernel, by decide +kernel⟩
  obtain ⟨hisPath, hplace⟩ := isPath_emptySteps
  obtain ⟨head, hhead⟩ := h _ _ hisPath hplace
  exact read_ne_emptyPath head hhead

end Path
end CollectionQuery
