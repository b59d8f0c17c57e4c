import CollectionQuery.Proofs.Library
import CollectionQuery.Proofs.Sparql.PathDepth
import Mathlib.Logic.Relation

/-! Paths that are read to the end. A path is read by reading its parts, one level within the other, and nothing but the
    description itself bounds the levels. Where no blank node is a part of itself, the nodes of different levels are
    different, so that there are no more levels than blank nodes and one. -/

namespace CollectionQuery

/-- The labels of the blank nodes of a graph. -/
def Graph.blankLabels (g : Graph) : List String :=
  ((g.toList.flatMap fun t => [t.subject, t.object]).filterMap fun
    | .blank label => some label
    | _ => none).eraseDups

namespace Path
variable {g : Graph} {node part : Term} {label : String} {depth : Nat}

/-! ### Parts -/

/-- A node has its inverted path as a part, or the paths that it lists. The list of a node with an inverted path is not
    looked at. -/
inductive HasPart (g : Graph) : (node part : Term) → Prop
  | inverse {label : String} {inner : Term} (h : g.object? (.blank label) Shacl.inversePath = some inner) :
    HasPart g (.blank label) inner
  | item {label : String} {items : List Term} {item : Term}
      (hnone : g.object? (.blank label) Shacl.inversePath = none) (h : g.Lists (.blank label) items)
      (hitem : item ∈ items) : HasPart g (.blank label) item

/-- No blank node that is the node itself or a part of a part of it contains itself. -/
def IsAcyclic (g : Graph) (node : Term) : Prop :=
  ∀ label, Relation.ReflTransGen (HasPart g) node (.blank label) →
    ¬Relation.TransGen (HasPart g) (.blank label) (.blank label)

theorem mem_parts_iff : part ∈ (formOf g label).parts ↔ HasPart g (.blank label) part := by
  constructor
  · intro h
    cases hform : formOf g label with
    | inverse inner =>
      rw [hform] at h
      obtain rfl := List.mem_singleton.mp h
      exact .inverse (formOf_eq_inverse_iff.mp hform)
    | sequence items =>
      rw [hform] at h
      obtain ⟨hnone, hitems⟩ := formOf_eq_sequence_iff.mp hform
      exact .item hnone hitems h
    | unreadable e =>
      rw [hform] at h
      cases h
  · rintro (h | ⟨hnone, h, hitem⟩)
    · rw [formOf_eq_inverse_iff.mpr h]
      exact List.mem_singleton_self _
    · rw [formOf_eq_sequence_iff.mpr ⟨hnone, h⟩]
      exact hitem

/-- The nodes in the place of paths that a node leads to. -/
def partsOf (g : Graph) : Term → List Term
  | .blank label => (formOf g label).parts
  | _ => []

/-- No blank node contains itself if the rank goes down from each subject to its parts. -/
theorem isAcyclic_of_rank (rank : Term → Nat) (h : ∀ t ∈ g.toList, ∀ p ∈ partsOf g t.subject, rank p < rank t.subject) :
    IsAcyclic g node := by
  have hstep {whole part : Term} (hpart : HasPart g whole part) : rank part < rank whole := by
    obtain ⟨label, rfl⟩ : ∃ label, whole = .blank label := by cases hpart <;> exact ⟨_, rfl⟩
    have hmem := mem_parts_iff.mpr hpart
    obtain ⟨p, o, htriple⟩ := exists_triple_of_mem_parts hmem
    exact h _ htriple _ hmem
  have hsteps {whole part : Term} (hpart : Relation.TransGen (HasPart g) whole part) : rank part < rank whole := by
    induction hpart with
    | single h => exact hstep h
    | tail _ h ih => exact Nat.lt_trans (hstep h) ih
  exact fun label _ hcycle => Nat.lt_irrefl _ (hsteps hcycle)

theorem settles_of_unreadable {e : ReadError} (h : readWithin g depth node = .error (.unreadable e)) :
    Settles g depth node := by simp [Settles, h]

/-- Where reading is too deep, it is still too deep one level below. -/
theorem exists_part_of_not_settles (h : ¬Settles g (depth + 1) node) :
    ∃ label part, node = .blank label ∧ HasPart g (.blank label) part ∧ ¬Settles g depth part := by
  cases node with
  | iri i => exact absurd (settles_of_ok rfl) h
  | literal l => exact absurd (settles_of_unreadable rfl) h
  | blank label =>
    cases hform : formOf g label with
    | inverse inner =>
      exact ⟨label, inner, rfl, .inverse (formOf_eq_inverse_iff.mp hform), mt (settles_inverse_iff hform).mpr h⟩
    | sequence items =>
      obtain ⟨hnone, hitems⟩ := formOf_eq_sequence_iff.mp hform
      have hdeep := not_not.mp (mt (settles_sequence_iff hform).mpr h)
      obtain ⟨before, item, after, heq, -, hitem⟩ := exists_of_mapM_eq_error hdeep
      have hmem : item ∈ items := heq ▸ List.mem_append_right before List.mem_cons_self
      exact ⟨label, item, rfl, .item hnone hitems hmem, not_not.mpr hitem⟩
    | unreadable e => exact absurd (settles_of_unreadable (readWithin_unreadable hform)) h

/-- Reading that is too deep goes through a blank node on each level, each within the one before. -/
theorem exists_labels_of_not_settles (h : ¬Settles g depth node) : ∃ labels : List String, labels.length = depth ∧
    (∀ l ∈ labels, Relation.ReflTransGen (HasPart g) node (.blank l) ∧ ∃ p o, ⟨.blank l, p, o⟩ ∈ g.toList) ∧
    labels.Pairwise fun a b => Relation.TransGen (HasPart g) (.blank a) (.blank b) := by
  induction depth generalizing node with
  | zero => exact ⟨[], rfl, fun _ hl => absurd hl List.not_mem_nil, .nil⟩
  | succ depth ih =>
    obtain ⟨label, part, rfl, hpart, hdeep⟩ := exists_part_of_not_settles h
    obtain ⟨labels, hlength, hlabels, hpairwise⟩ := ih hdeep
    have htriple := exists_triple_of_mem_parts (mem_parts_iff.mpr hpart)
    refine ⟨label :: labels, congrArg (· + 1) hlength, ?_, ?_⟩
    · refine List.forall_mem_cons.mpr ⟨⟨.refl, htriple⟩, fun l hl => ?_⟩
      exact ⟨.head hpart (hlabels l hl).1, (hlabels l hl).2⟩
    · exact List.pairwise_cons.mpr ⟨fun l hl => .head' hpart (hlabels l hl).1, hpairwise⟩

/-- Different blank nodes with triples are no more than the blank nodes of the graph. -/
theorem length_le_blankLabels {labels : List String} (hnodup : labels.Nodup)
    (h : ∀ label ∈ labels, ∃ p o, ⟨.blank label, p, o⟩ ∈ g.toList) : labels.length ≤ g.blankLabels.length := by
  refine (List.subperm_of_subset hnodup fun label hlabel => ?_).length_le
  obtain ⟨p, o, htriple⟩ := h label hlabel
  refine List.mem_eraseDups.mpr (List.mem_filterMap.mpr ⟨.blank label, ?_, rfl⟩)
  exact List.mem_flatMap.mpr ⟨_, htriple, List.mem_cons_self⟩

theorem IsAcyclic.settles (h : IsAcyclic g node) : Settles g (g.blankLabels.length + 1) node := by
  by_contra hdeep
  obtain ⟨labels, hlength, hlabels, hpairwise⟩ := exists_labels_of_not_settles hdeep
  have hnodup : labels.Nodup := hpairwise.imp_of_mem fun ha _ hab => by
    rintro rfl
    exact h _ (hlabels _ ha).1 hab
  have hle := length_le_blankLabels hnodup fun l hl => (hlabels l hl).2
  omega

/-! ### Reading without a bound -/

/-- The sequence of the steps of a list, grouped from the left. -/
def joined (head : Term) : List Path → Except ReadError Path
  | [] => .error (.emptyPath head)
  | p :: ps => .ok (ps.foldl sequence p)

mutual

/-- Reading the path at a node comes to a result, and reads on as many levels, one within the other. -/
inductive Reads (g : Graph) : (node : Term) → (levels : Nat) → (result : Except ReadError Path) → Prop
  | iri (i : Iri) : Reads g (.iri i) 1 (.ok (.predicate i))
  | literal (l : Literal) : Reads g (.literal l) 1 (.error (.unsupportedPath (.literal l)))
  | inverse {label : String} {inner : Term} {levels : Nat} {result : Except ReadError Path}
      (h : g.object? (.blank label) Shacl.inversePath = some inner) (hinner : Reads g inner levels result) :
    Reads g (.blank label) (levels + 1) (result.map .inverse)
  | sequence {label : String} {items : List Term} {levels : Nat} {result : Except ReadError (List Path)}
      (hnone : g.object? (.blank label) Shacl.inversePath = none) (hlist : g.isList (.blank label))
      (hitems : g.list (.blank label) = .ok items) (hread : ReadsAll g items levels result) :
    Reads g (.blank label) (levels + 1) (result >>= joined (.blank label))
  | malformed {label : String} {e : ReadError} (hnone : g.object? (.blank label) Shacl.inversePath = none)
      (hlist : g.isList (.blank label)) (herror : g.list (.blank label) = .error e) :
    Reads g (.blank label) 1 (.error e)
  | unsupported {label : String} (hnone : g.object? (.blank label) Shacl.inversePath = none)
      (hlist : ¬g.isList (.blank label)) : Reads g (.blank label) 1 (.error (.unsupportedPath (.blank label)))

/-- Reading the paths at some nodes in turn, up to the first error. -/
inductive ReadsAll (g : Graph) : (nodes : List Term) → (levels : Nat) → (result : Except ReadError (List Path)) → Prop
  | nil : ReadsAll g [] 0 (.ok [])
  | fail {node : Term} {nodes : List Term} {levels : Nat} {e : ReadError} (h : Reads g node levels (.error e)) :
    ReadsAll g (node :: nodes) levels (.error e)
  | cons {node : Term} {nodes : List Term} {levels levels' : Nat} {path : Path} {result : Except ReadError (List Path)}
      (h : Reads g node levels (.ok path)) (hrest : ReadsAll g nodes levels' result) :
    ReadsAll g (node :: nodes) (max levels levels') (result.map (path :: ·))

end

/-- What reading within a bound comes to if the bound is not in the way. -/
def unbounded {α : Type} (result : Except ReadError α) : Except Fault α := result.mapError .unreadable

theorem unbounded_ne_tooDeep {α : Type} (result : Except ReadError α) : unbounded result ≠ .error .tooDeep := by
  cases result <;> exact nofun

theorem unbounded_injective {α : Type} {result result' : Except ReadError α}
    (h : unbounded result = unbounded result') : result = result' := by
  cases result <;> cases result' <;> cases h <;> rfl

theorem unbounded_bind_joined (head : Term) (results : Except ReadError (List Path)) :
    unbounded (results >>= joined head) = unbounded results >>= chain head := by
  rcases results with e | _ | ⟨p, ps⟩ <;> rfl

/-- Reading within a depth is too deep below the number of levels, and comes to the result from there on. -/
structure IsReadFrom {α : Type} (read : Nat → Except Fault α) (levels : Nat) (result : Except ReadError α) : Prop where
  eq : ∀ depth, levels ≤ depth → read depth = unbounded result
  tooDeep : ∀ depth < levels, read depth = .error .tooDeep

namespace IsReadFrom
variable {α β : Type} {read : Nat → Except Fault α} {read' : Nat → Except Fault β} {levels levels' : Nat}
  {result result₂ : Except ReadError α} {result' : Except ReadError β}

theorem one (hzero : read 0 = .error .tooDeep) (hsucc : ∀ depth, read (depth + 1) = unbounded result) :
    IsReadFrom read 1 result where
  eq depth hle := by
    obtain ⟨depth, rfl⟩ := Nat.exists_eq_succ_of_ne_zero (Nat.ne_of_gt hle)
    exact hsucc depth
  tooDeep depth hlt := by
    obtain rfl := Nat.lt_one_iff.mp hlt
    exact hzero

/-- One level more, on which the same faults stay faults. -/
theorem succ (h : IsReadFrom read levels result) (hzero : read' 0 = .error .tooDeep)
    (heq : ∀ depth, read depth = unbounded result → read' (depth + 1) = unbounded result')
    (htooDeep : ∀ depth, read depth = .error .tooDeep → read' (depth + 1) = .error .tooDeep) :
    IsReadFrom read' (levels + 1) result' where
  eq depth hle := by
    obtain ⟨depth, rfl⟩ := Nat.exists_eq_succ_of_ne_zero (Nat.ne_of_gt (Nat.lt_of_lt_of_le (Nat.zero_lt_succ _) hle))
    exact heq depth (h.eq depth (Nat.le_of_succ_le_succ hle))
  tooDeep depth hlt := by
    cases depth with
    | zero => exact hzero
    | succ depth => exact htooDeep depth (h.tooDeep depth (Nat.lt_of_succ_lt_succ hlt))

theorem le_of_ne_tooDeep (h : IsReadFrom read levels result) {depth : Nat} (hne : read depth ≠ .error .tooDeep) :
    levels ≤ depth := Nat.le_of_not_lt fun hlt => hne (h.tooDeep depth hlt)

theorem ne_tooDeep (h : IsReadFrom read levels result) : read levels ≠ .error .tooDeep := by
  rw [h.eq levels (Nat.le_refl _)]
  exact unbounded_ne_tooDeep result

theorem unique (h : IsReadFrom read levels result) (h' : IsReadFrom read levels' result₂) :
    levels' = levels ∧ result₂ = result := by
  obtain rfl := Nat.le_antisymm (h'.le_of_ne_tooDeep h.ne_tooDeep) (h.le_of_ne_tooDeep h'.ne_tooDeep)
  exact ⟨rfl, unbounded_injective ((h'.eq _ (Nat.le_refl _)).symm.trans (h.eq _ (Nat.le_refl _)))⟩

end IsReadFrom

theorem formOf_eq_unreadable {e : ReadError} (hnone : g.object? (.blank label) Shacl.inversePath = none)
    (hlist : g.isList (.blank label)) (herror : g.list (.blank label) = .error e) :
    formOf g label = .unreadable e := by
  rw [formOf, hnone]
  dsimp only
  rw [if_pos hlist, herror]

theorem formOf_eq_unsupported (hnone : g.object? (.blank label) Shacl.inversePath = none)
    (hlist : ¬g.isList (.blank label)) : formOf g label = .unreadable (.unsupportedPath (.blank label)) := by
  rw [formOf, hnone]
  exact if_neg hlist

mutual

theorem Reads.isReadFrom {node : Term} {levels : Nat} {result : Except ReadError Path} :
    Reads g node levels result → IsReadFrom (fun depth => readWithin g depth node) levels result
  | .iri i => .one rfl fun depth => rfl
  | .literal l => .one rfl fun depth => rfl
  | @Reads.inverse _ _ _ _ result h hinner => by
    have hform := formOf_eq_inverse_iff.mpr h
    refine hinner.isReadFrom.succ rfl (fun depth heq => ?_) fun depth hdeep => ?_
    · rw [readWithin_inverse hform, heq]
      cases result <;> rfl
    · rw [readWithin_inverse hform, hdeep]
      rfl
  | .sequence hnone hlist hitems hread => by
    have hform := formOf_eq_sequence_iff.mpr ⟨hnone, Graph.list_eq_ok_iff.mp hitems⟩
    refine hread.isReadFrom.succ rfl (fun depth heq => ?_) fun depth hdeep => ?_
    · rw [readWithin_sequence hform, heq, unbounded_bind_joined]
    · rw [readWithin_sequence hform, hdeep]
      rfl
  | .malformed hnone hlist herror =>
    .one rfl fun depth => readWithin_unreadable (formOf_eq_unreadable hnone hlist herror)
  | .unsupported hnone hlist => .one rfl fun depth => readWithin_unreadable (formOf_eq_unsupported hnone hlist)

theorem ReadsAll.isReadFrom {nodes : List Term} {levels : Nat} {result : Except ReadError (List Path)} :
    ReadsAll g nodes levels result → IsReadFrom (fun depth => nodes.mapM (readWithin g depth)) levels result
  | .nil => ⟨fun _ _ => rfl, fun _ hlt => absurd hlt (Nat.not_lt_zero _)⟩
  | .fail h => by
    have hfirst := h.isReadFrom
    constructor
    · intro depth hle
      rw [List.mapM_cons, hfirst.eq depth hle]
      rfl
    · intro depth hlt
      rw [List.mapM_cons, hfirst.tooDeep depth hlt]
      rfl
  | @ReadsAll.cons _ _ _ levels _ _ result h hrest => by
    have hfirst := h.isReadFrom
    have hothers := hrest.isReadFrom
    constructor
    · intro depth hle
      rw [List.mapM_cons, hfirst.eq depth (Nat.le_trans (Nat.le_max_left _ _) hle),
        hothers.eq depth (Nat.le_trans (Nat.le_max_right _ _) hle)]
      cases result <;> rfl
    · intro depth hlt
      rw [List.mapM_cons]
      by_cases hle : levels ≤ depth
      · rw [hfirst.eq depth hle, hothers.tooDeep depth (by omega)]
        rfl
      · rw [hfirst.tooDeep depth (Nat.lt_of_not_le hle)]
        rfl

end

/-! ### Reading to the end -/

theorem exists_readsAll {nodes : List Term} (h : nodes.mapM (readWithin g depth) ≠ .error .tooDeep)
    (hreads : ∀ node, Settles g depth node → ∃ levels result, Reads g node levels result) :
    ∃ levels result, ReadsAll g nodes levels result := by
  induction nodes with
  | nil => exact ⟨0, _, .nil⟩
  | cons node nodes ih =>
    rw [List.mapM_cons] at h
    have hnode : Settles g depth node := fun hdeep => h (by rw [hdeep]; rfl)
    obtain ⟨levels, result, hread⟩ := hreads node hnode
    have heq := hread.isReadFrom.eq depth (hread.isReadFrom.le_of_ne_tooDeep hnode)
    cases result with
    | error e => exact ⟨levels, _, .fail hread⟩
    | ok path =>
      rw [heq] at h
      obtain ⟨levels', results, hrest⟩ := ih fun hdeep => h (by rw [hdeep]; rfl)
      exact ⟨_, _, .cons hread hrest⟩

theorem Settles.exists_reads (h : Settles g depth node) : ∃ levels result, Reads g node levels result := by
  induction depth generalizing node with
  | zero => exact absurd h not_settles_zero
  | succ depth ih =>
    cases node with
    | iri i => exact ⟨1, _, .iri i⟩
    | literal l => exact ⟨1, _, .literal l⟩
    | blank label =>
      cases hinverse : g.object? (.blank label) Shacl.inversePath with
      | some inner =>
        obtain ⟨levels, result, hread⟩ := ih ((settles_inverse_iff (formOf_eq_inverse_iff.mpr hinverse)).mp h)
        exact ⟨_, _, .inverse hinverse hread⟩
      | none =>
        by_cases hlist : g.isList (.blank label)
        · cases hitems : g.list (.blank label) with
          | error e => exact ⟨1, _, .malformed hinverse hlist hitems⟩
          | ok items =>
            have hform := formOf_eq_sequence_iff.mpr ⟨hinverse, Graph.list_eq_ok_iff.mp hitems⟩
            obtain ⟨levels, results, hread⟩ :=
              exists_readsAll ((settles_sequence_iff hform).mp h) fun node => ih
            exact ⟨_, _, .sequence hinverse hlist hitems hread⟩
        · exact ⟨1, _, .unsupported hinverse hlist⟩

theorem Reads.read_eq {levels : Nat} {result : Except ReadError Path} (h : Reads g node levels result) :
    read g node = result := by
  have hread : readWithin g (depthOf g + 1) node = unbounded result :=
    (readWithin_depthOf h.isReadFrom.ne_tooDeep).trans (h.isReadFrom.eq levels (Nat.le_refl _))
  rw [read, hread]
  cases result <;> rfl

/-- A path of which no part contains itself is read to the end, with a path or an error, on no more levels than there
    are blank nodes and one. Reading within that depth, or any greater one, comes to the same. -/
theorem acyclic_path_is_read (h : IsAcyclic g node) :
    ∃ levels result, Reads g node levels result ∧ levels ≤ g.blankLabels.length + 1 ∧
      (∀ levels' result', Reads g node levels' result' → levels' = levels ∧ result' = result) ∧
      read g node = result ∧
      ∀ depth, g.blankLabels.length + 1 ≤ depth → readWithin g depth node = unbounded result := by
  obtain ⟨levels, result, hread⟩ := h.settles.exists_reads
  have hle : levels ≤ g.blankLabels.length + 1 := hread.isReadFrom.le_of_ne_tooDeep h.settles
  refine ⟨levels, result, hread, hle, fun levels' result' hread' => ?_, hread.read_eq, fun depth hdepth => ?_⟩
  · exact hread.isReadFrom.unique hread'.isReadFrom
  · exact hread.isReadFrom.eq depth (Nat.le_trans hle hdepth)

/-- A list with one inverted path as its first and its second step, and a step that is a list running in a circle. -/
def sharedSteps : Graph :=
  .ofList [
    ⟨.blank "0", Rdf.first, .blank "back"⟩, ⟨.blank "0", Rdf.rest, .blank "1"⟩,
    ⟨.blank "1", Rdf.first, .blank "back"⟩, ⟨.blank "1", Rdf.rest, .blank "2"⟩,
    ⟨.blank "2", Rdf.first, .blank "circle"⟩, ⟨.blank "2", Rdf.rest, .iri Rdf.nil⟩,
    ⟨.blank "back", Shacl.inversePath, .iri Library.author⟩,
    ⟨.blank "circle", Rdf.first, .iri Library.name⟩, ⟨.blank "circle", Rdf.rest, .blank "circle"⟩]

/-- The levels of parts below the nodes of `sharedSteps`. -/
def sharedRank : Term → Nat
  | .blank label => if label ∈ ["0", "1", "2"] then 2 else if label = "back" then 1 else 0
  | _ => 0

theorem shared_steps_are_read :
    IsAcyclic sharedSteps (.blank "0") ∧ sharedSteps.blankLabels = ["0", "back", "1", "2", "circle"] ∧
      ∃ levels ≤ 6, Reads sharedSteps (.blank "0") levels (.error (.malformedList (.blank "circle"))) ∧
        readWithin sharedSteps 6 (.blank "0") = .error (.unreadable (.malformedList (.blank "circle"))) := by
  have hacyclic : IsAcyclic sharedSteps (.blank "0") :=
    isAcyclic_of_rank sharedRank (by decide +kernel)
  have hlabels : sharedSteps.blankLabels = ["0", "back", "1", "2", "circle"] := by decide +kernel
  have herror : read sharedSteps (.blank "0") = .error (.malformedList (.blank "circle")) := by decide +kernel
  obtain ⟨levels, result, hread, hle, -, hresult, hdepth⟩ := acyclic_path_is_read hacyclic
  obtain rfl := hresult.symm.trans herror
  rw [hlabels] at hle hdepth
  exact ⟨hacyclic, hlabels, levels, hle, hread, hdepth 6 (Nat.le_refl _)⟩

end Path
end CollectionQuery
