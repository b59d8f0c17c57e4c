import CollectionQuery.Collection.Api
import CollectionQuery.Collection.Basic
import CollectionQuery.Proofs.Rdf.Without
import CollectionQuery.Proofs.Sparql.PathDepth

/-! Collections and the description of an API without limits. Only the page size is read from the limits; everything
    else that is declared, and every warning, comes from triples of other predicates. -/

namespace CollectionQuery

/-! ### Paths -/

namespace Path
variable {g g' : Graph} {node : Term} {p : Iri}

/-- Paths are equal if they are equal within every depth. The graphs may give different depths to read them in. -/
theorem read_congr (h : ∀ depth, readWithin g' depth node = readWithin g depth node) : read g' node = read g node := by
  have hdeep : readWithin g' (depthOf g' + 1) node = readWithin g (depthOf g + 1) node := by
    by_cases hsettles : ∃ depth, Settles g depth node
    · obtain ⟨depth, hg⟩ := hsettles
      have hg' : Settles g' depth node := (h depth).trans_ne hg
      rw [readWithin_depthOf hg, readWithin_depthOf hg', h]
    · have hnever (depth : Nat) : readWithin g depth node = .error .tooDeep :=
        not_not.mp (not_exists.mp hsettles depth)
      rw [h, hnever, hnever]
  rw [read, read, hdeep]

theorem readWithin_without (hfirst : Rdf.first ≠ p) (hrest : Rdf.rest ≠ p) (hinverse : Shacl.inversePath ≠ p)
    (depth : Nat) (node : Term) : readWithin (g.without p) depth node = readWithin g depth node := by
  induction depth generalizing node with
  | zero => rfl
  | succ depth ih =>
    cases node with
    | iri i => rfl
    | literal l => rfl
    | blank label =>
      have hread : readWithin (g.without p) depth = readWithin g depth := funext ih
      have hlist : (g.without p).isList (.blank label) = g.isList (.blank label) := by
        rw [Graph.isList, Graph.isList, Graph.object?_without hfirst]
      rw [readWithin, readWithin, Graph.object?_without hinverse, hlist, Graph.list_without hfirst hrest, hread]

theorem read_without (hfirst : Rdf.first ≠ p) (hrest : Rdf.rest ≠ p) (hinverse : Shacl.inversePath ≠ p) :
    read (g.without p) = read g :=
  funext fun node => read_congr fun depth => readWithin_without hfirst hrest hinverse depth node

end Path

/-! ### Rules -/

section Rules
variable (g : Graph)

theorem Mapping.read_without : Mapping.read (g.without Hydra.limit) = Mapping.read g := by
  funext node
  simp (disch := decide) only [Mapping.read, Graph.object?_without, Graph.implementation?_without]

theorem SearchTemplate.read_without : SearchTemplate.read (g.without Hydra.limit) = SearchTemplate.read g := by
  funext node
  simp (disch := decide) only [SearchTemplate.read, Graph.object?_without, Graph.objects_without, Mapping.read_without]

theorem MemberAssertion.read_without : MemberAssertion.read (g.without Hydra.limit) = MemberAssertion.read g := by
  funext node
  simp (disch := decide) only [MemberAssertion.read, Graph.object?_without, Graph.objects_without]

theorem OrderEntry.read_without : OrderEntry.read (g.without Hydra.limit) = OrderEntry.read g := by
  funext node
  simp (disch := decide) only [OrderEntry.read, Graph.object?_without, Path.read_without]

theorem IncludeRule.read_without : IncludeRule.read (g.without Hydra.limit) = IncludeRule.read g := by
  funext node
  simp (disch := decide) only [IncludeRule.read, Graph.object?_without, Path.read_without]

end Rules

/-! ### Sources -/

/-- What keeps the keys keeps the duplicates. -/
theorem eraseDupsBy_map {α κ : Type} [DecidableEq κ] {f : α → α} {key : α → κ} (h : ∀ a, key (f a) = key a) :
    (as : List α) →
    (as.map f).eraseDupsBy (fun x y => key x = key y) = (as.eraseDupsBy fun x y => key x = key y).map f
  | [] => rfl
  | a :: as => by
    have hlt : (as.filter fun x => !decide (key x = key a)).length < as.length + 1 :=
      Nat.lt_succ_of_le (List.length_filter_le _ _)
    have ih := eraseDupsBy_map h (as.filter fun x => !decide (key x = key a))
    rw [List.map_cons, List.eraseDupsBy_cons, List.eraseDupsBy_cons, List.map_cons, List.filter_map]
    simp only [Function.comp_def, h, Bool.decide_eq_false, ih]
termination_by as => as.length

namespace Source

def unlimited (s : Source) : Source := { s with graph := s.graph.without Hydra.limit }

theorem objects_unlimited {p : Iri} (h : p ≠ Hydra.limit) (s : Source) : s.unlimited.objects p = s.objects p :=
  Graph.objects_without h _

theorem ofClasses_without (api : Graph) (classes : List Iri) :
    ofClasses (api.without Hydra.limit) classes = (ofClasses api classes).map unlimited := by
  rw [ofClasses, ofClasses, List.map_map]
  rfl

theorem declared_unlimited {predicates : List Iri} (h : Hydra.limit ∉ predicates) (sources : List Source) :
    declared (sources.map unlimited) predicates =
      (declared sources predicates).map fun x => (x.1.without Hydra.limit, x.2) := by
  rw [declared, declared, ← eraseDupsBy_map fun _ => by rfl, List.flatMap_map, List.map_flatMap]
  refine congrArg (List.eraseDupsBy _) (congrArg (List.flatMap · sources) (funext fun s => ?_))
  rw [List.map_flatMap]
  refine List.flatMap_congr fun p hp => ?_
  rw [objects_unlimited fun e => h (e ▸ hp), List.map_map]
  rfl

theorem map_declared_unlimited {α : Type} {read : Graph → Term → α} {predicates : List Iri}
    (hread : ∀ g, read (g.without Hydra.limit) = read g) (h : Hydra.limit ∉ predicates) (sources : List Source) :
    (declared (sources.map unlimited) predicates).map (fun (g, node) => read g node) =
      (declared sources predicates).map fun (g, node) => read g node := by
  rw [declared_unlimited h, List.map_map]
  exact List.map_congr_left fun x _ => congrFun (hread x.1) x.2

end Source

/-! ### Collections -/

namespace Collection
variable (iri : Iri) (graph api : Graph) (sources : List Source)

theorem classesOf_without :
    classesOf iri (graph.without Hydra.limit) (api.without Hydra.limit) = classesOf iri graph api := by
  simp (disch := decide) only [classesOf, Graph.objects_without]

theorem firstSearch_unlimited : firstSearch (sources.map Source.unlimited) = firstSearch sources := by
  induction sources with
  | nil => rfl
  | cons s sources ih =>
    rw [List.map_cons, firstSearch, firstSearch, ih, Source.objects_unlimited (by decide)]
    cases (s.objects Hydra.search).head? with
    | none => rfl
    | some node =>
      dsimp only
      rw [Source.unlimited, SearchTemplate.read_without]

theorem readOrdering_without : readOrdering (graph.without Hydra.limit) = readOrdering graph := by
  funext head
  rw [readOrdering, readOrdering, Graph.list_without (by decide) (by decide), OrderEntry.read_without]

theorem firstOrdering_without (heads : List (Graph × Term)) :
    firstOrdering (heads.map fun x => (x.1.without Hydra.limit, x.2)) = firstOrdering heads := by
  induction heads with
  | nil => rfl
  | cons x heads ih => rw [List.map_cons, firstOrdering, firstOrdering, ih, readOrdering_without]

theorem readMembers_without : readMembers iri (graph.without Hydra.limit) = readMembers iri graph := by
  rw [readMembers, readMembers, Graph.objects_without (by decide)]

theorem typedIncludes_without : typedIncludes (api.without Hydra.limit) = typedIncludes api := by
  rw [typedIncludes, typedIncludes, Graph.ofPredicate_without (by decide), IncludeRule.read_without]

theorem memberStrategies_unlimited : memberStrategies (sources.map Source.unlimited) = memberStrategies sources := by
  rw [memberStrategies, memberStrategies, List.flatMap_map]
  refine congrArg (List.flatMap · sources) (funext fun s => ?_)
  rw [Source.objects_unlimited (by decide), Source.unlimited, Graph.implementation?_without (by decide) (by decide)]

theorem orderings_unlimited :
    ((sources.map Source.unlimited).flatMap fun s => (s.objects Rule.order).map fun head => (s.graph, head)) =
      (sources.flatMap fun s => (s.objects Rule.order).map fun head => (s.graph, head)).map
        fun x => (x.1.without Hydra.limit, x.2) := by
  rw [List.flatMap_map, List.map_flatMap]
  refine congrArg (List.flatMap · sources) (funext fun s => ?_)
  rw [Source.objects_unlimited (by decide), List.map_map]
  rfl

/-- The collection as it is read where no limits are declared. -/
def unlimited (c : Collection) : Collection :=
  { c with graph := c.graph.without Hydra.limit, instanceLimit := none, classLimit := none }

theorem read_without :
    read iri (graph.without Hydra.limit) (api.without Hydra.limit) = unlimited <$> read iri graph api := by
  have hsources (classes : List Iri) :
      ⟨graph.without Hydra.limit, .iri iri⟩ :: Source.ofClasses (api.without Hydra.limit) classes =
        (⟨graph, .iri iri⟩ :: Source.ofClasses api classes).map Source.unlimited := by
    rw [Source.ofClasses_without]
    rfl
  have hassertions (sources : List Source) := Source.map_declared_unlimited MemberAssertion.read_without
    (by decide : Hydra.limit ∉ [Hydra.memberAssertion, Hydra.manages]) sources
  have hincludes (sources : List Source) := Source.map_declared_unlimited IncludeRule.read_without
    (by decide : Hydra.limit ∉ [Rule.memberIncludes]) sources
  have hclasses (classes : List Iri) : ((Source.ofClasses (api.without Hydra.limit) classes).findSome?
      fun s => (s.objects Hydra.limit).findSome? Term.count?) = none := by
    refine List.findSome?_eq_none_iff.mpr fun s hs => ?_
    obtain ⟨c, -, rfl⟩ := List.mem_map.mp hs
    rw [Source.objects, Graph.objects_without_self]
    rfl
  have hown : (graph.without Hydra.limit).object? (.iri iri) Hydra.limit = none :=
    congrArg List.head? (Graph.objects_without_self graph Hydra.limit (.iri iri))
  rw [read, read]
  simp only [classesOf_without, hsources, firstSearch_unlimited, orderings_unlimited, firstOrdering_without,
    readMembers_without, typedIncludes_without, memberStrategies_unlimited, hown, hassertions, hincludes, hclasses,
    map_bind, map_pure]
  rfl

end Collection

/-! ### Snapshots -/

namespace Snapshot

theorem references_without {p : Iri} (h : p ≠ Hydra.limit) (g : Graph) :
    references (g.without Hydra.limit) p = references g p := by
  rw [references, references, Graph.ofPredicate_without h, Graph.implementation?_without (by decide) (by decide)]

theorem load_without (g : Graph) (host : Host) :
    load (g.without Hydra.limit) host = (fun s => { s with graph := g.without Hydra.limit }) <$> load g host := by
  simp (disch := decide) only [load, references_without, map_bind, map_pure]

end Snapshot
end CollectionQuery
