import CollectionQuery.CommandLine
import CollectionQuery.Proofs.Collection.Unlimited
import CollectionQuery.Proofs.Conversation
import CollectionQuery.Proofs.Library

/-! Limits that are no numbers. Of the limits of its classes, a collection takes the first one that is a number, so that
    the others make no difference. Of its own limits it takes the first one, number or not: one that is no number
    hides those behind it, and the page gets the size of a collection without limits of its own. -/

namespace CollectionQuery

/-! ### Compiling -/

/-- The page and the queries of a collection, from the graphs that describe it and the API. -/
def compile (host : Host) (options : Options) (iri : Iri) (graph api : Graph) (query : String) :
    Noted (Option PageRequest × Option MemberQueries) := do
  let snapshot ← Snapshot.load api host
  let c ← Collection.read iri graph snapshot.graph
  let params := c.searchParams query
  let (queries, _) ← (MemberQueries.assemble c params options).run snapshot.resolver
  pure (PageRequest.resolve c params options.pageSize, queries)

/-- What the command line writes about the queries of a collection. -/
def CommandLine.report (iri : Iri) : Option MemberQueries → Outcome
  | some q => { output := queriesText q }
  | none => .failed ("The collection " ++ iri.bracketed ++ " has no valid member assertion")

/-- The command line compiles these queries. It knows no filters and strategies. -/
theorem CommandLine.runWith_compile {args : Arguments} (h : args.command = .compile) (iri : Iri) (api data : Graph) :
    runWith args iri api data = (fun r => report iri r.2) <$> Conversation.ofNoted
      (compile (.ofRegistry [] []) (({} : Options).withPageSize args.pageSize) iri data api args.query) := by
  simp only [runWith, h, compile, Conversation.ofNoted_bind, map_bind]
  refine bind_congr fun snapshot => bind_congr fun c => bind_congr fun ⟨queries, r⟩ => ?_
  cases queries <;> rfl

/-! ### Limits -/

/-- Whether the triple is a limit of a collection. -/
def Triple.isLimitOf (iri : Iri) (t : Triple) : Bool := t.subject = .iri iri ∧ t.predicate = Hydra.limit

/-- The triple is a limit of the collection, and the first one behind the triples `ts`. -/
def Triple.IsFirstLimitOf (t : Triple) (iri : Iri) (ts : List Triple) : Prop :=
  t.isLimitOf iri ∧ ∀ u ∈ ts, ¬u.isLimitOf iri

namespace Graph
variable {iri : Iri} {ts us : List Triple} {t : Triple}

/-- The limit of a collection in its own graph. -/
def ownLimit (g : Graph) (iri : Iri) : Option Nat := (g.object? (.iri iri) Hydra.limit).bind Term.count?

/-- The limit of some classes in the API. -/
def classLimit (api : Graph) (classes : List Iri) : Option Nat :=
  (Source.ofClasses api classes).findSome? fun s => (s.objects Hydra.limit).findSome? Term.count?

theorem ownLimit_ofList (iri : Iri) (ts : List Triple) :
    (ofList ts).ownLimit iri = (ts.find? (Triple.isLimitOf iri)).bind fun t => t.object.count? := by
  have hfirst (as : List Triple) : as.eraseDups.head? = as.head? := by
    cases as with
    | nil => rfl
    | cons a as => rw [List.eraseDups_cons, List.head?_cons, List.head?_cons]
  rw [ownLimit, object?, (searchesAs_toList _).objects, toList_ofList, ← eraseDups_filter, List.head?_map, hfirst,
    List.head?_filter, Option.bind_map]
  rfl

theorem ownLimit_of_not_isFirstLimitOf (h : ¬t.IsFirstLimitOf iri ts) :
    (ofList (ts ++ t :: us)).ownLimit iri = (ofList (ts ++ us)).ownLimit iri := by
  rw [ownLimit_ofList, ownLimit_ofList, List.find?_append, List.find?_append]
  by_cases ht : t.isLimitOf iri
  · obtain ⟨u, hu, hlimit⟩ : ∃ u ∈ ts, u.isLimitOf iri := by simpa [Triple.IsFirstLimitOf, ht] using h
    obtain ⟨first, hfirst⟩ := Option.isSome_iff_exists.mp (List.find?_isSome.mpr ⟨u, hu, hlimit⟩)
    rw [hfirst, Option.some_or, Option.some_or]
  · rw [List.find?_cons_of_neg ht]

theorem ownLimit_of_isFirstLimitOf (h : t.IsFirstLimitOf iri ts) (hcount : t.object.count? = none) :
    (ofList (ts ++ t :: us)).ownLimit iri = none := by
  rw [ownLimit_ofList, List.find?_append, List.find?_eq_none.mpr h.2, Option.none_or, List.find?_cons_of_pos h.1]
  exact hcount

theorem ownLimit_filter_isLimitOf (iri : Iri) (ts : List Triple) :
    (ofList (ts.filter fun t => !t.isLimitOf iri)).ownLimit iri = none := by
  rw [ownLimit_ofList, List.find?_eq_none.mpr fun u hu => by simpa using (List.mem_filter.mp hu).2]
  rfl

theorem classLimit_ofList (hcount : t.object.count? = none) :
    (ofList (ts ++ t :: us)).classLimit = (ofList (ts ++ us)).classLimit := by
  funext classes
  rw [classLimit, classLimit, Source.ofClasses, Source.ofClasses, List.findSome?_map, List.findSome?_map]
  refine congrArg (List.findSome? · classes) (funext fun c => ?_)
  simp only [Function.comp_apply, Source.objects, findSome?_objects_ofList, List.findSome?_append,
    List.findSome?_cons, hcount, ite_self]

/-- Without the limits of a collection, the graph is as it was for everything else. -/
theorem without_filter_isLimitOf (iri : Iri) (ts : List Triple) :
    (ofList (ts.filter fun t => !t.isLimitOf iri)).without Hydra.limit = (ofList ts).without Hydra.limit := by
  simp only [without, toList_ofList, ← eraseDups_filter, List.filter_filter]
  refine congrArg (fun xs => ofList (List.eraseDups xs)) (List.filter_congr fun t _ => ?_)
  by_cases ht : t.predicate = Hydra.limit
  · simp [ht]
  · simp [ht, Triple.isLimitOf]

end Graph

/-! ### Reading and compiling -/

variable {graph graph' api api' : Graph} {iri : Iri}

theorem Collection.eq_of_unlimited_eq {c c' : Collection} (h : c'.unlimited = c.unlimited)
    (hown : c'.instanceLimit = c.instanceLimit) (hclass : c'.classLimit = c.classLimit) :
    c' = { c with graph := c'.graph } := by
  cases c
  cases c'
  simp only [unlimited, mk.injEq] at h hown hclass ⊢
  simp only [h, hown, hclass, and_self]

/-- Graphs that differ in limits only are read alike, apart from the limits. -/
theorem Collection.read_congr (hgraph : graph'.without Hydra.limit = graph.without Hydra.limit)
    (hapi : api'.without Hydra.limit = api.without Hydra.limit) (hown : graph'.ownLimit iri = graph.ownLimit iri)
    (hclass : api'.classLimit = api.classLimit) :
    read iri graph' api' = (fun c => { c with graph := graph' }) <$> read iri graph api := by
  have hread : unlimited <$> read iri graph' api' = unlimited <$> read iri graph api := by
    rw [← read_without, ← read_without, hgraph, hapi]
  have hclasses : classesOf iri graph' api' = classesOf iri graph api := by
    rw [← classesOf_without, hgraph, hapi, classesOf_without]
  rw [Noted.map_eq, Noted.map_eq] at hread
  obtain ⟨hunlimited, hwarnings⟩ := Noted.mk.inj hread
  refine Noted.eq_map (eq_of_unlimited_eq hunlimited hown ?_) hwarnings
  change api'.classLimit (classesOf iri graph' api') = api.classLimit (classesOf iri graph api)
  rw [hclass, hclasses]

theorem Snapshot.load_congr (hapi : api'.without Hydra.limit = api.without Hydra.limit) (host : Host) :
    load api' host = (fun s => { s with graph := api' }) <$> load api host := by
  have hload : (fun s : Snapshot => { s with graph := api'.without Hydra.limit }) <$> load api' host =
      (fun s => { s with graph := api.without Hydra.limit }) <$> load api host := by
    rw [← load_without, ← load_without, hapi]
  rw [Noted.map_eq, Noted.map_eq] at hload
  obtain ⟨hsnapshot, hwarnings⟩ := Noted.mk.inj hload
  exact Noted.eq_map (congrArg (Snapshot.mk api') (congrArg Snapshot.resolver hsnapshot)) hwarnings

theorem compile_congr (hgraph : graph'.without Hydra.limit = graph.without Hydra.limit)
    (hapi : api'.without Hydra.limit = api.without Hydra.limit) (hown : graph'.ownLimit iri = graph.ownLimit iri)
    (hclass : api'.classLimit = api.classLimit) (host : Host) (options : Options) (query : String) :
    compile host options iri graph' api' query = compile host options iri graph api query := by
  have hread := Collection.read_congr hgraph hapi hown hclass
  rw [compile, compile, Snapshot.load_congr hapi, bind_map_left]
  refine Noted.bind_congr_value ?_
  change Collection.read iri graph' api' >>= _ = Collection.read iri graph api >>= _
  rw [hread, bind_map_left]
  rfl

/-! ### Limits that are no numbers -/

/-- In the API, a limit that is no number makes no difference. In the graph of the collection it makes none unless it
    is the first limit of the collection there; then it is as if the graph had no limit of the collection at all. -/
theorem compile_with_unusable_limit {ts us : List Triple} {t : Triple} (hlimit : t.predicate = Hydra.limit)
    (hcount : t.object.count? = none) (host : Host) (options : Options) (iri : Iri) (other : Graph) (query : String) :
    compile host options iri other (.ofList (ts ++ t :: us)) query =
        compile host options iri other (.ofList (ts ++ us)) query ∧
      (¬t.IsFirstLimitOf iri ts →
        compile host options iri (.ofList (ts ++ t :: us)) other query =
          compile host options iri (.ofList (ts ++ us)) other query) ∧
      (t.IsFirstLimitOf iri ts →
        compile host options iri (.ofList (ts ++ t :: us)) other query =
          compile host options iri (.ofList ((ts ++ us).filter fun u => !u.isLimitOf iri)) other query) := by
  have hwithout : (Graph.ofList (ts ++ t :: us)).without Hydra.limit = (Graph.ofList (ts ++ us)).without Hydra.limit :=
    Graph.ofList_without ts us hlimit
  refine ⟨?_, fun hfirst => ?_, fun hfirst => ?_⟩
  · exact compile_congr rfl hwithout rfl (Graph.classLimit_ofList hcount) host options query
  · exact compile_congr hwithout rfl (Graph.ownLimit_of_not_isFirstLimitOf hfirst) rfl host options query
  · have hothers := Graph.without_filter_isLimitOf iri (ts ++ us)
    have hnone : (Graph.ofList (ts ++ t :: us)).ownLimit iri = none := Graph.ownLimit_of_isFirstLimitOf hfirst hcount
    have hown := hnone.trans (Graph.ownLimit_filter_isLimitOf iri (ts ++ us)).symm
    exact compile_congr (hwithout.trans hothers.symm) rfl hown rfl host options query

/-! ### Books, page by page -/

open Library

/-- All books, which are one shelf and can be searched page by page. -/
def pagedBooks : List Triple :=
  ⟨.iri books, Rdf.type, .iri shelfClass⟩ ::
    holdsBooks books ++ searchedBy books "http://example.org/books{?page}" "page" Hydra.pageIndex

def limitOf (i : Iri) (limit : String) : Triple := ⟨.iri i, Hydra.limit, .literal (.plain limit)⟩

/-- What is compiled for all books, without filters and strategies. -/
def compileBooks (graph api : List Triple) : Noted (Option PageRequest × Option MemberQueries) :=
  compile (.ofRegistry [] []) {} books (.ofList graph) (.ofList api) ""

/-- The class says "many" and then five, the collection five and then "many", or "many" and then five. -/
theorem compile_books_with_unusable_limit :
    compileBooks pagedBooks [limitOf shelfClass "many", limitOf shelfClass "5"] =
        compileBooks pagedBooks [limitOf shelfClass "5"] ∧
      compileBooks (pagedBooks ++ [limitOf books "5"] ++ [limitOf books "many"]) [] =
        compileBooks (pagedBooks ++ [limitOf books "5"] ++ []) [] ∧
      compileBooks (pagedBooks ++ [limitOf books "many", limitOf books "5"]) [] = compileBooks pagedBooks [] := by
  have hcount (i : Iri) : (limitOf i "many").object.count? = none := by
    change (Term.literal (.plain "many")).count? = none
    decide +kernel
  have hcompile (ts us : List Triple) (i : Iri) (other : List Triple) :=
    @compile_with_unusable_limit ts us (limitOf i "many") rfl (hcount i) (.ofRegistry [] []) {} books
      (.ofList other) ""
  refine ⟨(hcompile [] [limitOf shelfClass "5"] shelfClass pagedBooks).1, ?_, ?_⟩
  · refine (hcompile (pagedBooks ++ [limitOf books "5"]) [] books []).2.1 fun h => ?_
    exact h.2 (limitOf books "5") (by simp) (by decide)
  · have hfirst : (limitOf books "many").IsFirstLimitOf books pagedBooks := ⟨by decide, by decide +kernel⟩
    have hbooks : (pagedBooks ++ [limitOf books "5"]).filter (fun u => !u.isLimitOf books) = pagedBooks := by
      decide +kernel
    have hhidden := (hcompile pagedBooks [limitOf books "5"] books []).2.2 hfirst
    rw [hbooks] at hhidden
    exact hhidden

/-- In front of the limit five, "many" leaves the collection with a page of ten, the size that is not declared. -/
theorem unusable_limit_hides_limit :
    let five := limitOf books "5"
    let many := limitOf books "many"
    many.object.count? = none ∧
      (compileBooks (pagedBooks ++ [five]) []).value.1 = some ⟨1, 5⟩ ∧
      (compileBooks (pagedBooks ++ many :: [five]) []).value.1 = some ⟨1, 10⟩ ∧
      (compileBooks (pagedBooks ++ many :: [five]) []).value.2 ≠ (compileBooks (pagedBooks ++ [five]) []).value.2 := by
  decide +kernel

end CollectionQuery
