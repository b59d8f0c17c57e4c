import CollectionQuery.Proofs.Collection.Trace
import CollectionQuery.Proofs.Collection.View
import CollectionQuery.Proofs.Library
import CollectionQuery.Proofs.Rdf.Graph

/-! The graph of a rendered page. It adds the members, their data, the links and the number of all members to the graph
    of the collection, which it keeps whole. About members and their number it says what the fields of the page say, and
    what the collection declares itself. -/

namespace CollectionQuery

/-! ### Listed members -/

/-- The IRIs among the declared members, in the order of the graph. -/
def Graph.listed (g : Graph) (collection : Iri) : List Iri :=
  (g.objects (.iri collection) Hydra.member).filterMap fun
    | .iri m => some m
    | _ => none

namespace Graph
variable {g : Graph} {collection m : Iri}

theorem mem_listed : m ∈ g.listed collection ↔ .iri m ∈ g.objects (.iri collection) Hydra.member := by
  rw [listed, List.mem_filterMap]
  constructor
  · rintro ⟨o, ho, hm⟩
    cases o with
    | iri i =>
      cases hm
      exact ho
    | blank | literal => cases hm
  · exact fun hm => ⟨_, hm, rfl⟩

theorem nodup_listed (g : Graph) (collection : Iri) : (g.listed collection).Nodup := by
  refine List.Nodup.filterMap (fun o o' i hi hi' => ?_) (g.nodup_objects _ _)
  cases o with
  | iri j =>
    cases o' with
    | iri j' =>
      cases hi
      cases hi'
      rfl
    | blank | literal => cases hi'
  | blank | literal => cases hi

end Graph

theorem Collection.value_readMembers (iri : Iri) (graph : Graph) : (readMembers iri graph).value =
    if graph.objects (.iri iri) Hydra.member = [] then none else some (graph.listed iri) := by
  unfold readMembers
  split
  · next hnil =>
    rw [if_pos hnil]
    rfl
  · next hne =>
    rw [if_neg hne, Noted.value_bind, Noted.value_pure, Noted.value_keep, Graph.listed]
    refine congrArg some (List.filterMap_congr fun o _ => ?_)
    cases o <;> rfl

/-! ### Links -/

theorem View.predicate_of_mem_triples {v : View} {collection : Iri} {x : Triple} (h : x ∈ v.triples collection) :
    x.predicate ≠ Hydra.member ∧ x.predicate ≠ Hydra.totalItems := by
  have hlinks : x.predicate ∈ [Hydra.view, Rdf.type, Hydra.first, Hydra.last, Hydra.previous, Hydra.next] := by
    unfold triples at h
    simp only [List.mem_append, List.mem_cons, List.not_mem_nil, or_false, Option.mem_toList,
      Option.map_eq_some_iff] at h
    rcases h with ((rfl | rfl | rfl | rfl) | ⟨i, -, rfl⟩) | ⟨i, -, rfl⟩ <;> simp
  have hall : ∀ p ∈ [Hydra.view, Rdf.type, Hydra.first, Hydra.last, Hydra.previous, Hydra.next],
    p ≠ Hydra.member ∧ p ≠ Hydra.totalItems := by decide
  exact hall _ hlinks

namespace Collection
open Rendering Conversation
variable {c : Collection} {params : SearchParams} {options : Options} {r : Resolver}
  {endpoint : List Query → Query → Reply} {page : Page} {data : List Triple}

/-! ### Sources of the graph -/

/-- The rendering finds the members of the page and their number, and then loads the data. -/
def Loads (c : Collection) (params : SearchParams) (options : Options) (endpoint : List Query → Query → Reply)
    (r : Resolver) (page : Page) (data : List Triple) : Prop :=
  ∃ sent r', after endpoint [] r (c.select params options) = ⟨.ok (page.members, page.total), r', sent⟩ ∧
    (after endpoint sent r' (c.loadMembers options page.members)).outcome = .ok data

/-- Behind loading nothing fails, and the page is put together. -/
theorem exists_loads_eq (h : (after endpoint [] r (c.render params options)).outcome = .ok page) :
    ∃ data, c.Loads params options endpoint r page data ∧
      page.graph = c.pageGraph page.members page.total page.view data ∧
      page.view = c.viewOf params options.pageSize page.total := by
  cases hselect : after endpoint [] r (c.select params options) with
  | mk selected r' sent =>
    cases selected with
    | error e =>
      rw [after_render_of_select_error hselect] at h
      cases h
    | ok found =>
      obtain ⟨members, total⟩ := found
      have hrender : after endpoint [] r (c.render params options) = _ := after_bind_ok hselect
      cases hload : after endpoint sent r' (c.loadMembers options members) with
      | mk outcome r'' queries =>
        cases outcome with
        | error e =>
          rw [hrender.trans (after_bind_error hload)] at h
          cases h
        | ok data =>
          rw [hrender.trans (after_bind_ok hload)] at h
          dsimp only at h
          split at h
          · next t p ht hp =>
            rw [after_bind_ok (after_noted _)] at h
            cases h
            exact ⟨data, ⟨sent, r', hselect, congrArg Result.outcome hload⟩, rfl, (viewOf_of_some ht hp).symm⟩
          · next hnone =>
            rw [after_bind_ok (after_pure _)] at h
            cases h
            exact ⟨data, ⟨sent, r', hselect, congrArg Result.outcome hload⟩, rfl, (viewOf_of_none hnone).symm⟩

theorem exists_loads (h : (after endpoint [] r (c.render params options)).outcome = .ok page) :
    ∃ data, c.Loads params options endpoint r page data ∧
      page.graph = c.pageGraph page.members page.total page.view data := by
  obtain ⟨data, hloads, hgraph, -⟩ := exists_loads_eq h
  exact ⟨data, hloads, hgraph⟩

theorem Loads.findsBy (h : c.Loads params options endpoint r page data) :
    ∃ selects, c.FindsBy options endpoint selects page.members page.total := by
  obtain ⟨sent, r', hselect, -⟩ := h
  obtain ⟨_, _, -, hselected⟩ := after_select c params options r endpoint
  rcases hselected with ⟨_, e, -, hfails⟩ | ⟨-, members, total, hfinds, hfound⟩
  · cases hselect.symm.trans hfails
  · cases hselect.symm.trans hfound
    exact ⟨_, hfinds⟩

theorem Loads.nodup (h : c.Loads params options endpoint r page data) : page.members.Nodup :=
  h.findsBy.elim fun _ hfinds => hfinds.nodup

theorem Loads.mem_iff (h : c.Loads params options endpoint r page data) {listed : List Iri}
    (hc : c.members = some listed) (m : Iri) : m ∈ page.members ↔ m ∈ listed := by
  obtain ⟨_, hfinds⟩ := h.findsBy
  rw [(hfinds.listed listed hc).1, List.mem_eraseDups]

theorem mem_pageGraph {members : List Iri} {total : Nat} {view : Option View} {x : Triple} :
    x ∈ (c.pageGraph members total view data).toList ↔ x ∈ c.graph.toList ∨
      (c.members = none ∧ ∃ m ∈ members, x = ⟨.iri c.iri, Hydra.member, .iri m⟩) ∨ x ∈ data ∨
      (∃ v ∈ view, x ∈ v.triples c.iri) ∨ x = View.totalItems c.iri total := by
  have hlisted : x ∈ (if c.members.isNone then members.map fun m => ⟨.iri c.iri, Hydra.member, .iri m⟩ else []) ↔
      c.members = none ∧ ∃ m ∈ members, x = ⟨.iri c.iri, Hydra.member, .iri m⟩ := by
    cases c.members with
    | none => simp [eq_comm]
    | some listed => simp
  unfold pageGraph
  simp only [Graph.mem_insertAll, List.mem_append, hlisted, List.mem_singleton]
  cases view with
  | none => simp [or_assoc]
  | some v => simp [or_assoc]

/-! ### Declared members -/

theorem mem_of_value_readMembers {iri : Iri} {graph : Graph} {listed : List Iri}
    (h : (readMembers iri graph).value = some listed) (m : Iri) :
    m ∈ listed ↔ .iri m ∈ graph.objects (.iri iri) Hydra.member := by
  rw [value_readMembers] at h
  split at h
  · cases h
  · cases h
    exact Graph.mem_listed

theorem objects_eq_nil_of_value_readMembers {iri : Iri} {graph : Graph} (h : (readMembers iri graph).value = none) :
    graph.objects (.iri iri) Hydra.member = [] := by
  rw [value_readMembers] at h
  split at h
  · assumption
  · cases h

end Collection

/-! ### What a graph says -/

/-- The graph of the page is made of the graph of the collection and the given data, apart from what its fields say. -/
def Page.IsMergedFrom (page : Page) (iri : Iri) (graph : Graph) (data : List Triple) : Prop :=
  ∀ x, x ∈ page.graph.toList ↔ x ∈ graph.toList ∨ (∃ m ∈ page.members, x = ⟨.iri iri, Hydra.member, .iri m⟩) ∨
    x ∈ data ∨ (∃ v ∈ page.view, x ∈ v.triples iri) ∨ x = View.totalItems iri page.total

section Fields
open Collection
variable {params : SearchParams} {options : Options} {r : Resolver} {endpoint : List Query → Query → Reply}
  {page : Page} {data : List Triple} {iri : Iri} {graph api : Graph}

theorem Collection.Loads.isMergedFrom
    (h : (Collection.read iri graph api).value.Loads params options endpoint r page data)
    (hgraph : page.graph = (Collection.read iri graph api).value.pageGraph page.members page.total page.view data) :
    page.IsMergedFrom iri graph data := by
  intro x
  rw [hgraph, mem_pageGraph]
  cases hc : (Collection.read iri graph api).value.members with
  | none => exact or_congr_right (or_congr_left (and_iff_right rfl))
  | some listed =>
    constructor
    · rintro (hx | ⟨hnone, -⟩ | hx)
      · exact .inl hx
      · cases hnone
      · exact .inr (.inr hx)
    -- Members that are not inserted are in the graph of the collection already.
    · rintro (hx | ⟨m, hm, rfl⟩ | hx)
      · exact .inl hx
      · exact .inl (Graph.mem_objects.mp ((mem_of_value_readMembers hc m).mp ((h.mem_iff hc m).mp hm)))
      · exact .inr (.inr hx)

/-- Only the graph of the collection and the fields of the page say which members there are and how many. -/
theorem Page.IsMergedFrom.mem_objects_iff (h : page.IsMergedFrom iri graph data)
    (hdata : ∀ x ∈ data, x.subject ≠ .iri iri) {p : Iri} (hp : p = Hydra.member ∨ p = Hydra.totalItems) (o : Term) :
    o ∈ page.graph.objects (.iri iri) p ↔ o ∈ graph.objects (.iri iri) p ∨
      (p = Hydra.member ∧ ∃ m ∈ page.members, o = .iri m) ∨
      (p = Hydra.totalItems ∧ o = .literal (.ofNat page.total)) := by
  have hview : ¬∃ v ∈ page.view, ⟨.iri iri, p, o⟩ ∈ v.triples iri := by
    rintro ⟨v, -, hv⟩
    obtain ⟨hmember, htotal⟩ := View.predicate_of_mem_triples hv
    exact hp.elim hmember htotal
  have hloaded : ⟨.iri iri, p, o⟩ ∉ data := fun hx => hdata _ hx rfl
  rw [Graph.mem_objects, Graph.mem_objects, h]
  constructor
  · rintro (hx | ⟨m, hm, hx⟩ | hx | hx | hx)
    · exact .inl hx
    · obtain ⟨-, rfl, rfl⟩ := Triple.mk.inj hx
      exact .inr (.inl ⟨rfl, m, hm, rfl⟩)
    · exact absurd hx hloaded
    · exact absurd hx hview
    · obtain ⟨-, rfl, rfl⟩ := Triple.mk.inj hx
      exact .inr (.inr ⟨rfl, rfl⟩)
  · rintro (hx | ⟨rfl, m, hm, rfl⟩ | ⟨rfl, rfl⟩)
    · exact .inl hx
    · exact .inr (.inl ⟨m, hm, rfl⟩)
    · exact .inr (.inr (.inr (.inr rfl)))

theorem Page.IsMergedFrom.mem_members_iff (h : page.IsMergedFrom iri graph data)
    (hdata : ∀ x ∈ data, x.subject ≠ .iri iri) (o : Term) : o ∈ page.graph.objects (.iri iri) Hydra.member ↔
      (∃ m ∈ page.members, o = .iri m) ∨ o ∈ graph.objects (.iri iri) Hydra.member := by
  have hne : Hydra.member ≠ Hydra.totalItems := by decide
  rw [h.mem_objects_iff hdata (.inl rfl)]
  simp [hne, or_comm]

theorem Page.IsMergedFrom.mem_totals_iff (h : page.IsMergedFrom iri graph data)
    (hdata : ∀ x ∈ data, x.subject ≠ .iri iri) (o : Term) : o ∈ page.graph.objects (.iri iri) Hydra.totalItems ↔
      o = .literal (.ofNat page.total) ∨ o ∈ graph.objects (.iri iri) Hydra.totalItems := by
  have hne : Hydra.totalItems ≠ Hydra.member := by decide
  rw [h.mem_objects_iff hdata (.inr rfl)]
  simp [hne, or_comm]

theorem Collection.Loads.mem_members
    (h : (Collection.read iri graph api).value.Loads params options endpoint r page data) {m : Iri}
    (hm : .iri m ∈ graph.objects (.iri iri) Hydra.member) : m ∈ page.members := by
  cases hc : (Collection.read iri graph api).value.members with
  | none =>
    rw [objects_eq_nil_of_value_readMembers hc] at hm
    cases hm
  | some listed => exact (h.mem_iff hc m).mpr ((mem_of_value_readMembers hc m).mpr hm)

end Fields

/-! ### Rendered pages -/

namespace Snapshot
open Rendering Conversation

/-- The members of a rendered page are the IRIs that its graph calls members, and its number of all members stands in
    the graph beside what the graph of the collection says. Everything in the graph comes from the graph of the
    collection, the members, their data, the links or the number. -/
theorem graph_agrees_with_fields (s : Snapshot) (options : Options) (iri : Iri) (graph : Graph) (query : String)
    (endpoint : List Query → Query → Reply) {page : Page}
    (h : (hold endpoint (s.render options iri graph query)).outcome.1 = .ok page) :
    let c := (Collection.read iri graph s.graph).value
    let total : Term := .literal (.ofNat page.total)
    ∃ data, c.Loads (c.searchParams query) options endpoint s.resolver page data ∧
      page.IsMergedFrom iri graph data ∧ page.members.Nodup ∧
      ((∀ x ∈ data, x.subject ≠ .iri iri) →
        (∀ o, o ∈ page.graph.objects (.iri iri) Hydra.member ↔
          (∃ m ∈ page.members, o = .iri m) ∨ (o ∈ graph.objects (.iri iri) Hydra.member ∧ ∀ m, o ≠ .iri m)) ∧
        (∀ o, o ∈ page.graph.objects (.iri iri) Hydra.totalItems ↔
          o = total ∨ o ∈ graph.objects (.iri iri) Hydra.totalItems) ∧
        ((∀ o ∈ graph.objects (.iri iri) Hydra.totalItems, o = total) →
          page.graph.objects (.iri iri) Hydra.totalItems = [total])) := by
  intro c total
  rw [hold, (holdAfter_render ..).1, (holdAfter_run ..).1] at h
  obtain ⟨data, hloads, hgraph⟩ := Collection.exists_loads h
  have hmerged := hloads.isMergedFrom hgraph
  refine ⟨data, hloads, hmerged, hloads.nodup, fun hdata => ⟨fun o => ?_, hmerged.mem_totals_iff hdata, ?_⟩⟩
  · rw [hmerged.mem_members_iff hdata]
    refine or_congr_right' fun ho => ⟨fun hdeclared => ⟨hdeclared, ?_⟩, And.left⟩
    rintro m rfl
    exact ho ⟨m, hloads.mem_members hdeclared, rfl⟩
  · intro htotal
    have hiff (o : Term) : o ∈ page.graph.objects (.iri iri) Hydra.totalItems ↔ o ∈ [total] := by
      rw [hmerged.mem_totals_iff hdata, List.mem_singleton]
      exact ⟨fun ho => ho.elim id (htotal o), .inl⟩
    have hnodup := page.graph.nodup_objects (.iri iri) Hydra.totalItems
    exact List.perm_singleton.mp ((List.perm_ext_iff_of_nodup hnodup (List.nodup_singleton total)).mpr hiff)

open Library

/-- An API that declares nothing, of a host that knows nothing. -/
def bare : Snapshot := (load .empty (.ofRegistry [] [])).value

/-- The endpoint that describes the first book by its title. -/
def titled : List Query → Query → Reply :=
  fun _ _ => .ok (.graph [⟨.iri firstBook, title, .literal (.plain "Rocannon")⟩])

theorem exists_ok_of_map_toOption {ε α β : Type} {x : Except ε α} {f : α → β} {b : β} (h : x.toOption.map f = some b) :
    ∃ a, x = .ok a ∧ f a = b := by
  cases x with
  | error e => cases h
  | ok a => exact ⟨a, rfl, Option.some.inj h⟩

theorem shelf_graph_agrees_with_fields :
    let graph := Graph.ofList
      [⟨.iri shelf, Hydra.member, .iri firstBook⟩, ⟨.iri shelf, Hydra.member, .iri secondBook⟩]
    ∃ page, (hold titled (bare.render {} shelf graph "")).outcome.1 = .ok page ∧
      page.members = [firstBook, secondBook] ∧
      (∀ o, o ∈ page.graph.objects (.iri shelf) Hydra.member ↔ ∃ m ∈ page.members, o = .iri m) ∧
      page.graph.objects (.iri shelf) Hydra.totalItems = [.literal (.ofNat 2)] := by
  intro graph
  let c := (Collection.read shelf graph bare.graph).value
  have hlisted : c.members = some [firstBook, secondBook] := by decide +kernel
  have hfields : (hold titled (bare.render {} shelf graph "")).outcome.1.toOption.map
    (fun page => (page.members, page.total)) = some ([firstBook, secondBook], 2) := by decide +kernel
  obtain ⟨page, hpage, hfields⟩ := exists_ok_of_map_toOption hfields
  obtain ⟨hmembers, htotal⟩ := Prod.mk.inj hfields
  obtain ⟨data, ⟨sent, r', hselect, hload⟩, -, -, hagrees⟩ :=
    graph_agrees_with_fields bare {} shelf graph "" titled hpage
  have hdata : ∀ x ∈ data, x.subject ≠ .iri shelf := by
    obtain ⟨-, rfl, rfl⟩ := Result.mk.inj (hselect.symm.trans (Collection.after_select_of_listed hlisted))
    rw [hmembers] at hload
    have hsubjects : (after titled [] bare.resolver (c.loadMembers {} [firstBook, secondBook])).outcome.toOption.map
      (fun ts => ts.all fun x => x.subject ≠ .iri shelf) = some true := by decide +kernel
    obtain ⟨ts, hts, hall⟩ := exists_ok_of_map_toOption hsubjects
    cases hload.symm.trans hts
    simpa using hall
  obtain ⟨hobjects, -, htotals⟩ := hagrees hdata
  have hdeclared : graph.objects (.iri shelf) Hydra.member = [.iri firstBook, .iri secondBook] := by decide +kernel
  refine ⟨page, hpage, hmembers, fun o => ?_, ?_⟩
  · rw [hobjects, hdeclared]
    refine or_iff_left fun ⟨ho, hne⟩ => ?_
    rcases List.mem_pair.mp ho with rfl | rfl
    · exact hne _ rfl
    · exact hne _ rfl
  · have hnone : graph.objects (.iri shelf) Hydra.totalItems = [] := by decide +kernel
    rw [htotals fun o ho => absurd (hnone ▸ ho) List.not_mem_nil, htotal]

/-- What a collection declares about its members and their number stays in the graph as it is. -/
theorem declared_statements_stay :
    let note : Term := .literal (.plain "not a member")
    let graph := Graph.ofList
      [⟨.iri shelf, Hydra.member, note⟩, ⟨.iri shelf, Hydra.totalItems, .literal (.ofNat 7)⟩]
    let c := (Collection.read shelf graph bare.graph).value
    ∃ page, (hold titled (bare.render {} shelf graph "")).outcome.1 = .ok page ∧
      c.Loads (c.searchParams "") {} titled bare.resolver page [] ∧ page.members = [] ∧ page.total = 0 ∧
      page.graph.objects (.iri shelf) Hydra.member = [note] ∧
      page.graph.objects (.iri shelf) Hydra.totalItems = [.literal (.ofNat 7), .literal (.ofNat 0)] := by
  intro note graph c
  have hlisted : c.members = some [] := by decide +kernel
  have hfields : (hold titled (bare.render {} shelf graph "")).outcome.1.toOption.map
      (fun page => (page.members, page.total, page.graph.objects (.iri shelf) Hydra.member,
        page.graph.objects (.iri shelf) Hydra.totalItems)) =
      some ([], 0, [note], [.literal (.ofNat 7), .literal (.ofNat 0)]) := by decide +kernel
  obtain ⟨page, hpage, hfields⟩ := exists_ok_of_map_toOption hfields
  simp only [Prod.mk.injEq] at hfields
  obtain ⟨hmembers, htotal, hstatements⟩ := hfields
  refine ⟨page, hpage, ⟨[], bare.resolver, ?_, ?_⟩, hmembers, htotal, hstatements⟩
  · rw [hmembers, htotal]
    exact Collection.after_select_of_listed hlisted
  · rw [hmembers]
    rfl

end Snapshot
end CollectionQuery
