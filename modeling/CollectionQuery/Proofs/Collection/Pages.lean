import CollectionQuery.Proofs.Collection.Assemble
import CollectionQuery.Proofs.Collection.View
import CollectionQuery.Proofs.Conversation
import CollectionQuery.Proofs.Search.Params
import Mathlib.Algebra.Order.Floor.Div

/-! The pages of a collection. Each page shows the part of the members that its slice selects; the slices of all pages
    lie end to end, and those behind the last page are empty. -/

namespace CollectionQuery
open Text Rendering

/-- The part of a list that a slice selects. -/
def Slice.part {α : Type} (slice : Option Slice) (as : List α) : List α :=
  match slice with
  | some s => (as.drop s.start).take s.length
  | none => as

theorem Slice.part_sublist {α : Type} (slice : Option Slice) (as : List α) : (part slice as).Sublist as := by
  cases slice with
  | none => exact List.Sublist.refl as
  | some s => exact (List.take_sublist _ _).trans (List.drop_sublist _ _)

namespace MemberQueries

/-- The endpoint answers the queries of a page as if `all` were the members, in the order of the solutions. -/
structure AnsweredBy (queries : MemberQueries) (endpoint : List Query → Query → Reply) (member : Variable)
    (all : List Iri) : Prop where
  members : ∀ sent, ∃ rows, endpoint sent queries.members = .ok (.solutions rows) ∧
    rows.map (·.get? member) = (Slice.part queries.members.selection.slice all).map fun i => some (.iri i)
  total : ∀ sent, ∃ row l, endpoint sent queries.total = .ok (.solutions [row]) ∧
    row.get? totalVariable = some (.literal l) ∧ l.lexical = toString all.length

/-- The endpoint that answers queries for members from a list and others with an empty graph. -/
def listing (member : Variable) (all : List Iri) : List Query → Query → Reply
  | _, .select s =>
    if s.distinct then .ok (.solutions ((Slice.part s.slice all).map fun i => ⟨[(member, .iri i)]⟩))
    else .ok (.solutions [⟨[(totalVariable, .literal (.ofNat all.length))]⟩])
  | _, _ => .ok (.graph [])

theorem answeredBy_listing (c : Collection) (params : SearchParams) (options : Options) (r : Resolver)
    (all : List Iri) :
    (queriesOf c params options r).AnsweredBy (listing options.member all) options.member all where
  members sent := by
    refine ⟨_, rfl, ?_⟩
    rw [List.map_map]
    refine List.map_congr_left fun i _ => ?_
    simp [Solution.get?]
  total sent := by
    have hget (l : Literal) : Solution.get? ⟨[(totalVariable, .literal l)]⟩ totalVariable = some (.literal l) := by
      simp [Solution.get?]
    exact ⟨_, .ofNat all.length, rfl, hget _, rfl⟩

end MemberQueries

/-! ### Slices -/

section Slices
variable {α : Type} {as : List α} {size : Nat}

/-- A page that begins behind the largest number begins behind all members. -/
theorem drop_mul (h : as.length ≤ Count.largest) (i size : Nat) : as.drop (Count.mul i size) = as.drop (i * size) := by
  rcases Nat.le_total (i * size) Count.largest with hle | hle
  · rw [Count.mul_of_le hle]
  · rw [Count.mul, Nat.min_eq_right hle, List.drop_eq_nil_of_le h, List.drop_eq_nil_of_le (h.trans hle)]

theorem length_le_mul_ceilDiv (h : 0 < size) : as.length ≤ max 1 (as.length ⌈/⌉ size) * size := by
  rw [Nat.mul_comm]
  exact (le_smul_ceilDiv h).trans (Nat.mul_le_mul_left size (Nat.le_max_right 1 _))

/-- Pages in front of the last one are full. -/
theorem length_take_drop (h : 0 < size) {k : Nat} (hpos : 0 < k) (hk : k < max 1 (as.length ⌈/⌉ size)) :
    ((as.drop ((k - 1) * size)).take size).length = size := by
  have hlt : k < as.length ⌈/⌉ size := by omega
  have hmul : size * k < as.length := not_le.mp fun hle => not_le.mpr hlt ((ceilDiv_le_iff_le_mul h).mpr hle)
  have hsucc : size * k = (k - 1) * size + size := by
    rw [Nat.mul_comm, ← Nat.succ_mul, Nat.succ_eq_add_one, Nat.sub_add_cancel hpos]
  rw [List.length_take, List.length_drop]
  omega

theorem take_drop_eq_nil (h : 0 < size) {k : Nat} (hk : max 1 (as.length ⌈/⌉ size) < k) :
    (as.drop ((k - 1) * size)).take size = [] := by
  have hle : as.length ≤ (k - 1) * size := (length_le_mul_ceilDiv h).trans (Nat.mul_le_mul_right size (by omega))
  rw [List.drop_eq_nil_of_le hle, List.take_nil]

/-- Pages lie end to end. -/
theorem flatMap_take_drop (as : List α) (size n : Nat) :
    ((List.range' 1 n).flatMap fun k => (as.drop ((k - 1) * size)).take size) = as.take (n * size) := by
  induction n with
  | zero => simp
  | succ n ih =>
    rw [List.range'_concat, List.flatMap_append, ih]
    simp [Nat.succ_mul, List.take_add]

end Slices

/-! ### Replies -/

namespace Collection

theorem membersOf_eq {member : Variable} {rows : List Solution} {is : List Iri} (h : is.Nodup)
    (hrows : rows.map (·.get? member) = is.map fun i => some (.iri i)) : membersOf member rows = is := by
  have hfilter : rows.filterMap (memberOf? member) = is := by
    clear h
    induction rows generalizing is with
    | nil => exact (List.map_eq_nil_iff.mp hrows.symm).symm
    | cons row rows ih =>
      obtain ⟨i, is, rfl, hrow, hrows⟩ := List.map_eq_cons_iff.mp hrows.symm
      have hmember : memberOf? member row = some i := by
        dsimp only at hrow
        rw [memberOf?, ← hrow]
      rw [List.filterMap_cons_some hmember, ih hrows.symm]
  rw [membersOf, hfilter, eraseDups_eq_self h]

theorem value_totalOf {row : Solution} {l : Literal} {n : Nat}
    (hrow : row.get? MemberQueries.totalVariable = some (.literal l)) (hl : l.lexical = toString n)
    (hn : n ≤ Count.largest) : (totalOf [row]).value = n := by
  have hread : Count.read? l.lexical.toList = some n := by rw [hl, Count.read?_toString hn]
  simp [totalOf, hrow, hread]

/-! ### Rendering -/

variable {c : Collection} {params : SearchParams} {options : Options} {r : Resolver}
  {endpoint : List Query → Query → Reply} {all : List Iri}

theorem ensures_members {queries : MemberQueries} {member : Variable} (h : queries.AnsweredBy endpoint member all)
    (hnodup : all.Nodup) :
    Ensures endpoint r (asking queries.members Reply.solutions) fun rows =>
      membersOf member rows = Slice.part queries.members.selection.slice all := by
  refine ensures_asking fun sent => ?_
  obtain ⟨rows, hreply, hrows⟩ := h.members sent
  exact ⟨rows, by rw [hreply]; rfl, membersOf_eq (hnodup.sublist (Slice.part_sublist _ _)) hrows⟩

theorem ensures_total {queries : MemberQueries} {member : Variable} (h : queries.AnsweredBy endpoint member all)
    (hlen : all.length ≤ Count.largest) :
    Ensures endpoint r (asking queries.total Reply.solutions) fun rows => (totalOf rows).value = all.length := by
  refine ensures_asking fun sent => ?_
  obtain ⟨row, l, hreply, hrow, hl⟩ := h.total sent
  exact ⟨[row], by rw [hreply]; rfl, value_totalOf hrow hl hlen⟩

theorem ensures_select (hc : c.members = none) (hv : c.HasValidAssertion) (hnodup : all.Nodup)
    (hlen : all.length ≤ Count.largest)
    (h : (MemberQueries.queriesOf c params options r).AnsweredBy endpoint options.member all) :
    Ensures endpoint r (c.select params options) fun x =>
      x = (Slice.part (MemberQueries.queriesOf c params options r).members.selection.slice all, all.length) := by
  unfold select
  rw [hc]
  refine (ensures_resolving (P := (· = some _)) (MemberQueries.mem_value_assemble.mpr ⟨hv, rfl⟩)).bind ?_
  rintro _ r' rfl
  refine (ensures_members h hnodup).bind fun rows r' hrows => ?_
  refine (ensures_total h hlen).bind fun total r' htotal => ?_
  refine (ensures_noted (P := (· = all.length)) htotal).bind ?_
  rintro _ r' rfl
  exact .pure (by rw [hrows])

/-- Loading succeeds if the endpoint answers every describing query with a graph. -/
theorem exists_outcome_load (h : ∀ sent s, ∃ ts, endpoint sent (.describe s) = .ok (.graph ts)) (member : Variable)
    (members : List Iri) (includes : List IncludeRule) (sent : List Query) :
    ∃ ts, (Conversation.holdAfter endpoint sent (Links.load member members includes)).outcome = .ok ts := by
  unfold Links.load
  rw [Conversation.holdAfter_bind, Conversation.outcome_ofNoted]
  generalize (Conversation.holdAfter endpoint sent _).queries = sent'
  have hquery : (Links.query member members includes).value = none ∨
      ∃ s, (Links.query member members includes).value = some (.describe s) := by
    unfold Links.query
    split
    · exact .inl rfl
    · refine .inr ?_
      rw [Noted.value_bind, Noted.value_pure]
      cases (Noted.keep (Links.branchOf member) includes).value with
      | nil => exact ⟨_, rfl⟩
      | cons b bs => exact ⟨_, rfl⟩
  rcases hquery with hq | ⟨s, hq⟩
  · rw [hq]
    exact ⟨[], rfl⟩
  · rw [hq]
    obtain ⟨ts, hts⟩ := h sent' s
    refine ⟨ts, ?_⟩
    have hput : (Conversation.holdAfter endpoint sent' (Reply.triples <$> Conversation.put (.describe s))).outcome =
        Reply.triples (endpoint sent' (.describe s)) := rfl
    rw [hput, hts]
    rfl

theorem ensures_following (h : ∀ sent s, ∃ ts, endpoint sent (.describe s) = .ok (.graph ts)) (member : Variable)
    (includes : List IncludeRule) (members : List Iri) :
    Ensures endpoint r (conversing ((DescribeStrategy.following member includes).describe members)) fun _ => True := by
  refine ensures_conversing fun sent => ?_
  obtain ⟨ts, hts⟩ := exists_outcome_load h member members includes sent
  refine ⟨ts, ?_, trivial⟩
  unfold DescribeStrategy.following
  rw [Conversation.holdAfter_bind, hts]
  rfl

theorem ensures_loadMembers (hs : c.strategies = []) (members : List Iri)
    (h : ∀ sent s, ∃ ts, endpoint sent (.describe s) = .ok (.graph ts)) :
    Ensures endpoint r (c.loadMembers options members) fun _ => True := by
  unfold loadMembers
  rw [hs]
  split
  · exact .pure trivial
  · refine (ensures_resolving (P := (· = .ok none)) rfl).bind ?_
    rintro _ r' rfl
    refine (ensures_outcome (P := (· = none)) rfl).bind ?_
    rintro _ r' rfl
    refine (ensures_following h options.member c.includes members).bind fun own r' _ => ?_
    split
    · exact .pure trivial
    · exact (ensures_following h options.member c.classIncludes members).bind fun _ _ _ => .pure trivial

theorem ensures_render_of_select {members : List Iri} {total : Nat}
    (h : Ensures endpoint r (c.select params options) (· = (members, total))) (hs : c.strategies = [])
    (hdescribe : ∀ sent s, ∃ ts, endpoint sent (.describe s) = .ok (.graph ts)) :
    Ensures endpoint r (c.render params options) fun page =>
      page.members = members ∧ page.total = total ∧ page.view = c.viewOf params options.pageSize total := by
  unfold render
  refine h.bind ?_
  rintro _ r' rfl
  refine (ensures_loadMembers hs _ hdescribe).bind fun data r' _ => ?_
  split
  · next t page ht hpage =>
    refine (ensures_noted (P := (· = c.viewOf params options.pageSize total)) (viewOf_of_some ht hpage).symm).bind ?_
    exact fun view r' hview => .pure ⟨rfl, rfl, hview⟩
  · next hnone =>
    refine Ensures.bind (.pure (P := (· = c.viewOf params options.pageSize total)) (viewOf_of_none hnone).symm) ?_
    exact fun view r' hview => .pure ⟨rfl, rfl, hview⟩

/-- The rendered page shows the part of the members that the slice of its query selects. -/
theorem ensures_render (hc : c.members = none) (hv : c.HasValidAssertion) (hs : c.strategies = [])
    (hnodup : all.Nodup) (hlen : all.length ≤ Count.largest)
    (h : (MemberQueries.queriesOf c params options r).AnsweredBy endpoint options.member all)
    (hdescribe : ∀ sent s, ∃ ts, endpoint sent (.describe s) = .ok (.graph ts)) :
    Ensures endpoint r (c.render params options) fun page =>
      page.members = Slice.part (MemberQueries.queriesOf c params options r).members.selection.slice all ∧
      page.total = all.length ∧
      ∀ v ∈ page.view, v.totalPages = View.pageCount all.length (PageRequest.sizeOf c params options.pageSize) := by
  refine (ensures_render_of_select (ensures_select hc hv hnodup hlen h) hs hdescribe).imp ?_
  rintro page ⟨hmembers, htotal, hview⟩
  exact ⟨hmembers, htotal, fun v hv => totalPages_of_mem_viewOf (hview ▸ hv)⟩

end Collection

/-! ### Pages -/

namespace Collection
variable {c : Collection} {t : SearchTemplate} {params : SearchParams} {options : Options} {r : Resolver}
  {endpoint : List Query → Query → Reply} {all : List Iri}

/-- Page `k` of a paged collection shows the members behind those of the pages in front of it. -/
theorem ensures_render_atPage (ht : c.search = some t) (hp : t.isPaged) (hc : c.members = none)
    (hv : c.HasValidAssertion) (hs : c.strategies = []) (hnodup : all.Nodup) (hlen : all.length ≤ Count.largest)
    {k : Nat} (hpos : 0 < k) (hk : k ≤ Count.largest)
    (h : ∀ queries ∈ (MemberQueries.assemble c (params.atPage k) options r).value.1,
      queries.AnsweredBy endpoint options.member all)
    (hdescribe : ∀ sent s, ∃ ts, endpoint sent (.describe s) = .ok (.graph ts)) :
    Ensures endpoint r (c.render (params.atPage k) options) fun page =>
      page.members = (all.drop ((k - 1) * PageRequest.sizeOf c params options.pageSize)).take
        (PageRequest.sizeOf c params options.pageSize) ∧
      page.total = all.length ∧
      ∀ v ∈ page.view, v.totalPages = max 1 (all.length ⌈/⌉ PageRequest.sizeOf c params options.pageSize) := by
  have hrequest := PageRequest.resolve_atPage ht hp params options.pageSize hpos hk
  have hslice : (MemberQueries.queriesOf c (params.atPage k) options r).members.selection.slice =
      some ⟨Count.mul (k - 1) (PageRequest.sizeOf c params options.pageSize),
        PageRequest.sizeOf c params options.pageSize⟩ := by
    unfold MemberQueries.queriesOf
    rw [hrequest]
    rfl
  have hq := h _ (MemberQueries.mem_value_assemble.mpr ⟨hv, rfl⟩)
  refine (ensures_render hc hv hs hnodup hlen hq hdescribe).imp fun page ⟨hmembers, htotal, hview⟩ => ⟨?_, htotal, ?_⟩
  · rw [hmembers, hslice, Slice.part, drop_mul hlen]
  · rw [PageRequest.sizeOf_atPage] at hview
    exact hview

/-- The pages of a collection show each member once and in order, and each page tells the number of all members. -/
theorem pages_partition_members (ht : c.search = some t) (hp : t.isPaged) (hc : c.members = none)
    (hv : c.HasValidAssertion) (hs : c.strategies = []) (params : SearchParams) (options : Options)
    (r : Nat → Resolver) (endpoint : List Query → Query → Reply) (hnodup : all.Nodup)
    (hlen : all.length ≤ Count.largest)
    (h : ∀ k, 0 < k → k ≤ Count.largest →
      ∀ queries ∈ (MemberQueries.assemble c (params.atPage k) options (r k)).value.1,
        queries.AnsweredBy endpoint options.member all)
    (hdescribe : ∀ sent s, ∃ ts, endpoint sent (.describe s) = .ok (.graph ts)) :
    let size := PageRequest.sizeOf c params options.pageSize
    let last := max 1 (all.length ⌈/⌉ size)
    ∃ page : Nat → Page,
      (∀ k, 0 < k → k ≤ Count.largest →
        (Conversation.hold endpoint ((c.render (params.atPage k) options).run (r k))).outcome.1 = .ok (page k) ∧
        (page k).total = all.length ∧ (∀ v ∈ (page k).view, v.totalPages = last) ∧
        (k < last → (page k).members.length = size) ∧ (last < k → (page k).members = [])) ∧
      (List.range' 1 last).flatMap (fun k => (page k).members) = all := by
  intro size last
  have hsize : 0 < size := PageRequest.one_le_sizeOf c params options.pageSize
  have hlast : last ≤ Count.largest := by
    have hle : all.length ⌈/⌉ size ≤ all.length := (ceilDiv_le_iff_le_mul hsize).mpr (Nat.le_mul_of_pos_left _ hsize)
    exact Nat.max_le.mpr ⟨by decide, hle.trans hlen⟩
  have hpage : ∀ k, 0 < k → k ≤ Count.largest → _ := fun k hpos hk =>
    ensures_render_atPage ht hp hc hv hs hnodup hlen hpos hk (h k hpos hk) hdescribe []
  -- One page for each index, so that the pages can be put together.
  have : Nonempty Page := ⟨⟨.empty, [], 0, none⟩⟩
  choose! page hrun hmembers htotal hview using hpage
  refine ⟨page, fun k hpos hk => ⟨hrun k hpos hk, htotal k hpos hk, hview k hpos hk, fun hlt => ?_, fun hgt => ?_⟩, ?_⟩
  · rw [hmembers k hpos hk, length_take_drop hsize hpos hlt]
  · rw [hmembers k hpos hk, take_drop_eq_nil hsize hgt]
  · calc (List.range' 1 last).flatMap (fun k => (page k).members)
        = (List.range' 1 last).flatMap (fun k => (all.drop ((k - 1) * size)).take size) := by
          refine List.flatMap_congr fun k hk => ?_
          obtain ⟨hpos, hlt⟩ := List.mem_range'_1.mp hk
          exact hmembers k hpos (by omega)
      _ = all.take (last * size) := flatMap_take_drop all size last
      _ = all := List.take_of_length_le (length_le_mul_ceilDiv hsize)

theorem shelf_pages_partition_members :
    let all := [Library.firstBook, Library.secondBook, Library.thirdBook]
    ∃ page : Nat → Page,
      (∀ k, 0 < k → k ≤ Count.largest →
        (Conversation.hold (MemberQueries.listing ⟨"member"⟩ all) ((shelf.render (SearchParams.empty.atPage k)
          { pageSize := 2 }).run { host := .ofRegistry [] [] })).outcome.1 = .ok (page k) ∧
        (page k).total = 3 ∧ (∀ v ∈ (page k).view, v.totalPages = 2) ∧
        (k < 2 → (page k).members.length = 2) ∧ (2 < k → (page k).members = [])) ∧
      (List.range' 1 2).flatMap (fun k => (page k).members) = all :=
  pages_partition_members (c := shelf) rfl rfl rfl hasValidAssertion_shelf rfl .empty { pageSize := 2 }
    (fun _ => { host := .ofRegistry [] [] }) (MemberQueries.listing ⟨"member"⟩ _) (by decide) (by decide)
    (fun k _ _ queries hq => (MemberQueries.mem_value_assemble.mp hq).2 ▸ MemberQueries.answeredBy_listing _ _ _ _ _)
    fun _ _ => ⟨[], rfl⟩

end Collection
end CollectionQuery
