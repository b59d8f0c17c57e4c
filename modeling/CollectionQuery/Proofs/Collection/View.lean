import CollectionQuery.Collection.View
import CollectionQuery.Proofs.Search.Params

/-! The page that parameters ask for, and what a view tells about it, if there is one. -/

namespace CollectionQuery
open Text

/-- The parameters that ask for a page. -/
def SearchParams.atPage (params : SearchParams) (page : Nat) : SearchParams :=
  params.replace Hydra.pageIndex [.literal (.ofNat page)]

namespace PageRequest

theorem one_le_sizeOf (c : Collection) (params : SearchParams) (n : Nat) : 1 ≤ sizeOf c params n := Nat.le_max_left 1 _

theorem sizeOf_atPage (c : Collection) (params : SearchParams) (page n : Nat) :
    sizeOf c (params.atPage page) n = sizeOf c params n := by
  unfold sizeOf SearchParams.count? SearchParams.atPage
  rw [SearchParams.values_replace_of_ne params (by decide)]

theorem indexOf_of_values_eq_nil {params : SearchParams} (h : params.values Hydra.pageIndex = []) :
    indexOf params = 1 := by
  unfold indexOf SearchParams.count?
  rw [h]
  rfl

theorem indexOf_of_values_eq_singleton {params : SearchParams} {page : Nat} (hpos : 0 < page)
    (hle : page ≤ Count.largest) (h : params.values Hydra.pageIndex = [.literal (.ofNat page)]) :
    indexOf params = page := by
  have hcount : (Term.literal (.ofNat page)).count? = some page := Term.count?_literal rfl hle
  unfold indexOf SearchParams.count?
  rw [h]
  simp [hcount, Option.filter, hpos]

theorem indexOf_atPage (params : SearchParams) {page : Nat} (hpos : 0 < page) (hle : page ≤ Count.largest) :
    indexOf (params.atPage page) = page :=
  indexOf_of_values_eq_singleton hpos hle (params.values_replace_singleton _ _)

theorem resolve_of_isPaged {c : Collection} {t : SearchTemplate} (hc : c.search = some t) (ht : t.isPaged)
    (params : SearchParams) (n : Nat) : resolve c params n = some ⟨indexOf params, sizeOf c params n⟩ := by
  rw [resolve, hc]
  exact if_pos ht

theorem resolve_atPage {c : Collection} {t : SearchTemplate} (hc : c.search = some t) (ht : t.isPaged)
    (params : SearchParams) (n : Nat) {page : Nat} (hpos : 0 < page) (hle : page ≤ Count.largest) :
    resolve c (params.atPage page) n = some ⟨page, sizeOf c params n⟩ := by
  rw [resolve_of_isPaged hc ht, indexOf_atPage params hpos hle, sizeOf_atPage]

end PageRequest

theorem Noted.value_run_bind_eq_some {α β : Type} {x : OptionT Noted α} {f : α → OptionT Noted β} {b : β} :
    (x >>= f).run.value = some b ↔ ∃ a, x.run.value = some a ∧ (f a).run.value = some b := by
  have h : (x >>= f).run.value = x.run.value.bind fun a => (f a).run.value := by
    change (match x.run.value with
      | some a => (f a).run
      | none => pure none : Noted (Option β)).value = _
    cases x.run.value <;> rfl
  rw [h, Option.bind_eq_some_iff]

namespace View

theorem values_paramsFor_pageIndex (params : SearchParams) (page : Nat) :
    (paramsFor params page).values Hydra.pageIndex = if 1 < page then [.literal (.ofNat page)] else [] := by
  unfold paramsFor
  split
  · exact params.values_replace_singleton _ _
  · exact params.values_replace_nil _

theorem values_paramsFor_of_ne (params : SearchParams) (page : Nat) {p : Iri} (h : p ≠ Hydra.pageIndex) :
    (paramsFor params page).values p = params.values p :=
  params.values_replace_of_ne h _

theorem indexOf_eq_of_values {params params' : SearchParams} {page : Nat} (hpos : 0 < page) (hle : page ≤ Count.largest)
    (h : params'.values Hydra.pageIndex = (paramsFor params page).values Hydra.pageIndex) :
    PageRequest.indexOf params' = page := by
  rw [values_paramsFor_pageIndex] at h
  split at h
  · exact PageRequest.indexOf_of_values_eq_singleton hpos hle h
  · rw [PageRequest.indexOf_of_values_eq_nil h]
    omega

/-! ### Links of a view -/

section Links
variable {t : SearchTemplate} {params params' : SearchParams} {total size : Nat} {base : Iri}

/-- The IRI that the link to a page gives, if it gives one. -/
def target? (t : SearchTemplate) (params : SearchParams) (base : Iri) (page : Nat) : Option Iri :=
  base.resolve? (t.expand (paramsFor params page))

/-- The view of page `k` of `n` pages, made of the links to it and to other pages. -/
structure IsMadeOf (v : View) (target : Nat → Option Iri) (k n : Nat) : Prop where
  page : v.page = k
  totalPages : v.totalPages = n
  id : target k = some v.id
  first : target 1 = some v.first
  last : target n = some v.last
  previous : if 1 < k then ∃ i, target (k - 1) = some i ∧ v.previous = some i else v.previous = none
  next : if k < n then ∃ i, target (k + 1) = some i ∧ v.next = some i else v.next = none

theorem value_link (page : Nat) : (link t params base page).run.value = target? t params base page := by
  unfold link target?
  dsimp only
  cases base.resolve? (t.expand (paramsFor params page)) <;> rfl

/-- The links to the pages before and behind are made on a condition. -/
theorem value_run_ite_bind_eq_some {α β : Type} {P : Prop} [Decidable P] {x : OptionT Noted α}
    {f : Option α → OptionT Noted β} {b : β} :
    (if P then (some <$> x) >>= f else pure none >>= f).run.value = some b ↔
      ∃ o, (if P then ∃ a, x.run.value = some a ∧ o = some a else o = none) ∧ (f o).run.value = some b := by
  have hpure {γ : Type} (c o : γ) : (pure c : OptionT Noted γ).run.value = some o ↔ o = c :=
    ⟨fun h => (Option.some.inj h).symm, fun h => congrArg some h.symm⟩
  split
  · simp only [map_eq_pure_bind, Noted.value_run_bind_eq_some, hpure]
  · simp only [Noted.value_run_bind_eq_some, hpure]

theorem mem_links_iff {v : View} : v ∈ (links t params total size base).run.value ↔
    v.IsMadeOf (target? t params base) (PageRequest.indexOf params) (pageCount total size) := by
  rw [links]
  simp only [Option.mem_def, Noted.value_run_bind_eq_some, value_run_ite_bind_eq_some, value_link]
  constructor
  · rintro ⟨id, hid, first, hfirst, previous, hprevious, next, hnext, last, hlast, h⟩
    cases h
    exact ⟨rfl, rfl, hid, hfirst, hlast, hprevious, hnext⟩
  · intro h
    refine ⟨v.id, h.id, v.first, h.first, v.previous, h.previous, v.next, h.next, v.last, h.last, ?_⟩
    rw [← h.page, ← h.totalPages]
    rfl

/-- There is a view exactly if all its links give IRIs. -/
theorem mem_compute_iff {v : View} : v ∈ (compute t params total size base).value ↔
    t.isPaged ∧ (Iri.parse? base.text).isSome ∧
      v.IsMadeOf (target? t params base) (PageRequest.indexOf params) (pageCount total (max 1 size)) := by
  rw [← mem_links_iff]
  unfold compute
  by_cases hpaged : t.isPaged
  · by_cases hbase : (Iri.parse? base.text).isSome
    · simp [hpaged, hbase]
    · simp [hpaged, hbase]
  · simp [hpaged]

/-- The number of pages that a view tells is that of the total. -/
theorem totalPages_of_mem_compute {v : View} (h : v ∈ (compute t params total size base).value) :
    v.totalPages = pageCount total (max 1 size) :=
  (mem_compute_iff.mp h).2.2.totalPages

end Links

end View

/-- The view of the page of a collection that has `total` members, none if the collection is not paged. -/
def Collection.viewOf (c : Collection) (params : SearchParams) (defaultSize total : Nat) : Option View :=
  match c.search, PageRequest.resolve c params defaultSize with
  | some t, some page => (View.compute t params total page.size c.iri).value
  | _, _ => none

namespace Collection
variable {c : Collection} {params : SearchParams} {n total : Nat}

theorem viewOf_of_some {t : SearchTemplate} {page : PageRequest} (ht : c.search = some t)
    (hpage : PageRequest.resolve c params n = some page) :
    c.viewOf params n total = (View.compute t params total page.size c.iri).value := by
  rw [viewOf, ht, hpage]

theorem viewOf_of_none (h : ∀ t page, c.search = some t → PageRequest.resolve c params n = some page → False) :
    c.viewOf params n total = none := by
  unfold viewOf
  split
  · next t page ht hpage => exact (h t page ht hpage).elim
  · rfl

theorem totalPages_of_mem_viewOf {v : View} (h : v ∈ c.viewOf params n total) :
    v.totalPages = View.pageCount total (PageRequest.sizeOf c params n) := by
  unfold viewOf at h
  split at h
  · next t page _ hpage =>
    obtain rfl : page = ⟨PageRequest.indexOf params, PageRequest.sizeOf c params n⟩ := by
      unfold PageRequest.resolve at hpage
      split at hpage
      · exact (Option.some.inj hpage).symm
      · cases hpage
    exact (View.totalPages_of_mem_compute h).trans (by rw [Nat.max_eq_right (PageRequest.one_le_sizeOf _ _ _)])
  · cases h

end Collection
end CollectionQuery
