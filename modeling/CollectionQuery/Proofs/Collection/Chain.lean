import CollectionQuery.Proofs.Collection.Assemble
import CollectionQuery.Proofs.Collection.View
import Mathlib.Algebra.Order.Floor.Div

/-! The chain of the pages of a collection. All views of a search are made of one row of links, which the page asked for
    does not change: stripping the index of a page and adding another one gives the same parameters, however the index
    was bound before. -/

namespace CollectionQuery
open Text

/-- A link shows no more of the parameters than the values of each property. -/
theorem SearchTemplate.expand_congr (t : SearchTemplate) {params params' : SearchParams}
    (h : ∀ p, params'.values p = params.values p) : t.expand params' = t.expand params := by
  have hvalues : t.valuesOf params' = t.valuesOf params := by
    funext name
    unfold SearchTemplate.valuesOf
    split
    · rw [h]
    · rfl
  unfold SearchTemplate.expand
  rw [hvalues]

namespace View

/-! ### Neighbours -/

namespace IsMadeOf
variable {target : Nat → Option Iri} {v w : View} {k k' n : Nat}

theorem next_eq (hv : v.IsMadeOf target k n) (hw : w.IsMadeOf target (k + 1) n) (hlt : k < n) : v.next = some w.id := by
  have hnext := hv.next
  rw [if_pos hlt] at hnext
  obtain ⟨i, hi, hnext⟩ := hnext
  exact hnext.trans (hi.symm.trans hw.id)

theorem next_eq_none (hv : v.IsMadeOf target k n) (hle : n ≤ k) : v.next = none := by
  have hnext := hv.next
  rwa [if_neg (Nat.not_lt.mpr hle)] at hnext

theorem previous_eq (hv : v.IsMadeOf target k n) (hw : w.IsMadeOf target (k + 1) n) (hpos : 0 < k) :
    w.previous = some v.id := by
  have hprevious := hw.previous
  rw [if_pos (Nat.succ_lt_succ hpos), Nat.add_sub_cancel] at hprevious
  obtain ⟨i, hi, hprevious⟩ := hprevious
  exact hprevious.trans (hi.symm.trans hv.id)

theorem previous_eq_none (hv : v.IsMadeOf target 1 n) : v.previous = none := by
  have hprevious := hv.previous
  rwa [if_neg (Nat.lt_irrefl 1)] at hprevious

theorem first_eq (hv : v.IsMadeOf target k n) (hw : w.IsMadeOf target 1 n) : v.first = w.id :=
  Option.some.inj (hv.first.symm.trans hw.id)

theorem last_eq (hv : v.IsMadeOf target k n) (hw : w.IsMadeOf target n n) : v.last = w.id :=
  Option.some.inj (hv.last.symm.trans hw.id)

theorem ends_eq (hv : v.IsMadeOf target k n) (hw : w.IsMadeOf target k' n) : v.first = w.first ∧ v.last = w.last :=
  ⟨Option.some.inj (hv.first.symm.trans hw.first), Option.some.inj (hv.last.symm.trans hw.last)⟩

end IsMadeOf

/-! ### Parameters of a page -/

section Parameters
variable {t : SearchTemplate} {params params' : SearchParams} {total size : Nat} {base : Iri}

/-- The parameters for a page do not show which page was asked for before. -/
theorem expand_paramsFor_congr (t : SearchTemplate) (h : ∀ p ≠ Hydra.pageIndex, params'.values p = params.values p)
    (page : Nat) : t.expand (paramsFor params' page) = t.expand (paramsFor params page) := by
  refine t.expand_congr fun p => ?_
  by_cases hp : p = Hydra.pageIndex
  · rw [hp, values_paramsFor_pageIndex, values_paramsFor_pageIndex]
  · rw [values_paramsFor_of_ne _ _ hp, values_paramsFor_of_ne _ _ hp, h p hp]

theorem target?_congr (t : SearchTemplate) (base : Iri)
    (h : ∀ p ≠ Hydra.pageIndex, params'.values p = params.values p) :
    target? t params' base = target? t params base := by
  funext page
  unfold target?
  rw [expand_paramsFor_congr t h]

/-- Parameters that ask for the same page of the same search have the same view. -/
theorem compute_congr (hindex : PageRequest.indexOf params' = PageRequest.indexOf params)
    (h : ∀ p ≠ Hydra.pageIndex, params'.values p = params.values p) :
    compute t params' total size base = compute t params total size base := by
  have hlink : link t params' base = link t params base := by
    funext page
    unfold link
    rw [expand_paramsFor_congr t h]
  unfold compute links
  rw [hindex, hlink]

theorem isMadeOf_of_mem_atPage {k : Nat} (hpos : 0 < k) (hk : k ≤ Count.largest) {v : View}
    (hv : v ∈ (compute t (params.atPage k) total size base).value) :
    v.IsMadeOf (target? t params base) k (pageCount total (max 1 size)) := by
  have hmade := (mem_compute_iff.mp hv).2.2
  have htarget : target? t (params.atPage k) base = target? t params base :=
    target?_congr t base fun p hp => params.values_replace_of_ne hp _
  rwa [PageRequest.indexOf_atPage params hpos hk, htarget] at hmade

end Parameters

/-! ### The chain -/

theorem pageCount_le {total size : Nat} (hsize : 0 < size) (htotal : total ≤ Count.largest) :
    pageCount total size ≤ Count.largest := by
  have hle : total ⌈/⌉ size ≤ total := (ceilDiv_le_iff_le_mul hsize).mpr (Nat.le_mul_of_pos_left _ hsize)
  exact Nat.max_le.mpr ⟨by decide, hle.trans htotal⟩

/-- Each page is linked with the next one in both directions, and all pages with the first and the last. The view of a
    page does not tell how its index was written. -/
theorem views_form_chain (t : SearchTemplate) (params : SearchParams) {total : Nat} (htotal : total ≤ Count.largest)
    (size : Nat) (base : Iri) :
    let view k := (compute t (params.atPage k) total size base).value
    let last := max 1 (total ⌈/⌉ max 1 size)
    (∀ k, 0 < k → k ≤ Count.largest → ∀ v ∈ view k,
      (k < last → ∀ w ∈ view (k + 1), v.next = some w.id) ∧
      (last ≤ k → v.next = none) ∧
      (k < Count.largest → ∀ w ∈ view (k + 1), w.previous = some v.id) ∧
      (k = 1 → v.previous = none) ∧
      (∀ w ∈ view 1, v.first = w.id) ∧
      (∀ w ∈ view last, v.last = w.id) ∧
      ∀ k', 0 < k' → k' ≤ Count.largest → ∀ w ∈ view k', v.first = w.first ∧ v.last = w.last) ∧
    ∀ params', PageRequest.indexOf params' = PageRequest.indexOf params →
      (∀ p ≠ Hydra.pageIndex, params'.values p = params.values p) →
      (compute t params' total size base).value = (compute t params total size base).value := by
  intro view last
  have hlast : last ≤ Count.largest := pageCount_le (Nat.le_max_left 1 size) htotal
  have hmade {k : Nat} (hpos : 0 < k) (hk : k ≤ Count.largest) {v : View} (hv : v ∈ view k) :
      v.IsMadeOf (target? t params base) k last := isMadeOf_of_mem_atPage hpos hk hv
  refine ⟨fun k hpos hk v hv => ⟨?_, ?_, ?_, ?_, ?_, ?_, ?_⟩, ?_⟩
  · intro hlt w hw
    exact (hmade hpos hk hv).next_eq (hmade (Nat.succ_pos k) (hlt.trans_le hlast) hw) hlt
  · exact (hmade hpos hk hv).next_eq_none
  · intro hlt w hw
    exact (hmade hpos hk hv).previous_eq (hmade (Nat.succ_pos k) hlt hw) hpos
  · rintro rfl
    exact (hmade hpos hk hv).previous_eq_none
  · exact fun w hw => (hmade hpos hk hv).first_eq (hmade (by decide) (by decide) hw)
  · exact fun w hw => (hmade hpos hk hv).last_eq (hmade (Nat.le_max_left 1 _) hlast hw)
  · exact fun k' hpos' hk' w hw => (hmade hpos hk hv).ends_eq (hmade hpos' hk' hw)
  · exact fun params' hindex h => congrArg Noted.value (compute_congr hindex h)

/-- Three pages of books by one author. The page asked for is the second one, with a zero in front of its index. -/
theorem shelf_views_form_chain :
    let params := SearchTemplate.shelf.parseQuery "author=ann&page=02"
    let view k := (compute .shelf (params.atPage k) 5 2 Library.books).value
    5 ≤ Count.largest ∧ ∃ u v w, u ∈ view 1 ∧ v ∈ view 2 ∧ w ∈ view 3 ∧
      u.previous = none ∧ u.next = some v.id ∧ v.previous = some u.id ∧ v.next = some w.id ∧ w.previous = some v.id ∧
      w.next = none ∧ v.first = u.id ∧ v.last = w.id ∧
      (compute .shelf params 5 2 Library.books).value = some v := by
  intro params view
  have hview : (view 1).isSome ∧ (view 2).isSome ∧ (view 3).isSome := by decide +kernel
  obtain ⟨u, hu⟩ := Option.isSome_iff_exists.mp hview.1
  obtain ⟨v, hv⟩ := Option.isSome_iff_exists.mp hview.2.1
  obtain ⟨w, hw⟩ := Option.isSome_iff_exists.mp hview.2.2
  have hlast : max 1 (5 ⌈/⌉ max 1 2) = 3 := by decide
  obtain ⟨hchain, hsame⟩ :=
    views_form_chain .shelf params (by decide : 5 ≤ Count.largest) 2 Library.books
  rw [hlast] at hchain
  obtain ⟨hnext, -, hprevious, hnone, -⟩ := hchain 1 (by decide) (by decide) u hu
  obtain ⟨hnext', -, hprevious', -, hfirst, hend, -⟩ := hchain 2 (by decide) (by decide) v hv
  obtain ⟨-, hstop, -⟩ := hchain 3 (by decide) (by decide) w hw
  refine ⟨by decide, u, v, w, hu, hv, hw, hnone rfl, hnext (by decide) v hv, hprevious (by decide) v hv,
    hnext' (by decide) w hw, hprevious' (by decide) w hw, hstop (by decide), hfirst u hu, hend w hw, ?_⟩
  rw [← hv]
  exact (hsame (params.atPage 2) (by decide +kernel) fun p hp => params.values_replace_of_ne hp _).symm

end View
end CollectionQuery
