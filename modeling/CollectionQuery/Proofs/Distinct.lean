import Mathlib.Data.List.Induction
import Mathlib.Data.List.Nodup

/-! Lists without their later duplicates. An item that is added at the back stays if it is new. -/

namespace CollectionQuery

theorem eraseDups_eq_self {α : Type} [DecidableEq α] {as : List α} (h : as.Nodup) : as.eraseDups = as := by
  induction as with
  | nil => rfl
  | cons a as ih =>
    obtain ⟨ha, has⟩ := List.nodup_cons.mp h
    rw [List.eraseDups_cons, List.filter_eq_self.mpr, ih has]
    intro b hb
    simpa using fun e : b = a => ha (e ▸ hb)

theorem eraseDups_concat {α : Type} [DecidableEq α] (as : List α) (a : α) :
    (as ++ [a]).eraseDups = if a ∈ as then as.eraseDups else as.eraseDups ++ [a] := by
  rw [List.eraseDups_append]
  split
  · next ha => simp [List.cons_removeAll, ha]
  · next ha =>
    have hone : [a].eraseDups = [a] := rfl
    simp [List.cons_removeAll, ha, hone]

theorem nodup_eraseDups {α : Type} [DecidableEq α] (as : List α) : as.eraseDups.Nodup := by
  induction as using List.reverseRecOn with
  | nil => exact List.nodup_nil
  | append_singleton as a ih =>
    rw [eraseDups_concat]
    split
    · exact ih
    · next ha => exact ih.append (List.nodup_singleton a) (by simpa using ha)

theorem eraseDups_append_cons_of_mem {α : Type} [DecidableEq α] {as bs : List α} {a : α} (h : a ∈ as) :
    (as ++ a :: bs).eraseDups = (as ++ bs).eraseDups := by
  have hremove : (a :: bs).removeAll as = bs.removeAll as := by simp [List.cons_removeAll, h]
  rw [List.eraseDups_append, List.eraseDups_append, hremove]

theorem eraseDups_eq_singleton_iff {α : Type} [DecidableEq α] {as : List α} {a : α} :
    as.eraseDups = [a] ↔ a ∈ as ∧ ∀ b ∈ as, b = a := by
  constructor
  · intro h
    have hmem (b : α) : b ∈ as ↔ b = a := by rw [← List.mem_eraseDups, h, List.mem_singleton]
    exact ⟨(hmem a).mpr rfl, fun b => (hmem b).mp⟩
  · rintro ⟨ha, hall⟩
    refine List.perm_singleton.mp ((List.perm_ext_iff_of_nodup (nodup_eraseDups as) (List.nodup_singleton a)).mpr ?_)
    intro b
    rw [List.mem_eraseDups, List.mem_singleton]
    constructor
    · exact hall b
    · rintro rfl
      exact ha

theorem eraseDups_filter {α : Type} [DecidableEq α] (P : α → Bool) (as : List α) :
    (as.filter P).eraseDups = as.eraseDups.filter P := by
  induction as using List.reverseRecOn with
  | nil => rfl
  | append_singleton as a ih =>
    rw [List.filter_append, eraseDups_concat]
    by_cases ha : P a
    · rw [List.filter_cons_of_pos ha, List.filter_nil, eraseDups_concat, ih]
      split <;> simp_all
    · rw [List.filter_cons_of_neg ha, List.filter_nil, List.append_nil, ih]
      split <;> simp_all

theorem findSome?_eraseDups {α β : Type} [DecidableEq α] (f : α → Option β) (as : List α) :
    as.eraseDups.findSome? f = as.findSome? f := by
  induction as using List.reverseRecOn with
  | nil => rfl
  | append_singleton as a ih =>
    rw [eraseDups_concat, List.findSome?_append]
    split
    · next ha =>
      rw [ih]
      cases hfound : as.findSome? f with
      | some b => rfl
      | none => simp [List.findSome?_eq_none_iff.mp hfound a ha]
    · rw [List.findSome?_append, ih]

/-- Several copies of a list without duplicates are one of them. -/
theorem eraseDups_flatMap_ite {α β : Type} [DecidableEq β] {as : List α} {bs : List β} {P : α → Prop} [DecidablePred P]
    (hbs : bs.Nodup) (h : bs ≠ [] → ∃ a ∈ as, P a) : (as.flatMap fun a => if P a then bs else []).eraseDups = bs := by
  by_cases hnil : bs = []
  · have hempty : (as.flatMap fun a => if P a then bs else []) = [] := by simp [hnil]
    rw [hempty, hnil]
    rfl
  induction as with
  | nil =>
    obtain ⟨a, ha, -⟩ := h hnil
    cases ha
  | cons a as ih =>
    rw [List.flatMap_cons, List.eraseDups_append]
    by_cases ha : P a
    · -- The first copy stays, and what follows holds nothing new.
      have hall : (as.flatMap fun a => if P a then bs else []).removeAll bs = [] := by
        refine List.filter_eq_nil_iff.mpr fun b hb => ?_
        obtain ⟨a', -, hb⟩ := List.mem_flatMap.mp hb
        split at hb
        · simpa using hb
        · cases hb
      rw [if_pos ha, hall, eraseDups_eq_self hbs]
      exact List.append_nil bs
    · have hrest (hne : bs ≠ []) : ∃ a ∈ as, P a := by
        obtain ⟨a', ha', hP⟩ := h hne
        rcases List.mem_cons.mp ha' with rfl | ha'
        · exact absurd hP ha
        · exact ⟨a', ha', hP⟩
      rw [if_neg ha, List.removeAll_nil]
      exact ih hrest

end CollectionQuery
