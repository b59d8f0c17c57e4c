import CollectionQuery.Rdf.NTriples.Statement

/-! What readers leave is an end of the text, and a statement leaves less than there was. -/

namespace CollectionQuery
namespace NTriples

theorem skipBlank_suffix (cs : List Char) : skipBlank cs <:+ cs := List.dropWhile_suffix _

theorem readUpTo_suffix {close : Char} {named : Bool} {cs text rest : List Char}
    (h : readUpTo close named cs = some (text, rest)) : rest <:+ cs := by
  fun_induction readUpTo close named cs generalizing text <;>
    simp only [Option.bind_eq_bind, Option.bind_eq_some_iff, Option.pure_def, Option.some.injEq, Prod.exists,
      Prod.mk.injEq, reduceCtorEq] at h
  case case1 ih => obtain ⟨_, _, _, _, hr, _, rfl⟩ := h; exact (ih hr).trans (by simp [List.suffix_cons_iff])
  case case2 ih => obtain ⟨_, _, _, _, hr, _, rfl⟩ := h; exact (ih hr).trans (by simp [List.suffix_cons_iff])
  case case3 ih => obtain ⟨_, _, _, _, hr, _, rfl⟩ := h; exact (ih hr).trans (by simp [List.suffix_cons_iff])
  case case4 => obtain ⟨_, rfl⟩ := h; exact List.suffix_cons _ _
  case case6 ih => obtain ⟨_, _, hr, _, rfl⟩ := h; exact (ih hr).trans (List.suffix_cons _ _)

theorem readIri_suffix {cs rest : List Char} {i : Iri} (h : readIri cs = some (i, rest)) : rest <:+ cs := by
  simp only [readIri, Option.bind_eq_bind, Option.bind_eq_some_iff, Option.pure_def, Option.some.injEq, Prod.exists,
    Prod.mk.injEq] at h
  obtain ⟨_, _, hr, _, _, _, rfl⟩ := h
  exact readUpTo_suffix hr

theorem readLabelTail_suffix {cs label rest : List Char} (h : readLabelTail cs = some (label, rest)) :
    rest <:+ cs := by
  fun_induction readLabelTail cs generalizing label <;>
    simp only [Option.map_eq_some_iff, Option.some.injEq, Prod.exists, Prod.mk.injEq, reduceCtorEq] at h
  case case2 ih => obtain ⟨_, _, hr, _, rfl⟩ := h; exact (ih hr).trans (List.suffix_cons _ _)
  case case4 => obtain ⟨_, rfl⟩ := h; exact List.suffix_rfl

theorem readLabel_suffix {cs rest : List Char} {label : String} (h : readLabel cs = some (label, rest)) :
    rest <:+ cs := by
  unfold readLabel at h
  split at h
  · cases h
  · split at h
    · obtain ⟨_, hr, he⟩ := Option.map_eq_some_iff.mp h
      cases he
      exact (readLabelTail_suffix hr).trans (List.suffix_cons _ _)
    · cases h; exact List.suffix_rfl

theorem readNode_suffix {cs rest : List Char} {t : Term} (h : readNode cs = some (t, rest)) : rest <:+ cs := by
  unfold readNode at h
  split at h
  · obtain ⟨_, hr, he⟩ := Option.map_eq_some_iff.mp h
    cases he
    exact (readIri_suffix hr).trans (List.suffix_cons _ _)
  · obtain ⟨_, hr, he⟩ := Option.map_eq_some_iff.mp h
    cases he
    exact (readLabel_suffix hr).trans (by simp [List.suffix_cons_iff])
  · cases h

theorem readTag_suffix (cs : List Char) : (readTag cs).2 <:+ cs := by
  fun_induction readTag cs with
  | case1 => exact List.suffix_rfl
  | case2 c cs _ _ _ ht ih => exact (ht ▸ ih).trans (List.suffix_cons _ _)
  | case3 => exact List.suffix_rfl

theorem readSuffix_suffix {lexical : String} {cs rest : List Char} {l : Literal}
    (h : readSuffix lexical cs = some (l, rest)) : rest <:+ cs := by
  have hs := skipBlank_suffix cs
  unfold readSuffix at h
  split at h
  · next tail hc =>
    rw [hc] at hs
    dsimp only at h
    split at h
    · cases h
      exact ((readTag_suffix tail).trans (List.suffix_cons _ _)).trans hs
    · cases h
  · next tail hc =>
    rw [hc] at hs
    split at h
    · next iri hi =>
      obtain ⟨_, hr, he⟩ := Option.map_eq_some_iff.mp h
      cases he
      have ht := hi ▸ skipBlank_suffix tail
      exact ((((readIri_suffix hr).trans (List.suffix_cons _ _)).trans ht).trans
        (by simp [List.suffix_cons_iff])).trans hs
    · cases h
  · cases h
    exact hs

theorem readObject_suffix {cs rest : List Char} {t : Term} (h : readObject cs = some (t, rest)) : rest <:+ cs := by
  unfold readObject at h
  split at h
  · simp only [Option.bind_eq_bind, Option.bind_eq_some_iff, Option.pure_def, Option.some.injEq, Prod.exists,
      Prod.mk.injEq] at h
    obtain ⟨_, _, hu, _, _, hs, _, rfl⟩ := h
    exact ((readSuffix_suffix hs).trans (readUpTo_suffix hu)).trans (List.suffix_cons _ _)
  · exact readNode_suffix h

theorem readGraphName_suffix {names : Bool} {cs rest : List Char} {g : Option Term}
    (h : readGraphName names cs = some (g, rest)) : rest <:+ cs := by
  unfold readGraphName at h
  split at h
  · cases h; exact List.suffix_rfl
  · split at h
    · obtain ⟨_, hr, he⟩ := Option.map_eq_some_iff.mp h
      cases he
      exact readNode_suffix hr
    · cases h

/-- A statement has its full stop at least. -/
theorem length_lt_of_readStatement {names : Bool} {cs rest : List Char} {s : Statement}
    (h : readStatement names cs = some (s, rest)) : rest.length < cs.length := by
  simp only [readStatement, Option.bind_eq_bind, Option.bind_eq_some_iff, Prod.exists] at h
  obtain ⟨_, r₁, h₁, _, r₂, h₂, _, r₃, h₃, _, r₄, h₄, h⟩ := h
  have hr : r₄ <:+ cs := (readGraphName_suffix h₄).trans <| (skipBlank_suffix _).trans <|
    (readObject_suffix h₃).trans <| (skipBlank_suffix _).trans <| (readNode_suffix h₂).trans <|
    (skipBlank_suffix _).trans <| (readNode_suffix h₁).trans (skipBlank_suffix _)
  split at h
  · next hd =>
    cases h
    have hl := (hd ▸ skipBlank_suffix r₄).length_le
    have := hr.length_le
    simp only [List.length_cons] at hl
    omega
  · cases h

end NTriples
end CollectionQuery
