import CollectionQuery.Proofs.Text.Form
import CollectionQuery.Text.LanguageTag

/-! Language tags in lower case. They are well-formed if the tags are, since no rule for subtags tells the cases
    apart; and well-formed tags consist of letters, digits and hyphens. -/

namespace CollectionQuery
namespace Text
namespace LanguageTag

/-! ### Characters -/

theorem toNat_toLower (c : Char) :
    c.toLower.toNat = if 65 ≤ c.toNat ∧ c.toNat ≤ 90 then c.toNat + 32 else c.toNat := by
  unfold Char.toLower
  simp only [ge_iff_le, UInt32.le_iff_toNat_le, Char.toNat_val]
  split
  · next h =>
    change 65 ≤ c.toNat ∧ c.toNat ≤ 90 at h
    rw [if_pos h, Char.toNat_mk, UInt32.toNat_add]
    simp
    omega
  · next h =>
    exact (if_neg h).symm

theorem toLower_toLower (c : Char) : c.toLower.toLower = c.toLower := by
  rw [← Char.toNat_inj, toNat_toLower c.toLower, if_neg]
  rw [toNat_toLower c]
  split <;> omega

theorem isDigit_iff {c : Char} : c.isDigit = true ↔ 48 ≤ c.toNat ∧ c.toNat ≤ 57 := Char.isDigit_iff_toNat

theorem isAlpha_iff {c : Char} :
    c.isAlpha = true ↔ (65 ≤ c.toNat ∧ c.toNat ≤ 90) ∨ (97 ≤ c.toNat ∧ c.toNat ≤ 122) := by
  have hupper : c.isUpper = true ↔ 65 ≤ c.toNat ∧ c.toNat ≤ 90 := decide_eq_true_iff
  have hlower : c.isLower = true ↔ 97 ≤ c.toNat ∧ c.toNat ≤ 122 :=
    Bool.and_eq_true_iff.trans (and_congr decide_eq_true_iff decide_eq_true_iff)
  exact Bool.or_eq_true_iff.trans (or_congr hupper hlower)

theorem isDigit_toLower (c : Char) : c.toLower.isDigit = c.isDigit := by
  rw [Bool.eq_iff_iff, isDigit_iff, isDigit_iff, toNat_toLower]
  split <;> omega

theorem isAlpha_toLower (c : Char) : c.toLower.isAlpha = c.isAlpha := by
  rw [Bool.eq_iff_iff, isAlpha_iff, isAlpha_iff, toNat_toLower]
  split <;> omega

theorem isAlphanum_toLower (c : Char) : c.toLower.isAlphanum = c.isAlphanum := by
  rw [Char.isAlphanum, Char.isAlphanum, isAlpha_toLower, isDigit_toLower]

/-- A character that is no small letter comes from itself alone. -/
theorem toLower_eq_iff {c d : Char} (hd : ¬d.isAlpha) : c.toLower = d ↔ c = d := by
  rw [isAlpha_iff] at hd
  rw [← Char.toNat_inj, ← Char.toNat_inj, toNat_toLower]
  split <;> omega

/-! ### Subtags -/

theorem lower_lower (tag : List Char) : lower (lower tag) = lower tag := by
  rw [lower, lower, List.map_map]
  exact List.map_congr_left fun c _ => toLower_toLower c

theorem all_lower {p : Char → Bool} (hp : ∀ c : Char, p c.toLower = p c) (subtag : List Char) :
    (lower subtag).all p = subtag.all p := by
  rw [lower, List.all_map]
  exact congrArg _ (funext hp)

theorem next?_lower (place : Place) (subtag : List Char) : next? place (lower subtag) = next? place subtag := by
  have hlength : (lower subtag).length = subtag.length := List.length_map _
  have halpha : isAlpha (lower subtag) = isAlpha subtag := all_lower isAlpha_toLower subtag
  have halphanum : isAlphanum (lower subtag) = isAlphanum subtag := all_lower isAlphanum_toLower subtag
  have hregion : isRegion (lower subtag) = isRegion subtag := by
    rw [isRegion, isRegion, hlength, halpha, all_lower isDigit_toLower]
  have hvariant : isVariant (lower subtag) = isVariant subtag := by
    have htake : (lower subtag).take 1 = lower (subtag.take 1) := (List.map_take ..).symm
    rw [isVariant, isVariant, hlength, halphanum, htake, all_lower isAlpha_toLower, all_lower isDigit_toLower]
  have hempty : (lower subtag).isEmpty = subtag.isEmpty := by
    cases subtag <;> rfl
  have hx : (lower subtag = ['x'] || lower subtag = ['X']) = (subtag = ['x'] || subtag = ['X']) := by
    rw [← Bool.decide_or, ← Bool.decide_or, decide_eq_decide]
    match subtag with
    | [] => simp [lower]
    | [c] =>
      have hX : 'X'.toNat = 88 := rfl
      have hx : 'x'.toNat = 120 := rfl
      simp only [lower, List.map_cons, List.map_nil, List.cons.injEq, and_true, ← Char.toNat_inj, toNat_toLower, hX, hx]
      split <;> omega
    | _ :: _ :: _ => simp [lower]
  unfold next?
  simp only [hempty, hlength, halpha, halphanum, hregion, hvariant, hx]

/-! ### Tags -/

theorem splitOn_lower (tag : List Char) : (lower tag).splitOn '-' = (tag.splitOn '-').map lower := by
  induction tag with
  | nil => simp [lower]
  | cons c tag ih =>
    have hcons : lower (c :: tag) = c.toLower :: lower tag := rfl
    have hc : (c.toLower == '-') = (c == '-') := by
      rw [Bool.eq_iff_iff, beq_iff_eq, beq_iff_eq]
      exact toLower_eq_iff (by decide)
    rw [hcons, List.splitOn_cons_eq_if_modifyHead, List.splitOn_cons_eq_if_modifyHead, hc, ih]
    split
    · rfl
    · cases tag.splitOn '-' <;> rfl

theorem isWellFormed_lower (tag : List Char) : isWellFormed (lower tag) = isWellFormed tag := by
  have hfold : ((lower tag).splitOn '-').foldlM next? .start = (tag.splitOn '-').foldlM next? .start := by
    rw [splitOn_lower, List.foldlM_map]
    simp only [next?_lower]
  rw [isWellFormed, isWellFormed, lower_lower, hfold]

/-! ### Characters of tags -/

/-- A subtag has a place only if it consists of letters and digits. -/
theorem next?_eq_none {subtag : List Char} (h : isAlphanum subtag = false) (place : Place) :
    next? place subtag = none := by
  have hall (p : Char → Bool) (hp : ∀ c, p c → c.isAlphanum) : subtag.all p = false := by
    rw [Bool.eq_false_iff] at h ⊢
    intro hall
    exact h (List.all_eq_true.mpr fun c hc => hp c (List.all_eq_true.mp hall c hc))
  have halpha : isAlpha subtag = false := hall _ fun c hc => by simp [Char.isAlphanum, hc]
  have hdigit : subtag.all Char.isDigit = false := hall _ fun c hc => by simp [Char.isAlphanum, hc]
  have hregion : isRegion subtag = false := by simp [isRegion, halpha, hdigit]
  have hvariant : isVariant subtag = false := by simp [isVariant, h]
  unfold next?
  cases place <;> simp [h, halpha, hregion, hvariant]

theorem isAlphanum_of_foldlM {subtags : List (List Char)} {place : Place} (h : (subtags.foldlM next? place).isSome) :
    ∀ subtag ∈ subtags, isAlphanum subtag := by
  induction subtags generalizing place with
  | nil => exact fun _ hs => absurd hs List.not_mem_nil
  | cons subtag subtags ih =>
    rw [List.foldlM_cons] at h
    cases hnext : next? place subtag with
    | none =>
      rw [hnext] at h
      cases h
    | some place' =>
      rw [hnext] at h
      refine List.forall_mem_cons.mpr ⟨Bool.of_not_eq_false fun hsubtag => ?_, ih h⟩
      rw [next?_eq_none hsubtag] at hnext
      cases hnext

theorem isAlphanum_of_registered {tag : String} (h : tag ∈ registered) :
    ∀ c ∈ tag.toList, (c.isAlphanum || c = '-') = true := by
  have hall : registered.all fun tag => tag.toList.all fun c => c.isAlphanum || c = '-' := by decide +kernel
  exact List.all_eq_true.mp (List.all_eq_true.mp hall tag h)

/-- A well-formed tag consists of letters, digits and hyphens. -/
theorem isAlphanum_of_isWellFormed {tag : List Char} (h : isWellFormed tag) : ∀ c ∈ tag, c.isAlphanum ∨ c = '-' := by
  have hlower : ∀ c ∈ lower tag, (c.isAlphanum || c = '-') = true := by
    rw [← isWellFormed_lower, isWellFormed, lower_lower, Bool.or_eq_true] at h
    rcases h with h | h
    · have hregistered := isAlphanum_of_registered (List.contains_iff_mem.mp h)
      rwa [String.toList_ofList] at hregistered
    · split at h
      · next rest hx =>
        rw [Bool.and_eq_true, List.all_eq_true] at h
        rw [hx, List.forall_mem_cons, List.forall_mem_cons]
        exact ⟨by decide, by decide, h.2⟩
      · have hplace : (((lower tag).splitOn '-').foldlM next? .start).isSome := by
          cases hfold : ((lower tag).splitOn '-').foldlM next? .start with
          | none => rw [hfold] at h; cases h
          | some place => rfl
        have hhyphen : ('-'.isAlphanum || '-' = '-') = true := by decide
        refine forall_mem_of_splitOn (p := fun c => c.isAlphanum || c = '-') hhyphen fun subtag hsubtag c hc => ?_
        have halphanum := List.all_eq_true.mp (isAlphanum_of_foldlM hplace subtag hsubtag) c hc
        simp [halphanum]
  intro c hc
  have := hlower c.toLower (List.mem_map_of_mem hc)
  rw [isAlphanum_toLower, Bool.or_eq_true, decide_eq_true_eq, toLower_eq_iff (by decide)] at this
  exact this

end LanguageTag
end Text
end CollectionQuery
