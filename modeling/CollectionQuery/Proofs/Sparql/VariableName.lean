import CollectionQuery.Collection.Fragment
import CollectionQuery.Proofs.Text.Decimal
import CollectionQuery.Proofs.Text.LanguageTag

/-! The grammar of variable names in SPARQL 1.1, against the names that generators give. The grammar lists ranges of code
    points, and generators keep whatever Unicode calls a letter or a number. The two agree but for a few ranges of
    numbers and letters, so a generated name is well-formed exactly if none of these was asked for. -/

namespace CollectionQuery
open Text

namespace Sparql

/-! ### The grammar -/

/-- The production PN_CHARS_BASE. -/
def baseRuns : List (Nat × Nat) := [
  (0x41, 0x5A), (0x61, 0x7A), (0xC0, 0xD6), (0xD8, 0xF6), (0xF8, 0x2FF), (0x370, 0x37D), (0x37F, 0x1FFF),
  (0x200C, 0x200D), (0x2070, 0x218F), (0x2C00, 0x2FEF), (0x3001, 0xD7FF), (0xF900, 0xFDCF), (0xFDF0, 0xFFFD),
  (0x10000, 0xEFFFF)]

/-- Whether a name may begin with the character: one of PN_CHARS_U, or a digit. -/
def isNameStart (c : Char) : Bool := inRuns baseRuns c.toNat || c = '_' || c.isDigit

/-- Whether the character may stand further back in a name. -/
def isNameChar (c : Char) : Bool := isNameStart c || inRuns [(0xB7, 0xB7), (0x300, 0x36F), (0x203F, 0x2040)] c.toNat

/-- The production VARNAME. -/
inductive IsVariableName : List Char → Prop
  | mk {c : Char} {cs : List Char} (start : isNameStart c = true) (rest : ∀ d ∈ cs, isNameChar d = true) :
    IsVariableName (c :: cs)

theorem isVariableName_cons_iff {c : Char} {cs : List Char} :
    IsVariableName (c :: cs) ↔ isNameStart c = true ∧ ∀ d ∈ cs, isNameChar d = true := by
  constructor
  · rintro ⟨hstart, hrest⟩
    exact ⟨hstart, hrest⟩
  · rintro ⟨hstart, hrest⟩
    exact .mk hstart hrest

/-! ### Letters and numbers -/

/-- The ranges of `isNameChar`, neighbours joined. -/
def nameRuns : List (Nat × Nat) := [
  (0x30, 0x39), (0x41, 0x5A), (0x5F, 0x5F), (0x61, 0x7A), (0xB7, 0xB7), (0xC0, 0xD6), (0xD8, 0xF6), (0xF8, 0x37D),
  (0x37F, 0x1FFF), (0x200C, 0x200D), (0x203F, 0x2040), (0x2070, 0x218F), (0x2C00, 0x2FEF), (0x3001, 0xD7FF),
  (0xF900, 0xFDCF), (0xFDF0, 0xFFFD), (0x10000, 0xEFFFF)]

/-- The letters and numbers that no name can hold: the ordinal indicators, the micro sign, the raised digits one to
    three, the fractions of Latin-1, and numbers and letters in circles, in parentheses or with a full stop. -/
def foreignRuns : List (Nat × Nat) := [
  (0xAA, 0xAA), (0xB2, 0xB3), (0xB5, 0xB5), (0xB9, 0xBA), (0xBC, 0xBE), (0x2460, 0x249B), (0x24B6, 0x24FF),
  (0x2776, 0x2793)]

theorem isNameChar_iff {c : Char} : isNameChar c = true ↔ inRuns nameRuns c.toNat = true := by
  have hunderscore : c = '_' ↔ c.toNat = 0x5F := Char.toNat_inj.symm
  simp only [isNameChar, isNameStart, Bool.or_eq_true, decide_eq_true_eq, hunderscore, LanguageTag.isDigit_iff,
    inRuns, baseRuns, nameRuns, List.any_cons, List.any_nil, Bool.and_eq_true, Bool.or_false]
  omega

/-- Whether each run lies within one of some others. -/
def covers (ss rs : List (Nat × Nat)) : Bool := rs.all fun r => ss.any fun s => s.1 ≤ r.1 && r.2 ≤ s.2

theorem inRuns_of_covers {rs ss : List (Nat × Nat)} (h : covers ss rs = true) {n : Nat} (hn : inRuns rs n = true) :
    inRuns ss n = true := by
  obtain ⟨r, hr, hfirst, hlast⟩ := inRuns_iff.mp hn
  obtain ⟨s, hs, hs'⟩ := List.any_eq_true.mp (List.all_eq_true.mp h r hr)
  obtain ⟨hfirst', hlast'⟩ := (Bool.and_eq_true _ _).mp hs'
  rw [decide_eq_true_eq] at hfirst' hlast'
  exact inRuns_iff.mpr ⟨s, hs, Nat.le_trans hfirst' hfirst, Nat.le_trans hlast hlast'⟩

theorem not_inRuns_foreignRuns {n : Nat} (h : inRuns nameRuns n = true) : inRuns foreignRuns n = false := by
  simp only [inRuns, nameRuns, foreignRuns, List.any_cons, List.any_nil, Bool.or_false, Bool.or_eq_true,
    Bool.and_eq_true, decide_eq_true_eq, Bool.or_eq_false_iff, Bool.and_eq_false_iff, decide_eq_false_iff_not] at h ⊢
  omega

/-- Each run of letters and numbers lies within the names or within what is foreign to them. -/
theorem covers_alphanumericRuns : covers (nameRuns ++ foreignRuns) alphanumericRuns = true := by
  decide +kernel

theorem covers_foreignRuns : covers alphanumericRuns foreignRuns = true := by
  decide +kernel

theorem isAlphanumeric_of_foreign {c : Char} (h : inRuns foreignRuns c.toNat = true) : isAlphanumeric c = true := by
  have hlarge : ¬c.toNat < 0x80 := by
    obtain ⟨r, hr, hfirst, -⟩ := inRuns_iff.mp h
    have hbeyond : ∀ r ∈ foreignRuns, 0x80 ≤ r.1 := by decide
    exact Nat.not_lt.mpr (Nat.le_trans (hbeyond r hr) hfirst)
  rw [isAlphanumeric, if_neg hlarge]
  exact inRuns_of_covers covers_foreignRuns h

/-- A letter or number may stand in names unless it is foreign to them. -/
theorem isNameChar_iff_of_isAlphanumeric {c : Char} (h : isAlphanumeric c = true) :
    isNameChar c = true ↔ inRuns foreignRuns c.toNat = false := by
  rw [isNameChar_iff]
  refine ⟨not_inRuns_foreignRuns, fun hforeign => ?_⟩
  unfold isAlphanumeric at h
  split at h
  · simp only [Char.isAlphanum, Bool.or_eq_true, LanguageTag.isAlpha_iff, LanguageTag.isDigit_iff] at h
    exact inRuns_iff.mpr (by
      rcases h with (h | h) | h
      · exact ⟨(0x41, 0x5A), by decide, h⟩
      · exact ⟨(0x61, 0x7A), by decide, h⟩
      · exact ⟨(0x30, 0x39), by decide, h⟩)
  · have hcovered := inRuns_of_covers covers_alphanumericRuns h
    rw [inRuns, List.any_append, Bool.or_eq_true] at hcovered
    exact hcovered.resolve_right fun hmem => Bool.false_ne_true (hforeign.symm.trans hmem)

/-! ### Generated names -/

theorem isNameChar_kept {c : Char} :
    isNameChar (if isAlphanumeric c || c = '_' then c else '_') = true ↔ inRuns foreignRuns c.toNat = false := by
  by_cases h : isAlphanumeric c = true
  · rw [if_pos (by simp [h]), isNameChar_iff_of_isAlphanumeric h]
  · -- Such a character is no foreign one, and an underscore takes its place if it is not one itself.
    have hforeign : inRuns foreignRuns c.toNat = false := by
      rw [← Bool.not_eq_true]
      exact mt isAlphanumeric_of_foreign h
    refine iff_of_true ?_ hforeign
    split
    · next hc =>
      obtain rfl : c = '_' := by simpa [h] using hc
      decide
    · decide

/-- The name of a generated variable is well-formed exactly if none of the letters and numbers in the name that was asked
    for is foreign to the grammar. -/
theorem make_isVariableName_iff (n : Nat) (name : String) :
    IsVariableName (VariableGenerator.make ⟨"filter" ++ toString n⟩ name).name.toList ↔
      ∀ c ∈ name.toList, inRuns foreignRuns c.toNat = false := by
  have htext : (VariableGenerator.make ⟨"filter" ++ toString n⟩ name).name.toList =
      'f' :: ("ilter".toList ++ (toString n).toList ++ '_' ::
        name.toList.map fun c => if isAlphanumeric c || c = '_' then c else '_') := by
    simp [VariableGenerator.make]
  have hstem : ∀ c ∈ "ilter".toList ++ (toString n).toList, isNameChar c = true := by
    intro c hc
    rcases List.mem_append.mp hc with hc | hc
    · have hletters : "ilter".toList.all isNameChar = true := by decide
      exact List.all_eq_true.mp hletters c hc
    · simp [isNameChar, isNameStart, Count.isDigit_of_mem_toString hc]
  rw [htext, isVariableName_cons_iff, and_iff_right (by decide)]
  constructor
  · intro h c hc
    refine isNameChar_kept.mp (h _ ?_)
    exact List.mem_append_right _ (List.mem_cons_of_mem _ (List.mem_map_of_mem hc))
  · intro h d hd
    rcases List.mem_append.mp hd with hd | hd
    · exact hstem d hd
    rcases List.mem_cons.mp hd with rfl | hd
    · decide
    · obtain ⟨c, hc, rfl⟩ := List.mem_map.mp hd
      exact isNameChar_kept.mpr (h c hc)

/-- A raised two is a number and kept in the name of a variable, where no endpoint reads it. -/
theorem raised_digit_is_no_name :
    (VariableGenerator.make ⟨"filter1"⟩ "m²").name = "filter1_m²" ∧
      ¬IsVariableName (VariableGenerator.make ⟨"filter1"⟩ "m²").name.toList := by
  have hname : (VariableGenerator.make ⟨"filter1"⟩ "m²").name = "filter1_m²" := by decide +kernel
  refine ⟨hname, fun h => ?_⟩
  rw [hname] at h
  have hraised := (isVariableName_cons_iff.mp h).2 '²' (by decide)
  exact absurd hraised (by decide)

end Sparql
end CollectionQuery
