import CollectionQuery.Search.Params

/-! Reading back numbers in decimal notation. -/

namespace CollectionQuery
namespace Text

/-- A text whose ends are no blanks is left as it is. -/
theorem trim_eq_self {cs : List Char} (h : ∀ c ∈ cs, isBlank c = false) : trim cs = cs := by
  have hd {ds : List Char} (h : ∀ c ∈ ds, isBlank c = false) : ds.dropWhile isBlank = ds := by
    cases ds with
    | nil => rfl
    | cons d ds => rw [List.dropWhile_cons_of_neg (by simp [h d])]
  rw [trim, hd h, hd fun c hc => h c (List.mem_reverse.mp hc), List.reverse_reverse]

theorem isBlank_of_isDigit {c : Char} (h : c.isDigit) : isBlank c = false := by
  have ⟨h₁, h₂⟩ := Char.isDigit_iff_toNat.mp h
  change 48 ≤ c.toNat at h₁
  change c.toNat ≤ 57 at h₂
  simp only [isBlank, Bool.or_eq_false_iff, Bool.and_eq_false_iff, decide_eq_false_iff_not]
  omega

namespace Count

theorem value_toDigits (n : Nat) : value (Nat.toDigits 10 n) = n := by
  rw [value, ← Nat.ofDigitChars_eq_foldl, Nat.ofDigitChars_ten_toDigits]

theorem isDigit_of_mem_toString {n : Nat} {c : Char} (h : c ∈ (toString n).toList) : c.isDigit := by
  rw [Nat.toString_eq_repr, Nat.toList_repr] at h
  exact Nat.isDigit_of_mem_toDigits (by decide) (by decide) h

theorem toString_injective : Function.Injective (toString : Nat → String) := by
  intro n m h
  rw [Nat.toString_eq_repr, Nat.toString_eq_repr] at h
  have hdigits : Nat.toDigits 10 n = Nat.toDigits 10 m := by rw [← Nat.toList_repr, ← Nat.toList_repr, h]
  rw [← value_toDigits n, hdigits, value_toDigits]

/-- A text of digits has no sign. -/
theorem read?_of_isDigit {ds : List Char} (hd : ∀ c ∈ ds, c.isDigit) (hne : ds ≠ []) :
    read? ds = if value ds ≤ largest then some (value ds) else none := by
  have hall : ds.all Char.isDigit = true := List.all_eq_true.mpr hd
  obtain ⟨d, rest, rfl⟩ := List.exists_cons_of_ne_nil hne
  have hplus : d ≠ '+' := by
    rintro rfl
    exact absurd (hd '+' List.mem_cons_self) (by decide)
  simp [read?, hplus, hall]

/-- A number is read back unless it is too large. -/
theorem read?_toString_eq_ite (n : Nat) : read? (toString n).toList = if n ≤ largest then some n else none := by
  have hd : ∀ c ∈ (toString n).toList, c.isDigit := fun c hc => isDigit_of_mem_toString hc
  rw [Nat.toString_eq_repr, Nat.toList_repr] at hd ⊢
  rw [read?_of_isDigit hd Nat.toDigits_ne_nil, value_toDigits]

theorem read?_toString {n : Nat} (h : n ≤ largest) : read? (toString n).toList = some n := by
  rw [read?_toString_eq_ite, if_pos h]

end Count
end Text

open Text

theorem Term.count?_literal {l : Literal} {n : Nat} (hl : l.lexical = toString n) (h : n ≤ Count.largest) :
    (Term.literal l).count? = some n := by
  rw [Term.count?, hl, trim_eq_self fun c hc => isBlank_of_isDigit (Count.isDigit_of_mem_toString hc),
    Count.read?_toString h]

end CollectionQuery
