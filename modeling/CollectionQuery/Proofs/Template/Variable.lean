import CollectionQuery.Proofs.Text.Decimal
import CollectionQuery.Proofs.Text.Form
import CollectionQuery.Proofs.Text.LanguageTag
import CollectionQuery.Template.Expand
import Mathlib.Data.List.Basic

/-! Variables as they are written: a name, and behind it nothing, an asterisk, or a colon and a length. If the
    characters of the name and the length are ordinary, none of them ends the variable or begins its modifier, so it is
    read as it is meant, alone and among others. -/

namespace CollectionQuery
namespace Template
open Text

inductive Modifier where
  | plain
  | exploded
  /-- A colon and the digits of a length. -/
  | limited (digits : List Char)
  deriving DecidableEq, Repr

/-- A name and what is written behind it. -/
structure WrittenVariable where
  name : List Char
  modifier : Modifier := .plain
  deriving DecidableEq, Repr

/-! ### Ordinary characters -/

/-- The character neither has a meaning of its own in an expression nor is it left out at its ends. -/
def isOrdinary (c : Char) : Bool := !(isBlank c || ['*', ':', ',', '}'].contains c)

theorem isBlank_of_isUnreserved {c : Char} (h : Percent.isUnreserved c) : isBlank c = false := by
  simp only [Percent.isUnreserved, Char.isAlphanum, Bool.or_eq_true, decide_eq_true_eq, LanguageTag.isAlpha_iff,
    LanguageTag.isDigit_iff] at h
  rcases h with (((h | rfl) | rfl) | rfl) | rfl
  · simp only [isBlank, Bool.or_eq_false_iff, Bool.and_eq_false_iff, decide_eq_false_iff_not]
    omega
  all_goals decide

theorem isOrdinary_of_isUnreserved {c : Char} (h : Percent.isUnreserved c) : isOrdinary c := by
  have hall : (['*', ':', ',', '}'].all fun d => !Percent.isUnreserved d) = true := by decide
  rw [isOrdinary, isBlank_of_isUnreserved h, Bool.false_or, Bool.not_eq_true', Bool.eq_false_iff]
  intro hc
  have hreserved := List.all_eq_true.mp hall c (List.contains_iff_mem.mp hc)
  rw [h] at hreserved
  cases hreserved

/-- A text without an asterisk is read up to its colon, if there is one. -/
theorem VarSpec.read_of_star_notMem {spec : List Char} (htrim : trim spec = spec) (hstar : '*' ∉ spec) :
    VarSpec.read spec = match cut? ':' spec with
      | some (name, length) => ⟨name, false, Count.read? length⟩
      | none => ⟨spec, false, none⟩ := by
  rw [VarSpec.read, htrim]
  split
  · next rest hr => exact absurd (List.mem_reverse.mp (hr ▸ List.mem_cons_self)) hstar
  · rfl

namespace WrittenVariable

def text (v : WrittenVariable) : List Char :=
  match v.modifier with
  | .plain => v.name
  | .exploded => v.name ++ ['*']
  | .limited digits => v.name ++ ':' :: digits

/-- The digits of a length, if there is one. -/
def digits (v : WrittenVariable) : List Char :=
  match v.modifier with
  | .limited digits => digits
  | _ => []

/-- The variable that is meant. -/
def meaning (v : WrittenVariable) : VarSpec :=
  match v.modifier with
  | .plain => ⟨v.name, false, none⟩
  | .exploded => ⟨v.name, true, none⟩
  | .limited digits => ⟨v.name, false, Count.read? digits⟩

@[simp] theorem name_meaning (v : WrittenVariable) : v.meaning.name = v.name := by
  unfold meaning
  cases v.modifier <;> rfl

/-! ### Reading -/

/-- The characters of the name and the length are ordinary. -/
def IsReadable (v : WrittenVariable) : Prop := ∀ c ∈ v.name ++ v.digits, isOrdinary c

theorem text_eq (v : WrittenVariable) :
    ∃ mark, v.text = v.name ++ mark ++ v.digits ∧ ∀ c ∈ mark, c = '*' ∨ c = ':' := by
  obtain ⟨name, modifier⟩ := v
  cases modifier with
  | plain => exact ⟨[], by simp [text, digits], fun c hc => absurd hc List.not_mem_nil⟩
  | exploded => exact ⟨['*'], by simp [text, digits], fun c hc => .inl (List.mem_singleton.mp hc)⟩
  | limited digits => exact ⟨[':'], by simp [text, WrittenVariable.digits], fun c hc => .inr (List.mem_singleton.mp hc)⟩

variable {v : WrittenVariable}

theorem IsReadable.mem_text (h : v.IsReadable) {c : Char} (hc : c ∈ v.text) : isOrdinary c ∨ c = '*' ∨ c = ':' := by
  obtain ⟨mark, htext, hmark⟩ := v.text_eq
  rw [htext, List.append_assoc, List.mem_append, List.mem_append] at hc
  rcases hc with hc | hc | hc
  · exact .inl (h c (List.mem_append_left _ hc))
  · exact .inr (hmark c hc)
  · exact .inl (h c (List.mem_append_right _ hc))

theorem IsReadable.notMem_text (h : v.IsReadable) {c : Char} (hc : (isOrdinary c || c = '*' || c = ':') = false) :
    c ∉ v.text := by
  intro hm
  simp only [Bool.or_eq_false_iff, decide_eq_false_iff_not] at hc
  rcases h.mem_text hm with ho | hstar | hcolon
  · exact Bool.false_ne_true (hc.1.1.symm.trans ho)
  · exact hc.1.2 hstar
  · exact hc.2 hcolon

theorem IsReadable.trim_text (h : v.IsReadable) : trim v.text = v.text := trim_eq_self fun c hc => by
  rcases h.mem_text hc with hc | rfl | rfl
  · rw [isOrdinary, Bool.not_eq_true', Bool.or_eq_false_iff] at hc
    exact hc.1
  · decide
  · decide

/-- A variable is read as it is meant. -/
theorem IsReadable.read_text (h : v.IsReadable) : VarSpec.read v.text = v.meaning := by
  have hnotMem {c : Char} (hc : isOrdinary c = false) : c ∉ v.name ++ v.digits := fun hm =>
    Bool.false_ne_true (hc.symm.trans (h c hm))
  have hname {c : Char} (hc : isOrdinary c = false) : c ∉ v.name := fun hm => hnotMem hc (List.mem_append_left _ hm)
  have htrim := h.trim_text
  obtain ⟨name, modifier⟩ := v
  cases modifier with
  | plain =>
    have hcut : cut? ':' (text ⟨name, .plain⟩) = none := cut?_eq_none_iff.mpr (hname rfl)
    rw [VarSpec.read_of_star_notMem htrim (hname rfl), hcut]
    rfl
  | exploded =>
    rw [VarSpec.read, htrim]
    simp [text, meaning]
  | limited digits =>
    have hcut : cut? ':' (text ⟨name, .limited digits⟩) = some (name, digits) := cut?_append (hname rfl) digits
    have hstar : '*' ∉ text ⟨name, .limited digits⟩ := fun hm => by
      rcases List.mem_append.mp hm with hm | hm
      · exact hname rfl hm
      · exact hnotMem rfl (List.mem_append_right _ ((List.mem_cons.mp hm).resolve_left (by decide)))
    rw [VarSpec.read_of_star_notMem htrim hstar, hcut]
    rfl

end WrittenVariable

/-! ### Variables of an expression -/

/-- The texts of variables, joined by commas. -/
def WrittenVariable.joined (vs : List WrittenVariable) : List Char := [','].intercalate (vs.map text)

section Joined
variable {vs : List WrittenVariable} (h : ∀ v ∈ vs, v.IsReadable)
include h

/-- Variables are read one by one from their joined texts. -/
theorem readSpecs_joined (hne : vs ≠ []) : readSpecs (WrittenVariable.joined vs) = vs.map (·.meaning) := by
  have hcomma : ∀ cs ∈ vs.map WrittenVariable.text, ',' ∉ cs :=
    List.forall_mem_map.mpr fun v hv => (h v hv).notMem_text (by decide)
  rw [WrittenVariable.joined, readSpecs, List.splitOn_intercalate ',' hcomma (by simpa using hne), List.map_map]
  exact List.map_congr_left fun v hv => (h v hv).read_text

theorem brace_notMem_joined : '}' ∉ WrittenVariable.joined vs :=
  notMem_intercalate (by decide) (List.forall_mem_map.mpr fun v hv => (h v hv).notMem_text (by decide))

end Joined
end Template
end CollectionQuery
