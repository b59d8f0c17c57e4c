import CollectionQuery.Proofs.Iri.Characters
import CollectionQuery.Proofs.Search.Values

/-! Explicit representation loses nothing. A value is told to be a literal by its first quote, and its text ends at the
    last one: an IRI begins with a letter, and neither a language nor a datatype holds a quote. So the text of a literal
    may hold whatever it likes, and exactly the well-formed terms are read back. -/

namespace CollectionQuery
open Text

/-- The IRI, the language or the datatype in the term is well-formed; languages are in lower case. -/
def Term.isWellFormed : Term → Bool
  | .iri i => (Iri.parse? i.text).isSome
  | .blank _ => false
  | .literal (.plain _) => true
  | .literal (.tagged _ language) =>
    LanguageTag.isWellFormed language.toList && LanguageTag.lower language.toList = language.toList
  | .literal (.typed _ datatype) => (Iri.parse? datatype.iri.text).isSome

namespace Iri

theorem parse?_text {i : Iri} (h : (parse? i.text).isSome) : parse? i.text = some i := by
  obtain ⟨j, hj⟩ := Option.isSome_iff_exists.mp h
  have htext : j = i := congrArg Iri.mk (SearchTemplate.text_of_parse? hj)
  rw [hj, htext]

end Iri

namespace SearchTemplate

/-! ### Terms that are read -/

theorem isWellFormed_ofDatatype {v : String} {d : Iri} (h : (Iri.parse? d.text).isSome) :
    (Term.literal (.ofDatatype v d)).isWellFormed := by
  unfold Literal.ofDatatype
  split
  · rfl
  · exact h

theorem isWellFormed_readSuffix (lexical suffix : List Char) : (Term.literal (readSuffix lexical suffix)).isWellFormed := by
  unfold readSuffix
  split
  · next tag =>
    split
    · next htag =>
      simp only [Term.isWellFormed, String.toList_ofList, LanguageTag.isWellFormed_lower, LanguageTag.lower_lower, htag]
      rfl
    · rfl
  · dsimp only
    split
    · next d hd =>
      rw [← text_of_parse? hd] at hd
      exact isWellFormed_ofDatatype (Option.isSome_of_mem hd)
    · rfl
  · rfl

theorem isWellFormed_readExplicit (w : List Char) : (readExplicit w).isWellFormed := by
  unfold readExplicit
  split
  · split
    · exact isWellFormed_readSuffix _ _
    · rfl
  · dsimp only
    split
    · next i hi =>
      rw [← text_of_parse? hi] at hi
      exact Option.isSome_of_mem hi
    · rfl

/-! ### Terms that are written -/

/-- An IRI is neither taken for a literal nor for a count. -/
theorem readExplicit_iri {i : Iri} (h : (Iri.parse? i.text).isSome) :
    readExplicit i.text.toList = .iri i ∧ Count.read? i.text.toList = none := by
  obtain ⟨c, cs, htext, hletter⟩ := Iri.exists_cons_of_parse? h
  constructor
  · rw [readExplicit_of_ne, String.ofList_toList, Iri.parse?_text h]
    · rfl
    · intro quoted hquoted
      rw [htext] at hquoted
      cases hquoted
      exact absurd hletter (by decide)
  · have hplus : c ≠ '+' := by
      rintro rfl
      exact absurd hletter (by decide)
    have hdigit : c.isDigit = false := by
      rw [LanguageTag.isAlpha_iff] at hletter
      rw [Bool.eq_false_iff, ne_eq, LanguageTag.isDigit_iff]
      omega
    rw [htext]
    unfold Count.read?
    split
    · next rest heq => exact absurd (List.cons.inj heq).1 hplus
    · simp [hdigit]

theorem stripped_eq_self {name : List Char} (hopen : '<' ∉ name) (hclose : '>' ∉ name) : stripped name = name := by
  have hfront : name.dropWhile (· = '<') = name := dropWhile_eq_self fun c hc => decide_eq_false fun he =>
    hopen (he ▸ List.mem_of_mem_head? hc)
  have hback : name.reverse.dropWhile (· = '>') = name.reverse := dropWhile_eq_self fun c hc => decide_eq_false fun he =>
    hclose (List.mem_reverse.mp (he ▸ List.mem_of_mem_head? hc))
  rw [stripped, hfront, hback, List.reverse_reverse]

theorem isRestored_of_isWellFormed {l : Literal} (h : (Term.literal l).isWellFormed) : IsRestored l := by
  cases l with
  | plain v => exact isRestored_plain v
  | tagged v language =>
    simp only [Term.isWellFormed, Bool.and_eq_true, decide_eq_true_eq] at h
    obtain ⟨htag, hlower⟩ := h
    have hquote : '"' ∉ language.toList := fun hc => absurd (LanguageTag.isAlphanum_of_isWellFormed htag _ hc) (by decide)
    have hrestored := isRestored_tagged (v := v) hquote htag
    rwa [hlower, String.ofList_toList] at hrestored
  | typed v datatype =>
    have hcharacter := Iri.isCharacter_of_parse? h
    have hstripped : stripped datatype.iri.text.toList = datatype.iri.text.toList :=
      stripped_eq_self (fun hc => absurd (hcharacter _ hc) (by decide)) fun hc => absurd (hcharacter _ hc) (by decide)
    have hquote : '"' ∉ datatype.iri.text.toList := fun hc => absurd (hcharacter _ hc) (by decide)
    have hrestored := isRestored_ofDatatype (v := v) (d := datatype.iri) hquote (by
      rw [hstripped, String.ofList_toList]
      exact Iri.parse?_text h)
    have htyped : Literal.ofDatatype v datatype.iri = .typed v datatype := dif_neg datatype.ne_string
    rwa [htyped] at hrestored

/-- In explicit representation exactly the well-formed terms are written as a text from which they are read back,
    whatever property the variable is mapped to. -/
theorem written_term_is_read_iff {t : SearchTemplate} (ht : t.representation = .explicit) (p : Iri) (v : Term) :
    (∃ s, t.writeValue? v = some s ∧ t.readValue p s.toList = v) ↔ v.isWellFormed := by
  constructor
  · rintro ⟨s, -, rfl⟩
    by_cases hcount : (choosesPage p && (Count.read? s.toList).isSome) = true
    · rw [readValue, if_pos hcount]
      exact isWellFormed_ofDatatype (by decide +kernel)
    · rw [readValue_explicit ht hcount]
      exact isWellFormed_readExplicit s.toList
  · intro hv
    cases v with
    | iri i =>
      obtain ⟨hread, hcount⟩ := readExplicit_iri hv
      refine ⟨i.text, rfl, ?_⟩
      rw [readValue_explicit ht (by simp [hcount]), hread]
    | blank label => cases hv
    | literal l => exact exists_writeValue_literal ht (isRestored_of_isWellFormed hv)

/-- Terms that look like others once they are written. -/
def confusing : List Term := [
  .iri ⟨"http://example.org/a@en"⟩,
  .literal (.plain ""),
  .literal (.plain "17"),
  .literal (.plain "http://example.org/a"),
  .literal (.plain "\"a\"@en"),
  .literal (.plain "100% \"^^http://example.org/b"),
  .literal (.tagged "\"a\"@de" "en-gb"),
  .literal (.ofDatatype "1\"^^<" Xsd.integer)]

theorem confusing_terms_are_read :
    let t : SearchTemplate := { template := "http://example.org/books{?page}", representation := .explicit }
    ∀ v ∈ confusing, ∃ s, t.writeValue? v = some s ∧ t.readValue Hydra.pageIndex s.toList = v := by
  intro t v hv
  have hwellFormed : confusing.all Term.isWellFormed := by decide +kernel
  exact (written_term_is_read_iff rfl Hydra.pageIndex v).mpr (List.all_eq_true.mp hwellFormed v hv)

end SearchTemplate
end CollectionQuery
