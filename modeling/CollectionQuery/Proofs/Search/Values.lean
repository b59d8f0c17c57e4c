import CollectionQuery.Proofs.Text.Decimal
import CollectionQuery.Proofs.Text.LanguageTag
import CollectionQuery.Search.Template

/-! Values that are read, written and read again. In basic representation a value is written as it was read. In explicit
    representation it may be written in another way, with quotes and a tag in lower case, but denotes the same term. -/

namespace CollectionQuery
open Text

namespace SearchTemplate

/-! ### Quoted values -/

/-- What stands behind the closing quote of a literal. -/
def suffixOf : Literal → List Char
  | .plain _ => []
  | .tagged _ language => '@' :: language.toList
  | .typed _ datatype => '^' :: '^' :: datatype.iri.text.toList

theorem toList_writeExplicit (l : Literal) :
    (writeExplicit l).toList = '"' :: (l.lexical.toList ++ '"' :: suffixOf l) := by
  cases l <;> simp [writeExplicit, suffixOf, Literal.lexical]

theorem cutLast?_append {c : Char} {back : List Char} (h : c ∉ back) (front : List Char) :
    cutLast? c (front ++ c :: back) = some (front, back) := by
  induction front with
  | nil => simp [cutLast?, cutLast?_eq_none_iff.mpr h]
  | cons x front ih => simp [cutLast?, ih]

theorem readSuffix_nil (lexical : List Char) : readSuffix lexical [] = .plain (String.ofList lexical) := rfl

theorem readSuffix_tag (lexical tag : List Char) :
    readSuffix lexical ('@' :: tag) =
      if LanguageTag.isWellFormed tag then .tagged (String.ofList lexical) (String.ofList (LanguageTag.lower tag))
      else .plain (String.ofList lexical) := rfl

/-- A name without the angle brackets around it. -/
def stripped (name : List Char) : List Char := ((name.dropWhile (· = '<')).reverse.dropWhile (· = '>')).reverse

theorem readSuffix_datatype (lexical name : List Char) :
    readSuffix lexical ('^' :: '^' :: name) =
      ((Iri.parse? (String.ofList (stripped name))).map (Literal.ofDatatype (String.ofList lexical))).getD
        (.plain (String.ofList lexical)) := by
  unfold readSuffix
  split
  · next h => exact absurd (List.cons.inj h).1 (by decide)
  · next name' h =>
    obtain rfl : name = name' := by simpa using h
    rw [stripped]
    dsimp only
    split
    · next d hd => rw [hd]; rfl
    · next hd => rw [hd]; rfl
  · next h => exact absurd rfl (h name)

/-- The literal is read again from its text and its suffix. -/
structure IsRestored (l : Literal) : Prop where
  quote_notMem : '"' ∉ suffixOf l
  readSuffix_eq : readSuffix l.lexical.toList (suffixOf l) = l

theorem isRestored_plain (v : String) : IsRestored (.plain v) where
  quote_notMem := List.not_mem_nil
  readSuffix_eq := by
    rw [suffixOf, readSuffix_nil, Literal.lexical, String.ofList_toList]

theorem isRestored_tagged {v : String} {tag : List Char} (hquote : '"' ∉ tag) (h : LanguageTag.isWellFormed tag) :
    IsRestored (.tagged v (String.ofList (LanguageTag.lower tag))) where
  quote_notMem := by
    rw [suffixOf, String.toList_ofList, List.mem_cons, LanguageTag.lower, List.mem_map]
    rintro (hc | ⟨c, hc, hl⟩)
    · exact absurd hc (by decide)
    · rw [LanguageTag.toLower_eq_iff (by decide)] at hl
      exact hquote (hl ▸ hc)
  readSuffix_eq := by
    rw [suffixOf, readSuffix_tag, String.toList_ofList, LanguageTag.isWellFormed_lower, if_pos h,
      LanguageTag.lower_lower, Literal.lexical, String.ofList_toList]

/-! ### Datatypes -/

theorem dropWhile_eq_self {p : Char → Bool} {cs : List Char} (h : ∀ c ∈ cs.head?, p c = false) : cs.dropWhile p = cs := by
  cases cs with
  | nil => rfl
  | cons c cs => exact List.dropWhile_cons_of_neg (by simp [h c rfl])

theorem head?_dropWhile {p : Char → Bool} {cs : List Char} {c : Char} (h : c ∈ (cs.dropWhile p).head?) : p c = false := by
  have := List.head?_dropWhile_not p cs
  rw [h] at this
  exact this

theorem stripped_stripped (name : List Char) : stripped (stripped name) = stripped name := by
  have hprefix : stripped name <+: name.dropWhile (· = '<') := by
    have := List.reverse_prefix.mpr (List.dropWhile_suffix (l := (name.dropWhile (· = '<')).reverse) (· = '>'))
    rwa [List.reverse_reverse] at this
  have hfront : (stripped name).dropWhile (· = '<') = stripped name := by
    refine dropWhile_eq_self fun c hc => ?_
    obtain ⟨rest, hrest⟩ := hprefix
    have hhead : c ∈ (name.dropWhile (· = '<')).head? := by
      rw [← hrest, List.head?_append, hc]
      rfl
    exact head?_dropWhile hhead
  rw [stripped, hfront, stripped, List.reverse_reverse, dropWhile_eq_self fun c hc => head?_dropWhile hc]

theorem text_of_parse? {text : String} {i : Iri} (h : Iri.parse? text = some i) : i.text = text := by
  unfold Iri.parse? at h
  simp only [Option.ite_none_right_eq_some, Option.some.injEq] at h
  rw [← h.2]

theorem mem_of_mem_stripped {c : Char} {name : List Char} (h : c ∈ stripped name) : c ∈ name := by
  have h₁ := (List.dropWhile_sublist _).mem (List.mem_reverse.mp h)
  exact (List.dropWhile_sublist _).mem (List.mem_reverse.mp h₁)

theorem isRestored_ofDatatype {v : String} {name : List Char} {d : Iri} (hquote : '"' ∉ name)
    (h : Iri.parse? (String.ofList (stripped name)) = some d) : IsRestored (.ofDatatype v d) := by
  have htext : d.text.toList = stripped name := by rw [text_of_parse? h, String.toList_ofList]
  unfold Literal.ofDatatype
  split
  · exact isRestored_plain v
  · next hd =>
    refine ⟨?_, ?_⟩
    · rw [suffixOf, htext, List.mem_cons, List.mem_cons]
      rintro (hc | hc | hc)
      · exact absurd hc (by decide)
      · exact absurd hc (by decide)
      · exact hquote (mem_of_mem_stripped hc)
    · rw [suffixOf, htext, readSuffix_datatype, stripped_stripped, h, Literal.lexical, String.ofList_toList]
      exact dif_neg hd

theorem isRestored_readSuffix {suffix : List Char} (h : '"' ∉ suffix) (lexical : List Char) :
    IsRestored (readSuffix lexical suffix) := by
  unfold readSuffix
  split
  · next tag =>
    split
    · next ht => exact isRestored_tagged (fun hm => h (List.mem_cons_of_mem _ hm)) ht
    · exact isRestored_plain _
  · next name =>
    dsimp only
    split
    · next d hd =>
      exact isRestored_ofDatatype (fun hm => h (List.mem_cons_of_mem _ (List.mem_cons_of_mem _ hm))) hd
    · exact isRestored_plain _
  · exact isRestored_plain _

theorem isRestored_integer (v : String) : IsRestored (.ofDatatype v Xsd.integer) := by
  have hquote : '"' ∉ Xsd.integer.text.toList := by decide
  have hparse : Iri.parse? (String.ofList (stripped Xsd.integer.text.toList)) = some Xsd.integer := by decide +kernel
  exact isRestored_ofDatatype hquote hparse

/-! ### Explicit representation -/

theorem readExplicit_quote (quoted : List Char) :
    readExplicit ('"' :: quoted) = .literal (((cutLast? '"' quoted).map fun x => readSuffix x.1 x.2).getD
      (.plain (String.ofList ('"' :: quoted)))) := by
  unfold readExplicit
  split
  · next quoted' h =>
    obtain rfl : quoted = quoted' := by simpa using h
    split
    · next lexical suffix hcut => rw [hcut, Option.map_some, Option.getD_some]
    · next hcut => rw [hcut, Option.map_none, Option.getD_none]
  · next h => exact absurd rfl (h quoted)

theorem readExplicit_of_ne {w : List Char} (h : ∀ quoted, w ≠ '"' :: quoted) :
    readExplicit w = ((Iri.parse? (String.ofList w)).map Term.iri).getD (.literal (.plain (String.ofList w))) := by
  unfold readExplicit
  split
  · next quoted => exact absurd rfl (h quoted)
  · dsimp only
    split
    · next i hi => rw [hi]; rfl
    · next hi => rw [hi]; rfl

section Explicit
variable {t : SearchTemplate} (ht : t.representation = .explicit) {p : Iri}
include ht

theorem readValue_explicit {w : List Char} (h : ¬(choosesPage p && (Count.read? w).isSome) = true) :
    t.readValue p w = readExplicit w := by
  rw [readValue, if_neg h, ht]

theorem readValue_writeExplicit {l : Literal} (h : IsRestored l) : t.readValue p (writeExplicit l).toList = .literal l := by
  have hcount (cs : List Char) : Count.read? ('"' :: cs) = none := by simp [Count.read?]
  rw [toList_writeExplicit, readValue_explicit ht (by simp [hcount]), readExplicit_quote,
    cutLast?_append h.quote_notMem, Option.map_some, Option.getD_some, h.readSuffix_eq]

theorem exists_writeValue_literal {l : Literal} (h : IsRestored l) :
    ∃ s, t.writeValue? (.literal l) = some s ∧ t.readValue p s.toList = .literal l := by
  refine ⟨writeExplicit l, ?_, readValue_writeExplicit ht h⟩
  rw [writeValue?, ht]

/-- What a value in explicit representation denotes can be written. -/
theorem exists_writeValue_readExplicit {w : List Char} (h : ¬(choosesPage p && (Count.read? w).isSome) = true) :
    ∃ s, t.writeValue? (readExplicit w) = some s ∧ t.readValue p s.toList = readExplicit w := by
  by_cases hquote : ∃ quoted, w = '"' :: quoted
  · obtain ⟨quoted, rfl⟩ := hquote
    rw [readExplicit_quote]
    refine exists_writeValue_literal ht ?_
    cases hcut : cutLast? '"' quoted with
    | none => exact isRestored_plain _
    | some x => exact isRestored_readSuffix (not_mem_of_cutLast? hcut) x.1
  · have hread := readExplicit_of_ne fun quoted hw => hquote ⟨quoted, hw⟩
    cases hi : Iri.parse? (String.ofList w) with
    | none =>
      rw [hread, hi]
      exact exists_writeValue_literal ht (isRestored_plain _)
    | some i =>
      refine ⟨String.ofList w, ?_, ?_⟩
      · rw [hread, hi]
        exact congrArg some (text_of_parse? hi)
      · rw [String.toList_ofList, readValue_explicit ht h]

end Explicit

/-! ### Basic representation -/

theorem writeValue_readBasic {t : SearchTemplate} (ht : t.representation = .basic) (w : List Char) :
    t.writeValue? (readBasic w) = some (String.ofList w) := by
  have hplain : t.writeValue? (.literal (.plain (String.ofList w))) = some (String.ofList w) := by
    rw [writeValue?, ht]
    rfl
  unfold readBasic
  dsimp only
  split
  · next i hi =>
    split
    · exact congrArg some (text_of_parse? hi)
    · exact hplain
  · exact hplain

/-! ### Both representations -/

/-- What a value denotes can be written, and then denotes the same. -/
theorem exists_writeValue_readValue (t : SearchTemplate) (p : Iri) (w : List Char) :
    ∃ s, t.writeValue? (t.readValue p w) = some s ∧ t.readValue p s.toList = t.readValue p w := by
  cases ht : t.representation with
  | basic =>
    refine ⟨String.ofList w, ?_, by rw [String.toList_ofList]⟩
    rw [readValue]
    split
    · rw [writeValue?, ht]
      exact congrArg some (Literal.lexical_ofDatatype _ _)
    · rw [ht]
      exact writeValue_readBasic ht w
  | explicit =>
    by_cases h : (choosesPage p && (Count.read? w).isSome) = true
    · have hread : t.readValue p w = .literal (.ofDatatype (String.ofList w) Xsd.integer) := by rw [readValue, if_pos h]
      rw [hread]
      exact exists_writeValue_literal ht (isRestored_integer _)
    · rw [readValue_explicit ht h]
      exact exists_writeValue_readExplicit ht h

/-- A page index denotes its number. -/
theorem readValue_pageIndex (t : SearchTemplate) {n : Nat} (h : n ≤ Count.largest) :
    t.readValue Hydra.pageIndex (toString n).toList = .literal (.ofNat n) := by
  rw [readValue, if_pos (by rw [Count.read?_toString h]; rfl), String.ofList_toList]
  rfl

end SearchTemplate
end CollectionQuery
