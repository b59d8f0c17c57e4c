import CollectionQuery.Proofs.Iri.Characters
import CollectionQuery.Proofs.Template.Query

/-! The characters of expansions. A template that is a path and then a query of variables expands to the path and a query
    of names, equals signs, ampersands, commas and encoded values, whatever the values are. -/

namespace CollectionQuery
namespace Template
open Text Text.Percent

/-! ### Plain variables -/

namespace WrittenVariable

/-- The name consists of letters, digits and underscores, and a length of digits. -/
def isPlain (v : WrittenVariable) : Bool :=
  (v.name.all fun c => c.isAlphanum || c = '_') && v.digits.all Char.isDigit

variable {v : WrittenVariable} (h : v.isPlain)
include h

theorem isUnreserved_of_mem_name : ∀ c ∈ v.name, isUnreserved c := by
  intro c hc
  have hname := List.all_eq_true.mp (Bool.and_eq_true_iff.mp h).1 c hc
  rw [Bool.or_eq_true, decide_eq_true_eq] at hname
  rcases hname with hc | rfl
  · exact Reference.isUnreserved_of_isAlphanum hc
  · decide

theorem isDigit_of_mem_digits : ∀ c ∈ v.digits, c.isDigit := List.all_eq_true.mp (Bool.and_eq_true_iff.mp h).2

theorem isReadable_of_isPlain : v.IsReadable := fun c hc => isOrdinary_of_isUnreserved <| by
  rcases List.mem_append.mp hc with hc | hc
  · exact isUnreserved_of_mem_name h c hc
  · exact Reference.isUnreserved_of_isDigit (isDigit_of_mem_digits h c hc)

end WrittenVariable

/-! ### Expansions -/

/-- The characters of queries beside those of triplets. -/
def inPairs (c : Char) : Bool := isUnreserved c || c = '=' || c = '&' || c = ','

theorem inPairs_of_isUnreserved {c : Char} (h : isUnreserved c) : inPairs c := by simp [inPairs, h]

theorem inQuery_of_inPairs {c : Char} (h : inPairs c) : Reference.inQuery c := by
  simp only [inPairs, Bool.or_eq_true, decide_eq_true_eq] at h
  rcases h with ((h | rfl) | rfl) | rfl
  · exact Reference.inQuery_of_inUser (Reference.inUser_of_isUnreserved h)
  all_goals decide

theorem isMadeOf_pair {name value : List Char} (hname : Reference.isMadeOf inPairs name)
    (hvalue : Reference.isMadeOf inPairs value) : Reference.isMadeOf inPairs (Operator.query.pair name value) := by
  rw [Operator.pair]
  refine Reference.isMadeOf_append (by decide) hname ?_
  split
  · decide
  · rw [Reference.isMadeOf_cons (by decide), hvalue]
    rfl

theorem isMadeOf_expandSpec {spec : VarSpec} (hname : ∀ c ∈ spec.name, isUnreserved c) {values : List (List Char)}
    {expansion : List Char} (h : expandSpec .query spec values = some expansion) :
    Reference.isMadeOf inPairs expansion := by
  have hname : Reference.isMadeOf inPairs spec.name :=
    Reference.isMadeOf_of_all (by decide) fun c hc => inPairs_of_isUnreserved (hname c hc)
  have hencoded : ∀ e ∈ values.map fun value => Operator.query.encode (truncate spec.limit value),
      Reference.isMadeOf inPairs e := by
    rw [List.forall_mem_map]
    exact fun value _ => Reference.isMadeOf_encode (by decide) (fun c => inPairs_of_isUnreserved) _
  unfold expandSpec at h
  generalize (values.map fun value => Operator.query.encode (truncate spec.limit value)) = encoded at h hencoded
  split at h
  · cases h
  · next value =>
    cases h
    exact isMadeOf_pair hname (hencoded value List.mem_cons_self)
  · split at h
    · cases h
      refine Reference.isMadeOf_intercalate (by decide) (by decide) ?_
      rw [List.forall_mem_map]
      exact fun value hvalue => isMadeOf_pair hname (hencoded value hvalue)
    · cases h
      refine Reference.isMadeOf_append (by decide) (Reference.isMadeOf_append (by decide) hname (by decide)) ?_
      exact Reference.isMadeOf_intercalate (by decide) (by decide) hencoded

/-- The expansion of a query is empty or a question mark and pairs. -/
theorem exists_expandExpression {specs : List Char} (h : ∀ spec ∈ readSpecs specs, ∀ c ∈ spec.name, isUnreserved c)
    (values : List Char → List (List Char)) : ∃ query : Option (List Char),
      expandExpression values ('?' :: specs) = query.elim [] ('?' :: ·) ∧ ∀ q ∈ query, Reference.isMadeOf inPairs q := by
  let expansions := (readSpecs specs).filterMap fun spec => expandSpec .query spec (values spec.name)
  have hexpression : expandExpression values ('?' :: specs) = Operator.query.combine expansions := rfl
  rw [hexpression, Operator.combine]
  split
  · exact ⟨none, rfl, fun q hq => absurd hq (Option.not_mem_none q)⟩
  · refine ⟨some (['&'].intercalate expansions), rfl, ?_⟩
    rintro q ⟨⟩
    refine Reference.isMadeOf_intercalate (by decide) (by decide) fun expansion hexpansion => ?_
    obtain ⟨spec, hspec, hexpansion⟩ := List.mem_filterMap.mp hexpansion
    exact isMadeOf_expandSpec (h spec hspec) hexpansion

/-- The expansion is the path and perhaps a query, whatever the values are. -/
theorem exists_expand_pathQuery {path : List Char} (hpath : '{' ∉ path) {vs : List WrittenVariable} (hne : vs ≠ [])
    (h : ∀ v ∈ vs, v.isPlain) (values : List Char → List (List Char)) : ∃ query : Option (List Char),
      expand (pathQuery path vs) values = path ++ query.elim [] ('?' :: ·) ∧
        ∀ q ∈ query, Reference.isMadeOf inPairs q := by
  have hreadable : ∀ v ∈ vs, v.IsReadable := fun v hv => WrittenVariable.isReadable_of_isPlain (h v hv)
  have hnames : ∀ spec ∈ readSpecs (WrittenVariable.joined vs), ∀ c ∈ spec.name, isUnreserved c := by
    rw [readSpecs_joined hreadable hne, List.forall_mem_map]
    intro v hv
    rw [WrittenVariable.name_meaning]
    exact WrittenVariable.isUnreserved_of_mem_name (h v hv)
  obtain ⟨query, hexpression, hquery⟩ := exists_expandExpression hnames values
  refine ⟨query, ?_, hquery⟩
  rw [expand, parts_pathQuery hpath hreadable]
  simp only [List.flatMap_cons, List.flatMap_nil, Part.expand, List.append_nil, hexpression]

end Template
end CollectionQuery
