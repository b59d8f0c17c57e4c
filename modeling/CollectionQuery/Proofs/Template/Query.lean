import CollectionQuery.Proofs.Template.Variable

/-! Templates that end in a query: literal text and one expression with the operator `?`. Their expansion is the text
    and, behind a question mark, one piece for each value of a variable. -/

namespace CollectionQuery
namespace Template
open Text

/-- The operator of queries, `?`. -/
def Operator.query : Operator := ⟨['?'], ['&'], true, ['='], false⟩

/-- A variable without a length, as it is written. -/
def VarSpec.written (s : VarSpec) : WrittenVariable := ⟨s.name, if s.explode then .exploded else .plain⟩

/-- The name of the variable consists of letters, digits and underscores, and its values are taken whole. -/
structure VarSpec.IsPlain (s : VarSpec) : Prop where
  name : ∀ c ∈ s.name, c.isAlphanum ∨ c = '_'
  limit : s.limit = none

/-- The name of the variable stands in a query as it is, and its values are taken whole. -/
structure VarSpec.IsWhole (s : VarSpec) : Prop where
  name : ∀ c ∈ s.name, Percent.isUnreserved c
  limit : s.limit = none

/-- The variable whose values are written one by one, each behind the name. -/
def VarSpec.exploded (name : List Char) : VarSpec := ⟨name, true, none⟩

/-- The texts that a variable writes behind its name: one for each value, or all values joined by commas. -/
def VarSpec.texts (s : VarSpec) (values : List (List Char)) : List (List Char) :=
  if s.explode then values else if values = [] then [] else [[','].intercalate values]

/-- The text of a template with the given literal text and, in a query, the given variables. -/
def pathQuery (base : List Char) (vs : List WrittenVariable) : List Char :=
  base ++ '{' :: '?' :: WrittenVariable.joined vs ++ ['}']

/-- The text of a template of variables without a length. -/
def query (base : List Char) (specs : List VarSpec) : List Char := pathQuery base (specs.map VarSpec.written)

/-! ### Variables -/

namespace VarSpec

theorem IsPlain.of_all {s : VarSpec} (hname : s.name.all fun c => c.isAlphanum || c = '_') (hlimit : s.limit = none) :
    s.IsPlain :=
  ⟨fun c hc => by simpa using List.all_eq_true.mp hname c hc, hlimit⟩

theorem isWhole_exploded {name : List Char} (h : name.all Percent.isUnreserved) : (exploded name).IsWhole :=
  ⟨List.all_eq_true.mp h, rfl⟩

theorem IsPlain.isWhole {s : VarSpec} (h : s.IsPlain) : s.IsWhole where
  name c hc := by
    rcases h.name c hc with hc | rfl
    · simp [Percent.isUnreserved, hc]
    · decide
  limit := h.limit

theorem IsWhole.isReadable {s : VarSpec} (h : s.IsWhole) : s.written.IsReadable := by
  have hdigits : s.written.digits = [] := by
    unfold written WrittenVariable.digits
    cases s.explode <;> rfl
  intro c hc
  rw [hdigits, List.append_nil] at hc
  exact isOrdinary_of_isUnreserved (h.name c hc)

theorem IsWhole.meaning_written {s : VarSpec} (h : s.IsWhole) : s.written.meaning = s := by
  obtain ⟨name, explode, limit⟩ := s
  obtain rfl : limit = none := h.limit
  cases explode <;> rfl

end VarSpec

section Whole
variable {specs : List VarSpec} (h : ∀ s ∈ specs, s.IsWhole)
include h

theorem isReadable_of_mem_written : ∀ v ∈ specs.map VarSpec.written, v.IsReadable :=
  List.forall_mem_map.mpr fun s hs => (h s hs).isReadable

theorem readSpecs_written (hne : specs ≠ []) :
    readSpecs (WrittenVariable.joined (specs.map VarSpec.written)) = specs := by
  rw [readSpecs_joined (isReadable_of_mem_written h) (by simpa using hne), List.map_map]
  exact (List.map_congr_left fun s hs => (h s hs).meaning_written).trans (List.map_id specs)

end Whole

/-! ### Parts -/

theorem partsFrom_append {text : List Char} (h : '{' ∉ text) (done rest : List Char) :
    partsFrom false done (text ++ rest) = partsFrom false (text.reverse ++ done) rest := by
  induction text generalizing done with
  | nil => rfl
  | cons c text ih =>
    rw [List.cons_append, partsFrom, if_neg (List.ne_of_not_mem_cons h).symm,
      ih fun hm => h (List.mem_cons_of_mem c hm)]
    simp

theorem partsFrom_false {text done : List Char} (h : '{' ∉ text) (rest : List Char) :
    partsFrom false done (text ++ '{' :: rest) = .literal (done.reverse ++ text) :: partsFrom true [] rest := by
  rw [partsFrom_append h, partsFrom, if_pos rfl, List.reverse_append, List.reverse_reverse]

theorem partsFrom_true {body done : List Char} (h : '}' ∉ body) (rest : List Char) :
    partsFrom true done (body ++ '}' :: rest) = .expression (done.reverse ++ body) :: partsFrom false [] rest := by
  induction body generalizing done with
  | nil => simp [partsFrom]
  | cons c body ih =>
    rw [List.cons_append, partsFrom, if_neg (List.ne_of_not_mem_cons h).symm,
      ih fun hm => h (List.mem_cons_of_mem c hm)]
    simp

/-- One expression behind a text. -/
theorem parts_expression {base body : List Char} (hbase : '{' ∉ base) (hbody : '}' ∉ body) :
    parts (base ++ '{' :: body ++ ['}']) = [.literal base, .expression body, .literal []] := by
  rw [parts, List.append_assoc, List.cons_append, partsFrom_false hbase, partsFrom_true hbody]
  rfl

theorem parts_pathQuery {base : List Char} (hbase : '{' ∉ base) {vs : List WrittenVariable}
    (h : ∀ v ∈ vs, v.IsReadable) :
    parts (pathQuery base vs) = [.literal base, .expression ('?' :: WrittenVariable.joined vs), .literal []] :=
  parts_expression hbase (List.not_mem_cons_of_ne_of_not_mem (by decide) (brace_notMem_joined h))

/-! ### Expansion -/

/-- The pairs that an expansion writes, their values encoded. -/
def encodedPairs (specs : List VarSpec) (values : List Char → List (List Char)) : List (List Char × List Char) :=
  specs.flatMap fun s => (s.texts ((values s.name).map Percent.encode)).map fun v => (s.name, v)

theorem intercalate_cons_eq_flatMap {α : Type} (sep : List α) (xs : List α) (xss : List (List α)) :
    sep.intercalate (xs :: xss) = xs ++ xss.flatMap (sep ++ ·) := by
  induction xss generalizing xs with
  | nil => simp
  | cons ys yss ih => simp [List.intercalate_cons_of_ne_nil (List.cons_ne_nil ys yss), ih]

theorem intercalate_append {α : Type} {sep : List α} {xss yss : List (List α)} (hx : xss ≠ []) (hy : yss ≠ []) :
    sep.intercalate (xss ++ yss) = sep.intercalate xss ++ sep ++ sep.intercalate yss := by
  obtain ⟨xs, xss, rfl⟩ := List.exists_cons_of_ne_nil hx
  obtain ⟨ys, yss, rfl⟩ := List.exists_cons_of_ne_nil hy
  simp [intercalate_cons_eq_flatMap]

/-- Groups of items are put together like all items at once. -/
theorem intercalate_groups {α β : Type} (sep : List α) (f : β → List (List α)) (bs : List β) :
    let groups := bs.filterMap fun b => if f b = [] then none else some (sep.intercalate (f b))
    (groups = [] ↔ bs.flatMap f = []) ∧ sep.intercalate groups = sep.intercalate (bs.flatMap f) := by
  induction bs with
  | nil => exact ⟨Iff.rfl, rfl⟩
  | cons b bs ih =>
    obtain ⟨hnil, heq⟩ := ih
    by_cases hb : f b = []
    · simp only [List.filterMap_cons, hb, if_true, List.flatMap_cons, List.nil_append]
      exact ⟨hnil, heq⟩
    · simp only [List.filterMap_cons, hb, if_false, List.flatMap_cons, List.append_eq_nil_iff, false_and,
        List.cons_ne_nil, true_and]
      by_cases hbs : bs.flatMap f = []
      · rw [hnil.mpr hbs, hbs, List.append_nil, List.intercalate_singleton]
      · rw [List.intercalate_cons_of_ne_nil (mt hnil.mp hbs), heq, intercalate_append hb hbs]

theorem combine_groups {β : Type} (f : β → List (List Char)) (bs : List β) :
    Operator.query.combine (bs.filterMap fun b => if f b = [] then none else some (['&'].intercalate (f b))) =
      if bs.flatMap f = [] then [] else '?' :: ['&'].intercalate (bs.flatMap f) := by
  obtain ⟨hnil, heq⟩ := intercalate_groups ['&'] f bs
  rw [Operator.combine]
  by_cases h : bs.flatMap f = []
  · rw [if_pos (List.isEmpty_iff.mpr (hnil.mpr h)), if_pos h]
  · rw [if_neg (mt (hnil.mp ∘ List.isEmpty_iff.mp) h), if_neg h, ← heq]
    rfl

/-- A variable is written as one piece for each of its texts. -/
theorem expandSpec_query {s : VarSpec} (h : s.IsWhole) (values : List (List Char)) :
    expandSpec .query s values =
      let pieces := (s.texts (values.map Percent.encode)).map fun v => Form.piece (s.name, v)
      if pieces = [] then none else some (['&'].intercalate pieces) := by
  have hencode (v : List Char) : Operator.query.encode (truncate s.limit v) = Percent.encode v := by
    rw [h.limit]
    rfl
  have hpair (v : List Char) : Operator.query.pair s.name v = Form.piece (s.name, v) := by
    rw [Operator.pair, Form.piece]
    cases v <;> rfl
  unfold expandSpec VarSpec.texts
  simp only [hencode, funext hpair]
  generalize values.map Percent.encode = encoded
  -- A single value is written alike with and without an asterisk.
  rcases encoded with _ | ⟨v, _ | ⟨w, vs⟩⟩
  · simp
  · simp
  · cases s.explode with
    | true => simp [Operator.query]
    | false => simp [Form.piece, Operator.query]

/-- The expansion of a query template: its literal text and the pairs behind a question mark, if there are any. -/
theorem expand_query {base : List Char} (hbase : '{' ∉ base) {specs : List VarSpec} (hne : specs ≠ [])
    (h : ∀ s ∈ specs, s.IsWhole) (values : List Char → List (List Char)) :
    expand (query base specs) values = base ++
      if encodedPairs specs values = [] then []
      else '?' :: ['&'].intercalate ((encodedPairs specs values).map Form.piece) := by
  let pieces (s : VarSpec) : List (List Char) :=
    (s.texts ((values s.name).map Percent.encode)).map fun v => Form.piece (s.name, v)
  have hgroups : (specs.filterMap fun s => expandSpec .query s (values s.name)) = specs.filterMap fun s =>
      if pieces s = [] then none else some (['&'].intercalate (pieces s)) :=
    List.filterMap_congr fun s hs => expandSpec_query (h s hs) (values s.name)
  have hpieces : specs.flatMap pieces = (encodedPairs specs values).map Form.piece := by
    simp [pieces, encodedPairs, List.map_flatMap, Function.comp_def]
  have hexpression : expandExpression values ('?' :: WrittenVariable.joined (specs.map VarSpec.written)) =
      Operator.query.combine ((readSpecs (WrittenVariable.joined (specs.map VarSpec.written))).filterMap fun s =>
        expandSpec .query s (values s.name)) := rfl
  rw [readSpecs_written h hne, hgroups, combine_groups, hpieces] at hexpression
  rw [expand, query, parts_pathQuery hbase (isReadable_of_mem_written h)]
  simp only [List.flatMap_cons, List.flatMap_nil, Part.expand, List.append_nil, hexpression, List.map_eq_nil_iff]

/-! ### Query -/

/-- The text behind the first question mark of a link, empty if there is none. -/
def queryOf (link : List Char) : List Char := ((cut? '?' link).map (·.2)).getD []

/-- The pairs that are read from the query of an expansion. -/
def queryPairs (specs : List VarSpec) (values : List Char → List (List Char)) : List (List Char × List Char) :=
  specs.flatMap fun s => (s.texts (values s.name)).map fun v => (s.name, v)

theorem VarSpec.map_decode_texts (s : VarSpec) (values : List (List Char)) :
    (s.texts (values.map Percent.encode)).map Form.decode = s.texts values := by
  unfold texts
  split
  · simp [Form.decode_encode, Function.comp_def]
  · by_cases h : values = []
    · simp [h]
    · simp [h, Form.decode_intercalate]

section QueryOf
variable {base : List Char} {specs : List VarSpec} {values : List Char → List (List Char)}

theorem queryOf_expand (hbase : '{' ∉ base) (hmark : '?' ∉ base) (hne : specs ≠ []) (h : ∀ s ∈ specs, s.IsWhole) :
    queryOf (expand (query base specs) values) = ['&'].intercalate ((encodedPairs specs values).map Form.piece) := by
  rw [expand_query hbase hne h, queryOf]
  split
  · next hpairs =>
    rw [List.append_nil, cut?_eq_none_iff.mpr hmark, hpairs]
    rfl
  · rw [cut?_append hmark]
    rfl

theorem isUnreserved_of_mem_encodedPairs (h : ∀ s ∈ specs, s.IsWhole) {x : List Char × List Char}
    (hx : x ∈ encodedPairs specs values) : ∀ c ∈ x.1, Percent.isUnreserved c := by
  obtain ⟨s, hs, hx⟩ := List.mem_flatMap.mp hx
  obtain ⟨v, -, rfl⟩ := List.mem_map.mp hx
  exact (h s hs).name

/-- Values are written with unreserved characters, percent signs and commas. -/
theorem isUnreserved_of_mem_encodedValue {x : List Char × List Char} (hx : x ∈ encodedPairs specs values) :
    ∀ c ∈ x.2, Percent.isUnreserved c ∨ c = '%' ∨ c = ',' := by
  obtain ⟨s, -, hx⟩ := List.mem_flatMap.mp hx
  obtain ⟨v, hv, rfl⟩ := List.mem_map.mp hx
  intro c hc
  have hencode {w : List Char} (hw : w ∈ (values s.name).map Percent.encode) (hcw : c ∈ w) :
      Percent.isUnreserved c ∨ c = '%' ∨ c = ',' := by
    obtain ⟨u, -, rfl⟩ := List.mem_map.mp hw
    exact (Percent.isUnreserved_of_mem_encode hcw).imp_right .inl
  unfold VarSpec.texts at hv
  split at hv
  · exact hencode hv hc
  · split at hv
    · cases hv
    · obtain rfl := List.mem_singleton.mp hv
      rcases Text.mem_intercalate hc with hc | ⟨w, hw, hc⟩
      · exact .inr (.inr (List.mem_singleton.mp hc))
      · exact hencode hw hc

/-- The query of a link does not begin with a question mark of its own. -/
theorem mark_notMem_pieces (h : ∀ s ∈ specs, s.IsWhole) :
    '?' ∉ ['&'].intercalate ((encodedPairs specs values).map Form.piece) := by
  refine notMem_intercalate (by decide) fun cs hcs hm => ?_
  obtain ⟨x, hx, rfl⟩ := List.mem_map.mp hcs
  rcases List.mem_append.mp hm with hm | hm
  · exact absurd (isUnreserved_of_mem_encodedPairs h hx _ hm) (by decide)
  · rcases List.mem_cons.mp hm with hm | hm
    · exact absurd hm (by decide)
    · exact absurd (isUnreserved_of_mem_encodedValue hx _ hm) (by decide)

/-- The pairs of an expansion are read back from it. -/
theorem pairs_intercalate_encodedPairs (h : ∀ s ∈ specs, s.IsWhole) :
    Form.pairs (['&'].intercalate ((encodedPairs specs values).map Form.piece)) = queryPairs specs values := by
  rw [Form.pairs_intercalate fun _ hx => isUnreserved_of_mem_encodedPairs h hx]
  · rw [encodedPairs, queryPairs, List.map_flatMap]
    refine List.flatMap_congr fun s _ => ?_
    rw [← VarSpec.map_decode_texts s (values s.name), List.map_map, List.map_map]
    rfl
  · exact fun x hx hm => absurd (isUnreserved_of_mem_encodedValue hx _ hm) (by decide)

end QueryOf

end Template
end CollectionQuery
