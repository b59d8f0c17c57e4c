import CollectionQuery.Proofs.Library
import CollectionQuery.Proofs.Search.Params
import CollectionQuery.Proofs.Search.Values
import CollectionQuery.Proofs.Template.Query

/-! What a link says of its search. The parameters that are read from the query of a link are those that it was made
    of, unless several values of a variable are joined by commas. -/

namespace CollectionQuery
namespace SearchTemplate
open Text Template

/-- The template is a text and a query of variables, among them all that are mapped, and each is mapped once. -/
structure IsQuery (t : SearchTemplate) (base : List Char) (specs : List VarSpec) : Prop where
  template_eq : t.template.toList = Template.query base specs
  brace_notMem : '{' ∉ base
  mark_notMem : '?' ∉ base
  plain : ∀ s ∈ specs, s.IsPlain
  nodup : (t.mappings.map (·.variableName)).Nodup
  mem_specs : ∀ m ∈ t.mappings, m.variableName.toList ∈ specs.map (·.name)

/-- The template is a text and a query of variables. -/
structure HasQuery (t : SearchTemplate) (base : List Char) (specs : List VarSpec) : Prop where
  template_eq : t.template.toList = Template.query base specs
  brace_notMem : '{' ∉ base
  mark_notMem : '?' ∉ base
  whole : ∀ s ∈ specs, s.IsWhole

theorem IsQuery.hasQuery {t : SearchTemplate} {base : List Char} {specs : List VarSpec} (h : t.IsQuery base specs) :
    t.HasQuery base specs :=
  ⟨h.template_eq, h.brace_notMem, h.mark_notMem, fun s hs => (h.plain s hs).isWhole⟩

/-- The values that a link carries for a variable of a property: all of them, or the one that they denote when they
    are joined by commas. -/
def carried (t : SearchTemplate) (params : SearchParams) (s : VarSpec) (p : Iri) : List Term :=
  if s.explode ∨ (params.values p).length ≤ 1 then params.values p
  else [t.readValue p ([','].intercalate (t.valuesOf params s.name))]

/-- The parameters that a link carries. -/
def carriedParams (t : SearchTemplate) (specs : List VarSpec) (params : SearchParams) : SearchParams :=
  .ofList (specs.flatMap fun s => (t.property? (String.ofList s.name)).toList.flatMap fun p =>
    (t.carried params s p).map fun v => (p, v))

/-- The values of the property are what texts denote. -/
def IsRead (t : SearchTemplate) (params : SearchParams) (p : Iri) : Prop :=
  ∀ v ∈ params.values p, ∃ w, t.readValue p w = v

/-! ### Mappings -/

section Mappings
variable {t : SearchTemplate} {base : List Char} {specs : List VarSpec}

theorem property?_eq_some {name : String} {p : Iri} (h : t.property? name = some p) :
    ∃ m ∈ t.mappings, m.variableName = name ∧ m.property = some p := by
  obtain ⟨m, hm, hp⟩ := Option.bind_eq_some_iff.mp h
  exact ⟨m, List.mem_of_find?_eq_some hm, by simpa using List.find?_some hm, hp⟩

theorem property?_variableName (h : (t.mappings.map (·.variableName)).Nodup) {m : Mapping} (hm : m ∈ t.mappings) :
    t.property? m.variableName = m.property := by
  obtain ⟨m', hm'⟩ : ∃ m', t.mappings.find? (fun x => x.variableName = m.variableName) = some m' :=
    Option.isSome_iff_exists.mp (List.find?_isSome.mpr ⟨m, hm, by simp⟩)
  have hname : m'.variableName = m.variableName := by simpa using List.find?_some hm'
  have heq : m' = m := List.inj_on_of_nodup_map h (List.mem_of_find?_eq_some hm') hm hname
  rw [property?, hm', heq]
  rfl

namespace IsQuery

/-- A property that is mapped has a variable in the query. -/
theorem exists_spec (h : t.IsQuery base specs) {name : String} {p : Iri} (hp : t.property? name = some p) :
    ∃ s ∈ specs, t.property? (String.ofList s.name) = some p := by
  obtain ⟨m, hm, rfl, -⟩ := property?_eq_some hp
  obtain ⟨s, hs, hname⟩ := List.mem_map.mp (h.mem_specs m hm)
  exact ⟨s, hs, by rw [hname, String.ofList_toList, hp]⟩

theorem exists_spec_pageIndex (h : t.IsQuery base specs) (hpaged : t.isPaged) :
    ∃ s ∈ specs, t.property? (String.ofList s.name) = some Hydra.pageIndex := by
  obtain ⟨m, hm⟩ := Option.isSome_iff_exists.mp hpaged
  have hp : m.property = some Hydra.pageIndex := by simpa using List.find?_some hm
  have hm := List.mem_of_find?_eq_some hm
  exact h.exists_spec ((property?_variableName h.nodup hm).trans hp)

end IsQuery
end Mappings

/-! ### Values -/

section Values
variable {t : SearchTemplate} {params : SearchParams} {p : Iri}

theorem parseQuery_of_notMem {query : List Char} (h : '?' ∉ query) :
    t.parseQuery (String.ofList query) = .ofList ((Form.pairs query).filterMap t.binding?) := by
  rw [parseQuery, String.toList_ofList]
  split
  · exact absurd List.mem_cons_self h
  · rfl

/-- The decoded pairs of a query string, with or without a question mark in front. -/
def pairsOf (query : String) : List (List Char × List Char) :=
  Form.pairs (match query.toList with
    | '?' :: rest => rest
    | cs => cs)

/-- The terms of a property that are read from the pairs with some names, each where it comes first. -/
def termsOf (t : SearchTemplate) (query : String) (p : Iri) (names : String → Bool) : List Term :=
  (((pairsOf query).filter fun x => names (String.ofList x.1)).map fun x => t.readValue p x.2).eraseDups

theorem termsOf_congr {query : String} {names names' : String → Bool}
    (h : ∀ x ∈ pairsOf query, names (String.ofList x.1) = names' (String.ofList x.1)) :
    t.termsOf query p names = t.termsOf query p names' := by
  rw [termsOf, termsOf, List.filter_congr h]

/-- A property has the terms of all its variables. -/
theorem values_parseQuery (query : String) (p : Iri) :
    (t.parseQuery query).values p = t.termsOf query p fun name => t.property? name = some p := by
  have hparse : t.parseQuery query = .ofList ((pairsOf query).filterMap t.binding?) := rfl
  rw [hparse, SearchParams.values_ofList, termsOf, List.filter_filterMap, List.map_filterMap, ← List.filterMap_eq_map,
    List.filterMap_filter]
  refine congrArg _ (List.filterMap_congr fun x _ => ?_)
  cases hq : t.property? (String.ofList x.1) with
  | none => simp [binding?, hq]
  | some q =>
    by_cases hp : q = p
    · simp [binding?, hq, hp]
    · simp [binding?, hq, hp]

/-- A value that a query gives to a property is read from a text behind the name of a variable of the property. -/
theorem exists_of_mem_values_parseQuery {query : String} {v : Term} (h : v ∈ (t.parseQuery query).values p) :
    ∃ name w, t.property? name = some p ∧ t.readValue p w = v := by
  rw [values_parseQuery, termsOf, List.mem_eraseDups] at h
  obtain ⟨x, hx, rfl⟩ := List.mem_map.mp h
  exact ⟨String.ofList x.1, x.2, by simpa using (List.mem_filter.mp hx).2, rfl⟩

theorem isRead_parseQuery (query : String) : t.IsRead (t.parseQuery query) p := fun _ hv =>
  have ⟨_, w, _, hw⟩ := exists_of_mem_values_parseQuery hv
  ⟨w, hw⟩

theorem valuesOf_eq {name : List Char} (hp : t.property? (String.ofList name) = some p) :
    t.valuesOf params name = (params.values p).filterMap fun v => (t.writeValue? v).map String.toList := by
  rw [valuesOf, hp]

/-- Each value is written, and read again as itself. -/
theorem map_readValue_valuesOf (h : t.IsRead params p) {name : List Char}
    (hp : t.property? (String.ofList name) = some p) : (t.valuesOf params name).map (t.readValue p) = params.values p := by
  rw [valuesOf_eq hp, List.map_filterMap]
  refine (List.filterMap_congr fun v hv => ?_).trans List.filterMap_some
  obtain ⟨w, rfl⟩ := h v hv
  obtain ⟨s, hs, hread⟩ := exists_writeValue_readValue t p w
  rw [hs]
  exact congrArg some hread

theorem map_readValue_texts (h : t.IsRead params p) {s : VarSpec} (hp : t.property? (String.ofList s.name) = some p) :
    (s.texts (t.valuesOf params s.name)).map (t.readValue p) = t.carried params s p := by
  have hvalues := map_readValue_valuesOf h hp
  have hlen : (params.values p).length = (t.valuesOf params s.name).length := by rw [← hvalues, List.length_map]
  rw [carried, ← hvalues, VarSpec.texts]
  generalize t.valuesOf params s.name = ws
  rcases ws with _ | ⟨w, _ | ⟨w', ws⟩⟩
  · simp
  · simp
  · cases s.explode with
    | true => simp
    | false => simp

end Values

/-! ### Parameters of a link -/

section Link
variable {t : SearchTemplate} {base : List Char} {specs : List VarSpec} {params : SearchParams}

/-- The parameters of a link are read again from its query. -/
theorem HasQuery.parseQuery_queryOf_expand (h : t.HasQuery base specs) (hne : specs ≠ [])
    (hread : ∀ p, t.IsRead params p) :
    t.parseQuery (String.ofList (queryOf (t.expand params).toList)) = t.carriedParams specs params := by
  have hquery : queryOf (t.expand params).toList =
      ['&'].intercalate ((encodedPairs specs (t.valuesOf params)).map Form.piece) := by
    rw [expand, String.toList_ofList, h.template_eq, queryOf_expand h.brace_notMem h.mark_notMem hne h.whole]
  rw [hquery, parseQuery_of_notMem (mark_notMem_pieces h.whole), pairs_intercalate_encodedPairs h.whole, queryPairs,
    carriedParams, List.filterMap_flatMap]
  -- The pairs of each variable are read as bindings of its property, or dropped if it has none.
  refine congrArg _ (List.flatMap_congr fun s _ => ?_)
  rw [List.filterMap_map]
  cases hp : t.property? (String.ofList s.name) with
  | none =>
    have hnone : t.binding? ∘ (fun v => (s.name, v)) = fun _ => none := by
      funext v
      simp [binding?, hp]
    rw [hnone, List.filterMap_none]
    rfl
  | some p =>
    have hsome : t.binding? ∘ (fun v => (s.name, v)) = some ∘ fun v => (p, t.readValue p v) := by
      funext v
      simp [binding?, hp]
    rw [hsome, List.filterMap_eq_map, Option.toList_some, List.flatMap_singleton, ← map_readValue_texts (hread p) hp,
      List.map_map]
    rfl

theorem parseQuery_queryOf_expand (h : t.IsQuery base specs) (hne : specs ≠ []) (hread : ∀ p, t.IsRead params p) :
    t.parseQuery (String.ofList (queryOf (t.expand params).toList)) = t.carriedParams specs params :=
  h.hasQuery.parseQuery_queryOf_expand hne hread

theorem values_carriedParams (params : SearchParams) (p : Iri) :
    (t.carriedParams specs params).values p =
      (specs.flatMap fun s =>
        if t.property? (String.ofList s.name) = some p then t.carried params s p else []).eraseDups := by
  rw [carriedParams, SearchParams.values_ofList, List.filter_flatMap, List.map_flatMap]
  refine congrArg _ (List.flatMap_congr fun s _ => ?_)
  cases hq : t.property? (String.ofList s.name) with
  | none => rfl
  | some q =>
    by_cases hp : q = p
    · subst hp
      simp [List.filter_map, Function.comp_def]
    · simp [hp, List.filter_map, Function.comp_def]

theorem values_carriedParams_congr {params' : SearchParams} {p : Iri} (h : params'.values p = params.values p) :
    (t.carriedParams specs params').values p = (t.carriedParams specs params).values p := by
  rw [values_carriedParams, values_carriedParams]
  refine congrArg _ (List.flatMap_congr fun s _ => ?_)
  split
  · next hp =>
    rw [carried, carried, valuesOf_eq hp, valuesOf_eq hp, h]
  · rfl

/-- A property keeps its values if none of its variables joins several by commas. -/
theorem values_carriedParams_eq_self {p : Iri}
    (hspec : params.values p ≠ [] → ∃ s ∈ specs, t.property? (String.ofList s.name) = some p)
    (h : ∀ s ∈ specs, t.property? (String.ofList s.name) = some p → s.explode ∨ (params.values p).length ≤ 1) :
    (t.carriedParams specs params).values p = params.values p := by
  have hcarried : (specs.flatMap fun s =>
        if t.property? (String.ofList s.name) = some p then t.carried params s p else []) =
      specs.flatMap fun s => if t.property? (String.ofList s.name) = some p then params.values p else [] := by
    refine List.flatMap_congr fun s hs => ?_
    split
    · next hp => rw [carried, if_pos (h s hs hp)]
    · rfl
  rw [values_carriedParams, hcarried]
  exact eraseDups_flatMap_ite (params.nodup_values p) hspec

end Link

/-! ### Queries of exploded variables -/

section Exploded
variable {t : SearchTemplate} {base : List Char} {names : List (List Char)}

/-- A link whose variables write their values one by one keeps the values of every property that it has a variable
    for, whatever query they come from. -/
theorem values_parseQuery_expand (h : t.HasQuery base (names.map .exploded)) (query : String) {name : List Char}
    (hname : name ∈ names) {p : Iri} (hp : t.property? (String.ofList name) = some p) :
    let params := t.parseQuery query
    (t.parseQuery (String.ofList (queryOf (t.expand params).toList))).values p = params.values p := by
  intro params
  have hspec : .exploded name ∈ names.map VarSpec.exploded := List.mem_map_of_mem hname
  have hread (q : Iri) : t.IsRead params q := isRead_parseQuery query
  rw [h.parseQuery_queryOf_expand (List.ne_nil_of_mem hspec) hread]
  refine values_carriedParams_eq_self (fun _ => ⟨_, hspec, hp⟩) fun s hs _ => .inl ?_
  obtain ⟨name', -, rfl⟩ := List.mem_map.mp hs
  rfl

/-- A template with two variables for the authors of a work, with languages and datatypes. -/
def works : SearchTemplate where
  template := "http://example.org/works{?by*,made.by*,page*}"
  representation := .explicit
  mappings := [
    { variableName := "by", property := some Library.author },
    { variableName := "made.by", property := some Library.author },
    Library.pageMapping]

/-- Authors of both variables, one of them twice, with separators of queries inside. -/
theorem works_values_parseQuery_expand :
    let params := works.parseQuery "by=%22a%26b%22%40EN&made.by=urn:ann&by=%22a%26b%22@en&page=2&by=%22%3F+%22%22"
    params.values Library.author =
      [.literal (.tagged "a&b" "en"), .iri ⟨"urn:ann"⟩, .literal (.plain "? \"")] ∧
    (works.parseQuery (String.ofList (queryOf (works.expand params).toList))).values Library.author =
      params.values Library.author := by
  have h : works.HasQuery "http://example.org/works".toList
      (["by".toList, "made.by".toList, "page".toList].map .exploded) :=
    { template_eq := by decide
      brace_notMem := by decide
      mark_notMem := by decide
      whole := by
        intro s hs
        simp only [List.map_cons, List.map_nil, List.mem_cons, List.not_mem_nil, or_false] at hs
        rcases hs with rfl | rfl | rfl
        all_goals exact VarSpec.isWhole_exploded (by decide) }
  have hname : "by".toList ∈ ["by".toList, "made.by".toList, "page".toList] := List.mem_cons_self
  have hp : works.property? (String.ofList "by".toList) = some Library.author := by decide
  exact ⟨by decide +kernel, values_parseQuery_expand h _ hname hp⟩

end Exploded

end SearchTemplate
end CollectionQuery
