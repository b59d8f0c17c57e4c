import CollectionQuery.Proofs.Collection.Extensions
import CollectionQuery.Proofs.Collection.GeneratedVariables
import CollectionQuery.Proofs.Collection.History

/-! Mappings that call no filter. They use up no number, and looking up a reference in vain changes no later answer, so
    the queries of a page are those of a template without the mapping, wherever it stands among the others. -/

namespace CollectionQuery

/-- The host knows no filter of the reference, whenever it is asked, and answers other questions as if it was not
    asked about this one. -/
structure Host.Lacks (h : Host) (reference : Iri) : Prop where
  filter : ∀ asked, h.filter? asked reference = none
  ignores : ∀ before after other,
    h.filter? (before ++ ⟨.filter, reference⟩ :: after) other = h.filter? (before ++ after) other

/-- The reference does not resolve: it was looked up in vain, or it is new and the host lacks it. -/
def Resolver.Lacks (r : Resolver) (reference : Iri) : Prop :=
  r.filters.lookup reference = some none ∨ (r.filters.lookup reference = none ∧ r.host.Lacks reference)

/-- The mapping calls no filter: it has no property, its property has no value, or the filter that it declares does
    not resolve. -/
inductive Mapping.IsInactive (params : SearchParams) (r : Resolver) (m : Mapping) : Prop
  | unmapped (h : m.property = none)
  | valueless {p : Iri} (hp : m.property = some p) (h : params.values p = [])
  | unresolved {reference : Iri} (hm : m.filter = some reference) (h : r.Lacks reference)

/-! ### Looking up in vain -/

theorem Host.IsSteady.lacks {h : Host} (hh : h.IsSteady) {reference : Iri} (hnone : h.filter? [] reference = none) :
    h.Lacks reference where
  filter asked := (hh.filter asked reference).trans hnone
  ignores _ _ other := (hh.filter _ other).trans (hh.filter _ other).symm

namespace Resolver
variable {r r' : Resolver} {reference : Iri}

theorem Lacks.filter_eq_none (h : r.Lacks reference) : (r.filter reference).value.1 = none := by
  rcases h with h | ⟨h, hhost⟩
  · rw [filter_of_known h, Noted.value_pure]
  · rw [filter_of_new h]
    exact hhost.filter r.asked

/-- With a steady host, a reference does not resolve exactly if no filter is found for it. -/
theorem lacks_iff (hh : r.host.IsSteady) : r.Lacks reference ↔ (r.filter reference).value.1 = none := by
  refine ⟨Lacks.filter_eq_none, fun h => ?_⟩
  cases hl : r.filters.lookup reference with
  | some known =>
    rw [filter_of_known hl] at h
    exact .inl (hl.trans (congrArg some h))
  | none =>
    rw [filter_of_new hl] at h
    exact .inr ⟨hl, hh.lacks ((hh.filter r.asked reference).symm.trans h)⟩

/-- Both resolvers lack the reference, and answer alike about all others, now and whatever is asked later. -/
structure AgreeBut (reference : Iri) (r r' : Resolver) : Prop where
  lacks : r.Lacks reference
  lacks' : r'.Lacks reference
  host : r.host = r'.host
  filters : ∀ other ≠ reference, r.filters.lookup other = r'.filters.lookup other
  answers : ∀ later, ∀ other ≠ reference,
    r.host.filter? (r.asked ++ later) other = r'.host.filter? (r'.asked ++ later) other

theorem AgreeBut.refl (h : r.Lacks reference) : AgreeBut reference r r :=
  ⟨h, h, rfl, fun _ _ => rfl, fun _ _ _ => rfl⟩

theorem AgreeBut.symm (h : AgreeBut reference r r') : AgreeBut reference r' r :=
  ⟨h.lacks', h.lacks, h.host.symm, fun other hne => (h.filters other hne).symm,
    fun later other hne => (h.answers later other hne).symm⟩

/-- One of them may look the reference up: it is remembered already, or the host ignores the question. -/
theorem AgreeBut.filter_left (h : AgreeBut reference r r') : AgreeBut reference (r.filter reference).value.2 r' := by
  rcases h.lacks with hl | ⟨hl, hhost⟩
  · rw [filter_of_known hl]
    exact h
  · rw [filter_of_new hl]
    refine ⟨.inl ?_, h.lacks', h.host, fun other hne => ?_, fun later other hne => ?_⟩
    · rw [hhost.filter]
      exact List.lookup_cons_self
    · rw [← h.filters other hne]
      exact (List.lookup_cons ..).trans (by rw [beq_false_of_ne hne])
    · rw [← h.answers later other hne, List.append_assoc]
      exact hhost.ignores r.asked later other

/-- Any other reference is found by both or by none, and is remembered by both. -/
theorem AgreeBut.filter_of_ne (h : AgreeBut reference r r') {other : Iri} (hne : other ≠ reference) :
    (r.filter other).value.1 = (r'.filter other).value.1 ∧
      AgreeBut reference (r.filter other).value.2 (r'.filter other).value.2 := by
  have hkeeps {r : Resolver} (hr : r.Lacks reference) : (r.filter other).value.2.Lacks reference := by
    have hhost : (r.filter other).value.2.host = r.host := by
      rw [value_filter]
      cases r.filters.lookup other <;> rfl
    rw [Lacks, lookup_filter_of_ne hne.symm, hhost]
    exact hr
  have hlookup := h.filters other hne
  cases hl : r.filters.lookup other with
  | some known =>
    rw [filter_of_known hl, filter_of_known (hlookup ▸ hl)]
    exact ⟨rfl, h⟩
  | none =>
    have hanswer := h.answers [] other hne
    rw [List.append_nil, List.append_nil] at hanswer
    have hlacks := hkeeps h.lacks
    have hlacks' := hkeeps h.lacks'
    rw [filter_of_new hl] at hlacks ⊢
    rw [filter_of_new (hlookup ▸ hl)] at hlacks' ⊢
    dsimp only at hlacks hlacks' ⊢
    refine ⟨hanswer, hlacks, hlacks', h.host, fun x hx => ?_, fun later x hx => ?_⟩
    · dsimp only
      rw [List.lookup_cons, List.lookup_cons, hanswer, h.filters x hx]
    · dsimp only
      rw [List.append_assoc, List.append_assoc]
      exact h.answers _ x hx

theorem AgreeBut.filter (h : AgreeBut reference r r') (other : Iri) :
    (r.filter other).value.1 = (r'.filter other).value.1 ∧
      AgreeBut reference (r.filter other).value.2 (r'.filter other).value.2 := by
  by_cases hne : other = reference
  · subst hne
    exact ⟨h.lacks.filter_eq_none.trans h.lacks'.filter_eq_none.symm, h.filter_left.symm.filter_left.symm⟩
  · exact h.filter_of_ne hne

end Resolver

/-! ### Calls without the mapping -/

namespace MemberQueries
open Resolver
variable {params : SearchParams} {r r' : Resolver} {reference : Iri} {m : Mapping}

/-- The calls for the one list of mappings and then for the other, with what the resolver has learnt by then. -/
theorem callsOf_append (xs ys : List (Mapping × Iri)) (r : Resolver) :
    callsOf params (xs ++ ys) r =
      ((callsOf params xs r).1 ++ (callsOf params ys (callsOf params xs r).2).1,
        (callsOf params ys (callsOf params xs r).2).2) := by
  induction xs generalizing r with
  | nil => rfl
  | cons x xs ih =>
    obtain ⟨m, p⟩ := x
    rw [List.cons_append, callsOf, callsOf]
    split
    · exact ih r
    · dsimp only
      rw [ih, List.append_assoc]

/-- Resolvers that agree but about a reference that both lack make the same calls, and go on agreeing. -/
theorem AgreeBut.callsOf (h : AgreeBut reference r r') (xs : List (Mapping × Iri)) :
    (callsOf params xs r).1 = (callsOf params xs r').1 ∧
      AgreeBut reference (callsOf params xs r).2 (callsOf params xs r').2 := by
  induction xs generalizing r r' with
  | nil => exact ⟨rfl, h⟩
  | cons x xs ih =>
    obtain ⟨m, p⟩ := x
    rw [MemberQueries.callsOf, MemberQueries.callsOf]
    split
    · exact ih h
    · obtain ⟨hfound, hlater⟩ : (filterOf m r).value.1 = (filterOf m r').value.1 ∧
          AgreeBut reference (filterOf m r).value.2 (filterOf m r').value.2 := by
        unfold filterOf
        cases m.filter with
        | none => exact ⟨rfl, h⟩
        | some other => exact h.filter other
      obtain ⟨hcalls, hagree⟩ := ih hlater
      refine ⟨?_, hagree⟩
      dsimp only
      rw [hfound, hcalls]

/-- The mapping stays inactive while filters are called for others. -/
theorem IsInactive.callsOf (h : m.IsInactive params r) (xs : List (Mapping × Iri)) :
    m.IsInactive params (callsOf params xs r).2 := by
  cases h with
  | unmapped h => exact .unmapped h
  | valueless hp h => exact .valueless hp h
  | unresolved hm h => exact .unresolved hm (AgreeBut.callsOf (.refl h) xs).2.lacks

/-- The calls behind an inactive mapping are those that are made without it. -/
theorem callsOf_cons_of_isInactive {p : Iri} (hp : m.property = some p) (h : m.IsInactive params r)
    (xs : List (Mapping × Iri)) : (callsOf params ((m, p) :: xs) r).1 = (callsOf params xs r).1 := by
  rw [callsOf]
  split
  · rfl
  · next hvalues =>
    cases h with
    | unmapped h => exact absurd (h.symm.trans hp) (Option.some_ne_none p).symm
    | valueless hp' h => exact absurd (Option.some.inj (hp'.symm.trans hp) ▸ h) hvalues
    | @unresolved reference hm h =>
      have hfound : (filterOf m r).value = (r.filter reference).value := by
        rw [filterOf, hm]
      have hlater : (callsOf params xs (r.filter reference).value.2).1 = (callsOf params xs r).1 :=
        (AgreeBut.callsOf (AgreeBut.refl h).filter_left xs).1
      dsimp only
      rw [hfound, h.filter_eq_none, hlater]
      rfl

end MemberQueries

/-! ### Templates without the mapping -/

namespace SearchTemplate
variable {t : SearchTemplate} {before after : List Mapping} {m : Mapping}

def withMappings (t : SearchTemplate) (mappings : List Mapping) : SearchTemplate := { t with mappings }

theorem withMappings_of_eq (h : t.mappings = before ++ m :: after) : t = t.withMappings (before ++ m :: after) := by
  rw [← h]
  rfl

theorem filters_append (t : SearchTemplate) (before after : List Mapping) :
    (t.withMappings (before ++ after)).filters =
      (t.withMappings before).filters ++ (t.withMappings after).filters :=
  List.filterMap_append

/-- Whether a template has pages does not depend on mappings that choose none. -/
theorem isPaged_without (hm : ∀ p ∈ m.property, ¬choosesPage p) :
    (t.withMappings (before ++ m :: after)).isPaged = (t.withMappings (before ++ after)).isPaged := by
  have hother : decide (m.property = some Hydra.pageIndex) = false :=
    decide_eq_false fun h => hm _ h (by decide)
  unfold isPaged pageMapping? withMappings
  rw [List.find?_append, List.find?_append, List.find?_cons_of_neg (by simp [hother])]

end SearchTemplate

namespace MemberQueries
variable {c : Collection} {t : SearchTemplate} {params : SearchParams} {r : Resolver} {m : Mapping}
  {before after : List Mapping}

theorem callsOf_filters_without (hm : m.IsInactive params r) :
    (callsOf params (t.withMappings (before ++ m :: after)).filters r).1 =
      (callsOf params (t.withMappings (before ++ after)).filters r).1 := by
  rw [SearchTemplate.filters_append, SearchTemplate.filters_append, callsOf_append, callsOf_append]
  refine congrArg (_ ++ ·) ?_
  have hm := IsInactive.callsOf hm (t.withMappings before).filters
  unfold SearchTemplate.filters SearchTemplate.withMappings
  rw [List.filterMap_cons]
  split
  · rfl
  · next x hx =>
    obtain ⟨p, hp, rfl⟩ := Option.map_eq_some_iff.mp hx
    exact callsOf_cons_of_isInactive (Option.filter_eq_some_iff.mp hp).1 hm _

section Without
variable (ht : c.search = some t) (hmappings : t.mappings = before ++ m :: after)
include ht hmappings

theorem callsFor_without (hm : m.IsInactive params r) :
    callsFor c params r = callsFor { c with search := some (t.withMappings (before ++ after)) } params r := by
  rw [SearchTemplate.withMappings_of_eq hmappings] at ht
  unfold callsFor
  rw [ht]
  exact callsOf_filters_without hm

theorem resolve_without (hpage : ∀ p ∈ m.property, ¬SearchTemplate.choosesPage p) (n : Nat) :
    PageRequest.resolve c params n =
      PageRequest.resolve { c with search := some (t.withMappings (before ++ after)) } params n := by
  rw [SearchTemplate.withMappings_of_eq hmappings] at ht
  have hpaged : c.search.any SearchTemplate.isPaged = (t.withMappings (before ++ after)).isPaged := by
    rw [ht]
    exact SearchTemplate.isPaged_without hpage
  unfold PageRequest.resolve
  rw [hpaged]
  rfl

end Without

/-- A mapping that neither calls a filter nor chooses a page can be taken out of the template, from wherever it stands.
    The queries and the page stay the same; the same filters are called, and each is given the same, also what it gets its
    variables from. -/
theorem assemble_without_inactive (ht : c.search = some t) (hmappings : t.mappings = before ++ m :: after)
    (hpage : ∀ p ∈ m.property, ¬SearchTemplate.choosesPage p) (hm : m.IsInactive params r) (options : Options) :
    let without : Collection := { c with search := some { t with mappings := before ++ after } }
    let inputs (c : Collection) :=
      ((callsFor c params r).zipIdx 1).map fun x => (x.1, x.1.input params options.member x.2)
    (assemble c params options r).value.1 = (assemble without params options r).value.1 ∧ inputs c = inputs without := by
  intro without inputs
  have hcalls : callsFor c params r = callsFor without params r := callsFor_without ht hmappings hm
  have hresolve : PageRequest.resolve c params options.pageSize = PageRequest.resolve without params options.pageSize :=
    resolve_without ht hmappings hpage options.pageSize
  have hassertions : assertionPatterns c options.member = assertionPatterns without options.member := rfl
  have hfragments : sharedFragments c params options r = sharedFragments without params options r := by
    rw [sharedFragments, sharedFragments, value_filterPatterns_callsFor, value_filterPatterns_callsFor, hcalls,
      hassertions]
  have hqueries : queriesOf c params options r = queriesOf without params options r := by
    unfold queriesOf
    dsimp only
    rw [hresolve, hfragments, value_sortingOf, value_sortingOf]
  constructor
  · rw [value_assemble, value_assemble, hqueries, hassertions]
    split <;> rfl
  · dsimp only [inputs]
    rw [hcalls]

/-! ### Crime stories by authors -/

open Library

def unknownFilter : Iri := ⟨"http://example.org/unknown"⟩

/-- A search for a genre, whose filter nobody knows. -/
def byGenre : Mapping := genreMapping (some unknownFilter)

def stories (mappings : List Mapping) : Collection :=
  { Collection.shelf with search := some ⟨"http://example.org/books{?page,genre,author}", .basic, mappings⟩ }

theorem assemble_stories_without_genre :
    let params : SearchParams := .ofList [(genre, .literal (.plain "crime")), (creator, .literal (.plain "ann"))]
    let r := knowing (naming "name")
    byGenre.IsInactive params r ∧
      (assemble (stories [pageMapping, byGenre, filtered]) params {} r).value.1 =
        (assemble (stories [pageMapping, filtered]) params {} r).value.1 ∧
      (filterPatterns (stories [pageMapping, byGenre, filtered]) params ⟨"member"⟩ r).value.1 =
        [.triple (.var ⟨"member"⟩) (.iri creator) (.var ⟨"filter1_name"⟩)] := by
  intro params r
  have hunknown : r.Lacks unknownFilter :=
    (Resolver.lacks_iff (Api.isSteady_ofRegistry _ _)).mpr (by decide)
  have hgenre : byGenre.IsInactive params r := .unresolved rfl hunknown
  have hmappings : [pageMapping, byGenre, filtered] = [pageMapping] ++ byGenre :: [filtered] := rfl
  have hwithout :=
    assemble_without_inactive (c := stories [pageMapping, byGenre, filtered]) rfl hmappings (by decide) hgenre {}
  exact ⟨hgenre, hwithout.1, by decide +kernel⟩

end MemberQueries
end CollectionQuery
