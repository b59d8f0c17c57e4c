import CollectionQuery.Proofs.Iri.Characters
import Mathlib.Data.List.Basic

/-! Resolving a path from the root against a base with an authority. Whatever segments are taken along, the root stays
    and no new characters come in; the authority keeps the path from being read as anything else. -/

namespace CollectionQuery
open Text

namespace Reference

/-! ### Paths from the root -/

section Paths
variable {done : List Char} {segments : List (List Char)} {c : Char}

theorem mem_dropSegment {rooted : Bool} (h : c ∈ dropSegment rooted done) : c ∈ done := by
  unfold dropSegment at h
  split at h
  · exact h
  · exact List.mem_of_mem_drop ((List.dropWhile_sublist _).mem h)

/-- Behind an authority, taking a segment along leaves the root. -/
theorem getLast?_dropSegment (h : done.getLast? = some '/') : (dropSegment true done).getLast? = some '/' := by
  unfold dropSegment
  split
  · exact h
  · next hroot =>
    match done, h, hroot with
    | [c], h, hroot => simp_all
    | c :: d :: done, h, _ =>
      have hrest : (d :: done).getLast? = some '/' := by rwa [List.getLast?_cons_cons] at h
      have hslash : '/' ∈ d :: done := List.mem_of_mem_getLast? hrest
      have hne : (d :: done).dropWhile (· ≠ '/') ≠ [] := by
        rw [ne_eq, List.dropWhile_eq_nil_iff]
        exact fun hall => absurd (hall _ hslash) (by decide)
      obtain ⟨taken, htaken⟩ := List.dropWhile_suffix (l := d :: done) (· ≠ '/')
      rwa [← htaken, List.getLast?_append_of_ne_nil taken hne] at hrest

theorem mem_copySegments {rooted : Bool} (h : c ∈ copySegments rooted done segments) :
    c ∈ done ∨ c = '/' ∨ ∃ segment ∈ segments, c ∈ segment := by
  induction segments generalizing done with
  | nil => exact .inl h
  | cons segment rest ih =>
    have hrest : (c = '/' ∨ ∃ segment ∈ rest, c ∈ segment) → c = '/' ∨ ∃ s ∈ segment :: rest, c ∈ s :=
      Or.imp_right fun ⟨s, hs, hc⟩ => ⟨s, List.mem_cons_of_mem _ hs, hc⟩
    rw [copySegments] at h
    split at h
    · exact (ih h).imp_right hrest
    · split at h
      · exact (ih h).imp mem_dropSegment hrest
      · rcases ih h with hc | hc
        · rcases List.mem_append.mp hc with hc | hc
          · rcases List.mem_append.mp hc with hc | hc
            · split at hc
              · cases hc
              · exact .inr (.inl (List.mem_singleton.mp hc))
            · exact .inr (.inr ⟨segment, List.mem_cons_self, List.mem_reverse.mp hc⟩)
          · exact .inl hc
        · exact .inr (hrest hc)

theorem getLast?_copySegments (h : done.getLast? = some '/') :
    (copySegments true done segments).getLast? = some '/' := by
  induction segments generalizing done with
  | nil => exact h
  | cons segment rest ih =>
    rw [copySegments]
    split
    · exact ih h
    · split
      · exact ih (getLast?_dropSegment h)
      · refine ih ?_
        rw [List.getLast?_append, h]
        rfl

end Paths

variable {base r : Reference}

theorem mergePath_eq {path : List Char} (h : r.path = '/' :: path) :
    mergePath base r = (copySegments base.authority.isSome ['/'] (path.splitOn '/')).reverse := by
  rw [mergePath, h]
  rfl

theorem mem_mergePath (h : r.path.head? = some '/') {c : Char} (hc : c ∈ mergePath base r) : c ∈ r.path := by
  obtain ⟨path, hpath⟩ := List.head?_eq_some_iff.mp h
  rw [mergePath_eq hpath, List.mem_reverse] at hc
  rw [hpath]
  rcases mem_copySegments hc with hc | rfl | ⟨segment, hsegment, hc⟩
  · exact List.mem_singleton.mp hc ▸ List.mem_cons_self
  · exact List.mem_cons_self
  · exact List.mem_cons_of_mem _ (mem_of_mem_splitOn hsegment hc)

theorem head?_mergePath (hbase : base.authority.isSome) (h : r.path.head? = some '/') :
    (mergePath base r).head? = some '/' := by
  obtain ⟨path, hpath⟩ := List.head?_eq_some_iff.mp h
  rw [mergePath_eq hpath, hbase, List.head?_reverse]
  exact getLast?_copySegments rfl

/-! ### References with a path from the root -/

/-- The reference that is only a path and perhaps a query. -/
def ofPath (path : List Char) (query : Option (List Char)) : Reference := ⟨none, none, path, query, none⟩

/-- The path begins at the root, and neither with an authority; it and the query hold what they may. -/
structure IsRooted (path : List Char) (query : Option (List Char)) : Prop where
  root : path.head? = some '/'
  unannounced : behind? ['/', '/'] path = none
  path : ∀ c ∈ path, inPath c
  query : ∀ q ∈ query, isMadeOf inQuery q

section Rooted
variable {path : List Char} {query : Option (List Char)} (h : IsRooted path query)
include h

theorem IsRooted.ofPath_isSeparated : (ofPath path query).IsSeparated where
  scheme s hs := absurd hs (Option.not_mem_none s)
  authority a ha := absurd ha (Option.not_mem_none a)
  path c hc := by
    have hallowed := h.path c hc
    constructor <;> rintro rfl <;> exact absurd hallowed (by decide)
  rooted hsome := absurd hsome Bool.false_ne_true
  unannounced _ := h.unannounced
  query q hq := notMem_of_isMadeOf (by decide) (by decide) (by decide) (h.query q hq)

theorem IsRooted.ofPath_isValid : (ofPath path query).isValid := by
  have hpath : isMadeOf inPath path := isMadeOf_of_all (by decide) h.path
  have hfirst : path.takeWhile (· ≠ '/') = [] := by
    obtain ⟨rest, hrest⟩ := List.head?_eq_some_iff.mp h.root
    rw [hrest]
    exact List.takeWhile_cons_of_neg (by decide)
  simp only [isValid, isPathFor, ofPath, hpath, h.unannounced, hfirst, Bool.and_eq_true, Option.all_eq_true]
  simpa using h.query

/-- Where the base has an authority, it stays, and the path is merged with the root. -/
theorem IsRooted.target_eq (base : Reference) : base.resolveAgainst (ofPath path query) =
    ⟨base.scheme, base.authority, mergePath base (ofPath path query), query, none⟩ := by
  have hne : path ≠ [] := fun hnil => by
    have hroot := h.root
    rw [hnil] at hroot
    cases hroot
  simp [resolveAgainst, ofPath, hne]

theorem IsRooted.mem_mergePath {base : Reference} {c : Char} (hc : c ∈ mergePath base (ofPath path query)) : c ∈ path :=
  Reference.mem_mergePath h.root hc

theorem IsRooted.target_isValid {base : Reference} (hbase : base.isValid) (hauthority : base.authority.isSome) :
    (base.resolveAgainst (ofPath path query)).isValid := by
  have hmerged : isMadeOf inPath (mergePath base (ofPath path query)) :=
    isMadeOf_of_all (by decide) fun c hc => h.path c (h.mem_mergePath hc)
  simp only [isValid, Bool.and_eq_true, Option.all_eq_true] at hbase
  obtain ⟨⟨⟨⟨hscheme, hisAuthority⟩, -⟩, -⟩, -⟩ := hbase
  rw [h.target_eq]
  simp only [isValid, isPathFor, hmerged, hauthority, Bool.and_eq_true, Option.all_eq_true, Bool.true_or]
  exact ⟨⟨⟨⟨hscheme, hisAuthority⟩, trivial, trivial⟩, h.query⟩, fun f hf => absurd hf (Option.not_mem_none f)⟩

theorem IsRooted.target_isSeparated {base : Reference} (hbase : base.IsSeparated)
    (hauthority : base.authority.isSome) : (base.resolveAgainst (ofPath path query)).IsSeparated := by
  rw [h.target_eq]
  refine ⟨hbase.scheme, hbase.authority, fun c hc => h.ofPath_isSeparated.path c (h.mem_mergePath hc), fun _ => ?_,
    fun hnone => ?_, h.ofPath_isSeparated.query⟩
  · change (mergePath base (ofPath path query)).head?.all _
    rw [head?_mergePath hauthority h.root]
    rfl
  · rw [hnone] at hauthority
    cases hauthority

end Rooted
end Reference

/-- Behind a base with an authority, a path from the root and a query denote an IRI. -/
theorem Iri.exists_resolve?_ofPath {base : Iri} (hbase : (parse? base.text).isSome)
    (hauthority : (Reference.read base.text.toList).authority.isSome) {path : List Char} {query : Option (List Char)}
    (h : Reference.IsRooted path query) :
    ∃ i, base.resolve? (String.ofList (Reference.ofPath path query).text) = some i ∧ parse? i.text = some i := by
  obtain ⟨hvalid, hscheme⟩ := parse?_isSome_iff.mp hbase
  have hread : Reference.read (Reference.ofPath path query).text = Reference.ofPath path query :=
    Reference.read_text h.ofPath_isSeparated (.inr h.root)
  have htarget := h.target_isValid hvalid hauthority
  have htargetScheme : ((Reference.read base.text.toList).resolveAgainst (.ofPath path query)).scheme.isSome := by
    rw [h.target_eq]
    exact hscheme
  have hreadTarget :=
    Reference.read_text (h.target_isSeparated (Reference.isSeparated_read _) hauthority) (.inl htargetScheme)
  refine ⟨⟨String.ofList ((Reference.read base.text.toList).resolveAgainst (.ofPath path query)).text⟩, ?_, ?_⟩
  · rw [resolve?, String.toList_ofList, hread]
    exact if_pos (Bool.and_eq_true_iff.mpr ⟨h.ofPath_isValid, htarget⟩)
  · rw [parse?, String.toList_ofList, hreadTarget]
    exact if_pos (Bool.and_eq_true_iff.mpr ⟨htarget, htargetScheme⟩)

end CollectionQuery
