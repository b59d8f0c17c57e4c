import CollectionQuery.Iri.Reference
import Mathlib.Data.List.TakeWhile

/-! Taking a reference apart and putting it together again. Its parts are set off by the first of the characters that may
    not stand in them, so that nothing of the text is lost and the same parts are found in it again. -/

namespace CollectionQuery
open Text

namespace Reference

/-- Each part is free of the characters that end it, and a path does not continue an authority or begin one. -/
structure IsSeparated (r : Reference) : Prop where
  scheme : ∀ s ∈ r.scheme, isScheme s
  authority : ∀ a ∈ r.authority, ∀ c ∈ a, c ≠ '/' ∧ c ≠ '?' ∧ c ≠ '#'
  path : ∀ c ∈ r.path, c ≠ '?' ∧ c ≠ '#'
  rooted : r.authority.isSome → r.path.head?.all (· = '/')
  unannounced : r.authority = none → behind? ['/', '/'] r.path = none
  query : ∀ q ∈ r.query, '#' ∉ q

/-- The authority and the path. -/
def hierarchy (r : Reference) : List Char := r.authority.elim [] (fun a => '/' :: '/' :: a) ++ r.path

def behindScheme (r : Reference) : List Char :=
  (r.hierarchy ++ r.query.elim [] ('?' :: ·)) ++ r.fragment.elim [] ('#' :: ·)

theorem text_eq (r : Reference) : r.text = r.scheme.elim [] (· ++ [':']) ++ r.behindScheme := by
  obtain ⟨scheme, authority, path, query, fragment⟩ := r
  cases scheme <;> cases authority <;> cases query <;> cases fragment <;> simp [text, behindScheme, hierarchy]

variable {c : Char} {cs rest : List Char} {part : Option (List Char)}

/-! ### Text to parts -/

theorem eq_of_readScheme (h : readScheme cs = (part, rest)) :
    cs = part.elim [] (· ++ [':']) ++ rest ∧ ∀ s ∈ part, isScheme s := by
  unfold readScheme at h
  split at h
  · next front back hcut =>
    split at h
    · next hfront =>
      cases h
      rw [eq_of_cut? hcut]
      refine ⟨by simp, ?_⟩
      rintro s ⟨⟩
      exact hfront
    · cases h
      exact ⟨rfl, fun s hs => absurd hs (Option.not_mem_none s)⟩
  · cases h
    exact ⟨rfl, fun s hs => absurd hs (Option.not_mem_none s)⟩

theorem eq_of_cutOff {front : List Char} (h : cutOff c cs = (front, part)) :
    cs = front ++ part.elim [] (c :: ·) ∧ c ∉ front := by
  unfold cutOff at h
  split at h
  · next hcut =>
    cases h
    exact ⟨eq_of_cut? hcut, not_mem_of_cut? hcut⟩
  · next hcut =>
    cases h
    exact ⟨(List.append_nil cs).symm, cut?_eq_none_iff.mp hcut⟩

theorem eq_of_readAuthority (h : readAuthority cs = (part, rest)) :
    cs = part.elim [] (fun a => '/' :: '/' :: a) ++ rest ∧ (∀ a ∈ part, '/' ∉ a) ∧
      (part.isSome → rest.head?.all (· = '/')) ∧ (part = none → behind? ['/', '/'] rest = none) := by
  unfold readAuthority at h
  split at h
  · next host hhost =>
    cases h
    refine ⟨?_, ?_, fun _ => ?_, fun hnone => absurd hnone (Option.some_ne_none _)⟩
    · rw [behind?_eq_some_iff.mp hhost]
      simp
    · rintro a ⟨⟩ hslash
      exact absurd (List.mem_takeWhile_imp hslash) (by decide)
    · have hhead := List.head?_dropWhile_not (· ≠ '/') host
      cases hrest : (host.dropWhile (· ≠ '/')).head? with
      | none => rfl
      | some c =>
        rw [hrest] at hhead
        simpa using hhead
  · next hnone =>
    cases h
    exact ⟨rfl, fun a ha => absurd ha (Option.not_mem_none a), fun hsome => absurd hsome Bool.false_ne_true,
      fun _ => hnone⟩

/-- Nothing of the text is lost, and the parts are free of what sets them off. -/
theorem read_spec (cs : List Char) : (read cs).text = cs ∧ (read cs).IsSeparated := by
  rcases hscheme : readScheme cs with ⟨scheme, rest⟩
  rcases hfragment : cutOff '#' rest with ⟨rest', fragment⟩
  rcases hquery : cutOff '?' rest' with ⟨rest'', query⟩
  rcases hauthority : readAuthority rest'' with ⟨authority, path⟩
  have hread : read cs = ⟨scheme, authority, path, query, fragment⟩ := by
    simp only [read, hscheme, hfragment, hquery, hauthority]
  obtain ⟨rfl, hisScheme⟩ := eq_of_readScheme hscheme
  obtain ⟨rfl, hhash⟩ := eq_of_cutOff hfragment
  obtain ⟨rfl, hmark⟩ := eq_of_cutOff hquery
  obtain ⟨rfl, hslash, hrooted, hunannounced⟩ := eq_of_readAuthority hauthority
  rw [hread]
  simp only [List.mem_append, not_or] at hhash hmark
  obtain ⟨⟨hhash, hhash'⟩, hhash''⟩ := hhash
  constructor
  · exact text_eq _
  · refine ⟨hisScheme, ?_, fun c hc => ⟨?_, ?_⟩, hrooted, hunannounced, ?_⟩
    · rintro a ⟨⟩ c hc
      refine ⟨?_, ?_, ?_⟩ <;> rintro rfl
      · exact hslash a rfl hc
      · exact hmark.1 (List.mem_cons_of_mem _ (List.mem_cons_of_mem _ hc))
      · exact hhash (List.mem_cons_of_mem _ (List.mem_cons_of_mem _ hc))
    · rintro rfl
      exact hmark.2 hc
    · rintro rfl
      exact hhash' hc
    · rintro q ⟨⟩ hq
      exact hhash'' (List.mem_cons_of_mem _ hq)

theorem text_read (cs : List Char) : (read cs).text = cs := (read_spec cs).1

theorem isSeparated_read (cs : List Char) : (read cs).IsSeparated := (read_spec cs).2

/-! ### Parts to text -/

theorem colon_notMem_of_isScheme (h : isScheme cs) : ':' ∉ cs := by
  cases cs with
  | nil => exact List.not_mem_nil
  | cons d cs =>
    rw [isScheme, Bool.and_eq_true, List.all_eq_true] at h
    intro hc
    rcases List.mem_cons.mp hc with rfl | hc
    · exact absurd h.1 (by decide)
    · exact absurd (h.2 _ hc) (by decide)

theorem readScheme_append (h : isScheme cs) (rest : List Char) : readScheme (cs ++ ':' :: rest) = (some cs, rest) := by
  rw [readScheme, cut?_append (colon_notMem_of_isScheme h)]
  exact if_pos h

/-- No scheme begins with a slash. -/
theorem readScheme_of_slash (h : cs.head? = some '/') : readScheme cs = (none, cs) := by
  unfold readScheme
  split
  · next front back hcut =>
    refine if_neg fun hfront => ?_
    rw [eq_of_cut? hcut] at h
    cases front with
    | nil => cases hfront
    | cons d front =>
      obtain rfl := Option.some.inj h
      rw [isScheme, Bool.and_eq_true] at hfront
      exact absurd hfront.1 (by decide)
  · rfl

theorem cutOff_append (h : c ∉ cs) (part : Option (List Char)) : cutOff c (cs ++ part.elim [] (c :: ·)) = (cs, part) := by
  unfold cutOff
  cases part with
  | none => rw [Option.elim_none, List.append_nil, cut?_eq_none_iff.mpr h]
  | some back => rw [Option.elim_some, cut?_append h]

theorem readAuthority_append (hslash : ∀ a ∈ part, '/' ∉ a) (hrooted : part.isSome → rest.head?.all (· = '/'))
    (hunannounced : part = none → behind? ['/', '/'] rest = none) :
    readAuthority (part.elim [] (fun a => '/' :: '/' :: a) ++ rest) = (part, rest) := by
  cases part with
  | none =>
    rw [Option.elim_none, List.nil_append, readAuthority, hunannounced rfl]
  | some a =>
    have hall : ∀ c ∈ a, decide (c ≠ '/') = true := fun c hc =>
      decide_eq_true fun he => hslash a rfl (he ▸ hc)
    have hbehind : behind? ['/', '/'] ('/' :: '/' :: a ++ rest) = some (a ++ rest) := behind?_eq_some_iff.mpr rfl
    have hhead := hrooted rfl
    rw [Option.elim_some, readAuthority, hbehind]
    dsimp only
    rw [List.takeWhile_append_of_pos hall, List.dropWhile_append_of_pos hall]
    cases rest with
    | nil => simp
    | cons c rest =>
      obtain rfl : c = '/' := by simpa using hhead
      simp

/-! ### References to text -/

variable {r : Reference}

theorem head?_behindScheme (h : r.path.head? = some '/') : r.behindScheme.head? = some '/' := by
  unfold behindScheme hierarchy
  cases r.authority with
  | none => simp [h]
  | some a => rfl

theorem IsSeparated.of_mem_hierarchy (h : r.IsSeparated) :
    ∀ c ∈ r.hierarchy, c ≠ '?' ∧ c ≠ '#' := by
  rw [hierarchy, List.forall_mem_append]
  refine ⟨?_, h.path⟩
  cases ha : r.authority with
  | none => exact fun _ hc => absurd hc List.not_mem_nil
  | some a =>
    rw [Option.elim_some, List.forall_mem_cons, List.forall_mem_cons]
    exact ⟨by decide, by decide, fun c hc => (h.authority a ha c hc).2⟩

/-- A reference with a scheme or a path from the root is read back from its text. -/
theorem read_text (h : r.IsSeparated) (hscheme : r.scheme.isSome ∨ r.path.head? = some '/') : read r.text = r := by
  have hfirst : readScheme r.text = (r.scheme, r.behindScheme) := by
    rw [text_eq]
    cases hs : r.scheme with
    | none =>
      rw [hs] at hscheme
      exact readScheme_of_slash (head?_behindScheme (hscheme.resolve_left Bool.false_ne_true))
    | some s =>
      rw [Option.elim_some, List.append_assoc]
      exact readScheme_append (h.scheme s hs) r.behindScheme
  have hmark : '?' ∉ r.hierarchy := fun hc => (h.of_mem_hierarchy _ hc).1 rfl
  have hhash : '#' ∉ r.hierarchy ++ r.query.elim [] ('?' :: ·) := by
    rw [List.mem_append]
    rintro (hc | hc)
    · exact (h.of_mem_hierarchy _ hc).2 rfl
    · cases hq : r.query with
      | none =>
        rw [hq] at hc
        cases hc
      | some q =>
        rw [hq] at hc
        exact h.query q hq ((List.mem_cons.mp hc).resolve_left (by decide))
  have hauthority : readAuthority r.hierarchy = (r.authority, r.path) :=
    readAuthority_append (fun a ha hc => (h.authority a ha _ hc).1 rfl) h.rooted h.unannounced
  simp only [read, hfirst, behindScheme, cutOff_append hhash, cutOff_append hmark, hauthority]

end Reference
end CollectionQuery
