import CollectionQuery.Iri.Resolve
import CollectionQuery.Proofs.Iri.Reading
import CollectionQuery.Proofs.Text.Form
import CollectionQuery.Proofs.Text.LanguageTag

/-! The characters of valid references. Every component is made of few kinds of characters, and nothing of a text is lost
    when it is taken apart, so that a character of neither kind makes the whole text invalid. -/

namespace CollectionQuery
open Text Text.Percent

namespace Reference

/-! ### Texts of allowed characters and triplets -/

section MadeOf
variable {allowed allowed' : Char → Bool} {as bs : List Char}

theorem isMadeOf_cons {c : Char} (hc : c ≠ '%') (cs : List Char) :
    isMadeOf allowed (c :: cs) = (allowed c && isMadeOf allowed cs) := by
  rw [isMadeOf]
  exact fun _ _ _ he _ => hc he

theorem isMadeOf_of_all (hpercent : allowed '%' = false) (h : ∀ c ∈ as, allowed c) : isMadeOf allowed as := by
  induction as with
  | nil => rfl
  | cons c as ih =>
    have hc : allowed c := h c List.mem_cons_self
    rw [isMadeOf_cons, hc, ih fun d hd => h d (List.mem_cons_of_mem c hd)]
    · rfl
    · rintro rfl
      exact Bool.false_ne_true (hpercent.symm.trans hc)

/-- No triplet comes about where two texts meet. -/
theorem isMadeOf_append (hpercent : allowed '%' = false) (ha : isMadeOf allowed as) (hb : isMadeOf allowed bs) :
    isMadeOf allowed (as ++ bs) := by
  fun_induction isMadeOf allowed as with
  | case1 a b cs ih =>
    simp only [Bool.and_eq_true] at ha
    simp only [List.cons_append, isMadeOf, Bool.and_eq_true]
    exact ⟨ha.1, ih ha.2⟩
  | case2 c cs hne ih =>
    rw [Bool.and_eq_true] at ha
    rw [List.cons_append, isMadeOf_cons, ha.1, ih ha.2]
    · rfl
    · rintro rfl
      exact Bool.false_ne_true (hpercent.symm.trans ha.1)
  | case3 => exact hb

theorem isMadeOf_mono (hpercent : allowed '%' = false) (h : ∀ c, allowed c → allowed' c) (ha : isMadeOf allowed as) :
    isMadeOf allowed' as := by
  fun_induction isMadeOf allowed as with
  | case1 a b cs ih =>
    simp only [Bool.and_eq_true] at ha
    simp only [isMadeOf, Bool.and_eq_true]
    exact ⟨ha.1, ih ha.2⟩
  | case2 c cs hne ih =>
    rw [Bool.and_eq_true] at ha
    rw [isMadeOf_cons, h c ha.1, ih ha.2]
    · rfl
    · rintro rfl
      exact Bool.false_ne_true (hpercent.symm.trans ha.1)
  | case3 => rfl

theorem isUnreserved_of_isAlphanum {c : Char} (h : c.isAlphanum) : isUnreserved c := by simp [isUnreserved, h]

theorem isUnreserved_of_isAlpha {c : Char} (h : c.isAlpha) : isUnreserved c :=
  isUnreserved_of_isAlphanum (by simp [Char.isAlphanum, h])

theorem isUnreserved_of_isDigit {c : Char} (h : c.isDigit) : isUnreserved c :=
  isUnreserved_of_isAlphanum (by simp [Char.isAlphanum, h])

theorem isUnreserved_of_isHexDigit {c : Char} (h : Hex.isDigit c) : isUnreserved c := by
  simp only [Hex.isDigit, Bool.or_eq_true, Bool.and_eq_true, decide_eq_true_eq] at h
  rcases h with (h | h) | h
  · exact isUnreserved_of_isDigit h
  · have hletter : 65 ≤ c.toNat ∧ c.toNat ≤ 70 := h
    exact isUnreserved_of_isAlpha (LanguageTag.isAlpha_iff.mpr (by omega))
  · have hletter : 97 ≤ c.toNat ∧ c.toNat ≤ 102 := h
    exact isUnreserved_of_isAlpha (LanguageTag.isAlpha_iff.mpr (by omega))

/-- The characters of the text are allowed, or those of triplets. -/
theorem mem_of_isMadeOf (h : isMadeOf allowed as) {c : Char} (hc : c ∈ as) :
    allowed c ∨ c = '%' ∨ isUnreserved c := by
  fun_induction isMadeOf allowed as with
  | case1 a b cs ih =>
    simp only [Bool.and_eq_true] at h
    simp only [List.mem_cons] at hc
    rcases hc with rfl | rfl | rfl | hc
    · exact .inr (.inl rfl)
    · exact .inr (.inr (isUnreserved_of_isHexDigit h.1.1))
    · exact .inr (.inr (isUnreserved_of_isHexDigit h.1.2))
    · exact ih h.2 hc
  | case2 d cs hne ih =>
    rw [Bool.and_eq_true] at h
    rcases List.mem_cons.mp hc with rfl | hc
    · exact .inl h.1
    · exact ih h.2 hc
  | case3 => cases hc

theorem notMem_of_isMadeOf {c : Char} (hallowed : allowed c = false) (hpercent : c ≠ '%')
    (hreserved : isUnreserved c = false) (h : isMadeOf allowed as) : c ∉ as := by
  intro hc
  rcases mem_of_isMadeOf h hc with hc | hc | hc
  · exact Bool.false_ne_true (hallowed.symm.trans hc)
  · exact hpercent hc
  · exact Bool.false_ne_true (hreserved.symm.trans hc)

theorem isMadeOf_intercalate (hpercent : allowed '%' = false) (hbs : isMadeOf allowed bs) {pieces : List (List Char)}
    (h : ∀ piece ∈ pieces, isMadeOf allowed piece) : isMadeOf allowed (bs.intercalate pieces) := by
  induction pieces with
  | nil => rfl
  | cons piece pieces ih =>
    rw [List.forall_mem_cons] at h
    by_cases hne : pieces = []
    · subst hne
      rw [List.intercalate_singleton]
      exact h.1
    · rw [List.intercalate_cons_of_ne_nil hne]
      exact isMadeOf_append hpercent (isMadeOf_append hpercent h.1 hbs) (ih h.2)

/-- Any text can be encoded, and then stand where unreserved characters may. -/
theorem isMadeOf_encode (hpercent : allowed '%' = false) (h : ∀ c, isUnreserved c → allowed c) (cs : List Char) :
    isMadeOf allowed (encode cs) := by
  have htriplets (bytes : List UInt8) : isMadeOf allowed (bytes.flatMap triplet) := by
    induction bytes with
    | nil => rfl
    | cons b bytes ih =>
      have hb := b.toNat_lt
      simp only [List.flatMap_cons, triplet, List.cons_append, List.nil_append, isMadeOf, ih,
        Hex.isDigit_digit (b.toNat / 16) (by omega), Hex.isDigit_digit (b.toNat % 16) (by omega), Bool.and_self]
  induction cs with
  | nil => rfl
  | cons c cs ih =>
    rw [encode, List.flatMap_cons, ← encode]
    refine isMadeOf_append hpercent ?_ ih
    rw [encodeChar]
    split
    · next hc => exact isMadeOf_of_all hpercent (List.forall_mem_singleton.mpr (h c hc))
    · exact htriplets _

end MadeOf

/-! ### Components -/

/-- The characters that a valid reference may hold. -/
def isCharacter (c : Char) : Bool := inQuery c || c ∈ ['#', '[', ']', '%']

theorem inUser_of_isUnreserved {c : Char} (h : isUnreserved c) : inUser c := by simp [inUser, isPlain, h]

theorem inPath_of_isUnreserved {c : Char} (h : isUnreserved c) : inPath c := by simp [inPath, isPlain, h]

theorem inUser_of_isPlain {c : Char} (h : isPlain c) : inUser c := by simp [inUser, h]

theorem inQuery_of_inUser {c : Char} (h : inUser c) : inQuery c := by
  rw [inUser, Bool.or_eq_true] at h
  rcases h with h | h
  · simp [inQuery, inFragment, inPath, h]
  · simp [inQuery, inFragment, inPath, h]

theorem inQuery_of_inFragment {c : Char} (h : inFragment c) : inQuery c := by simp [inQuery, h]

theorem inFragment_of_inPath {c : Char} (h : inPath c) : inFragment c := by simp [inFragment, h]

theorem isCharacter_of_inQuery {c : Char} (h : inQuery c) : isCharacter c := by simp [isCharacter, h]

theorem isCharacter_of_inUser {c : Char} (h : inUser c) : isCharacter c := isCharacter_of_inQuery (inQuery_of_inUser h)

theorem isCharacter_of_isMadeOf {allowed : Char → Bool} (hallowed : ∀ c, allowed c → inQuery c) {cs : List Char}
    (h : isMadeOf allowed cs) : ∀ c ∈ cs, isCharacter c := by
  intro c hc
  rcases mem_of_isMadeOf h hc with hc | rfl | hc
  · exact isCharacter_of_inQuery (hallowed c hc)
  · decide
  · exact isCharacter_of_inUser (inUser_of_isUnreserved hc)

theorem inUser_of_isScheme {cs : List Char} (h : isScheme cs) : ∀ c ∈ cs, inUser c := by
  cases cs with
  | nil => exact fun c hc => absurd hc List.not_mem_nil
  | cons d cs =>
    rw [isScheme, Bool.and_eq_true, List.all_eq_true] at h
    intro c hc
    rcases List.mem_cons.mp hc with rfl | hc
    · exact inUser_of_isUnreserved (isUnreserved_of_isAlpha h.1)
    · have := h.2 c hc
      simp only [Bool.or_eq_true, decide_eq_true_eq] at this
      rcases this with ((hc | rfl) | rfl) | rfl
      · exact inUser_of_isUnreserved (isUnreserved_of_isAlphanum hc)
      all_goals decide

/-! ### Addresses -/

theorem inUser_of_readDotted? {cs : List Char} (h : (Version4.readDotted? cs).isSome) : ∀ c ∈ cs, inUser c := by
  have hoctets : (cs.splitOn '.').all Version4.isOctet := by
    unfold Version4.readDotted? at h
    dsimp only at h
    split at h
    · next hshape => exact (Bool.and_eq_true_iff.mp hshape).2
    · cases h
  refine forall_mem_of_splitOn (by decide : inUser '.') fun piece hpiece c hc => ?_
  have hoctet := List.all_eq_true.mp hoctets piece hpiece
  simp only [Version4.isOctet, Bool.and_eq_true, List.all_eq_true] at hoctet
  exact inUser_of_isUnreserved (isUnreserved_of_isDigit (hoctet.1.1.2 c hc))

theorem inUser_of_isGroup {cs : List Char} (h : Version6.isGroup cs) : ∀ c ∈ cs, inUser c := by
  simp only [Version6.isGroup, Bool.and_eq_true, List.all_eq_true] at h
  exact fun c hc => inUser_of_isUnreserved (isUnreserved_of_isHexDigit (h.2 c hc))

theorem inUser_of_readPieces? {pieces : List (List Char)} (h : (Version6.readPieces? pieces).isSome) :
    ∀ piece ∈ pieces, ∀ c ∈ piece, inUser c := by
  fun_induction Version6.readPieces? pieces with
  | case1 => exact fun _ hpiece => absurd hpiece List.not_mem_nil
  | case2 last hgroup =>
    rintro piece hpiece
    rw [List.mem_singleton.mp hpiece]
    exact inUser_of_isGroup hgroup
  | case3 last hgroup =>
    rintro piece hpiece
    rw [List.mem_singleton.mp hpiece]
    exact inUser_of_readDotted? (by simpa using h)
  | case4 group rest hne hgroup ih =>
    rw [List.forall_mem_cons]
    exact ⟨inUser_of_isGroup hgroup, ih (by simpa using h)⟩
  | case5 => cases h

theorem inUser_of_readGroups? {cs : List Char} (h : (Version6.readGroups? cs).isSome) : ∀ c ∈ cs, inUser c := by
  unfold Version6.readGroups? at h
  split at h
  · next hempty =>
    rw [List.isEmpty_iff.mp hempty]
    exact fun _ hc => absurd hc List.not_mem_nil
  · exact forall_mem_of_splitOn (by decide : inUser ':') (inUser_of_readPieces? h)

theorem eq_of_cutColons? {cs front back : List Char} (h : Version6.cutColons? cs = some (front, back)) :
    cs = front ++ ':' :: ':' :: back := by
  fun_induction Version6.cutColons? cs generalizing front with
  | case1 cs =>
    cases h
    rfl
  | case2 c cs hne ih =>
    obtain ⟨⟨front', back'⟩, hcut, hx⟩ := Option.map_eq_some_iff.mp h
    cases hx
    rw [ih hcut, List.cons_append]
  | case3 => cases h

theorem inUser_of_version6 {cs : List Char} (h : (Version6.read? cs).isSome) : ∀ c ∈ cs, inUser c := by
  unfold Version6.read? at h
  split at h
  · refine inUser_of_readGroups? ?_
    obtain ⟨groups, hgroups⟩ := Option.isSome_iff_exists.mp h
    exact Option.isSome_of_mem (Option.filter_eq_some_iff.mp hgroups).1
  · next front back hcut =>
    obtain ⟨groups, hgroups⟩ := Option.isSome_iff_exists.mp h
    obtain ⟨_, -, hgroups⟩ := Option.bind_eq_some_iff.mp hgroups
    obtain ⟨_, hfront, hgroups⟩ := Option.bind_eq_some_iff.mp hgroups
    obtain ⟨_, hback, -⟩ := Option.bind_eq_some_iff.mp hgroups
    rw [eq_of_cutColons? hcut, List.forall_mem_append, List.forall_mem_cons, List.forall_mem_cons]
    exact ⟨inUser_of_readGroups? (Option.isSome_of_mem hfront), by decide, by decide,
      inUser_of_readGroups? (Option.isSome_of_mem hback)⟩

theorem inUser_of_isFutureAddress {cs : List Char} (h : isFutureAddress cs) : ∀ c ∈ cs, inUser c := by
  unfold isFutureAddress at h
  split at h
  · next v cs =>
    rw [Bool.and_eq_true] at h
    obtain ⟨hv, h⟩ := h
    split at h
    · next version rest hcut =>
      simp only [Bool.and_eq_true, List.all_eq_true, Bool.or_eq_true, decide_eq_true_eq] at h hv
      obtain ⟨⟨⟨-, hversion⟩, -⟩, hrest⟩ := h
      rw [eq_of_cut? hcut, List.forall_mem_cons, List.forall_mem_append, List.forall_mem_cons]
      refine ⟨?_, ?_, by decide, ?_⟩
      · rcases hv with rfl | rfl
        all_goals decide
      · exact fun c hc => inUser_of_isUnreserved (isUnreserved_of_isHexDigit (hversion c hc))
      · intro c hc
        rcases hrest c hc with (hc | hc) | rfl
        · exact inUser_of_isUnreserved hc
        · exact inUser_of_isPlain (by simp [isPlain, hc])
        · decide
    · cases h
  · cases h

/-! ### Authorities -/

theorem inUser_of_isService {cs : List Char} (h : isService cs) : ∀ c ∈ cs, inUser c := by
  cases cs with
  | nil => exact fun c hc => absurd hc List.not_mem_nil
  | cons d cs =>
    simp only [isService, Bool.and_eq_true, List.all_eq_true, decide_eq_true_eq] at h
    obtain ⟨rfl, h⟩ := h
    rw [List.forall_mem_cons]
    exact ⟨by decide, fun c hc => inUser_of_isUnreserved (isUnreserved_of_isDigit (h c hc))⟩

theorem isCharacter_of_isHost {cs : List Char} (h : isHost cs) : ∀ c ∈ cs, isCharacter c := by
  unfold isHost at h
  split at h
  · next rest =>
    split at h
    · next address service hcut =>
      rw [Bool.and_eq_true, Bool.or_eq_true] at h
      have haddress : ∀ c ∈ address, inUser c := h.1.elim inUser_of_version6 inUser_of_isFutureAddress
      rw [eq_of_cut? hcut, List.forall_mem_cons, List.forall_mem_append, List.forall_mem_cons]
      exact ⟨by decide, fun c hc => isCharacter_of_inUser (haddress c hc), by decide,
        fun c hc => isCharacter_of_inUser (inUser_of_isService h.2 c hc)⟩
    · cases h
  · rw [Bool.and_eq_true] at h
    rw [← List.takeWhile_append_dropWhile (p := (· ≠ ':')) (l := cs), List.forall_mem_append]
    exact ⟨isCharacter_of_isMadeOf (fun c hc => inQuery_of_inUser (inUser_of_isPlain hc)) h.1,
      fun c hc => isCharacter_of_inUser (inUser_of_isService h.2 c hc)⟩

theorem isCharacter_of_isAuthority {cs : List Char} (h : isAuthority cs) : ∀ c ∈ cs, isCharacter c := by
  unfold isAuthority at h
  rw [Bool.and_eq_true] at h
  obtain ⟨huser, h⟩ := h
  split at h
  · next host hrest =>
    rw [← List.takeWhile_append_dropWhile (p := fun c => c ≠ '@' && c ≠ '[') (l := cs), hrest, List.forall_mem_append,
      List.forall_mem_cons]
    exact ⟨isCharacter_of_isMadeOf (fun c => inQuery_of_inUser) huser, by decide, isCharacter_of_isHost h⟩
  · exact isCharacter_of_isHost h

/-! ### Texts -/

/-- A valid reference holds no other characters. -/
theorem isCharacter_of_isValid {r : Reference} (h : r.isValid) : ∀ c ∈ r.text, isCharacter c := by
  obtain ⟨scheme, authority, path, query, fragment⟩ := r
  simp only [isValid, isPathFor, Bool.and_eq_true, Option.all_eq_true] at h
  obtain ⟨⟨⟨⟨hscheme, hauthority⟩, hpath, -⟩, hquery⟩, hfragment⟩ := h
  have hpath := isCharacter_of_isMadeOf (fun c hc => inQuery_of_inFragment (inFragment_of_inPath hc)) hpath
  simp only [text, List.forall_mem_append]
  refine ⟨⟨⟨⟨?_, ?_⟩, hpath⟩, ?_⟩, ?_⟩
  · cases scheme with
    | none => exact fun _ hc => absurd hc List.not_mem_nil
    | some s =>
      rw [List.forall_mem_append, List.forall_mem_singleton]
      exact ⟨fun c hc => isCharacter_of_inUser (inUser_of_isScheme (hscheme s rfl) c hc), by decide⟩
  · cases authority with
    | none => exact fun _ hc => absurd hc List.not_mem_nil
    | some a =>
      rw [List.forall_mem_cons, List.forall_mem_cons]
      exact ⟨by decide, by decide, isCharacter_of_isAuthority (hauthority a rfl)⟩
  · cases query with
    | none => exact fun _ hc => absurd hc List.not_mem_nil
    | some q =>
      rw [List.forall_mem_cons]
      exact ⟨by decide, isCharacter_of_isMadeOf (fun _ hc => hc) (hquery q rfl)⟩
  · cases fragment with
    | none => exact fun _ hc => absurd hc List.not_mem_nil
    | some f =>
      rw [List.forall_mem_cons]
      exact ⟨by decide, isCharacter_of_isMadeOf (fun _ => inQuery_of_inFragment) (hfragment f rfl)⟩

end Reference

namespace Iri
variable {text : String}

theorem parse?_isSome_iff : (parse? text).isSome ↔
    (Reference.read text.toList).isValid ∧ (Reference.read text.toList).scheme.isSome := by
  unfold parse?
  dsimp only
  split
  · next h => simpa using h
  · next h => simpa using h

/-- An IRI holds none but the characters of references. -/
theorem isCharacter_of_parse? (h : (parse? text).isSome) : ∀ c ∈ text.toList, Reference.isCharacter c := by
  have hvalid := Reference.isCharacter_of_isValid (parse?_isSome_iff.mp h).1
  rwa [Reference.text_read] at hvalid

/-- An IRI begins with the letter that its scheme begins with. -/
theorem exists_cons_of_parse? (h : (parse? text).isSome) : ∃ c cs, text.toList = c :: cs ∧ c.isAlpha := by
  obtain ⟨s, hs⟩ := Option.isSome_iff_exists.mp (parse?_isSome_iff.mp h).2
  have hscheme : Reference.isScheme s := (Reference.isSeparated_read text.toList).scheme s hs
  have htext := Reference.text_read text.toList
  rw [Reference.text, hs] at htext
  cases s with
  | nil => cases hscheme
  | cons c s =>
    rw [Reference.isScheme, Bool.and_eq_true] at hscheme
    exact ⟨c, _, htext.symm, hscheme.1⟩

end Iri
end CollectionQuery
