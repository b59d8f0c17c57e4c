import CollectionQuery.Proofs.Text.Utf8
import CollectionQuery.Text.Form

/-! Reading back text that is percent-encoded, and pairs that are written with ampersands and equals signs. -/

namespace CollectionQuery
namespace Text

theorem mem_intercalate {α : Type} {sep : List α} {xss : List (List α)} {x : α} (h : x ∈ sep.intercalate xss) :
    x ∈ sep ∨ ∃ xs ∈ xss, x ∈ xs := by
  induction xss with
  | nil => cases h
  | cons xs xss ih =>
    by_cases hne : xss = []
    · subst hne
      rw [List.intercalate_singleton] at h
      exact .inr ⟨xs, List.mem_cons_self, h⟩
    · rw [List.intercalate_cons_of_ne_nil hne, List.mem_append, List.mem_append] at h
      rcases h with (h | h) | h
      · exact .inr ⟨xs, List.mem_cons_self, h⟩
      · exact .inl h
      · exact (ih h).imp_right fun ⟨ys, hys, hx⟩ => ⟨ys, List.mem_cons_of_mem xs hys, hx⟩

theorem mem_intercalate_of_mem {α : Type} (sep : List α) {xss : List (List α)} {xs : List α} {x : α} (hxs : xs ∈ xss)
    (hx : x ∈ xs) : x ∈ sep.intercalate xss := by
  induction xss with
  | nil => cases hxs
  | cons ys yss ih =>
    by_cases hne : yss = []
    · subst hne
      rw [List.intercalate_singleton, ← List.mem_singleton.mp hxs]
      exact hx
    · rw [List.intercalate_cons_of_ne_nil hne, List.mem_append, List.mem_append]
      rcases List.mem_cons.mp hxs with rfl | hxs
      · exact .inl (.inl hx)
      · exact .inr (ih hxs)

theorem notMem_intercalate {α : Type} {sep : List α} {xss : List (List α)} {x : α} (hsep : x ∉ sep)
    (h : ∀ xs ∈ xss, x ∉ xs) : x ∉ sep.intercalate xss := by
  intro hx
  rcases mem_intercalate hx with hx | ⟨xs, hxs, hx⟩
  · exact hsep hx
  · exact h xs hxs hx

theorem forall_mem_of_splitOn {p : Char → Bool} {sep : Char} {cs : List Char} (hsep : p sep)
    (h : ∀ piece ∈ cs.splitOn sep, ∀ c ∈ piece, p c) : ∀ c ∈ cs, p c := by
  intro c hc
  have hjoined : [sep].intercalate (cs.splitOn sep) = cs := List.intercalate_splitOn sep
  rw [← hjoined] at hc
  rcases mem_intercalate hc with hc | ⟨piece, hpiece, hc⟩
  · exact List.mem_singleton.mp hc ▸ hsep
  · exact h piece hpiece c hc

theorem mem_of_mem_splitOn {sep c : Char} {cs piece : List Char} (hpiece : piece ∈ cs.splitOn sep) (hc : c ∈ piece) :
    c ∈ cs := by
  have hjoined : [sep].intercalate (cs.splitOn sep) = cs := List.intercalate_splitOn sep
  rw [← hjoined]
  exact mem_intercalate_of_mem [sep] hpiece hc

/-! ### Triplets -/

namespace Percent

theorem isUnreserved_digit : ∀ n < 16, isUnreserved (Hex.digit n) = true := by decide

theorem decode_triplet (b : UInt8) (cs : List Char) : decode (triplet b ++ cs) = b :: decode cs := by
  have hb := b.toNat_lt
  have hhigh := Hex.isDigit_digit (b.toNat / 16) (by omega)
  have hlow := Hex.isDigit_digit (b.toNat % 16) (by omega)
  simp only [triplet, List.cons_append, List.nil_append, decode, hhigh, hlow, Bool.and_self, if_true]
  rw [Hex.digitValue_digit _ (by omega), Hex.digitValue_digit _ (by omega), Nat.div_add_mod]
  simp

theorem decode_flatMap_triplet (bs : List UInt8) (cs : List Char) :
    decode (bs.flatMap triplet ++ cs) = bs ++ decode cs := by
  induction bs with
  | nil => rfl
  | cons b bs ih => rw [List.flatMap_cons, List.append_assoc, decode_triplet, ih, List.cons_append]

theorem decode_cons {c : Char} (h : c ≠ '%') (cs : List Char) : decode (c :: cs) = Utf8.encodeChar c ++ decode cs := by
  rw [decode]
  exact fun a b cs' he _ => h he

theorem decode_encode_append (cs rest : List Char) : decode (encode cs ++ rest) = Utf8.encode cs ++ decode rest := by
  induction cs with
  | nil => rfl
  | cons c cs ih =>
    rw [encode, List.flatMap_cons, ← encode, Utf8.encode, List.flatMap_cons, ← Utf8.encode, List.append_assoc,
      List.append_assoc, ← ih, encodeChar]
    split
    · next h =>
      rw [List.singleton_append, decode_cons]
      rintro rfl
      exact absurd h (by decide)
    · rw [decode_flatMap_triplet]

theorem decode_encode (cs : List Char) : decode (encode cs) = Utf8.encode cs := by
  have := decode_encode_append cs []
  rwa [List.append_nil, decode, List.append_nil] at this

/-- Values that are encoded one by one and joined by commas are decoded together. -/
theorem decode_intercalate (vs : List (List Char)) :
    decode ([','].intercalate (vs.map encode)) = Utf8.encode ([','].intercalate vs) := by
  induction vs with
  | nil => rfl
  | cons v vs ih =>
    by_cases hne : vs = []
    · subst hne
      rw [List.map_singleton, List.intercalate_singleton, List.intercalate_singleton, decode_encode]
    · rw [List.map_cons, List.intercalate_cons_of_ne_nil (by simpa using hne), List.intercalate_cons_of_ne_nil hne,
        List.append_assoc, List.append_assoc, decode_encode_append, List.singleton_append, decode_cons (by decide), ih]
      simp [Utf8.encode]

/-- Encoded text consists of unreserved characters and percent signs. -/
theorem isUnreserved_of_mem_encode {c : Char} {cs : List Char} (h : c ∈ encode cs) : isUnreserved c ∨ c = '%' := by
  obtain ⟨d, -, hd⟩ := List.mem_flatMap.mp h
  rw [encodeChar] at hd
  split at hd
  · next hkept =>
    obtain rfl := List.mem_singleton.mp hd
    exact .inl hkept
  · obtain ⟨b, -, hb⟩ := List.mem_flatMap.mp hd
    have := b.toNat_lt
    simp only [triplet, List.mem_cons, List.not_mem_nil, or_false] at hb
    rcases hb with rfl | rfl | rfl
    · exact .inr rfl
    · exact .inl (isUnreserved_digit _ (by omega))
    · exact .inl (isUnreserved_digit _ (by omega))

theorem encode_eq_self {cs : List Char} (h : ∀ c ∈ cs, isUnreserved c) : encode cs = cs := by
  induction cs with
  | nil => rfl
  | cons c cs ih =>
    rw [encode, List.flatMap_cons, ← encode, ih fun d hd => h d (by simp [hd]), encodeChar, if_pos (h c (by simp))]
    rfl

end Percent

/-! ### Pairs -/

namespace Form

theorem decode_eq {cs : List Char} (h : '+' ∉ cs) : decode cs = Utf8.decodeLossy (Percent.decode cs) := by
  have hplus : cs.map (fun c => if c = '+' then ' ' else c) = cs := by
    refine (List.map_congr_left fun c hc => if_neg ?_).trans (List.map_id _)
    rintro rfl
    exact h hc
  rw [decode, hplus]

theorem plus_notMem_encode (cs : List Char) : '+' ∉ Percent.encode cs :=
  fun h => absurd (Percent.isUnreserved_of_mem_encode h) (by decide)

theorem decode_encode (cs : List Char) : decode (Percent.encode cs) = cs := by
  rw [decode_eq (plus_notMem_encode cs), Percent.decode_encode, Utf8.decodeLossy_encode]

theorem decode_intercalate (vs : List (List Char)) :
    decode ([','].intercalate (vs.map Percent.encode)) = [','].intercalate vs := by
  rw [decode_eq, Percent.decode_intercalate, Utf8.decodeLossy_encode]
  refine notMem_intercalate (by decide) fun cs hcs => ?_
  obtain ⟨v, -, rfl⟩ := List.mem_map.mp hcs
  exact plus_notMem_encode v

theorem decode_eq_self {cs : List Char} (h : ∀ c ∈ cs, Percent.isUnreserved c) : decode cs = cs := by
  have := decode_encode cs
  rwa [Percent.encode_eq_self h] at this

/-- A name and an encoded value as a piece of text. -/
def piece (p : List Char × List Char) : List Char := p.1 ++ '=' :: p.2

theorem pair_piece {p : List Char × List Char} (h : ∀ c ∈ p.1, Percent.isUnreserved c) :
    pair (piece p) = (p.1, decode p.2) := by
  have hcut : cut? '=' (piece p) = some p := cut?_append (fun hm => absurd (h '=' hm) (by decide)) p.2
  rw [pair, hcut]
  exact Prod.ext (decode_eq_self h) rfl

/-- Pairs with plain names are read back from their pieces. -/
theorem pairs_intercalate {ps : List (List Char × List Char)} (hname : ∀ p ∈ ps, ∀ c ∈ p.1, Percent.isUnreserved c)
    (hvalue : ∀ p ∈ ps, '&' ∉ p.2) :
    pairs (['&'].intercalate (ps.map piece)) = ps.map fun p => (p.1, decode p.2) := by
  by_cases hne : ps = []
  · rw [hne]
    rfl
  have hpiece (p : List Char × List Char) (hp : p ∈ ps) : '&' ∉ piece p := by
    intro hm
    rcases List.mem_append.mp hm with hm | hm
    · exact absurd (hname p hp _ hm) (by decide)
    · exact hvalue p hp ((List.mem_cons.mp hm).resolve_left (by decide))
  rw [pairs, List.splitOn_intercalate, List.filter_eq_self.mpr, List.map_map]
  · exact List.map_congr_left fun p hp => pair_piece (hname p hp)
  · intro q hq
    obtain ⟨p, -, rfl⟩ := List.mem_map.mp hq
    simp [piece]
  · intro q hq
    obtain ⟨p, hp, rfl⟩ := List.mem_map.mp hq
    exact hpiece p hp
  · simpa using hne

end Form
end Text
end CollectionQuery
