import CollectionQuery.Text.Utf8

/-! Reading back text in UTF-8. Each character is written as one piece, so that all characters come back. -/

namespace CollectionQuery
namespace Text
namespace Utf8

/-! ### Bytes -/

theorem ascii : ∀ n < 0x80, n.toUInt8 < 0x80 ∧ n.toUInt8.toNat = n := by decide

theorem not_lt_lead {n : Nat} (hn : n < 0x100) (hlead : 0x80 ≤ n) : ¬n.toUInt8 < 0x80 := by
  have htoNat : n.toUInt8.toNat = n := (UInt8.toNat_ofNat' (n := n)).trans (Nat.mod_eq_of_lt hn)
  rw [UInt8.lt_iff_toNat_lt, htoNat]
  exact Nat.not_lt.mpr hlead

theorem tailOf_two : ∀ m < 32, 2 ≤ m → tailOf (0xC0 + m).toUInt8 = some (1, Nat.toUInt8 0x80, Nat.toUInt8 0xBF) := by
  decide

theorem tailOf_three : ∀ m < 16, tailOf (0xE0 + m).toUInt8 =
    some (2, Nat.toUInt8 (if m = 0 then 0xA0 else 0x80), Nat.toUInt8 (if m = 13 then 0x9F else 0xBF)) := by decide

theorem tailOf_four : ∀ m < 5, tailOf (0xF0 + m).toUInt8 =
    some (3, Nat.toUInt8 (if m = 0 then 0x90 else 0x80), Nat.toUInt8 (if m = 4 then 0x8F else 0xBF)) := by decide

theorem within_tail : ∀ m < 64, ∀ low ∈ [0x80, 0x90, 0xA0], low ≤ 0x80 + m → ∀ high ∈ [0x8F, 0x9F, 0xBF],
    0x80 + m ≤ high → (low.toUInt8 ≤ (0x80 + m).toUInt8 && (0x80 + m).toUInt8 ≤ high.toUInt8) = true := by decide

theorem toNat_tail : ∀ m < 64, (0x80 + m).toUInt8.toNat % 64 = m := by decide

theorem toNat_lead_two : ∀ m < 32, (0xC0 + m).toUInt8.toNat % 32 = m := by decide

theorem toNat_lead_three : ∀ m < 16, (0xE0 + m).toUInt8.toNat % 16 = m := by decide

theorem toNat_lead_four : ∀ m < 8, (0xF0 + m).toUInt8.toNat % 8 = m := by decide

theorem continuing_cons {count m low high : Nat} (bs : List UInt8) (hm : m < 64) (hlow : low ∈ [0x80, 0x90, 0xA0])
    (hl : low ≤ 0x80 + m) (hhigh : high ∈ [0x8F, 0x9F, 0xBF]) (hh : 0x80 + m ≤ high) :
    continuing (count + 1) low.toUInt8 high.toUInt8 ((0x80 + m).toUInt8 :: bs) =
      (0x80 + m).toUInt8 :: continuing count (Nat.toUInt8 0x80) (Nat.toUInt8 0xBF) bs := by
  rw [continuing, if_pos (within_tail m hm low hlow hl high hhigh hh)]
  rfl

theorem continuing_tail {count m : Nat} (bs : List UInt8) (hm : m < 64) :
    continuing (count + 1) (Nat.toUInt8 0x80) (Nat.toUInt8 0xBF) ((0x80 + m).toUInt8 :: bs) =
      (0x80 + m).toUInt8 :: continuing count (Nat.toUInt8 0x80) (Nat.toUInt8 0xBF) bs :=
  continuing_cons bs hm (by simp) (by omega) (by simp) (by omega)

/-! ### Pieces -/

theorem piecesFrom_append (rest bs : List UInt8) : piecesFrom rest.length (rest ++ bs) = piecesFrom 0 bs := by
  induction rest with
  | nil => rfl
  | cons b rest ih => exact ih

/-- A first byte and as many bytes behind it as it announces are one piece. -/
theorem piecesFrom_cons {lead low high : UInt8} (rest bs : List UInt8) (hlead : ¬lead < 0x80)
    (htail : tailOf lead = some (rest.length, low, high))
    (hrest : continuing rest.length low high (rest ++ bs) = rest) :
    piecesFrom 0 (lead :: (rest ++ bs)) = some (character lead rest) :: piecesFrom 0 bs := by
  rw [piecesFrom, if_neg hlead, htail]
  simp only [hrest, if_true, piecesFrom_append]

theorem character_eq {lead : UInt8} {rest : List UInt8} {c : Char} (m : Nat) (hm : Nat.pow 2 (6 - rest.length) = m)
    (h : rest.foldl (fun n b => 64 * n + b.toNat % 64) (lead.toNat % m) = c.toNat) : character lead rest = c := by
  rw [character, hm, h, Char.ofNat_toNat]

theorem toNat_lt (c : Char) : c.toNat < 0x110000 ∧ (c.toNat < 0xD800 ∨ 0xDFFF < c.toNat) := by
  have := c.valid
  change c.toNat < 0xD800 ∨ (0xDFFF < c.toNat ∧ c.toNat < 0x110000) at this
  omega

theorem piecesFrom_encodeChar (c : Char) (bs : List UInt8) :
    piecesFrom 0 (encodeChar c ++ bs) = some c :: piecesFrom 0 bs := by
  have hc := toNat_lt c
  have hmod (n : Nat) : n % 64 < 64 := Nat.mod_lt n (by decide)
  -- One case for each number of bytes, as in the encoding.
  by_cases h₁ : c.toNat < 0x80
  · obtain ⟨hlt, hn⟩ := ascii c.toNat h₁
    rw [show encodeChar c = _ from if_pos h₁, List.singleton_append, piecesFrom, if_pos hlt, hn, Char.ofNat_toNat]
  by_cases h₂ : c.toNat < 0x800
  · rw [show encodeChar c = _ from (if_neg h₁).trans (if_pos h₂)]
    refine (piecesFrom_cons [(0x80 + c.toNat % 64).toUInt8] bs (not_lt_lead (by omega) (by omega))
      (tailOf_two _ (by omega) (by omega)) ?_).trans (congrArg (some · :: _) (character_eq 32 rfl ?_))
    · exact continuing_tail bs (hmod _)
    · simp only [List.foldl_cons, List.foldl_nil, toNat_tail _ (hmod _)]
      rw [toNat_lead_two _ (by omega)]
      omega
  by_cases h₃ : c.toNat < 0x10000
  · rw [show encodeChar c = _ from (if_neg h₁).trans ((if_neg h₂).trans (if_pos h₃))]
    refine (piecesFrom_cons [(0x80 + c.toNat / 64 % 64).toUInt8, (0x80 + c.toNat % 64).toUInt8] bs
      (not_lt_lead (by omega) (by omega)) (tailOf_three _ (by omega)) ?_).trans
      (congrArg (some · :: _) (character_eq 16 rfl ?_))
    · refine (continuing_cons _ (hmod _) ?_ ?_ ?_ ?_).trans (congrArg _ (continuing_tail bs (hmod _)))
      · split <;> simp
      · split <;> omega
      · split <;> simp
      · split <;> omega
    · simp only [List.foldl_cons, List.foldl_nil, toNat_tail _ (hmod _)]
      rw [toNat_lead_three _ (by omega)]
      omega
  · rw [show encodeChar c = _ from (if_neg h₁).trans ((if_neg h₂).trans (if_neg h₃))]
    refine (piecesFrom_cons [(0x80 + c.toNat / 4096 % 64).toUInt8, (0x80 + c.toNat / 64 % 64).toUInt8,
      (0x80 + c.toNat % 64).toUInt8] bs (not_lt_lead (by omega) (by omega)) (tailOf_four _ (by omega)) ?_).trans
      (congrArg (some · :: _) (character_eq 8 rfl ?_))
    · refine (continuing_cons _ (hmod _) ?_ ?_ ?_ ?_).trans
        (congrArg _ ((continuing_tail _ (hmod _)).trans (congrArg _ (continuing_tail bs (hmod _)))))
      · split <;> simp
      · split <;> omega
      · split <;> simp
      · split <;> omega
    · simp only [List.foldl_cons, List.foldl_nil, toNat_tail _ (hmod _)]
      rw [toNat_lead_four _ (by omega)]
      omega

theorem decodeLossy_encode (cs : List Char) : decodeLossy (encode cs) = cs := by
  have h : piecesFrom 0 (encode cs) = cs.map some := by
    induction cs with
    | nil => rfl
    | cons c cs ih => rw [encode, List.flatMap_cons, piecesFrom_encodeChar, ← encode, ih, List.map_cons]
  rw [decodeLossy, h, List.map_map]
  exact List.map_id cs

end Utf8
end Text
end CollectionQuery
