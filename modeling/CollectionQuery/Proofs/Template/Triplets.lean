import CollectionQuery.Proofs.Template.Conformance

/-! Text in which triplets are kept. A text is cut, from the left, into triplets and single characters, and each of them
    is written on its own: a triplet and a character with a place in an IRI as they are, any other character as the
    triplets of its bytes. What is written is cut into nothing else, so it reads as the text does and is left alone when
    it is written again. -/

namespace CollectionQuery
namespace Text
namespace Percent
open Template

/-- A piece of text that is decoded on its own. -/
inductive Token where
  | triplet (high low : Char) (hhigh : Hex.isDigit high) (hlow : Hex.isDigit low)
  | char (c : Char)

/-- The tokens of a text. A percent sign that begins no triplet is a character like others. -/
def tokens : List Char → List Token
  | '%' :: a :: b :: cs =>
    if h : Hex.isDigit a ∧ Hex.isDigit b then .triplet a b h.1 h.2 :: tokens cs else .char '%' :: tokens (a :: b :: cs)
  | c :: cs => .char c :: tokens cs
  | [] => []

/-- The characters that are written as they are where reserved ones are allowed. -/
def isKept (c : Char) : Bool := isUnreserved c || isReserved c

namespace Token

def text : Token → List Char
  | triplet a b _ _ => ['%', a, b]
  | char c => [c]

/-- The bytes that the token stands for. -/
def bytes : Token → List UInt8
  | triplet a b _ _ => [(16 * Hex.digitValue a + Hex.digitValue b).toUInt8]
  | char c => Utf8.encodeChar c

/-- The triplet of a byte. -/
def ofByte (b : UInt8) : Token :=
  have hb := b.toNat_lt
  .triplet (Hex.digit (b.toNat / 16)) (Hex.digit (b.toNat % 16)) (Hex.isDigit_digit _ (by omega))
    (Hex.isDigit_digit _ (by omega))

/-- The tokens that are written for a token. -/
def written : Token → List Token
  | triplet a b ha hb => [.triplet a b ha hb]
  | char c => if isKept c then [.char c] else (Utf8.encodeChar c).map ofByte

theorem text_ofByte (b : UInt8) : (ofByte b).text = Percent.triplet b := rfl

theorem bytes_ofByte (b : UInt8) : (ofByte b).bytes = [b] := by
  have hb := b.toNat_lt
  rw [ofByte, bytes, Hex.digitValue_digit _ (by omega), Hex.digitValue_digit _ (by omega), Nat.div_add_mod]
  simp

end Token

/-! ### Tokens of a text -/

theorem decode_eq_bytes (cs : List Char) : decode cs = (tokens cs).flatMap Token.bytes := by
  fun_induction tokens cs with
  | case1 a b cs h ih =>
    rw [decode, if_pos (Bool.and_eq_true _ _ ▸ h), ih]
    rfl
  | case2 a b cs h ih =>
    rw [decode, if_neg (Bool.and_eq_true _ _ ▸ h), ih]
    rfl
  | case3 c cs h ih =>
    rw [decode, ih]
    · rfl
    · exact h
  | case4 => rfl

theorem tokens_cons {c : Char} (h : c ≠ '%') (cs : List Char) : tokens (c :: cs) = .char c :: tokens cs := by
  rw [tokens]
  exact fun a b cs' he _ => h he

theorem tokens_triplet {a b : Char} (ha : Hex.isDigit a) (hb : Hex.isDigit b) (cs : List Char) :
    tokens ('%' :: a :: b :: cs) = .triplet a b ha hb :: tokens cs := by
  rw [tokens, dif_pos ⟨ha, hb⟩]

/-! ### Written tokens -/

/-- What is written for a text is what is written for its tokens. -/
theorem encodeReserved_eq_written (cs : List Char) :
    encodeReserved cs = ((tokens cs).flatMap Token.written).flatMap Token.text := by
  have hbytes (bs : List UInt8) : (bs.map Token.ofByte).flatMap Token.text = bs.flatMap triplet := by
    rw [List.flatMap_map]
    exact List.flatMap_congr fun b _ => Token.text_ofByte b
  have hchar (c : Char) : (Token.written (.char c)).flatMap Token.text = encodeChar isKept c := by
    rw [Token.written, encodeChar]
    split
    · rfl
    · exact hbytes _
  fun_induction tokens cs with
  | case1 a b cs h ih =>
    rw [encodeReserved, if_pos (Bool.and_eq_true _ _ ▸ h), ih]
    rfl
  | case2 a b cs h ih =>
    rw [encodeReserved, if_neg (Bool.and_eq_true _ _ ▸ h), ih, List.flatMap_cons, List.flatMap_append, hchar]
    rfl
  | case3 c cs h ih =>
    rw [encodeReserved, ih, List.flatMap_cons, List.flatMap_append, hchar]
    · rfl
    · exact h
  | case4 => rfl

theorem isKept_percent : isKept '%' = false := by decide

/-- Kept characters and triplets, of which every written text consists. -/
def Token.IsPlain : Token → Prop
  | .triplet _ _ _ _ => True
  | .char c => isKept c

theorem Token.isPlain_of_mem_written {t u : Token} (h : u ∈ t.written) : u.IsPlain := by
  cases t with
  | triplet a b ha hb =>
    obtain rfl := List.mem_singleton.mp h
    trivial
  | char c =>
    rw [written] at h
    split at h
    · next hc =>
      obtain rfl := List.mem_singleton.mp h
      exact hc
    · obtain ⟨b, -, rfl⟩ := List.mem_map.mp h
      trivial

/-- Plain tokens are found again in their text, whatever stands behind it: none of them runs into the next one. -/
theorem tokens_flatMap_text {ts : List Token} (h : ∀ t ∈ ts, t.IsPlain) : tokens (ts.flatMap Token.text) = ts := by
  induction ts with
  | nil => rfl
  | cons t ts ih =>
    obtain ⟨ht, hts⟩ := List.forall_mem_cons.mp h
    rw [List.flatMap_cons]
    cases t with
    | triplet a b ha hb => exact (tokens_triplet ha hb _).trans (congrArg _ (ih hts))
    | char c =>
      refine (tokens_cons ?_ _).trans (congrArg _ (ih hts))
      rintro rfl
      exact Bool.false_ne_true (isKept_percent.symm.trans ht)

theorem written_eq_self {t : Token} (h : t.IsPlain) : t.written = [t] := by
  cases t with
  | triplet a b ha hb => rfl
  | char c => exact if_pos h

theorem flatMap_bytes_written (t : Token) : t.written.flatMap Token.bytes = t.bytes := by
  cases t with
  | triplet a b ha hb => exact List.append_nil _
  | char c =>
    rw [Token.written]
    split
    · exact List.append_nil _
    · rw [List.flatMap_map]
      exact (List.flatMap_congr fun b _ => Token.bytes_ofByte b).trans (List.flatMap_singleton' _)

theorem isLiteral_of_isPlain {ts : List Token} (h : ∀ t ∈ ts, t.IsPlain) :
    Standard.IsLiteral (ts.flatMap Token.text) := by
  induction ts with
  | nil => exact .nil
  | cons t ts ih =>
    obtain ⟨ht, hts⟩ := List.forall_mem_cons.mp h
    cases t with
    | triplet a b ha hb => exact .triplet (isHexDigit_eq a ▸ ha) (isHexDigit_eq b ▸ hb) (ih hts)
    | char c =>
      refine .char ?_ (ih hts)
      rw [← isUnreserved_eq, ← isReserved_eq]
      exact ht

/-- Writing with reserved characters is a normal form. What is written is a literal of a URI: reserved and unreserved
    characters and triplets. It is left alone when it is written again, and decodes to the bytes that the text decodes
    to. Its tokens are those that are written for the tokens of the text, so no triplet comes about across them. -/
theorem encodeReserved_normal_form (cs : List Char) :
    Standard.IsLiteral (encodeReserved cs) ∧ encodeReserved (encodeReserved cs) = encodeReserved cs ∧
      decode (encodeReserved cs) = decode cs ∧ tokens (encodeReserved cs) = (tokens cs).flatMap Token.written := by
  have hplain : ∀ t ∈ (tokens cs).flatMap Token.written, t.IsPlain := fun t ht => by
    obtain ⟨u, -, hu⟩ := List.mem_flatMap.mp ht
    exact Token.isPlain_of_mem_written hu
  have htokens : tokens (encodeReserved cs) = (tokens cs).flatMap Token.written := by
    rw [encodeReserved_eq_written, tokens_flatMap_text hplain]
  refine ⟨?_, ?_, ?_, htokens⟩
  · rw [encodeReserved_eq_written]
    exact isLiteral_of_isPlain hplain
  · have hwritten : ((tokens cs).flatMap Token.written).flatMap Token.written = (tokens cs).flatMap Token.written := by
      rw [List.flatMap_congr fun t ht => written_eq_self (hplain t ht)]
      exact List.flatMap_singleton' _
    rw [encodeReserved_eq_written (encodeReserved cs), htokens, hwritten, ← encodeReserved_eq_written]
  · rw [decode_eq_bytes, htokens, List.flatMap_assoc, decode_eq_bytes]
    exact List.flatMap_congr fun t _ => flatMap_bytes_written t

/-- A percent sign in front of a triplet, in front of a digit and a triplet, and in front of nothing. -/
example : encodeReserved "%%41%2%41é%".toList = "%25%41%252%41%C3%A9%25".toList := by decide

end Percent
end Text
end CollectionQuery
