import CollectionQuery.Proofs.Template.Triplets

/-! Variables of whose value only the first characters are taken, where triplets are kept. The characters are counted
    before the triplets are found. So a triplet that ends within the length is copied and one that begins behind it
    leaves nothing, but one that the length falls into is no triplet any more: its percent sign is written as a triplet,
    and its first digit, if that is left, as it is. -/

namespace CollectionQuery
namespace Text
namespace Percent
open Template

/-! ### Tokens of the beginning of a text -/

namespace Token

/-- What is written for some tokens, as text. -/
def writtenText (ts : List Token) : List Char := (ts.flatMap written).flatMap text

/-- The tokens of the first `n` characters of a text with the given tokens. -/
def takeChars : Nat → List Token → List Token
  | _, [] => []
  | n, t :: ts => if t.text.length ≤ n then t :: takeChars (n - t.text.length) ts else (t.text.take n).map .char

/-- A triplet begins within the first `n` characters and ends behind them. -/
def CutsTriplet (n : Nat) (ts : List Token) : Prop :=
  ∃ front a b ha hb back, ts = front ++ .triplet a b ha hb :: back ∧
    (front.flatMap text).length < n ∧ n < (front.flatMap text).length + 3

theorem takeChars_append (front back : List Token) (n : Nat) :
    takeChars ((front.flatMap text).length + n) (front ++ back) = front ++ takeChars n back := by
  induction front with
  | nil => simp
  | cons t front ih =>
    rw [List.flatMap_cons, List.length_append, List.cons_append, takeChars, if_pos (by omega), Nat.add_assoc,
      Nat.add_sub_cancel_left, ih, List.cons_append]

theorem not_cutsTriplet_zero (ts : List Token) : ¬CutsTriplet 0 ts := by
  rintro ⟨front, a, b, ha, hb, back, -, hlt, -⟩
  exact Nat.not_lt_zero _ hlt

theorem not_cutsTriplet_nil (n : Nat) : ¬CutsTriplet n [] := by
  rintro ⟨front, a, b, ha, hb, back, heq, -⟩
  exact List.append_ne_nil_of_right_ne_nil front (List.cons_ne_nil _ back) heq.symm

theorem cutsTriplet_cons {t : Token} {n : Nat} (h : t.text.length ≤ n) (ts : List Token) :
    CutsTriplet n (t :: ts) ↔ CutsTriplet (n - t.text.length) ts := by
  constructor
  · rintro ⟨front, a, b, ha, hb, back, heq, hlt, hgt⟩
    cases front with
    | nil =>
      obtain ⟨rfl, rfl⟩ := List.cons_eq_cons.mp heq
      exact absurd hgt (Nat.not_lt.mpr h)
    | cons u front =>
      obtain ⟨rfl, rfl⟩ := List.cons_eq_cons.mp heq
      rw [List.flatMap_cons, List.length_append] at hlt hgt
      exact ⟨front, a, b, ha, hb, back, rfl, by omega, by omega⟩
  · rintro ⟨front, a, b, ha, hb, back, rfl, hlt, hgt⟩
    refine ⟨t :: front, a, b, ha, hb, back, rfl, ?_, ?_⟩
    all_goals
      rw [List.flatMap_cons, List.length_append]
      omega

/-- The tokens of the beginning are tokens of the whole exactly if no triplet is cut. -/
theorem takeChars_isPrefix_iff (n : Nat) (ts : List Token) : takeChars n ts <+: ts ↔ ¬CutsTriplet n ts := by
  induction ts generalizing n with
  | nil => exact iff_of_true List.prefix_rfl (not_cutsTriplet_nil n)
  | cons t ts ih =>
    rw [takeChars]
    split
    · next h => rw [List.prefix_cons_inj, ih, cutsTriplet_cons h]
    · next h =>
      rcases n with _ | n
      · exact iff_of_true List.nil_prefix (not_cutsTriplet_zero _)
      cases t with
      | char c => exact absurd (Nat.le_add_left 1 n) h
      | triplet a b ha hb =>
        have hcut : CutsTriplet (n + 1) (.triplet a b ha hb :: ts) :=
          ⟨[], a, b, ha, hb, ts, rfl, Nat.succ_pos n, Nat.not_le.mp h⟩
        refine iff_of_false (fun hp => ?_) (not_not_intro hcut)
        exact absurd (List.cons_prefix_cons.mp hp).1 (by simp)

end Token

/-- A character stands alone unless it begins a triplet. -/
theorem tokens_char {c : Char} {cs : List Char}
    (h : ∀ a b rest, c :: cs = '%' :: a :: b :: rest → ¬(Hex.isDigit a ∧ Hex.isDigit b)) :
    tokens (c :: cs) = .char c :: tokens cs := by
  by_cases hc : c = '%'
  · subst hc
    rcases cs with _ | ⟨a, _ | ⟨b, rest⟩⟩
    · rfl
    · rw [tokens]
      exact fun _ _ _ _ heq => absurd heq (by simp)
    · rw [tokens, dif_neg (h a b rest rfl)]
  · exact tokens_cons hc cs

/-- What begins no triplet in a text begins none in a part of it either. -/
theorem tokens_take_char {c : Char} {cs : List Char}
    (h : ∀ a b rest, c :: cs = '%' :: a :: b :: rest → ¬(Hex.isDigit a ∧ Hex.isDigit b))
    (ih : ∀ n, tokens (cs.take n) = Token.takeChars n (tokens cs)) (n : Nat) :
    tokens ((c :: cs).take n) = Token.takeChars n (.char c :: tokens cs) := by
  cases n with
  | zero => rfl
  | succ n =>
    have htake : ∀ a b rest, c :: cs.take n = '%' :: a :: b :: rest → ¬(Hex.isDigit a ∧ Hex.isDigit b) := by
      intro a b rest heq
      refine h a b (rest ++ cs.drop n) ?_
      rw [← List.take_append_drop n cs, ← List.cons_append, heq]
      simp
    rw [List.take_succ_cons, tokens_char htake, ih]
    exact (if_pos (Nat.le_add_left 1 n)).symm

theorem tokens_take (n : Nat) (cs : List Char) : tokens (cs.take n) = Token.takeChars n (tokens cs) := by
  fun_induction tokens cs generalizing n with
  | case1 a b cs h ih =>
    -- None, one, two or all characters of the triplet are taken.
    rcases n with _ | _ | _ | n
    · rfl
    · rfl
    · have ha : a ≠ '%' := by
        rintro rfl
        exact absurd h.1 (by decide)
      exact (tokens_char (fun _ _ _ heq => absurd heq (by simp))).trans (congrArg _ (tokens_cons ha []))
    · rw [List.take_succ_cons, List.take_succ_cons, List.take_succ_cons, tokens_triplet h.1 h.2, ih]
      exact (if_pos (Nat.le_add_left 3 n)).symm
  | case2 a b cs h ih =>
    refine tokens_take_char (fun a' b' rest heq => ?_) ih n
    cases heq
    exact h
  | case3 c cs h ih =>
    refine tokens_take_char (fun a b rest heq => ?_) ih n
    obtain ⟨rfl, rfl⟩ := List.cons_eq_cons.mp heq
    exact (h a b rest rfl rfl).elim
  | case4 => rw [List.take_nil, Token.takeChars, tokens]

/-! ### What is written -/

theorem Token.writtenText_append (ts us : List Token) : writtenText (ts ++ us) = writtenText ts ++ writtenText us := by
  rw [writtenText, List.flatMap_append, List.flatMap_append]
  rfl

theorem Token.writtenText_digit {a : Char} (ha : Hex.isDigit a) : writtenText [.char a] = [a] := by
  have hkept : isKept a := by
    rw [isKept, isUnreserved_eq, Standard.isUnreserved_of_isHexDigit (isHexDigit_eq a ▸ ha), Bool.true_or]
  rw [writtenText, List.flatMap_singleton, Token.written, if_pos hkept]
  rfl

/-- The characters of the front tokens and some more are taken. -/
theorem encodeReserved_take {value : List Char} {front back : List Token} (h : tokens value = front ++ back) (n : Nat) :
    encodeReserved (value.take ((front.flatMap Token.text).length + n)) =
      Token.writtenText front ++ Token.writtenText (Token.takeChars n back) := by
  rw [encodeReserved_eq_written, tokens_take, h, Token.takeChars_append]
  exact Token.writtenText_append _ _

end Percent
end Text

namespace Template
open Text Percent

/-! ### Expansion -/

/-- The template of one variable of whose value `n` characters are taken. -/
def Standard.Operator.limited (op : Standard.Operator) (name : List Char) (n : Nat) : List Char :=
  '{' :: (op.text ++ (name ++ ':' :: (toString n).toList)) ++ ['}']

/-- A length that is too large to be read leaves the value whole, as does any that exceeds the value's. -/
theorem truncate_read? {n : Nat} {value : List Char} (h : n ≤ Count.largest ∨ value.length ≤ Count.largest) :
    truncate (Count.read? (toString n).toList) value = value.take n := by
  rw [Count.read?_toString_eq_ite]
  split
  · rfl
  · next hn => exact (List.take_of_length_le (Nat.le_trans (h.resolve_left hn) (Nat.le_of_not_le hn))).symm

section Limited
variable {op : Standard.Operator} {name : List Char} (hname : Standard.IsVarName name)
include hname

theorem parts_limited (n : Nat) :
    parts (op.limited name n) =
      [.literal [], .expression (op.text ++ (name ++ ':' :: (toString n).toList)), .literal []] :=
  parts_expression List.not_mem_nil
    (op.brace_notMem_append ((hname.isReadable_limited n).notMem_text (by decide)))

theorem readSpecs_limited (n : Nat) :
    readSpecs (name ++ ':' :: (toString n).toList) = [⟨name, false, Count.read? (toString n).toList⟩] := by
  have hread := readSpecs_joined (List.forall_mem_singleton.mpr (hname.isReadable_limited n)) (List.cons_ne_nil _ [])
  rwa [WrittenVariable.joined, List.map_singleton, List.intercalate_singleton] at hread

variable {n : Nat} {values : List Char → List (List Char)} {value : List Char} (hop : op.allowsReserved)
  (hvalue : values name = [value]) (hn : n ≤ Count.largest ∨ value.length ≤ Count.largest)
include hop hvalue hn

theorem expand_limited : expand (op.limited name n) values = op.first ++ encodeReserved (value.take n) := by
  have hspec : expandSpec op.meaning ⟨name, false, Count.read? (toString n).toList⟩ [value] =
      some (encodeReserved (value.take n)) := by
    rw [← truncate_read? hn]
    cases op with
    | reserved | fragment => rfl
    | _ => cases hop
  rw [expand, parts_limited hname]
  simp only [List.flatMap_cons, List.flatMap_nil, Part.expand, List.nil_append, List.append_nil, expandExpression,
    split_append op hname, readSpecs_limited hname, List.filterMap_cons, List.filterMap_nil, hvalue, hspec]
  simp [Operator.combine, Standard.Operator.meaning]

end Limited

/-- The expansion of a variable with a length is what is written for the tokens of the characters that are taken. They
    are tokens of the value, so that its triplets are kept whole or left out, exactly if the length cuts no triplet. The
    percent sign of a triplet that is cut is written as a triplet, with the first digit behind it if that is taken too. -/
theorem limited_keeps_triplets_iff {op : Standard.Operator} (hop : op.allowsReserved) {name : List Char}
    (hname : Standard.IsVarName name) {n : Nat} {values : List Char → List (List Char)} {value : List Char}
    (hvalue : values name = [value]) (hn : n ≤ Count.largest ∨ value.length ≤ Count.largest) :
    let expansion := expand (op.limited name n) values
    expansion = op.first ++ Token.writtenText (tokens (value.take n)) ∧
      (tokens (value.take n) <+: tokens value ↔ ¬Token.CutsTriplet n (tokens value)) ∧
      ∀ front a b ha hb back, tokens value = front ++ .triplet a b ha hb :: back →
        (n = (front.flatMap Token.text).length + 1 →
          expansion = op.first ++ Token.writtenText front ++ "%25".toList) ∧
        (n = (front.flatMap Token.text).length + 2 →
          expansion = op.first ++ Token.writtenText front ++ "%25".toList ++ [a]) := by
  intro expansion
  have hexpansion : expansion = op.first ++ encodeReserved (value.take n) := expand_limited hname hop hvalue hn
  refine ⟨?_, ?_, fun front a b ha hb back h => ⟨?_, ?_⟩⟩
  · rw [hexpansion, encodeReserved_eq_written]
    rfl
  · rw [tokens_take]
    exact Token.takeChars_isPrefix_iff n (tokens value)
  · rintro rfl
    rw [hexpansion, encodeReserved_take h, ← List.append_assoc]
    rfl
  · rintro rfl
    have hcut : Token.takeChars 2 (.triplet a b ha hb :: back) = [.char '%'] ++ [.char a] := rfl
    rw [hexpansion, encodeReserved_take h, hcut, Token.writtenText_append, Token.writtenText_digit ha]
    simp only [List.append_assoc]
    rfl

theorem cafe_limited_keeps_triplets_iff :
    let values : List Char → List (List Char) := fun _ => ["caf%C3%A9".toList]
    Standard.Operator.fragment.allowsReserved = true ∧ Standard.IsVarName ['v'] ∧
      values ['v'] = ["caf%C3%A9".toList] ∧ 8 ≤ Count.largest ∧
      expand "{#v:8}".toList values = "#caf%C3%25A".toList := by
  intro values
  have hname : Standard.IsVarName ['v'] := .single (.char rfl)
  have hlength : 8 ≤ Count.largest := by decide
  have htemplate : Standard.Operator.fragment.limited ['v'] 8 = "{#v:8}".toList := by decide
  have htokens : tokens "caf%C3%A9".toList = tokens "caf%C3".toList ++ [.triplet 'A' '9' rfl rfl] := rfl
  have hop : Standard.Operator.fragment.allowsReserved = true := rfl
  have hvalue : values ['v'] = ["caf%C3%A9".toList] := rfl
  obtain ⟨-, -, hcut⟩ := limited_keeps_triplets_iff hop hname hvalue (.inl hlength)
  have hexpand := (hcut _ 'A' '9' rfl rfl [] htokens).2 (by decide)
  refine ⟨hop, hname, hvalue, hlength, ?_⟩
  rw [← htemplate]
  exact hexpand.trans (by decide)

/-- Neither nothing nor the triplet is written for the first character of a triplet. -/
theorem cut_triplet_is_encoded :
    let values : List Char → List (List Char) := fun _ => ["%41".toList]
    expand "{+v:1}".toList values = "%25".toList ∧ expand "{#v:2}".toList values = "#%254".toList ∧
      ¬∃ kept, kept.Sublist (tokens "%41".toList) ∧
        expand "{+v:1}".toList values = Token.writtenText kept := by
  intro values
  have hexpand : expand "{+v:1}".toList values = "%25".toList := by decide
  refine ⟨hexpand, by decide, ?_⟩
  rintro ⟨kept, hkept, hwritten⟩
  rw [hexpand] at hwritten
  have htokens : tokens "%41".toList = [.triplet '4' '1' rfl rfl] := rfl
  rw [htokens, List.sublist_singleton] at hkept
  rcases hkept with rfl | rfl
  · exact absurd hwritten (by decide)
  · exact absurd hwritten (by decide)

end Template
end CollectionQuery
