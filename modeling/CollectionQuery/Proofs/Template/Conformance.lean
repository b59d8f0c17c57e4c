import CollectionQuery.Proofs.Template.Query
import CollectionQuery.Proofs.Template.Standard

/-! Expansion as RFC 6570 asks for it. The text of a template is cut into its pieces again, an expression into its
    operator and variables, and what is written for them is what the standard appends in turn. -/

namespace CollectionQuery
namespace Template
open Text

/-! ### Characters -/

theorem eq_of_ascii {p q : Char → Bool} (hp : ∀ c, p c → c.toNat < 128) (hq : ∀ c, q c → c.toNat < 128)
    (h : ∀ n < 128, p (Char.ofNat n) = q (Char.ofNat n)) (c : Char) : p c = q c := by
  by_cases hc : c.toNat < 128
  · rw [← Char.ofNat_toNat c]
    exact h c.toNat hc
  · rw [Bool.eq_false_iff.mpr fun hpc => hc (hp c hpc), Bool.eq_false_iff.mpr fun hqc => hc (hq c hqc)]

theorem toNat_lt_of_contains {cs : List Char} (h : cs.all fun c => c.toNat < 128) {c : Char} (hc : cs.contains c) :
    c.toNat < 128 := of_decide_eq_true (List.all_eq_true.mp h c (List.contains_iff_mem.mp hc))

theorem isHexDigit_eq (c : Char) : Hex.isDigit c = Standard.isHexDigit c := by
  refine eq_of_ascii (fun c hc => ?_) (fun c => toNat_lt_of_contains (by decide)) (by decide) c
  simp only [Hex.isDigit, Bool.or_eq_true, Bool.and_eq_true, decide_eq_true_eq, LanguageTag.isDigit_iff] at hc
  rcases hc with (hc | hc) | hc
  · omega
  · exact Nat.lt_of_le_of_lt (show c.toNat ≤ 70 from hc.2) (by decide)
  · exact Nat.lt_of_le_of_lt (show c.toNat ≤ 102 from hc.2) (by decide)

theorem toNat_lt_of_isAlphanum {c : Char} (h : c.isAlphanum) : c.toNat < 128 := by
  simp only [Char.isAlphanum, Bool.or_eq_true, LanguageTag.isAlpha_iff, LanguageTag.isDigit_iff] at h
  omega

theorem isUnreserved_eq (c : Char) : Percent.isUnreserved c = Standard.isUnreserved c := by
  refine eq_of_ascii (fun c hc => ?_) (fun c hc => ?_) (by decide) c
  · simp only [Percent.isUnreserved, Bool.or_eq_true, decide_eq_true_eq] at hc
    rcases hc with (((hc | rfl) | rfl) | rfl) | rfl
    · exact toNat_lt_of_isAlphanum hc
    all_goals decide
  · rw [Standard.isUnreserved, Bool.or_eq_true] at hc
    rcases hc with hc | hc
    · exact toNat_lt_of_isAlphanum hc
    · exact toNat_lt_of_contains (by decide) hc

theorem isReserved_eq (c : Char) : Percent.isReserved c = Standard.isReserved c := by
  refine eq_of_ascii (fun c hc => ?_) (fun c hc => ?_) (by decide) c
  · rw [Percent.isReserved, decide_eq_true_eq, ← List.contains_iff_mem] at hc
    exact toNat_lt_of_contains (by decide) hc
  · rw [Standard.isReserved, Bool.or_eq_true] at hc
    rcases hc with hc | hc
    · exact toNat_lt_of_contains (by decide) hc
    · exact toNat_lt_of_contains (by decide) hc

/-! ### Escaped text -/

theorem triplet_eq (b : UInt8) : Percent.triplet b = Standard.triplet b := by
  have hdigit : ∀ n < 16, Hex.digit n = "0123456789ABCDEF".toList.getD n '0' := by decide
  have hb := b.toNat_lt
  rw [Percent.triplet, hdigit _ (by omega), hdigit _ (by omega)]
  rfl

/-- The bytes of a character are the ones that strings of the language have. -/
theorem encodeChar_eq_utf8EncodeChar (c : Char) : Utf8.encodeChar c = String.utf8EncodeChar c := by
  have hn : c.toNat < 0x110000 := (Utf8.toNat_lt c).1
  unfold Utf8.encodeChar String.utf8EncodeChar
  dsimp only
  rw [← Char.toNat] at *
  -- The leading bytes are written without a remainder.
  split_ifs <;> try omega
  · rfl
  · have hlead : c.toNat / 64 % 32 = c.toNat / 64 := by omega
    simp [hlead, UInt8.add_comm]
  · have hlead : c.toNat / 4096 % 16 = c.toNat / 4096 := by omega
    simp [hlead, UInt8.add_comm]
  · have hlead : c.toNat / 262144 % 8 = c.toNat / 262144 := by omega
    simp [hlead, UInt8.add_comm]

theorem encodeChar_eq (kept : Char → Bool) (c : Char) :
    Percent.encodeChar kept c = if kept c then [c] else (String.utf8EncodeChar c).flatMap Standard.triplet := by
  rw [Percent.encodeChar, encodeChar_eq_utf8EncodeChar, funext triplet_eq]

theorem encode_eq_escape (cs : List Char) : Percent.encode cs = Standard.escape false cs := by
  induction cs with
  | nil => rfl
  | cons c cs ih =>
    rw [Percent.encode, List.flatMap_cons, ← Percent.encode, ih, encodeChar_eq, isUnreserved_eq, Standard.escape,
      Standard.allows, Bool.false_and, Bool.or_false]

theorem allows_percent (rest : List Char) : Standard.allows true '%' rest = Standard.endsTriplet rest := by
  have hclass : Standard.isUnreserved '%' = false ∧ Standard.isReserved '%' = false := by decide
  simp [Standard.allows, hclass]

theorem encodeReserved_eq_escape (cs : List Char) : Percent.encodeReserved cs = Standard.escape true cs := by
  fun_induction Percent.encodeReserved cs with
  | case1 a b cs h ih =>
    rw [isHexDigit_eq, isHexDigit_eq, Bool.and_eq_true] at h
    rw [Standard.escape_triplet h.1 h.2, ih]
  | case2 a b cs h ih =>
    rw [isHexDigit_eq, isHexDigit_eq] at h
    rw [Standard.escape, allows_percent, Standard.endsTriplet, if_neg h, ih, triplet_eq]
    rfl
  | case3 c cs h ih =>
    have hallows : Standard.allows true c cs = (Percent.isUnreserved c || Percent.isReserved c) := by
      rw [isUnreserved_eq, isReserved_eq]
      by_cases hc : c = '%'
      · -- A percent sign that is read alone has no two characters behind it.
        subst hc
        rw [allows_percent]
        rcases cs with _ | ⟨a, _ | ⟨b, cs⟩⟩
        · rfl
        · rfl
        · exact (h a b cs rfl rfl).elim
      · simp [Standard.allows, hc]
    rw [Standard.escape, hallows, ih, encodeChar_eq]
  | case4 => rfl

/-! ### Variables -/

/-- The operator that is read for an operator of the standard. -/
def Standard.Operator.meaning (op : Standard.Operator) : Template.Operator :=
  ⟨op.first, op.separator, op.isNamed, op.ifEmpty, op.allowsReserved⟩

/-- The variable that is read for a variable of the standard. -/
def Standard.VarSpec.meaning (s : Standard.VarSpec) : Template.VarSpec where
  name := s.name
  explode := s.modifier = .explode
  limit :=
    match s.modifier with
    | .upTo length _ _ => some length
    | _ => none

theorem ofChar?_eq_none {c : Char} (h : Standard.isNameChar c) (hdot : c ≠ '.') : Operator.ofChar? c = none := by
  unfold Operator.ofChar?
  split
  · exact absurd h (by decide)
  · exact absurd h (by decide)
  · exact absurd rfl hdot
  all_goals first | rfl | exact absurd h (by decide)

theorem split_append (op : Standard.Operator) {name : List Char} (h : Standard.IsVarName name) (rest : List Char) :
    Operator.split (op.text ++ (name ++ rest)) = (op.meaning, name ++ rest) := by
  obtain ⟨c, cs, rfl, hc, hdot⟩ := h.exists_cons
  cases op with
  | simple =>
    change Operator.split (c :: (cs ++ rest)) = _
    rw [Operator.split, ofChar?_eq_none hc hdot]
    rfl
  | _ => rfl

theorem isOrdinary_of_isNameChar {c : Char} (h : Standard.isNameChar c) : isOrdinary c := by
  have hall : ("_%.".toList.all isOrdinary) = true := by decide
  rw [Standard.isNameChar, Bool.or_eq_true] at h
  rcases h with h | h
  · exact isOrdinary_of_isUnreserved (by simp [isUnreserved_eq, Standard.isUnreserved, h])
  · exact List.all_eq_true.mp hall c (List.contains_iff_mem.mp h)

/-- A variable whose length is any number can be read. -/
theorem Standard.IsVarName.isReadable_limited {name : List Char} (h : IsVarName name) (n : Nat) :
    WrittenVariable.IsReadable ⟨name, .limited (toString n).toList⟩ := fun c hc => isOrdinary_of_isNameChar <| by
  rcases List.mem_append.mp hc with hc | hc
  · exact h.isNameChar c hc
  · simp [Standard.isNameChar, Count.isDigit_of_mem_toString hc]

/-- A variable of the standard as one that is written. -/
def Standard.VarSpec.written (s : Standard.VarSpec) : WrittenVariable where
  name := s.name
  modifier :=
    match s.modifier with
    | .whole => .plain
    | .explode => .exploded
    | .upTo length _ _ => .limited (toString length).toList

theorem Standard.VarSpec.text_written (s : Standard.VarSpec) : s.written.text = s.text := by
  obtain ⟨name, isVarName, modifier⟩ := s
  cases modifier with
  | whole => exact (List.append_nil name).symm
  | explode | upTo => rfl

theorem joined_written (specs : List Standard.VarSpec) :
    WrittenVariable.joined (specs.map Standard.VarSpec.written) =
      [','].intercalate (specs.map Standard.VarSpec.text) := by
  rw [WrittenVariable.joined, List.map_map, List.map_congr_left fun s _ => s.text_written]

theorem Standard.VarSpec.isReadable_written (s : Standard.VarSpec) : s.written.IsReadable := by
  obtain ⟨name, isVarName, modifier⟩ := s
  have hname : ∀ c ∈ name ++ [], isOrdinary c := fun c hc =>
    isOrdinary_of_isNameChar (isVarName.isNameChar c (List.append_nil name ▸ hc))
  cases modifier with
  | whole | explode => exact hname
  | upTo length pos le => exact isVarName.isReadable_limited length

theorem Standard.VarSpec.meaning_written (s : Standard.VarSpec) : s.written.meaning = s.meaning := by
  obtain ⟨name, isVarName, modifier⟩ := s
  cases modifier with
  | whole | explode => rfl
  | upTo length pos le =>
    have hlength : Count.read? (toString length).toList = some length :=
      Count.read?_toString (Nat.le_trans le (by decide))
    exact congrArg (Template.VarSpec.mk name false) hlength

theorem Standard.VarSpec.isReadable_of_mem_written (specs : List Standard.VarSpec) :
    ∀ v ∈ specs.map written, v.IsReadable :=
  List.forall_mem_map.mpr fun s _ => s.isReadable_written

theorem readSpecs_text {specs : List Standard.VarSpec} (hne : specs ≠ []) :
    readSpecs ([','].intercalate (specs.map Standard.VarSpec.text)) = specs.map Standard.VarSpec.meaning := by
  have hreadable := Standard.VarSpec.isReadable_of_mem_written specs
  rw [← joined_written, readSpecs_joined hreadable (by simpa using hne), List.map_map]
  exact List.map_congr_left fun s _ => s.meaning_written

/-! ### Expansion of expressions -/

theorem encode_eq (op : Standard.Operator) (value : List Char) :
    op.meaning.encode value = Standard.escape op.allowsReserved value := by
  unfold Operator.encode
  cases h : op.allowsReserved with
  | true => exact (if_pos h).trans (encodeReserved_eq_escape value)
  | false => exact (if_neg (Bool.eq_false_iff.mp h)).trans (encode_eq_escape value)

theorem truncate_eq (s : Standard.VarSpec) (value : List Char) :
    truncate s.meaning.limit value = s.modifier.cut value := by
  rw [Standard.VarSpec.meaning]
  cases s.modifier <;> rfl

theorem cut_eq_nil_iff (m : Standard.Modifier) (value : List Char) : m.cut value = [] ↔ value = [] := by
  cases m with
  | upTo length pos le => simp [Standard.Modifier.cut, List.take_eq_nil_iff, Nat.ne_of_gt pos]
  | _ => exact Iff.rfl

theorem pair_escape (op : Standard.Operator) (name value : List Char) :
    op.meaning.pair name (Standard.escape op.allowsReserved value) =
      if op.isNamed then name ++ if value = [] then op.ifEmpty else '=' :: Standard.escape op.allowsReserved value
      else Standard.escape op.allowsReserved value := by
  simp only [Operator.pair, Standard.escape_eq_nil_iff]
  rfl

theorem expandSpec_eq (op : Standard.Operator) {s : Standard.VarSpec} {values : List (List Char)}
    (h : s.modifier.Accepts values) :
    expandSpec op.meaning s.meaning values = s.expansion op (.ofList values) := by
  have hwritten (v : List Char) : op.meaning.encode (truncate s.meaning.limit v) =
      Standard.escape op.allowsReserved (s.modifier.cut v) := by rw [truncate_eq, encode_eq]
  have hname := s.isVarName.isLiteral.escape_eq
  unfold expandSpec
  simp only [hwritten]
  rcases values with _ | ⟨v, _ | ⟨w, vs⟩⟩
  · rfl
  · have hpair := pair_escape op s.name (s.modifier.cut v)
    simp only [cut_eq_nil_iff] at hpair
    simp only [List.map_cons, List.map_nil, Standard.Value.ofList, Standard.VarSpec.expansion, hname]
    rw [← apply_ite some, ← apply_ite some, ← apply_ite (s.name ++ ·)]
    exact congrArg some hpair
  · have hcut : s.modifier.cut = id := by
      cases hm : s.modifier with
      | upTo length pos le => simp [hm, Standard.Modifier.Accepts] at h
      | _ => rfl
    simp only [List.map_cons, Standard.Value.ofList, Standard.VarSpec.expansion, hname, hcut, id]
    by_cases hm : s.modifier = .explode
    · have hexplode : s.meaning.explode = true := decide_eq_true hm
      have hmeaning : s.meaning.name = s.name := rfl
      rw [if_pos hexplode, if_pos hm]
      simp only [List.map_map, Function.comp_def, hmeaning, pair_escape]
      cases op.isNamed <;> rfl
    · have hexplode : s.meaning.explode = false := decide_eq_false hm
      rw [if_neg (Bool.eq_false_iff.mp hexplode), if_neg hm]
      rfl

/-! ### Expansion of templates -/

section AppendAll
variable {op : Standard.Operator} {values : List Char → Standard.Value}

theorem appendAll_true (specs : List Standard.VarSpec) :
    Standard.appendAll op values true specs =
      (specs.filterMap fun s => s.expansion op (values s.name)).flatMap (op.separator ++ ·) := by
  induction specs with
  | nil => rfl
  | cons s specs ih =>
    rw [Standard.appendAll]
    split
    · next h => simp only [List.filterMap_cons, h, ih]
    · next text h => simp only [List.filterMap_cons, h, ih, if_true, List.flatMap_cons]

/-- Appending in turn is putting the expansions of the defined variables together. -/
theorem appendAll_false (specs : List Standard.VarSpec) :
    Standard.appendAll op values false specs =
      op.meaning.combine (specs.filterMap fun s => s.expansion op (values s.name)) := by
  induction specs with
  | nil => rfl
  | cons s specs ih =>
    rw [Standard.appendAll]
    split
    · next h => simp only [List.filterMap_cons, h, ih]
    · next text h =>
      simp only [List.filterMap_cons, h, appendAll_true, Operator.combine, intercalate_cons_eq_flatMap]
      exact List.append_assoc _ _ _

end AppendAll

theorem expandExpression_eq (op : Standard.Operator) {specs : List Standard.VarSpec} (hne : specs ≠ [])
    {values : List Char → List (List Char)} (h : ∀ s ∈ specs, s.modifier.Accepts (values s.name)) :
    expandExpression values (op.text ++ [','].intercalate (specs.map Standard.VarSpec.text)) =
      Standard.appendAll op (fun name => .ofList (values name)) false specs := by
  have hsplit : Operator.split (op.text ++ [','].intercalate (specs.map Standard.VarSpec.text)) =
      (op.meaning, [','].intercalate (specs.map Standard.VarSpec.text)) := by
    obtain ⟨s, rest, rfl⟩ := List.exists_cons_of_ne_nil hne
    rw [List.map_cons, intercalate_cons_eq_flatMap, Standard.VarSpec.text, List.append_assoc]
    exact split_append op s.isVarName _
  have hspecs : ((specs.map Standard.VarSpec.meaning).filterMap fun s => expandSpec op.meaning s (values s.name)) =
      specs.filterMap fun s => s.expansion op (.ofList (values s.name)) := by
    rw [List.filterMap_map]
    exact List.filterMap_congr fun s hs => expandSpec_eq op (h s hs)
  rw [expandExpression, hsplit]
  dsimp only
  rw [readSpecs_text hne, hspecs, appendAll_false]

theorem Standard.Operator.brace_notMem_append (op : Standard.Operator) {cs : List Char} (h : '}' ∉ cs) :
    '}' ∉ op.text ++ cs := by
  have hop : '}' ∉ op.text := by cases op <;> decide
  exact fun hm => (List.mem_append.mp hm).elim hop h

theorem brace_notMem_text (op : Standard.Operator) (specs : List Standard.VarSpec) :
    '}' ∉ op.text ++ [','].intercalate (specs.map Standard.VarSpec.text) := by
  rw [← joined_written]
  exact op.brace_notMem_append (brace_notMem_joined (Standard.VarSpec.isReadable_of_mem_written specs))

theorem flatMap_partsFrom_text {values : List Char → List (List Char)} {pieces : List Standard.Piece}
    (h : ∀ p ∈ pieces, ∀ s ∈ p.specs, s.modifier.Accepts (values s.name)) (done : List Char) :
    (partsFrom false done (Standard.text pieces)).flatMap (Part.expand values) =
      done.reverse ++ Standard.expansion pieces fun name => .ofList (values name) := by
  -- Literals one behind the other are read as one part, so `done` is any text in front of the pieces.
  induction pieces generalizing done with
  | nil => rfl
  | cons p pieces ih =>
    have ih := ih fun q hq => h q (List.mem_cons_of_mem p hq)
    rw [Standard.text, List.flatMap_cons, ← Standard.text, Standard.expansion, List.flatMap_cons, ← Standard.expansion]
    cases p with
    | literal text isLiteral =>
      rw [Standard.Piece.text, Standard.Piece.expansion, partsFrom_append isLiteral.brace_notMem, ih,
        isLiteral.escape_eq]
      simp
    | expression op specs ne_nil =>
      have hexpression := expandExpression_eq op ne_nil (h _ List.mem_cons_self)
      have htext : Standard.Piece.text (.expression op specs ne_nil) ++ Standard.text pieces =
          '{' :: (op.text ++ [','].intercalate (specs.map Standard.VarSpec.text) ++ '}' :: Standard.text pieces) := by
        simp [Standard.Piece.text]
      rw [htext, partsFrom, if_pos rfl, partsFrom_true (brace_notMem_text op specs)]
      simp only [List.flatMap_cons, Part.expand, ih, List.reverse_nil, List.nil_append, hexpression]
      rfl

/-- The expansion of a template is the one of the standard, whatever strings the variables have. -/
theorem expand_eq_expansion {values : List Char → List (List Char)} {pieces : List Standard.Piece}
    (h : ∀ p ∈ pieces, ∀ s ∈ p.specs, s.modifier.Accepts (values s.name)) :
    expand (Standard.text pieces) values = Standard.expansion pieces fun name => .ofList (values name) :=
  flatMap_partsFrom_text h []

def Standard.addressPieces : List Standard.Piece :=
  [.literal "/a".toList (.char rfl (.char rfl .nil)),
    .expression .query [⟨['t'], .single (.char rfl), .explode⟩,
      ⟨['p'], .single (.char rfl), .upTo 2 (by decide) (by decide)⟩] (by decide),
    .expression .fragment [⟨['f'], .single (.char rfl), .whole⟩] (by decide)]

theorem expand_address :
    let values : List Char → List (List Char) := fun name =>
      if name = ['t'] then ["x y".toList, "é".toList] else if name = ['p'] then ["123".toList] else []
    (∀ p ∈ Standard.addressPieces, ∀ s ∈ p.specs, s.modifier.Accepts (values s.name)) ∧
      expand "/a{?t*,p:2}{#f}".toList values = "/a?t=x%20y&t=%C3%A9&p=12".toList := by
  intro values
  have h : ∀ p ∈ Standard.addressPieces, ∀ s ∈ p.specs, s.modifier.Accepts (values s.name) := by
    simp only [Standard.addressPieces, List.forall_mem_cons, Standard.Piece.specs, Standard.Modifier.Accepts]
    exact ⟨nofun, ⟨trivial, .inr ⟨_, rfl, by decide⟩, nofun⟩, ⟨trivial, nofun⟩, nofun⟩
  exact ⟨h, (expand_eq_expansion h).trans (by decide)⟩

end Template
end CollectionQuery
