import Mathlib.Data.List.Basic

/-! URI templates as RFC 6570 defines them: the grammar (section 2), the expansion of literals (3.1) and of variables
    (3.2.1), and the table of operators (appendix A). Nothing here refers to how templates are read and expanded
    elsewhere in this library. Literals that are allowed in a URI are copied. -/

namespace CollectionQuery
namespace Template
namespace Standard

/-! ### Characters -/

def isUnreserved (c : Char) : Bool := c.isAlpha || c.isDigit || "-._~".toList.contains c

def isGenDelim (c : Char) : Bool := ":/?#[]@".toList.contains c

def isSubDelim (c : Char) : Bool := "!$&'()*+,;=".toList.contains c

def isReserved (c : Char) : Bool := isGenDelim c || isSubDelim c

def isHexDigit (c : Char) : Bool := "0123456789ABCDEFabcdef".toList.contains c

/-- Whether a percent sign in front of the text begins a triplet. -/
def endsTriplet : List Char → Bool
  | a :: b :: _ => isHexDigit a && isHexDigit b
  | _ => false

def triplet (b : UInt8) : List Char :=
  let digit (n : Nat) : Char := "0123456789ABCDEF".toList.getD n '0'
  ['%', digit (b.toNat / 16), digit (b.toNat % 16)]

/-- Whether a character in front of `rest` is allowed: the unreserved ones always, the reserved ones and triplets if
    `reserved`. -/
def allows (reserved : Bool) (c : Char) (rest : List Char) : Bool :=
  isUnreserved c || (reserved && (isReserved c || (c = '%' && endsTriplet rest)))

/-- A text in which each character that is not allowed is replaced by the triplets of its bytes in UTF-8. -/
def escape (reserved : Bool) : List Char → List Char
  | [] => []
  | c :: cs => (if allows reserved c cs then [c] else (String.utf8EncodeChar c).flatMap triplet) ++ escape reserved cs

/-! ### Operators -/

inductive Operator where
  | simple | reserved | fragment | label | path | parameter | query | continuation
  deriving DecidableEq, Repr

namespace Operator

def text : Operator → List Char
  | simple => []
  | reserved => ['+']
  | fragment => ['#']
  | label => ['.']
  | path => ['/']
  | parameter => [';']
  | query => ['?']
  | continuation => ['&']

def first : Operator → List Char
  | simple | reserved => []
  | op => op.text

def separator : Operator → List Char
  | simple | reserved | fragment => [',']
  | label => ['.']
  | path => ['/']
  | parameter => [';']
  | query | continuation => ['&']

def isNamed : Operator → Bool
  | parameter | query | continuation => true
  | _ => false

def ifEmpty : Operator → List Char
  | query | continuation => ['=']
  | _ => []

def allowsReserved : Operator → Bool
  | reserved | fragment => true
  | _ => false

end Operator

/-! ### Variables -/

/-- One character of a name, possibly as a triplet. -/
inductive IsVarChar : List Char → Prop
  | char {c : Char} (h : (c.isAlpha || c.isDigit || c = '_') = true) : IsVarChar [c]
  | triplet {a b : Char} (ha : isHexDigit a = true) (hb : isHexDigit b = true) : IsVarChar ['%', a, b]

/-- Characters of a name one behind the other, with or without a dot between them. -/
inductive IsVarName : List Char → Prop
  | single {x : List Char} (hx : IsVarChar x) : IsVarName x
  | next {name x : List Char} (h : IsVarName name) (hx : IsVarChar x) : IsVarName (name ++ x)
  | dotted {name x : List Char} (h : IsVarName name) (hx : IsVarChar x) : IsVarName (name ++ '.' :: x)

inductive Modifier where
  | whole
  | explode
  | upTo (length : Nat) (pos : 0 < length) (le : length ≤ 9999)
  deriving DecidableEq, Repr

def Modifier.text : Modifier → List Char
  | whole => []
  | explode => ['*']
  | upTo length _ _ => ':' :: (toString length).toList

structure VarSpec where
  name : List Char
  isVarName : IsVarName name
  modifier : Modifier := .whole

def VarSpec.text (s : VarSpec) : List Char := s.name ++ s.modifier.text

/-! ### Values -/

inductive Value where
  | undefined
  | string (text : List Char)
  | list (members : List (List Char))
  deriving DecidableEq, Repr

/-- Some strings as a value: a list without members is undefined. -/
def Value.ofList : List (List Char) → Value
  | [] => .undefined
  | [text] => .string text
  | members => .list members

/-- The values that a modifier is for: a length is for one string, and one without percent signs. -/
def Modifier.Accepts : Modifier → List (List Char) → Prop
  | .upTo _ _ _, values => values = [] ∨ ∃ value, values = [value] ∧ '%' ∉ value
  | _, _ => True

/-! ### Templates -/

/-- The text consists of unreserved characters, reserved characters and triplets. -/
inductive IsLiteral : List Char → Prop
  | nil : IsLiteral []
  | char {c : Char} {cs : List Char} (hc : (isUnreserved c || isReserved c) = true) (h : IsLiteral cs) :
    IsLiteral (c :: cs)
  | triplet {a b : Char} {cs : List Char} (ha : isHexDigit a = true) (hb : isHexDigit b = true) (h : IsLiteral cs) :
    IsLiteral ('%' :: a :: b :: cs)

inductive Piece where
  | literal (text : List Char) (isLiteral : IsLiteral text)
  | expression (op : Operator) (specs : List VarSpec) (ne_nil : specs ≠ [])

def Piece.specs : Piece → List VarSpec
  | .literal _ _ => []
  | .expression _ specs _ => specs

def Piece.text : Piece → List Char
  | literal text _ => text
  | expression op specs _ => '{' :: op.text ++ [','].intercalate (specs.map VarSpec.text) ++ ['}']

def text (pieces : List Piece) : List Char := pieces.flatMap Piece.text

/-! ### Expansion -/

/-- The characters of a string that a modifier leaves. For strings without percent signs these are the code points
    that the standard counts. -/
def Modifier.cut : Modifier → List Char → List Char
  | upTo length _ _, value => value.take length
  | _, value => value

/-- What a variable appends to the result, if it is defined. Its name is written like a literal. -/
def VarSpec.expansion (op : Operator) (s : VarSpec) : Value → Option (List Char)
  | .undefined => none
  | .string value =>
    if op.isNamed then
      if value = [] then some (escape true s.name ++ op.ifEmpty)
      else some (escape true s.name ++ '=' :: escape op.allowsReserved (s.modifier.cut value))
    else some (escape op.allowsReserved (s.modifier.cut value))
  | .list members =>
    if s.modifier = .explode then
      if op.isNamed then
        some (op.separator.intercalate (members.map fun m =>
          escape true s.name ++ if m = [] then op.ifEmpty else '=' :: escape op.allowsReserved m))
      else some (op.separator.intercalate (members.map (escape op.allowsReserved)))
    else
      some ((if op.isNamed then escape true s.name ++ ['='] else []) ++
        [','].intercalate (members.map (escape op.allowsReserved)))

/-- Appends the expansions of some variables in turn: the first defined one of an expression behind the first string of
    the operator, the others behind its separator. -/
def appendAll (op : Operator) (values : List Char → Value) : (started : Bool) → List VarSpec → List Char
  | _, [] => []
  | started, s :: specs =>
    match s.expansion op (values s.name) with
    | none => appendAll op values started specs
    | some text => (if started then op.separator else op.first) ++ text ++ appendAll op values true specs

def Piece.expansion (values : List Char → Value) : Piece → List Char
  | literal text _ => escape true text
  | expression op specs _ => appendAll op values false specs

def expansion (pieces : List Piece) (values : List Char → Value) : List Char :=
  pieces.flatMap (Piece.expansion values)

/-! ### Characters of names and literals -/

def isNameChar (c : Char) : Bool := c.isAlpha || c.isDigit || "_%.".toList.contains c

theorem isAlpha_or_isDigit_of_isHexDigit {c : Char} (h : isHexDigit c) : (c.isAlpha || c.isDigit) = true := by
  have hall : ("0123456789ABCDEFabcdef".toList.all fun d => d.isAlpha || d.isDigit) = true := by decide
  exact List.all_eq_true.mp hall c (List.contains_iff_mem.mp h)

theorem isUnreserved_of_isHexDigit {c : Char} (h : isHexDigit c) : isUnreserved c := by
  rw [isUnreserved, isAlpha_or_isDigit_of_isHexDigit h, Bool.true_or]

theorem IsVarChar.isNameChar {x : List Char} (h : IsVarChar x) : ∀ c ∈ x, isNameChar c := by
  have hhex {c : Char} (hc : isHexDigit c) : Standard.isNameChar c := by
    rw [Standard.isNameChar, isAlpha_or_isDigit_of_isHexDigit hc, Bool.true_or]
  cases h with
  | char hc =>
    intro c hm
    obtain rfl := List.mem_singleton.mp hm
    simp only [Bool.or_eq_true, decide_eq_true_eq] at hc
    rcases hc with hc | rfl
    · simp [Standard.isNameChar, hc]
    · decide
  | triplet ha hb =>
    intro c hm
    simp only [List.mem_cons, List.not_mem_nil, or_false] at hm
    rcases hm with rfl | rfl | rfl
    · decide
    · exact hhex ha
    · exact hhex hb

theorem IsVarName.isNameChar {name : List Char} (h : IsVarName name) : ∀ c ∈ name, isNameChar c := by
  induction h with
  | single hx => exact hx.isNameChar
  | next _ hx ih =>
    intro c hc
    exact (List.mem_append.mp hc).elim (ih c) (hx.isNameChar c)
  | dotted _ hx ih =>
    intro c hc
    rcases List.mem_append.mp hc with hc | hc
    · exact ih c hc
    rcases List.mem_cons.mp hc with rfl | hc
    · decide
    · exact hx.isNameChar c hc

/-- A name does not begin with a dot. -/
theorem IsVarName.exists_cons {name : List Char} (h : IsVarName name) :
    ∃ c cs, name = c :: cs ∧ Standard.isNameChar c ∧ c ≠ '.' := by
  induction h with
  | single hx =>
    cases hx with
    | @char c hc =>
      refine ⟨c, [], rfl, IsVarChar.isNameChar (.char hc) c List.mem_cons_self, ?_⟩
      rintro rfl
      exact absurd hc (by decide)
    | triplet _ _ => exact ⟨'%', _, rfl, by decide, by decide⟩
  | next _ _ ih =>
    obtain ⟨c, cs, rfl, hc⟩ := ih
    exact ⟨c, _, rfl, hc⟩
  | dotted _ _ ih =>
    obtain ⟨c, cs, rfl, hc⟩ := ih
    exact ⟨c, _, rfl, hc⟩

theorem isUnreserved_ne_brace {c : Char} (h : isUnreserved c || isReserved c) : c ≠ '{' := by
  rintro rfl
  exact absurd h (by decide)

theorem IsLiteral.brace_notMem {cs : List Char} (h : IsLiteral cs) : '{' ∉ cs := by
  induction h with
  | nil => exact List.not_mem_nil
  | char hc _ ih => exact List.not_mem_cons_of_ne_of_not_mem (isUnreserved_ne_brace hc).symm ih
  | triplet ha hb _ ih =>
    have hne {c : Char} (hc : isHexDigit c) : '{' ≠ c :=
      (isUnreserved_ne_brace (by rw [isUnreserved_of_isHexDigit hc, Bool.true_or])).symm
    exact List.not_mem_cons_of_ne_of_not_mem (by decide) (List.not_mem_cons_of_ne_of_not_mem (hne ha)
      (List.not_mem_cons_of_ne_of_not_mem (hne hb) ih))

/-! ### Escaped text -/

theorem escape_cons_of_allows {reserved : Bool} {c : Char} {cs : List Char} (h : allows reserved c cs) :
    escape reserved (c :: cs) = c :: escape reserved cs := by
  rw [escape, if_pos h, List.singleton_append]

theorem allows_of_isUnreserved {c : Char} (h : isUnreserved c) (reserved : Bool) (rest : List Char) :
    allows reserved c rest := by
  rw [allows, h, Bool.true_or]

/-- The percent sign of a triplet is allowed, and so are its digits. -/
theorem escape_triplet {a b : Char} (ha : isHexDigit a) (hb : isHexDigit b) (cs : List Char) :
    escape true ('%' :: a :: b :: cs) = '%' :: a :: b :: escape true cs := by
  have hpercent : allows true '%' (a :: b :: cs) := by simp [allows, endsTriplet, ha, hb]
  rw [escape_cons_of_allows hpercent,
    escape_cons_of_allows (allows_of_isUnreserved (isUnreserved_of_isHexDigit ha) _ _),
    escape_cons_of_allows (allows_of_isUnreserved (isUnreserved_of_isHexDigit hb) _ _)]

theorem IsLiteral.escape_eq {cs : List Char} (h : IsLiteral cs) : escape true cs = cs := by
  induction h with
  | nil => rfl
  | @char c cs hc _ ih =>
    have hallows : allows true c cs := by
      rcases Bool.or_eq_true _ _ ▸ hc with hc | hc
      · exact allows_of_isUnreserved hc _ _
      · simp [allows, hc]
    rw [escape_cons_of_allows hallows, ih]
  | triplet ha hb _ ih => rw [escape_triplet ha hb, ih]

theorem IsLiteral.append {xs ys : List Char} (hx : IsLiteral xs) (hy : IsLiteral ys) : IsLiteral (xs ++ ys) := by
  induction hx with
  | nil => exact hy
  | char hc _ ih => exact .char hc ih
  | triplet ha hb _ ih => exact .triplet ha hb ih

theorem IsVarChar.isLiteral {x : List Char} (h : IsVarChar x) : IsLiteral x := by
  cases h with
  | char hc =>
    refine .char ?_ .nil
    simp only [Bool.or_eq_true, decide_eq_true_eq] at hc
    rcases hc with hc | rfl
    · simp [isUnreserved, hc]
    · decide
  | triplet ha hb => exact .triplet ha hb .nil

theorem IsVarName.isLiteral {name : List Char} (h : IsVarName name) : IsLiteral name := by
  induction h with
  | single hx => exact hx.isLiteral
  | next _ hx ih => exact ih.append hx.isLiteral
  | dotted _ hx ih => exact ih.append (.char (by decide) hx.isLiteral)

theorem escape_eq_nil_iff {reserved : Bool} {cs : List Char} : escape reserved cs = [] ↔ cs = [] := by
  cases cs with
  | nil => simp [escape]
  | cons c cs =>
    have hbytes : String.utf8EncodeChar c ≠ [] := by
      unfold String.utf8EncodeChar
      dsimp only
      split_ifs <;> exact List.cons_ne_nil _ _
    obtain ⟨b, bs, hb⟩ := List.exists_cons_of_ne_nil hbytes
    rw [escape]
    split <;> simp [hb, triplet]

end Standard
end Template
end CollectionQuery
