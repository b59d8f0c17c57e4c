import CollectionQuery.Text.Hex

/-! JSON texts. Members of objects keep their order, and numbers their text. -/

namespace CollectionQuery
namespace Text

inductive Json where
  | null
  | bool (value : Bool)
  | number (text : List Char)
  | string (text : List Char)
  | array (items : List Json)
  | object (members : List (List Char × Json))

namespace Json

def skipBlank (cs : List Char) : List Char := cs.dropWhile fun c => c = ' ' || c = '\t' || c = '\n' || c = '\r'

/-! ### Strings -/

def isHigh (n : Nat) : Bool := 0xD800 ≤ n && n ≤ 0xDBFF

def isLow (n : Nat) : Bool := 0xDC00 ≤ n && n ≤ 0xDFFF

/-- The character that a backslash and `c` stand for. -/
def escaped? : Char → Option Char
  | '"' => some '"'
  | '\\' => some '\\'
  | '/' => some '/'
  | 'b' => some '\x08'
  | 'f' => some '\x0C'
  | 'n' => some '\n'
  | 'r' => some '\r'
  | 't' => some '\t'
  | _ => none

/-- Reads a string behind its opening quote. A character beyond U+FFFF is escaped as two code units. -/
def readString : List Char → Option (List Char × List Char)
  | '"' :: cs => some ([], cs)
  | '\\' :: 'u' :: a :: b :: c :: d :: cs => do
    let n ← Hex.read? [a, b, c, d]
    if isHigh n then
      match cs with
      | '\\' :: 'u' :: a :: b :: c :: d :: cs => do
        let m ← Hex.read? [a, b, c, d]
        guard (isLow m)
        let (text, rest) ← readString cs
        pure (Char.ofNat (0x10000 + (n - 0xD800) * 0x400 + (m - 0xDC00)) :: text, rest)
      | _ => none
    else do
      guard !isLow n
      let (text, rest) ← readString cs
      pure (Char.ofNat n :: text, rest)
  | '\\' :: c :: cs => do
    let e ← escaped? c
    let (text, rest) ← readString cs
    pure (e :: text, rest)
  | c :: cs => do
    guard (0x20 ≤ c.toNat && c ≠ '\\')
    let (text, rest) ← readString cs
    pure (c :: text, rest)
  | [] => none

/-! ### Numbers -/

/-- Digits without a leading zero. -/
def isWhole (ds : List Char) : Bool :=
  ds ≠ [] && ds.all Char.isDigit && (ds.length = 1 || ds.head? ≠ some '0')

/-- A sign, digits, a fraction and an exponent, of which only the digits have to be there. -/
def isNumber (cs : List Char) : Bool :=
  let cs := match cs with
    | '-' :: rest => rest
    | _ => cs
  let whole := cs.takeWhile Char.isDigit
  let rest := cs.dropWhile Char.isDigit
  let (fraction, rest) := match rest with
    | '.' :: rest => (!(rest.takeWhile Char.isDigit).isEmpty, rest.dropWhile Char.isDigit)
    | rest => (true, rest)
  let exponent := match rest with
    | [] => true
    | e :: rest =>
      let ds := match rest with
        | '+' :: ds | '-' :: ds => ds
        | ds => ds
      (e = 'e' || e = 'E') && ds ≠ [] && ds.all Char.isDigit
  isWhole whole && fraction && exponent

/-! ### Values -/

mutual

/-- Reads a value that is nested less than `depth` deep, in a text without blanks in front. -/
def readValue : (depth : Nat) → List Char → Option (Json × List Char)
  | 0, _ => none
  | depth + 1, cs =>
    match cs with
    | '"' :: cs => (readString cs).map fun (text, rest) => (.string text, rest)
    | '[' :: cs =>
      match skipBlank cs with
      | ']' :: rest => some (.array [], rest)
      | cs => (readItems depth cs).map fun (items, rest) => (.array items, rest)
    | '{' :: cs =>
      match skipBlank cs with
      | '}' :: rest => some (.object [], rest)
      | cs => (readMembers depth cs).map fun (members, rest) => (.object members, rest)
    | cs =>
      let word := cs.takeWhile fun c => c.isAlphanum || c = '-' || c = '+' || c = '.'
      let rest := cs.drop word.length
      if word = "null".toList then some (.null, rest)
      else if word = "true".toList then some (.bool true, rest)
      else if word = "false".toList then some (.bool false, rest)
      else if isNumber word then some (.number word, rest)
      else none

/-- Reads items up to the closing bracket. -/
def readItems : (depth : Nat) → List Char → Option (List Json × List Char)
  | 0, _ => none
  | depth + 1, cs => do
    let (item, rest) ← readValue depth cs
    match skipBlank rest with
    | ']' :: rest => pure ([item], rest)
    | ',' :: rest => do
      let (items, rest) ← readItems depth (skipBlank rest)
      pure (item :: items, rest)
    | _ => none

/-- Reads members up to the closing brace. -/
def readMembers : (depth : Nat) → List Char → Option (List (List Char × Json) × List Char)
  | 0, _ => none
  | depth + 1, cs =>
    match cs with
    | '"' :: cs => do
      let (name, rest) ← readString cs
      match skipBlank rest with
      | ':' :: rest => do
        let (value, rest) ← readValue depth (skipBlank rest)
        match skipBlank rest with
        | '}' :: rest => pure ([(name, value)], rest)
        | ',' :: rest => do
          let (members, rest) ← readMembers depth (skipBlank rest)
          pure ((name, value) :: members, rest)
        | _ => none
      | _ => none
    | _ => none

end

/-- The value that a whole text denotes. No text nests deeper than it is long. -/
def read? (cs : List Char) : Option Json :=
  match readValue (cs.length + 1) (skipBlank cs) with
  | some (value, rest) => if (skipBlank rest).isEmpty then some value else none
  | none => none

/-- The first member of a name. -/
def member? (name : String) : Json → Option Json
  | object members => members.lookup name.toList
  | _ => none

end Json
end Text
end CollectionQuery
