import CollectionQuery.Text.Cut

/-! Punycode: a text is written as its ASCII characters, in order, and then as numbers that tell where the others come
    in, from the lowest code point to the highest. A number counts the places, and the code points at each of them, that
    are passed over since the character before. -/

namespace CollectionQuery
namespace Text
namespace Punycode

def isAscii (c : Char) : Bool := c.toNat < 0x80

/-! ### Numbers

A number is written from its lowest digit to its highest, to base 36. A digit below the threshold of its place is the
last one. The thresholds follow the bias, which follows the size of the numbers written so far. -/

def digit (n : Nat) : Char := if n < 26 then Char.ofNat ('a'.toNat + n) else Char.ofNat ('0'.toNat + (n - 26))

/-- The value of a digit, which may be an upper-case letter. -/
def digitValue? (c : Char) : Option Nat :=
  if c.isLower then some (c.toNat - 'a'.toNat)
  else if c.isUpper then some (c.toNat - 'A'.toNat)
  else if c.isDigit then some (c.toNat - '0'.toNat + 26)
  else none

/-- The threshold of a place. Places are counted by 36, and thresholds lie between 1 and 26. -/
def threshold (bias place : Nat) : Nat := min 26 (max 1 (place - bias))

theorem threshold_pos (bias place : Nat) : 0 < threshold bias place := by unfold threshold; omega

/-- The bias for numbers of a size. -/
def biasFor (place size : Nat) : Nat :=
  if 455 < size then biasFor (place + 36) (size / 35) else place + 36 * size / (size + 38)
termination_by size
decreasing_by omega

/-- The bias behind a number, which is the first one or a later one, where `count` characters are known. -/
def adapt (isFirst : Bool) (number count : Nat) : Nat :=
  let size := number / if isFirst then 700 else 2
  biasFor 0 (size + size / count)

def writeNumber (bias place n : Nat) : List Char :=
  let t := threshold bias place
  if n < t then [digit n] else digit (t + (n - t) % (36 - t)) :: writeNumber bias (place + 36) ((n - t) / (36 - t))
termination_by n
decreasing_by
  have hp := threshold_pos bias place
  have hd := Nat.div_le_self (n - threshold bias place) (36 - threshold bias place)
  omega

/-- Reads a number behind digits of the value `n`, where a digit of this place counts `weight`. -/
def readNumber (bias place weight n : Nat) : List Char → Option (Nat × List Char)
  | [] => none
  | c :: cs => do
    let d ← digitValue? c
    if d < threshold bias place then pure (n + d * weight, cs)
    else readNumber bias (place + 36) (weight * (36 - threshold bias place)) (n + d * weight) cs

theorem length_lt_of_readNumber {bias place weight n m : Nat} {cs rest : List Char}
    (h : readNumber bias place weight n cs = some (m, rest)) : rest.length < cs.length := by
  induction cs generalizing place weight n with
  | nil => simp [readNumber] at h
  | cons c cs ih =>
    obtain ⟨d, _, h⟩ := Option.bind_eq_some_iff.mp h
    split at h
    · cases h; simp
    · exact Nat.lt_succ_of_lt (ih h)

/-! ### Writing -/

/-- How far the writing is: the number that the next character will get, the bias, and how many characters are known. -/
structure Progress where
  number : Nat
  bias : Nat
  count : Nat

/-- Writes the numbers of the characters with a code point. Those with lower ones are known already. -/
def writeCode (basic code : Nat) (p : Progress) : List Char → List Char × Progress
  | [] => ([], p)
  | c :: cs =>
    if c.toNat < code then writeCode basic code { p with number := p.number + 1 } cs
    else if c.toNat = code then
      let count := p.count + 1
      let (text, q) := writeCode basic code ⟨0, adapt (p.count = basic) p.number count, count⟩ cs
      (writeNumber p.bias 36 p.number ++ text, q)
    else writeCode basic code p cs

/-- Writes the numbers of the characters with the given code points. All code points below `next` are done. -/
def writeCodes (basic : Nat) (text : List Char) (next : Nat) (p : Progress) : (codes : List Nat) → List Char
  | [] => []
  | code :: codes =>
    let passed := (code - next) * (p.count + 1)
    let (written, q) := writeCode basic code { p with number := p.number + passed } text
    written ++ writeCodes basic text (code + 1) { q with number := q.number + 1 } codes

/-- Adds a code point to an ascending list. -/
def insertCode (code : Nat) : List Nat → List Nat
  | [] => [code]
  | n :: ns =>
    if code < n then code :: n :: ns else if code = n then n :: ns else n :: insertCode code ns

def encode (text : List Char) : List Char :=
  let basic := text.filter isAscii
  let codes := (text.filter fun c => !isAscii c).foldr (fun c codes => insertCode c.toNat codes) []
  basic ++ (if basic.isEmpty then [] else ['-']) ++ writeCodes basic.length text 0x80 ⟨0, 72, basic.length⟩ codes

/-! ### Reading -/

/-- Puts characters into a text until no number is left. The next place and code point are counted from `place` and
    `code`. -/
def insertNumbers (bias place code : Nat) (text cs : List Char) : Option (List Char) :=
  if cs = [] then some text
  else
    match _h : readNumber bias 36 1 place cs with
    | none => none
    | some (n, rest) =>
      let count := text.length + 1
      let code := code + n / count
      if code.isValidChar then
        insertNumbers (adapt (place = 0) (n - place) count) (n % count + 1) code
          (text.insertIdx (n % count) (Char.ofNat code)) rest
      else none
termination_by cs.length
decreasing_by exact length_lt_of_readNumber _h

/-- The text that is written so. The last hyphen ends its ASCII characters, if there are any. -/
def decode? (cs : List Char) : Option (List Char) :=
  match cutLast? '-' cs with
  | none | some ([], _) => insertNumbers 72 0 0x80 [] cs
  | some (basic, rest) => insertNumbers 72 0 0x80 basic rest

end Punycode
end Text
end CollectionQuery
