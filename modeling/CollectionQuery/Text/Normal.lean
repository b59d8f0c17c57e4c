import CollectionQuery.Text.CombiningClass
import CollectionQuery.Text.Composition

/-! The normal form C of a text: characters are taken apart, their marks are put in order, and what can be composed is
    composed. Texts that are read alike have one normal form. -/

namespace CollectionQuery
namespace Text
namespace Normal

/-! ### Taking apart -/

/-- A character and the marks it is composed with. A character that is taken apart `depth` times has that many marks;
    none has more than three. -/
def decomposeChar : (depth : Nat) → Char → List Char
  | 0, c => [c]
  | depth + 1, c =>
    match parts? c with
    | some (first, second) => decomposeChar depth first ++ [second]
    | none => [c]

/-! ### Order of marks -/

/-- Puts a mark in front of the marks with a higher class. -/
def insertMark (c : Char) : List Char → List Char
  | [] => [c]
  | d :: ds =>
    if combiningClass d = 0 || combiningClass c ≤ combiningClass d then c :: d :: ds else d :: insertMark c ds

/-- Orders each run of marks by their classes. Marks of one class keep their order. -/
def order : List Char → List Char
  | [] => []
  | c :: cs => if combiningClass c = 0 then c :: order cs else insertMark c (order cs)

def decompose (cs : List Char) : List Char := order (cs.flatMap (decomposeChar 3))

/-! ### Composing -/

/-- Composes a character with what follows. `marks` are those behind it that have been passed over, the last one first:
    a later character reaches past them only if its class is higher than theirs. -/
def composeWith (start : Char) (marks : List Char) : List Char → List Char
  | [] => start :: marks.reverse
  | c :: cs =>
    let isNear := marks.head?.all fun m => combiningClass m < combiningClass c
    match if isNear then compose? start c else none with
    | some composed => composeWith composed marks cs
    | none =>
      if combiningClass c = 0 then start :: marks.reverse ++ composeWith c [] cs
      else composeWith start (c :: marks) cs

/-- Composes a text. Marks at its beginning have nothing to be composed with. -/
def compose : List Char → List Char
  | [] => []
  | c :: cs => if combiningClass c = 0 then composeWith c [] cs else c :: compose cs

end Normal

def normalize (cs : List Char) : List Char := Normal.compose (Normal.decompose cs)

def isNormal (cs : List Char) : Bool := normalize cs = cs

end Text
end CollectionQuery
