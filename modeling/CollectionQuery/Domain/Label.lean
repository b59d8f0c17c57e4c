import CollectionQuery.Domain.Image
import CollectionQuery.Domain.Permitted
import CollectionQuery.Text.CombiningClass
import CollectionQuery.Text.Direction
import CollectionQuery.Text.Joining
import CollectionQuery.Text.Normal

/-! The labels of a domain name, the parts between its full stops: which characters they hold, and where joiners and
    characters of either direction may stand. -/

namespace CollectionQuery
namespace Domain
open Text

/-! ### Characters -/

/-- What a character of a domain name is written as, if it may be there. -/
def written? (c : Char) : Option (List Char) := if isPermitted c then some ((image? c).getD [c]) else none

/-- Whether a character is written as itself. -/
def isStable (c : Char) : Bool := written? c = some [c]

/-! ### Joiners

A joiner stands behind a sign that takes a vowel. One that keeps letters apart may also stand between letters that would
join each other. -/

def joiner : Char := '\u200D'

def nonJoiner : Char := '\u200C'

/-- Whether letters around a place would join. What is in front of it is reversed. -/
def wouldJoin (before after : List Char) : Bool :=
  (before.dropWhile isTransparent).head?.any joinsNext && (after.dropWhile isTransparent).head?.any joinsPrevious

/-- Whether all joiners of a text are in their places. What is in front of the text is reversed. -/
def joinersFit (before : List Char) : List Char → Bool
  | [] => true
  | c :: cs =>
    let isBehindVirama := before.head?.any isVirama
    (c ≠ joiner || isBehindVirama) && (c ≠ nonJoiner || isBehindVirama || wouldJoin before cs) &&
      joinersFit (c :: before) cs

/-! ### Direction -/

/-- The direction at the end, marks aside. -/
def lastDirection? (ds : List Direction) : Option Direction := (ds.reverse.dropWhile (· = .mark)).head?

/-- Whether a label can be told from others next to it where letters of both directions meet: its first and last
    characters show its direction, and no letter of the other direction is between them. -/
def keepsDirection (label : List Char) : Bool :=
  let ds := label.map direction
  match ds.head? with
  | none => true
  | some .left =>
    !ds.contains .right && !ds.contains .arabicNumber && (lastDirection? ds).any (· ∈ [.left, .number])
  | some .right =>
    !ds.contains .left && !(ds.contains .number && ds.contains .arabicNumber) &&
      (lastDirection? ds).any (· ∈ [.right, .number, .arabicNumber])
  | some _ => false

/-- Whether a label makes the direction of a domain name matter. -/
def runsLeft (label : List Char) : Bool := label.any fun c => direction c ∈ [.right, .arabicNumber]

/-! ### Labels -/

/-- Whether a text is a label, in a domain name in which the direction of letters matters or does not. -/
def isLabel (withDirection : Bool) (label : List Char) : Bool :=
  label.all (fun c => isStable c && c ≠ '.') && isNormal label && !label.head?.any isMark && joinersFit [] label &&
    (!withDirection || keepsDirection label)

end Domain
end CollectionQuery
