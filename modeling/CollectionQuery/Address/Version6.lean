import CollectionQuery.Address.Version4

/-! Addresses of version 6, which are eight groups of 16 bits. A pair of colons stands for one group of zeros or more,
    and an address of version 4 at the end for the last two groups. Addresses are written with hexadecimal groups only,
    and a pair of colons stands for the longest run of zeros. -/

namespace CollectionQuery
namespace Version6
open Text

/-! ### Reading -/

/-- One to four hexadecimal digits. -/
def isGroup (cs : List Char) : Bool := cs ≠ [] && cs.length ≤ 4 && cs.all Hex.isDigit

/-- The groups that the pieces between colons stand for. -/
def readPieces? : (pieces : List (List Char)) → Option (List Nat)
  | [] => some []
  | [last] =>
    if isGroup last then some [Hex.value last]
    else (Version4.readDotted? last).map fun n => [n / 0x10000, n % 0x10000]
  | group :: rest => if isGroup group then (readPieces? rest).map (Hex.value group :: ·) else none

/-- The groups that a text denotes, none if it is empty. -/
def readGroups? (cs : List Char) : Option (List Nat) := if cs.isEmpty then some [] else readPieces? (cs.splitOn ':')

/-- The text before and after the first pair of colons. -/
def cutColons? : List Char → Option (List Char × List Char)
  | ':' :: ':' :: cs => some ([], cs)
  | c :: cs => (cutColons? cs).map fun (front, back) => (c :: front, back)
  | [] => none

/-- The eight groups with the given ones at the front and at the back, if a group of zeros is left between them. -/
def fill? (front back : List Nat) : Option (List Nat) :=
  let count := front.length + back.length
  if count ≤ 7 then some (front ++ List.replicate (8 - count) 0 ++ back) else none

/-- The groups of the address that a text denotes. Numbers of version 4 stand at the very end only. -/
def read? (cs : List Char) : Option (List Nat) :=
  match cutColons? cs with
  | none => (readGroups? cs).filter fun groups => groups.length = 8
  | some (front, back) => do
    guard (!front.contains '.')
    fill? (← readGroups? front) (← readGroups? back)

/-! ### Writing -/

/-- Where the longest run of zeros begins, the first one of several, and its length. -/
def longestZeros : (groups : List Nat) → Nat × Nat
  | [] => (0, 0)
  | g :: gs =>
    let (start, count) := longestZeros gs
    let here := ((g :: gs).takeWhile (· = 0)).length
    if here ≠ 0 && count ≤ here then (0, here) else (start + 1, count)

/-- Groups with colons between them. -/
def joined (groups : List Nat) : List Char := [':'].intercalate (groups.map (Nat.toDigits 16))

/-- The text of an address. A single group of zeros is written out. -/
def text (groups : List Nat) : List Char :=
  let (start, count) := longestZeros groups
  if count < 2 then joined groups else joined (groups.take start) ++ [':', ':'] ++ joined (groups.drop (start + count))

end Version6
end CollectionQuery
