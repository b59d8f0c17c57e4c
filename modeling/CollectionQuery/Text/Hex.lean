/-! Numbers in hexadecimal notation. Digits are read in both cases and written in upper case. -/

namespace CollectionQuery
namespace Text
namespace Hex

def isDigit (c : Char) : Bool := c.isDigit || ('A' ≤ c && c ≤ 'F') || ('a' ≤ c && c ≤ 'f')

/-- The value of a digit. -/
def digitValue (c : Char) : Nat :=
  if c.isDigit then c.toNat - '0'.toNat
  else if c ≤ 'F' then c.toNat - 'A'.toNat + 10
  else c.toNat - 'a'.toNat + 10

/-- The digit of a value below 16. -/
def digit (n : Nat) : Char :=
  if n < 10 then Char.ofNat ('0'.toNat + n) else Char.ofNat ('A'.toNat + (n - 10))

/-- The number that some digits denote. -/
def value (ds : List Char) : Nat := ds.foldl (fun n d => 16 * n + digitValue d) 0

/-- The number that a text of digits denotes. -/
def read? (ds : List Char) : Option Nat := if ds.all isDigit then some (value ds) else none

theorem digitValue_digit : ∀ n < 16, digitValue (digit n) = n := by decide

theorem isDigit_digit : ∀ n < 16, isDigit (digit n) = true := by decide

end Hex
end Text
end CollectionQuery
