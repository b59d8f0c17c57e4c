/-! Whole numbers of at most 64 bits in decimal notation: an optional plus sign and one digit or more. Larger
    numbers are no counts, and arithmetic on counts stops at the largest one. -/

namespace CollectionQuery
namespace Text
namespace Count

/-- The largest number of 64 bits. -/
def largest : Nat := 18446744073709551615

/-- The number that the decimal digits `ds` denote. -/
def value (ds : List Char) : Nat := ds.foldl (fun n d => 10 * n + (d.toNat - '0'.toNat)) 0

/-- Reads a number that fills the whole text. -/
def read? (cs : List Char) : Option Nat :=
  let ds := match cs with
    | '+' :: rest => rest
    | _ => cs
  if ds ≠ [] ∧ ds.all Char.isDigit ∧ value ds ≤ largest then some (value ds) else none

/-- The product, or the largest number where the product is larger. -/
def mul (m n : Nat) : Nat := min (m * n) largest

theorem mul_of_le {m n : Nat} (h : m * n ≤ largest) : mul m n = m * n := Nat.min_eq_left h

end Count
end Text
end CollectionQuery
