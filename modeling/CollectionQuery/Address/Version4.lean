import CollectionQuery.Text.Count
import CollectionQuery.Text.Hex

/-! Addresses of version 4, which are numbers of 32 bits. They are written as four numbers of one byte each. A reader
    that is lenient takes fewer numbers, the last of them for all the bytes that are left, and other bases. -/

namespace CollectionQuery
namespace Version4
open Text

/-! ### Lenient reading -/

def isOctalDigit (c : Char) : Bool := '0' ≤ c && c ≤ '7'

/-- The number that some octal digits denote. -/
def octalValue (ds : List Char) : Nat := ds.foldl (fun n d => 8 * n + (d.toNat - '0'.toNat)) 0

/-- The number that a text denotes: octal behind `0`, hexadecimal behind `0x`, else decimal. -/
def readNumber? : List Char → Option Nat
  | '0' :: x :: ds =>
    if x = 'x' || x = 'X' then Hex.read? ds
    else if (x :: ds).all isOctalDigit then some (octalValue (x :: ds))
    else none
  | ds => if ds ≠ [] && ds.all Char.isDigit then some (Count.value ds) else none

/-- The parts between full stops. A full stop at the end ends the last part. -/
def parts (cs : List Char) : List (List Char) :=
  let all := cs.splitOn '.'
  if all.getLast? = some [] then all.dropLast else all

/-- Whether the last part of a text makes it an address, or nothing at all. -/
def endsInNumber (cs : List Char) : Bool :=
  (parts cs).getLast?.any fun last => (last ≠ [] && last.all Char.isDigit) || (readNumber? last).isSome

/-- The number in which the last given number fills the bytes that the others leave. -/
def combine? : (bytes : Nat) → List Nat → Option Nat
  | 0, _ | _, [] => none
  | bytes + 1, [last] => if last < Nat.pow 256 (bytes + 1) then some last else none
  | bytes + 1, n :: ns => if n < 256 then (combine? bytes ns).map (n * Nat.pow 256 bytes + ·) else none

/-- The address that a text denotes. -/
def read? (cs : List Char) : Option Nat := do combine? 4 (← (parts cs).mapM readNumber?)

/-! ### Strict reading -/

/-- A number from 0 to 255 without a leading zero. -/
def isOctet (ds : List Char) : Bool :=
  ds ≠ [] && ds.length ≤ 3 && ds.all Char.isDigit && (ds.length = 1 || ds.head? ≠ some '0') &&
    Count.value ds ≤ 255

/-- The address that four numbers denote. -/
def readDotted? (cs : List Char) : Option Nat :=
  let octets := cs.splitOn '.'
  if octets.length = 4 && octets.all isOctet then combine? 4 (octets.map Count.value) else none

/-! ### Writing -/

def octets (n : Nat) : List Nat := [n / 0x1000000, n / 0x10000 % 0x100, n / 0x100 % 0x100, n % 0x100]

def text (n : Nat) : List Char := ['.'].intercalate ((octets n).map (Nat.toDigits 10))

end Version4
end CollectionQuery
