/-! The encoding form UTF-8. Reading cuts bytes into the longest pieces that are a character or the beginning of
    one: a piece that is no character is an error, or is replaced by U+FFFD. -/

namespace CollectionQuery
namespace Text
namespace Utf8

/-! ### Writing -/

/-- The bytes of a character. -/
def encodeChar (c : Char) : List UInt8 :=
  let n := c.toNat
  if n < 0x80 then [n.toUInt8]
  else if n < 0x800 then [(0xC0 + n / 64).toUInt8, (0x80 + n % 64).toUInt8]
  else if n < 0x10000 then
    [(0xE0 + n / 4096).toUInt8, (0x80 + n / 64 % 64).toUInt8, (0x80 + n % 64).toUInt8]
  else
    [(0xF0 + n / 262144).toUInt8, (0x80 + n / 4096 % 64).toUInt8, (0x80 + n / 64 % 64).toUInt8,
      (0x80 + n % 64).toUInt8]

def encode (cs : List Char) : List UInt8 := cs.flatMap encodeChar

/-! ### Reading -/

/-- What follows a first byte above 0x7F: how many bytes, and the least and greatest value of the next one. -/
def tailOf (lead : UInt8) : Option (Nat × UInt8 × UInt8) :=
  if 0xC2 ≤ lead && lead ≤ 0xDF then some (1, 0x80, 0xBF)
  else if lead = 0xE0 then some (2, 0xA0, 0xBF)
  else if lead = 0xED then some (2, 0x80, 0x9F)
  else if 0xE1 ≤ lead && lead ≤ 0xEF then some (2, 0x80, 0xBF)
  else if lead = 0xF0 then some (3, 0x90, 0xBF)
  else if 0xF1 ≤ lead && lead ≤ 0xF3 then some (3, 0x80, 0xBF)
  else if lead = 0xF4 then some (3, 0x80, 0x8F)
  else none

/-- The first bytes of `bs` that continue a character which lacks `count` bytes, the next of them within the
    given bounds. -/
def continuing : (count : Nat) → (low high : UInt8) → (bs : List UInt8) → List UInt8
  | 0, _, _, _ => []
  | _ + 1, _, _, [] => []
  | n + 1, low, high, b :: bs => if low ≤ b && b ≤ high then b :: continuing n 0x80 0xBF bs else []

/-- The character with a first byte above 0x7F and the bytes `rest` after it. -/
def character (lead : UInt8) (rest : List UInt8) : Char :=
  Char.ofNat (rest.foldl (fun n b => 64 * n + b.toNat % 64) (lead.toNat % Nat.pow 2 (6 - rest.length)))

/-- The pieces of `bs` behind its first `skip` bytes, `none` standing for a piece that is no character. -/
def piecesFrom : (skip : Nat) → (bs : List UInt8) → List (Option Char)
  | _, [] => []
  | skip + 1, _ :: bs => piecesFrom skip bs
  | 0, b :: bs =>
    if b < 0x80 then some (Char.ofNat b.toNat) :: piecesFrom 0 bs
    else
      match tailOf b with
      | none => none :: piecesFrom 0 bs
      | some (count, low, high) =>
        let rest := continuing count low high bs
        (if rest.length = count then some (character b rest) else none) :: piecesFrom rest.length bs

/-- The text with U+FFFD for each piece that is no character. -/
def decodeLossy (bs : List UInt8) : List Char := (piecesFrom 0 bs).map fun piece => piece.getD '\uFFFD'

/-- The text, if all pieces are characters. -/
def decode? (bs : List UInt8) : Option (List Char) := (piecesFrom 0 bs).mapM id

end Utf8
end Text
end CollectionQuery
