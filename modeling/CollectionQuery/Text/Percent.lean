import CollectionQuery.Text.Hex
import CollectionQuery.Text.Utf8

/-! Percent-encoding of text: a character outside the kept ones is written as one triplet per byte of its UTF-8
    form. Triplets that a text already holds can be kept as they are, so that writing twice changes nothing. -/

namespace CollectionQuery
namespace Text
namespace Percent

/-! ### Triplets -/

/-- The triplet of a byte. -/
def triplet (b : UInt8) : List Char := ['%', Hex.digit (b.toNat / 16), Hex.digit (b.toNat % 16)]

/-! ### Classes of characters -/

/-- The characters that no percent-encoding changes. -/
def isUnreserved (c : Char) : Bool := c.isAlphanum || c = '-' || c = '.' || c = '_' || c = '~'

/-- The characters with a meaning of their own in an IRI. -/
def isReserved (c : Char) : Bool := c ∈ [':', '/', '?', '#', '[', ']', '@', '!', '$', '&', '\'', '(', ')', '*', '+',
  ',', ';', '=']

/-! ### Writing -/

/-- A character as itself if it is `kept`, as triplets otherwise. -/
def encodeChar (kept : Char → Bool) (c : Char) : List Char :=
  if kept c then [c] else (Utf8.encodeChar c).flatMap triplet

/-- Keeps the unreserved characters only. -/
def encode (cs : List Char) : List Char := cs.flatMap (encodeChar isUnreserved)

/-- Keeps the unreserved and reserved characters, and whole triplets. -/
def encodeReserved : List Char → List Char
  | '%' :: a :: b :: cs =>
    if Hex.isDigit a && Hex.isDigit b then '%' :: a :: b :: encodeReserved cs
    else triplet 0x25 ++ encodeReserved (a :: b :: cs)
  | c :: cs => encodeChar (fun c => isUnreserved c || isReserved c) c ++ encodeReserved cs
  | [] => []

/-! ### Reading -/

/-- The bytes of a text in which each triplet stands for its byte and all else for itself. -/
def decode : List Char → List UInt8
  | '%' :: a :: b :: cs =>
    if Hex.isDigit a && Hex.isDigit b then (16 * Hex.digitValue a + Hex.digitValue b).toUInt8 :: decode cs
    else 0x25 :: decode (a :: b :: cs)
  | c :: cs => Utf8.encodeChar c ++ decode cs
  | [] => []

end Percent
end Text
end CollectionQuery
