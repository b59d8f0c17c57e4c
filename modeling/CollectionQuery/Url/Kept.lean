import CollectionQuery.Text.Percent
import CollectionQuery.Url.Scheme

/-! The characters that the parts of an address keep. Others are written as triplets. The percent sign is kept
    everywhere, so that what is written already stays as it is. -/

namespace CollectionQuery
namespace Url
open Text

/-- The ASCII characters that are no controls. -/
def isPrinted (c : Char) : Bool := 0x20 ≤ c.toNat && c.toNat < 0x7F

def inFragment (c : Char) : Bool := isPrinted c && c ∉ [' ', '"', '<', '>', '`']

def inQuery (kind : Kind) (c : Char) : Bool :=
  isPrinted c && c ∉ [' ', '"', '#', '<', '>'] && (c ≠ '\'' || kind = .other)

def inSegment (c : Char) : Bool := inFragment c && c ∉ ['#', '?', '{', '}']

def inUser (c : Char) : Bool := inSegment c && c ∉ ['/', ':', ';', '=', '@', '[', '\\', ']', '^', '|']

/-- A text with triplets for the characters that are not kept. -/
def written (kept : Char → Bool) (cs : List Char) : List Char := cs.flatMap (Percent.encodeChar kept)

end Url
end CollectionQuery
