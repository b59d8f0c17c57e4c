import CollectionQuery.Text.Cut
import CollectionQuery.Text.Percent

/-! Reading of form-encoded text (`application/x-www-form-urlencoded`): pairs of a name and a value. -/

namespace CollectionQuery
namespace Text
namespace Form

/-- A name or a value: a plus sign is a space, triplets are decoded, and bytes that are no UTF-8 are replaced. -/
def decode (cs : List Char) : List Char :=
  Utf8.decodeLossy (Percent.decode (cs.map fun c => if c = '+' then ' ' else c))

/-- The pair that a piece between ampersands holds. A piece without an equals sign has the empty value. -/
def pair (piece : List Char) : List Char × List Char :=
  match cut? '=' piece with
  | some (name, value) => (decode name, decode value)
  | none => (decode piece, [])

/-- The pairs of a text, in order. Empty pieces are no pairs. -/
def pairs (cs : List Char) : List (List Char × List Char) :=
  ((cs.splitOn '&').filter fun piece => !piece.isEmpty).map pair

end Form
end Text
end CollectionQuery
