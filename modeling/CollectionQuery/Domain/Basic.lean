import CollectionQuery.Domain.Label
import CollectionQuery.Text.Punycode

/-! Domain names: labels set off by full stops. A name is given in letters of any script, and written in ASCII: a label
    that has other characters is written in Punycode behind `xn--`. -/

namespace CollectionQuery
namespace Domain
open Text

/-- The beginning of labels in Punycode. -/
def marker : List Char := ['x', 'n', '-', '-']

/-- The characters that no domain name holds when it is written. -/
def isForbidden (c : Char) : Bool :=
  c.toNat ≤ 0x20 || c.toNat = 0x7F || c ∈ ['#', '%', '/', ':', '<', '>', '?', '@', '[', '\\', ']', '^', '|']

/-- The label that is meant by one which may be in Punycode. What is written so has to need it, and is not written so
    twice. -/
def meant? (label : List Char) : Option (List Char) :=
  match behind? marker label with
  | none => some label
  | some code => do
    guard (code.all Punycode.isAscii)
    let meant ← Punycode.decode? code
    guard (!meant.all Punycode.isAscii && (behind? marker meant).isNone)
    pure meant

/-- A label as it is written. -/
def writeLabel (label : List Char) : List Char :=
  if label.all Punycode.isAscii then label else marker ++ Punycode.encode label

/-- The ASCII form of a domain name, if it is one. -/
def toAscii? (name : List Char) : Option (List Char) := do
  let pieces ← name.mapM written?
  let labels ← ((normalize pieces.flatten).splitOn '.').mapM meant?
  guard (labels.all (isLabel (labels.any runsLeft)))
  let text := ['.'].intercalate (labels.map writeLabel)
  guard (!text.any isForbidden)
  pure text

end Domain
end CollectionQuery
