import CollectionQuery.Address.Version6
import CollectionQuery.Domain.Basic
import CollectionQuery.Url.Kept

/-! The hosts of addresses. Where the scheme tells nothing, a name is any text; elsewhere it is the name of a domain,
    and a name that ends in a number is an address of version 4. -/

namespace CollectionQuery
namespace Url
open Text

inductive Host where
  | name (text : List Char)
  | version4 (number : Nat)
  | version6 (groups : List Nat)
  deriving DecidableEq, Repr

/-- A file on no other host, and some hosts of other schemes, have an empty name. -/
def Host.empty : Host := .name []

def Host.text : Host → List Char
  | name text => text
  | version4 number => Version4.text number
  | version6 groups => ['['] ++ Version6.text groups ++ [']']

/-- The characters that no name of a host holds. -/
def isForbidden (c : Char) : Bool :=
  c ∈ ['\x00', '\t', '\n', '\r', ' ', '#', '/', ':', '<', '>', '?', '@', '[', '\\', ']', '^', '|']

/-- The host that the name of a domain denotes. -/
def readDomain? (name : List Char) : Option Host :=
  if name = [] then none
  else if Version4.endsInNumber name then (Version4.read? name).map .version4
  else some (.name name)

/-- The host that a text denotes. An address of version 6 stands in brackets. -/
def readHost? (kind : Kind) : List Char → Option Host
  | '[' :: cs =>
    match cut? ']' cs with
    | some (address, []) => (Version6.read? address).map .version6
    | _ => none
  | cs =>
    if kind = .other then if cs.any isForbidden then none else some (.name (written isPrinted cs))
    else do readDomain? (← Domain.toAscii? (← Utf8.decode? (Percent.decode cs)))

/-- The host at the beginning of a text, up to the colon in front of a service number, and what follows. -/
def cutHost (cs : List Char) : List Char × List Char :=
  match cs with
  | '[' :: _ =>
    let rest := cs.dropWhile (· ≠ ']')
    (cs.takeWhile (· ≠ ']') ++ rest.takeWhile (· ≠ ':'), rest.dropWhile (· ≠ ':'))
  | _ => (cs.takeWhile (· ≠ ':'), cs.dropWhile (· ≠ ':'))

end Url
end CollectionQuery
