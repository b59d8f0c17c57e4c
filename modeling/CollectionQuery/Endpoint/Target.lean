import CollectionQuery.Url.Basic

/-! Addresses as the endpoints of queries. Queries can be sent to an address of the web with a host that a request can
    name. What the address tells about a user is sent apart. -/

namespace CollectionQuery
namespace Url
open Text

/-- Whether a text stands for characters. -/
def isReadable (cs : List Char) : Bool := (Utf8.decode? (Percent.decode cs)).isSome

/-- The authority without its user, if the user is one that can be sent apart. -/
def Authority.withoutUser (a : Authority) : Authority :=
  if isReadable a.user && (a.user ≠ [] || isReadable a.password) then { a with user := [], password := [] } else a

/-- The address that queries are sent to. -/
def target (u : Url) : Url := { u with authority := u.authority.map Authority.withoutUser }

/-- The length of the longest address that a request can hold. -/
def largestLength : Nat := 65534

/-- Whether a request can name the host. -/
def Host.isSendable : Host → Bool
  | name text => text.all fun c => c ∉ ['"', '`', '{', '}']
  | _ => true

/-- Whether queries can be sent to the address. -/
def isSendable (u : Url) : Bool :=
  u.scheme ∈ ["http".toList, "https".toList] && u.authority.all (·.host.isSendable) && u.chars.length ≤ largestLength

/-- The message for a request to the address that gets no answer. -/
def failureText (u : Url) : String :=
  (if u.target.isSendable then "error sending request" else "builder error") ++ " for url (" ++ u.target.text ++ ")"

end Url
end CollectionQuery
