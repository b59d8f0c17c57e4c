import CollectionQuery.Url.Host

/-! Addresses: a scheme, possibly an authority, a path, and possibly a query and a fragment. All parts are in the form
    in which they are written. -/

namespace CollectionQuery

/-- Where the resources of an address are. An empty password is none. -/
structure Url.Authority where
  user : List Char := []
  password : List Char := []
  host : Url.Host
  service : Option Nat := none
  deriving DecidableEq, Repr

structure Url where
  scheme : List Char
  authority : Option Url.Authority
  path : List Char
  query : Option (List Char)
  fragment : Option (List Char)
  deriving DecidableEq, Repr

namespace Url

/-- The user and the password, with the at sign behind them. -/
def Authority.userText (a : Authority) : List Char :=
  if a.user = [] && a.password = [] then []
  else a.user ++ (if a.password = [] then [] else ':' :: a.password) ++ ['@']

def Authority.text (a : Authority) : List Char :=
  a.userText ++ a.host.text ++
    match a.service with
    | some n => ':' :: Nat.toDigits 10 n
    | none => []

/-- The text of an address. Two slashes at the beginning of a path would announce an authority, so a segment that stays
    in the directory is put in front of them if there is none. -/
def chars (u : Url) : List Char :=
  u.scheme ++ [':'] ++
  (match u.authority with
    | some a => '/' :: '/' :: a.text
    | none => if (Text.behind? ['/', '/'] u.path).isSome then ['/', '.'] else []) ++
  u.path ++
  (match u.query with | some q => '?' :: q | none => []) ++
  (match u.fragment with | some f => '#' :: f | none => [])

def text (u : Url) : String := String.ofList u.chars

end Url
end CollectionQuery
