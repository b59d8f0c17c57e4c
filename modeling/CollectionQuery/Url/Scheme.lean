/-! What the scheme of an address tells about its parts. -/

namespace CollectionQuery
namespace Url

/-- The rules for an address: `web` for the schemes that name a host with a service, `file` for files, and `other` where
    the scheme tells nothing. -/
inductive Kind where
  | web | file | other
  deriving DecidableEq, Repr

/-- The service number of a web scheme, which is not written. -/
def usualService? (scheme : List Char) : Option Nat :=
  match String.ofList scheme with
  | "http" | "ws" => some 80
  | "https" | "wss" => some 443
  | "ftp" => some 21
  | _ => none

def kindOf (scheme : List Char) : Kind :=
  if (usualService? scheme).isSome then .web else if scheme = ['f', 'i', 'l', 'e'] then .file else .other

/-- Whether a character sets off the segments of a path. -/
def Kind.isSlash (kind : Kind) (c : Char) : Bool := c = '/' || (c = '\\' && kind ≠ .other)

/-- A text without a slash at its beginning. -/
def Kind.dropSlash (kind : Kind) : List Char → List Char
  | [] => []
  | c :: cs => if kind.isSlash c then cs else c :: cs

/-- The text behind two slashes at its beginning, if there are two. -/
def Kind.behindSlashes? (kind : Kind) : List Char → Option (List Char)
  | c :: d :: cs => if kind.isSlash c && kind.isSlash d then some cs else none
  | _ => none

end Url
end CollectionQuery
