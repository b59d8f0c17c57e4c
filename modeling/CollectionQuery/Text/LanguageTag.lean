import CollectionQuery.Text.Cut

/-! Well-formed language tags: subtags of one to eight letters and digits, joined by hyphens. The place reached in
    the tag decides which subtags may come next. -/

namespace CollectionQuery
namespace Text
namespace LanguageTag

/-- The part of a tag that a subtag belongs to. -/
inductive Place where
  | start
  | language (extended : Nat)
  | longLanguage
  | script
  | region
  | extension (empty : Bool)
  | privateUse (empty : Bool)
  deriving DecidableEq, Repr

/-- Whether the tag may end here. -/
def Place.isFinal : Place → Bool
  | .start | .extension true | .privateUse true => false
  | _ => true

def isAlpha (subtag : List Char) : Bool := subtag.all Char.isAlpha

def isAlphanum (subtag : List Char) : Bool := subtag.all Char.isAlphanum

/-- A region is two letters or three digits. -/
def isRegion (subtag : List Char) : Bool :=
  (subtag.length = 2 && isAlpha subtag) || (subtag.length = 3 && subtag.all Char.isDigit)

/-- A variant has five characters or more, or four if it begins with a digit. -/
def isVariant (subtag : List Char) : Bool :=
  isAlphanum subtag &&
    ((5 ≤ subtag.length && (subtag.take 1).all Char.isAlpha) ||
      (4 ≤ subtag.length && (subtag.take 1).all Char.isDigit))

/-- The place of a subtag behind `place`, if it may stand there. -/
def next? (place : Place) (subtag : List Char) : Option Place :=
  if subtag.isEmpty || 8 < subtag.length then none
  else
    match place with
    | .start =>
      if subtag.length < 2 || !isAlpha subtag then none
      else if subtag.length < 4 then some (.language 0)
      else some .longLanguage
    | .privateUse _ => if isAlphanum subtag then some (.privateUse false) else none
    | _ =>
      if subtag.length = 1 && isAlphanum subtag then
        if place = .extension true then none
        else if subtag = ['x'] || subtag = ['X'] then some (.privateUse true)
        else some (.extension true)
      else
        match place with
        | .extension _ => if isAlphanum subtag then some (.extension false) else none
        | .language extended =>
          if subtag.length = 3 && isAlpha subtag then
            if extended < 3 then some (.language (extended + 1)) else none
          else if subtag.length = 4 && isAlpha subtag then some .script
          else if isRegion subtag || isVariant subtag then some .region
          else none
        | .longLanguage =>
          if subtag.length = 4 && isAlpha subtag then some .script
          else if isRegion subtag || isVariant subtag then some .region
          else none
        | .script => if isRegion subtag || isVariant subtag then some .region else none
        | .region => if isVariant subtag then some .region else none
        | _ => none

/-- The registered tags that do not follow the general form, in lower case. -/
def registered : List String := ["art-lojban", "cel-gaulish", "en-gb-oed", "i-ami", "i-bnn", "i-default", "i-enochian",
  "i-hak", "i-klingon", "i-lux", "i-mingo", "i-navajo", "i-pwn", "i-tao", "i-tay", "i-tsu", "no-bok", "no-nyn",
  "sgn-be-fr", "sgn-be-nl", "sgn-ch-de", "zh-guoyu", "zh-hakka", "zh-min", "zh-min-nan", "zh-xiang"]

/-- Tags are written in lower case. -/
def lower (tag : List Char) : List Char := tag.map Char.toLower

def isWellFormed (tag : List Char) : Bool :=
  registered.contains (String.ofList (lower tag)) ||
    match lower tag with
    | 'x' :: '-' :: rest => rest ≠ [] && rest.all fun c => c.isAlphanum || c = '-'
    | _ => ((tag.splitOn '-').foldlM next? .start).any Place.isFinal

end LanguageTag
end Text
end CollectionQuery
