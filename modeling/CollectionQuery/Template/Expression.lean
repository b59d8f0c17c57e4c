import CollectionQuery.Text.Blank
import CollectionQuery.Text.Count
import CollectionQuery.Text.Cut

/-! The parts of a URI template: literal text, and expressions in braces. An expression is an operator and variables
    with their modifiers. Every text is a template: a brace that is not closed belongs to the literal text. -/

namespace CollectionQuery
namespace Template
open Text

inductive Part where
  | literal (text : List Char)
  | expression (body : List Char)
  deriving DecidableEq, Repr

/-- The parts of a text of which `done` is the reversed text of the part that is being read, an expression if
    `inside`. -/
def partsFrom : (inside : Bool) → (done : List Char) → List Char → List Part
  | false, done, [] => [.literal done.reverse]
  | true, done, [] => [.literal ('{' :: done.reverse)]
  | false, done, c :: cs =>
    if c = '{' then .literal done.reverse :: partsFrom true [] cs else partsFrom false (c :: done) cs
  | true, done, c :: cs =>
    if c = '}' then .expression done.reverse :: partsFrom false [] cs else partsFrom true (c :: done) cs

/-- The parts of a template. Both its names and its expansion are taken from them; `askTemplate` looks for the braces
    while it expands, and is proved to give the same expansion and to ask for the same names. -/
def parts (template : List Char) : List Part := partsFrom false [] template

/-! ### Operators -/

/-- How the values of an expression are put together. -/
structure Operator where
  first : List Char
  separator : List Char
  named : Bool
  ifEmpty : List Char
  allowReserved : Bool
  deriving DecidableEq, Repr

namespace Operator

def simple : Operator := ⟨[], [','], false, [], false⟩

/-- The operator that a character stands for. -/
def ofChar? : Char → Option Operator
  | '+' => some ⟨[], [','], false, [], true⟩
  | '#' => some ⟨['#'], [','], false, [], true⟩
  | '.' => some ⟨['.'], ['.'], false, [], false⟩
  | '/' => some ⟨['/'], ['/'], false, [], false⟩
  | ';' => some ⟨[';'], [';'], true, [], false⟩
  | '?' => some ⟨['?'], ['&'], true, ['='], false⟩
  | '&' => some ⟨['&'], ['&'], true, ['='], false⟩
  | _ => none

/-- The operator of an expression, and its variables. -/
def split : List Char → Operator × List Char
  | [] => (simple, [])
  | c :: cs =>
    match ofChar? c with
    | some op => (op, cs)
    | none => (simple, c :: cs)

end Operator

/-! ### Variables -/

structure VarSpec where
  name : List Char
  explode : Bool
  /-- The number of characters that are taken of each value. -/
  limit : Option Nat
  deriving DecidableEq, Repr

/-- Reads a name with an asterisk or a length behind it. A length that is no count is ignored. -/
def VarSpec.read (spec : List Char) : VarSpec :=
  let spec := trim spec
  match spec.reverse with
  | '*' :: name => ⟨name.reverse, true, none⟩
  | _ =>
    match cut? ':' spec with
    | some (name, length) => ⟨name, false, Count.read? length⟩
    | none => ⟨spec, false, none⟩

/-- The variables of the text behind an operator. -/
def readSpecs (specs : List Char) : List VarSpec := (specs.splitOn ',').map VarSpec.read

/-- The names of the variables of a template, in order and with repetitions. -/
def names (template : List Char) : List (List Char) :=
  (parts template).flatMap fun
    | .literal _ => []
    | .expression body => (readSpecs (Operator.split body).2).map (·.name)

end Template
end CollectionQuery
