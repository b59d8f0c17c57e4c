import CollectionQuery.Template.Expression
import CollectionQuery.Text.Percent

/-! Expansion of URI templates with strings and lists of strings. A variable without values leaves nothing behind. -/

namespace CollectionQuery
namespace Template
open Text

/-- The first `limit` characters of a value. -/
def truncate (limit : Option Nat) (value : List Char) : List Char :=
  match limit with
  | some n => value.take n
  | none => value

def Operator.encode (op : Operator) (value : List Char) : List Char :=
  if op.allowReserved then Percent.encodeReserved value else Percent.encode value

/-- An encoded value, behind its name where the operator names values. -/
def Operator.pair (op : Operator) (name value : List Char) : List Char :=
  if op.named then name ++ (if value = [] then op.ifEmpty else '=' :: value) else value

/-- The expansion of a variable, if it has values. -/
def expandSpec (op : Operator) (spec : VarSpec) (values : List (List Char)) : Option (List Char) :=
  match values.map fun value => op.encode (truncate spec.limit value) with
  | [] => none
  | [value] => some (op.pair spec.name value)
  | encoded =>
    if spec.explode then some (op.separator.intercalate (encoded.map (op.pair spec.name)))
    else some ((if op.named then spec.name ++ ['='] else []) ++ [','].intercalate encoded)

/-- The expansions of the variables of an expression, set off by the operator. -/
def Operator.combine (op : Operator) (expansions : List (List Char)) : List Char :=
  if expansions.isEmpty then [] else op.first ++ op.separator.intercalate expansions

/-- The expansion of an expression. -/
def expandExpression (values : List Char → List (List Char)) (body : List Char) : List Char :=
  let (op, specs) := Operator.split body
  op.combine ((readSpecs specs).filterMap fun spec => expandSpec op spec (values spec.name))

def Part.expand (values : List Char → List (List Char)) : Part → List Char
  | .literal text => text
  | .expression body => expandExpression values body

/-- The expansion of a template, `values` giving the values of each variable. It goes over the parts that `names` goes
    over; `askTemplate` is the same expansion by a loop of its own. -/
def expand (template : List Char) (values : List Char → List (List Char)) : List Char :=
  (parts template).flatMap (Part.expand values)

end Template
end CollectionQuery
