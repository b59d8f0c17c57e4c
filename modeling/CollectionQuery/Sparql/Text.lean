import CollectionQuery.Sparql.Algebra

/-! The text of patterns and queries. -/

namespace CollectionQuery

def Variable.text (v : Variable) : String := "?" ++ v.name

def TermPattern.text : TermPattern → String
  | var v => v.text
  | term t => t.text

def NamePattern.text : NamePattern → String
  | var v => v.text
  | iri i => i.bracketed

def TriplePattern.text (t : TriplePattern) : String :=
  t.subject.text ++ " " ++ t.predicate.text ++ " " ++ t.object.text

def Condition.text : Condition → String
  | isIri v => "isIRI(" ++ v.text ++ ")"
  | startsWith v text => "STRSTARTS(" ++ v.text ++ ", " ++ Literal.quoted text ++ ")"

/-- Triple patterns, each closed by a full stop. -/
def TriplePattern.block (ts : List TriplePattern) : String := String.join (ts.map fun t => t.text ++ " .")

/-- Whether a pattern needs braces as the right side of a join, to keep it apart from the left side. -/
def Pattern.needsBraces : Pattern → Bool
  | leftJoin _ _ | filter _ _ => true
  | foreign p => p.needsBraces
  | _ => false

def Pattern.text : Pattern → String
  | basic ts => TriplePattern.block ts
  | path s p o => s.text ++ " " ++ p.text ++ " " ++ o.text ++ " ."
  | graph name inner => "GRAPH " ++ name.text ++ " \x7b " ++ inner.text ++ " \x7d"
  | filter c inner => inner.text ++ " FILTER(" ++ c.text ++ ")"
  | union l r => "\x7b " ++ l.text ++ " \x7d UNION \x7b " ++ r.text ++ " \x7d"
  | join l r =>
    if r.needsBraces then l.text ++ " \x7b " ++ r.text ++ " \x7d" else l.text ++ " " ++ r.text
  | leftJoin l r => l.text ++ " OPTIONAL \x7b " ++ r.text ++ " \x7d"
  | values v rows =>
    "VALUES ( " ++ v.text ++ " ) \x7b " ++ String.join (rows.map fun i => "( " ++ i.bracketed ++ " ) ") ++ " \x7d"
  | count counted total inner =>
    "\x7bSELECT (COUNT(DISTINCT " ++ counted.text ++ ") AS " ++ total.text ++ ") WHERE \x7b " ++ inner.text ++ " \x7d\x7d"
  | foreign p => p.text

def OrderCondition.text (c : OrderCondition) : String :=
  (if c.descending then "DESC(" else "ASC(") ++ c.key.text ++ ")"

/-- An offset of zero is left out. -/
def Slice.text (s : Slice) : String :=
  (if s.start = 0 then "" else " OFFSET " ++ toString s.start) ++ " LIMIT " ++ toString s.length

def Select.text (s : Select) : String :=
  "SELECT" ++ (if s.distinct then " DISTINCT" else "") ++
  (if s.projection.isEmpty then " *" else String.join (s.projection.map fun v => " " ++ v.text)) ++
  " WHERE \x7b " ++ s.pattern.text ++ " \x7d" ++
  (if s.order.isEmpty then "" else " ORDER BY" ++ String.join (s.order.map fun c => " " ++ c.text)) ++
  (match s.slice with | some slice => slice.text | none => "")

def Query.text : Query → String
  | select s => s.text
  | construct template s =>
    "CONSTRUCT \x7b " ++ String.join (template.map fun t => t.text ++ " . ") ++ "\x7d WHERE \x7b " ++ s.text ++ " \x7d"
  | describe s => "DESCRIBE * WHERE \x7b " ++ s.text ++ " \x7d"
  | ask s => "ASK WHERE \x7b " ++ s.text ++ " \x7d"

end CollectionQuery
