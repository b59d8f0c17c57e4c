import CollectionQuery.Rdf.LinkedList

/-! Property paths: their text in a query, and reading them from a graph, where an IRI is a predicate, a list is a
    sequence and `sh:inversePath` inverts. -/

namespace CollectionQuery

inductive Path where
  | predicate (iri : Iri)
  | inverse (path : Path)
  | sequence (first second : Path)
  | alternative (first second : Path)
  | zeroOrMore (path : Path)
  | oneOrMore (path : Path)
  | zeroOrOne (path : Path)
  | negated (predicates : List Iri)
  deriving DecidableEq, Repr

namespace Path

instance : Inhabited Path := ⟨.negated []⟩

def text : Path → String
  | predicate i => i.bracketed
  | inverse p => "^(" ++ p.text ++ ")"
  | sequence p q => "(" ++ p.text ++ " / " ++ q.text ++ ")"
  | alternative p q => "(" ++ p.text ++ " | " ++ q.text ++ ")"
  | zeroOrMore p => "(" ++ p.text ++ ")*"
  | oneOrMore p => "(" ++ p.text ++ ")+"
  | zeroOrOne p => "(" ++ p.text ++ ")?"
  | negated is => "!(" ++ " | ".intercalate (is.map Iri.bracketed) ++ ")"

/-! ### Reading -/

/-- What may go wrong below a given depth. -/
inductive Fault where
  | tooDeep
  | unreadable (error : ReadError)
  deriving DecidableEq, Repr

/-- The sequence of some steps, grouped from the left. -/
def chain (head : Term) : List Path → Except Fault Path
  | [] => .error (.unreadable (.emptyPath head))
  | p :: ps => .ok (ps.foldl sequence p)

/-- The path at `node`, if it is nested less than `depth` deep. -/
def readWithin (g : Graph) : (depth : Nat) → (node : Term) → Except Fault Path
  | 0, _ => .error .tooDeep
  | _ + 1, .iri i => .ok (.predicate i)
  | _ + 1, .literal l => .error (.unreadable (.unsupportedPath (.literal l)))
  | depth + 1, .blank label =>
    match g.object? (.blank label) Shacl.inversePath with
    | some inner => (readWithin g depth inner).map inverse
    | none =>
      if g.isList (.blank label) then
        match g.list (.blank label) with
        | .ok items => items.mapM (readWithin g depth) >>= chain (.blank label)
        | .error error => .error (.unreadable error)
      else .error (.unreadable (.unsupportedPath (.blank label)))

/-- The number of blank nodes that are the subject of a triple. Only these lead deeper into a path. -/
def depthOf (g : Graph) : Nat := g.bySubject.entries.countP fun (node, _) => node matches .blank _

/-- The path at `node`. A path that contains itself is not supported. -/
def read (g : Graph) (node : Term) : Except ReadError Path :=
  match readWithin g (depthOf g + 1) node with
  | .ok path => .ok path
  | .error (.unreadable error) => .error error
  | .error .tooDeep => .error (.unsupportedPath node)

end Path
end CollectionQuery
