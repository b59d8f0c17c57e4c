import CollectionQuery.Rdf.Graph

/-! Lists described in a graph: a chain of nodes, each with one `rdf:first` (the item) and one `rdf:rest` (the next
    node), that ends in `rdf:nil`. -/

namespace CollectionQuery

/-- Why a list or a property path cannot be read from a graph. -/
inductive ReadError where
  | malformedList (head : Term)
  | unsupportedPath (node : Term)
  | emptyPath (head : Term)
  deriving DecidableEq, Repr

def ReadError.message : ReadError → String
  | malformedList head => "Malformed RDF list at " ++ head.text
  | unsupportedPath node => "Unsupported property path " ++ node.text
  | emptyPath head => "Empty property path at " ++ head.text

namespace Graph

/-- Whether `node` is the head of a list. -/
def isList (g : Graph) (node : Term) : Bool := node = .iri Rdf.nil || (g.object? node Rdf.first).isSome

/-- Where the reading of a list stands: the node that comes next, and the nodes and items that are passed. -/
structure ListReader where
  node : Term
  visited : List Term := []
  items : List Term := []

namespace ListReader

/-- One turn: the reader ends, with the items or without, or passes the node. -/
def turn (g : Graph) (r : ListReader) : Option (List Term) ⊕ ListReader :=
  if r.node = .iri Rdf.nil then .inl (some r.items)
  else if r.node ∈ r.visited then .inl none
  else
    match g.objects r.node Rdf.first, g.objects r.node Rdf.rest with
    | [item], [next] => .inr { node := next, visited := r.node :: r.visited, items := r.items ++ [item] }
    | _, _ => .inl none

/-- The items, if the reader ends with them within some turns. -/
def run (g : Graph) : (turns : Nat) → ListReader → Option (List Term)
  | 0, _ => none
  | turns + 1, r =>
    match r.turn g with
    | .inl result => result
    | .inr r' => run g turns r'

end ListReader

/-- The number of nodes that are the subject of a triple. -/
def subjectCount (g : Graph) : Nat := g.bySubject.entries.length

/-- The items of the list at `head`. The reader passes each subject at most once, so it ends in a turn for each and a
    last one. -/
def list (g : Graph) (head : Term) : Except ReadError (List Term) :=
  match ListReader.run g (g.subjectCount + 1) { node := head } with
  | some items => .ok items
  | none => .error (.malformedList head)

end Graph
end CollectionQuery
