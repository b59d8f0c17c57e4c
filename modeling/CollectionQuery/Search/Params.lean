import CollectionQuery.Rdf.Term
import CollectionQuery.Text.Blank
import CollectionQuery.Text.Count

/-! The values that a request gives to properties, in order and without duplicates. -/

namespace CollectionQuery
open Text

/-- The number that a literal holds, blanks around it ignored. -/
def Term.count? : Term → Option Nat
  | .literal l => Count.read? (trim l.lexical.toList)
  | _ => none

structure SearchParams where
  bindings : List (Iri × Term) := []
  nodup : bindings.Nodup := by simp

namespace SearchParams

def empty : SearchParams := {}

instance : Inhabited SearchParams := ⟨empty⟩

/-- The parameters with a last binding, unless they hold it already. -/
def bind (s : SearchParams) (b : Iri × Term) : SearchParams :=
  if h : b ∈ s.bindings then s
  else
    { bindings := s.bindings ++ [b]
      nodup := by
        rw [List.nodup_append]
        exact ⟨s.nodup, by simp, fun a ha x hx e => h (by simp at hx; subst hx e; exact ha)⟩ }

def ofList (bs : List (Iri × Term)) : SearchParams := bs.foldl bind empty

/-- The number of bindings. -/
def size (s : SearchParams) : Nat := s.bindings.length

/-- The values of a property. -/
def values (s : SearchParams) (p : Iri) : List Term := (s.bindings.filter fun b => b.1 = p).map (·.2)

/-- The first value of a property that is a count. -/
def count? (s : SearchParams) (p : Iri) : Option Nat := (s.values p).findSome? Term.count?

/-- The parameters without the values of a property. -/
def without (s : SearchParams) (p : Iri) : SearchParams :=
  { bindings := s.bindings.filter fun b => b.1 ≠ p, nodup := s.nodup.filter _ }

/-- The parameters in which a property has the given values only. -/
def replace (s : SearchParams) (p : Iri) (vs : List Term) : SearchParams :=
  (vs.map fun v => (p, v)).foldl bind (s.without p)

theorem bindings_bind (s : SearchParams) (b : Iri × Term) :
    (s.bind b).bindings = if b ∈ s.bindings then s.bindings else s.bindings ++ [b] := by
  unfold bind
  split <;> simp [*]

end SearchParams
end CollectionQuery
