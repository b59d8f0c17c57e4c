import CollectionQuery.Proofs.Rdf.Graph
import CollectionQuery.Rdf.LinkedList

/-! Lists in a graph: chains of nodes with one item each that end in `rdf:nil`. -/

namespace CollectionQuery
namespace Graph
variable {g : Graph} {node : Term} {items : List Term}

/-- The chain of nodes that begins at a node ends and has the items. -/
inductive Lists (g : Graph) : Term → List Term → Prop
  | nil : Lists g (.iri Rdf.nil) []
  | cons {node item next : Term} {items : List Term} (hne : node ≠ .iri Rdf.nil)
      (hfirst : g.objects node Rdf.first = [item]) (hrest : g.objects node Rdf.rest = [next])
      (h : Lists g next items) : Lists g node (item :: items)

theorem Lists.exists_cell (h : g.Lists node items) (hne : node ≠ .iri Rdf.nil) :
    ∃ item next, g.objects node Rdf.first = [item] ∧ g.objects node Rdf.rest = [next] := by
  cases h with
  | nil => exact absurd rfl hne
  | cons _ hfirst hrest => exact ⟨_, _, hfirst, hrest⟩

theorem Lists.ne_nil (h : g.Lists node items) (hne : node ≠ .iri Rdf.nil) : items ≠ [] := by
  cases h with
  | nil => exact absurd rfl hne
  | cons => exact List.cons_ne_nil _ _

/-- The chain of a node with one item goes on with the chain of the next node. -/
theorem lists_cell_iff {item next : Term} (hne : node ≠ .iri Rdf.nil) (hfirst : g.objects node Rdf.first = [item])
    (hrest : g.objects node Rdf.rest = [next]) :
    g.Lists node items ↔ ∃ others, items = item :: others ∧ g.Lists next others := by
  constructor
  · intro h
    cases h with
    | nil => exact absurd rfl hne
    | @cons _ _ _ others _ hfirst' hrest' h =>
      obtain rfl := List.singleton_inj.mp (hfirst.symm.trans hfirst')
      obtain rfl := List.singleton_inj.mp (hrest.symm.trans hrest')
      exact ⟨others, rfl, h⟩
  · rintro ⟨others, rfl, h⟩
    exact .cons hne hfirst hrest h

theorem Lists.unique {items' : List Term} (h : g.Lists node items) (h' : g.Lists node items') : items = items' := by
  induction h generalizing items' with
  | nil =>
    cases h' with
    | nil => rfl
    | cons hne => exact absurd rfl hne
  | cons hne hfirst hrest _ ih =>
    obtain ⟨others, rfl, hothers⟩ := (lists_cell_iff hne hfirst hrest).mp h'
    rw [ih hothers]

end Graph
end CollectionQuery
