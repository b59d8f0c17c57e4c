/-! Sets of numbers, and functions on them, as lists of runs. A run is given by its first and last member, and each
    member of it by the ends. -/

namespace CollectionQuery
namespace Text

/-- Whether a number lies in one of the runs. -/
def inRuns (runs : List (Nat × Nat)) (n : Nat) : Bool := runs.any fun (first, last) => first ≤ n && n ≤ last

/-- The value of the first run that a number lies in. -/
def valueIn? {α : Type} (runs : List (Nat × Nat × α)) (n : Nat) : Option α :=
  runs.findSome? fun (first, last, value) => if first ≤ n && n ≤ last then some value else none

theorem inRuns_iff {runs : List (Nat × Nat)} {n : Nat} : inRuns runs n = true ↔ ∃ r ∈ runs, r.1 ≤ n ∧ n ≤ r.2 := by
  simp [inRuns]

end Text
end CollectionQuery
