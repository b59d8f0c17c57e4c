import CollectionQuery.Collection.Rule
import CollectionQuery.Sparql.Algebra
import CollectionQuery.Text.Alphanumeric

/-! The parts of patterns that rules give, and putting them together. The variable that stands for a member is given
    everywhere. -/

namespace CollectionQuery
open Text

/-- A part of a pattern, joined with the parts in front of it. -/
inductive Fragment where
  | required (pattern : Pattern)
  | optional (pattern : Pattern)
  deriving DecidableEq, Repr

/-! ### Variables -/

/-- Gives variables that begin with the same stem. -/
structure VariableGenerator where
  stem : String
  deriving DecidableEq, Repr

/-- The variable of a name. Characters other than letters, numbers and underscores are replaced by underscores. -/
def VariableGenerator.make (g : VariableGenerator) (name : String) : Variable :=
  ⟨g.stem ++ "_" ++ String.ofList (name.toList.map fun c => if isAlphanumeric c || c = '_' then c else '_')⟩

/-! ### Constants and paths -/

/-- A term as a constant. Blank nodes would act as variables and are none. -/
def Term.constant? : Term → Option TermPattern
  | .blank _ => none
  | t => some (.term t)

namespace Pattern

def triple (s : TermPattern) (p : NamePattern) (o : TermPattern) : Pattern := .basic [⟨s, p, o⟩]

/-- The member has exactly the value `v` of `p`. -/
def equals? (member : Variable) (p : Iri) (v : Term) : Option Pattern :=
  v.constant?.map fun o => triple (.var member) (.iri p) o

/-- A path between two terms. Predicates and inverted predicates are plain triple patterns. -/
def along (s : TermPattern) (path : Path) (o : TermPattern) : Pattern :=
  match path with
  | .predicate p => triple s (.iri p) o
  | .inverse (.predicate p) => triple o (.iri p) s
  | _ => .path s path o

end Pattern

/-! ### Member assertions -/

namespace MemberAssertion

def constants (ts : List Term) : Except AssertionError (List TermPattern) :=
  ts.mapM fun t => match t.constant? with
    | some c => .ok c
    | none => .error (.unsupportedTerm t)

def propertyNames (ts : List Term) : Except AssertionError (List NamePattern) :=
  ts.mapM fun
    | .iri i => .ok (.iri i)
    | other => .error (.nonIriProperty other)

/-- The patterns of the assertion, one for each combination of its bound values. -/
def patterns (member : Variable) (a : MemberAssertion) : Except AssertionError (List Pattern) := do
  let subjects ← constants a.subjects
  let properties ← propertyNames a.properties
  let objects ← constants a.objects
  let bound := [subjects.isEmpty, properties.isEmpty, objects.isEmpty].count false
  if bound ≠ 2 then throw (.boundPositions bound)
  let subjects := if subjects.isEmpty then [.var member] else subjects
  let properties := if properties.isEmpty then [.var member] else properties
  let objects := if objects.isEmpty then [.var member] else objects
  pure (subjects.flatMap fun s => properties.flatMap fun p => objects.map fun o =>
    let pattern := Pattern.triple s p o
    if a.ownGraphOnly then .graph (.var member) pattern else pattern)

end MemberAssertion

/-! ### Ordering -/

/-- Fragments that bind sort keys, and the conditions on these keys. -/
structure Sorting where
  fragments : List Fragment := []
  conditions : List OrderCondition := []
  deriving DecidableEq, Repr

namespace Sorting

/-- The variable of the `n`-th sort key. -/
def key (n : Nat) : Variable := ⟨"order" ++ toString n⟩

/-- The paths of the entries that have one, with their directions. -/
def used (entries : List OrderEntry) : List (Path × Bool) :=
  entries.filterMap fun e => e.path.map fun p => (p, e.descending)

/-- Sorts by the entries that have a path. Their keys are numbered from one. -/
def ofEntries (member : Variable) (entries : List OrderEntry) : Sorting :=
  let numbered := (used entries).zipIdx 1
  { fragments := numbered.map fun ((path, _), n) => .optional (.along (.var member) path (.var (key n)))
    conditions := numbered.map fun ((_, descending), n) => ⟨descending, key n⟩ }

end Sorting

/-! ### Groups -/

namespace Pattern

/-- The join of two patterns. Basic patterns are merged, and an empty one is left out. -/
def merge : Pattern → Pattern → Pattern
  | .basic ts, .basic us => .basic (ts ++ us)
  | .basic [], right => right
  | left, .basic [] => left
  | left, right => .join left right

/-- A pattern with a fragment behind it. -/
def extend (pattern : Pattern) : Fragment → Pattern
  | .required p => pattern.merge p
  | .optional p => .leftJoin pattern p

/-- The pattern that some fragments give in their order. -/
def group (fragments : List Fragment) : Pattern := fragments.foldl extend (.basic [])

end Pattern
end CollectionQuery
