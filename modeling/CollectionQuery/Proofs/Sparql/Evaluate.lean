import CollectionQuery.Proofs.Sparql.Row

/-! The solutions of patterns and queries over a dataset, after the algebra of SPARQL 1.1 (§18). Solutions are bags of
    rows: a row comes as often as the pattern matches in this way. Blank nodes of a pattern stand for any term, like
    variables that no row shows. -/

namespace CollectionQuery

/-- A graph without a name and graphs with names, which are IRIs or blank nodes. What foreign patterns give in a graph
    is part of the dataset, so that a statement about every dataset allows them any solutions. -/
structure Dataset where
  default : Graph
  named : List (Term × Graph) := []
  nodup : (named.map (·.1)).Nodup := by simp
  foreign : ForeignPattern → Graph → Multiset (Row Variable) := fun _ _ => 0

/-- What a pattern leaves open: a variable, or a blank node with a label. -/
abbrev Slot := Variable ⊕ String

/-- The row without its blank nodes. -/
def Row.visible (r : Row Slot) : Row Variable where
  entries := r.entries.filterMap fun e => e.1.getLeft?.map fun v => ⟨v, e.2⟩
  nodupKeys := by
    rw [← Multiset.nodup_keys]
    have h : (r.entries.filterMap fun e => e.1.getLeft?.map fun v => (⟨v, e.2⟩ : (_ : Variable) × Term)).keys =
        r.entries.keys.filterMap Sum.getLeft? := by
      simp [Multiset.keys, Multiset.map_filterMap, Multiset.filterMap_map, Function.comp_def]
    rw [h]
    refine (Multiset.nodup_keys.mpr r.nodupKeys).filterMap _ fun a b c ha hb => ?_
    rw [Sum.getLeft?_eq_some_iff.mp ha, Sum.getLeft?_eq_some_iff.mp hb]

/-! ### Triple patterns -/

/-- The row that makes the pattern the term `t`, if there is one. -/
def TermPattern.rows (t : Term) : TermPattern → Multiset (Row Slot)
  | .var v => {Finmap.singleton (.inl v) t}
  | .term (.blank label) => {Finmap.singleton (.inr label) t}
  | .term c => if c = t then {∅} else 0

/-- The row that makes the pattern the name `i`, if there is one. -/
def NamePattern.rows (i : Iri) : NamePattern → Multiset (Row Slot)
  | .var v => {Finmap.singleton (.inl v) (.iri i)}
  | .iri c => if c = i then {∅} else 0

/-- The rows that make the pattern a triple of the graph, one for each such triple. -/
def TriplePattern.rows (g : Graph) (p : TriplePattern) : Multiset (Row Slot) :=
  (g.toList : Multiset Triple).bind fun t =>
    Row.join (p.subject.rows t.subject) (Row.join (p.predicate.rows t.predicate) (p.object.rows t.object))

namespace Sparql

/-- The rows that make each of the patterns a triple of the graph. -/
def solve (g : Graph) : List TriplePattern → Multiset (Row Slot)
  | [] => {∅}
  | p :: ps => Row.join (p.rows g) (solve g ps)

/-! ### Paths -/

/-- The nodes of a graph. -/
def nodes (g : Graph) : List Term := (g.toList.flatMap fun t => [t.subject, t.object]).dedup

/-- The terms reached from some terms within a number of steps, each once. -/
def reach (step : Term → List Term) : (steps : Nat) → List Term → List Term
  | 0, seen => seen.dedup
  | n + 1, seen => reach step n (seen ++ seen.flatMap step).dedup

/-- Whether a term may stand at an end that is given or open. -/
def fits (given : Option Term) (t : Term) : Bool := given.all (· = t)

/-- The terms from which a path of any length may start: the given start, or the nodes and the given end. -/
def starts (g : Graph) (start stop : Option Term) : List Term :=
  match start with
  | some t => [t]
  | none => (nodes g ++ stop.toList).dedup

end Sparql

open Sparql in
/-- The ends of the ways along a path, each of them given or open. Ways of any length count once. -/
def Path.ends (g : Graph) : Path → (start stop : Option Term) → List (Term × Term)
  | predicate i, start, stop =>
    (g.toList.filter fun t => t.predicate = i && fits start t.subject && fits stop t.object).map fun t =>
      (t.subject, t.object)
  | inverse p, start, stop => (ends g p stop start).map Prod.swap
  | sequence p q, start, stop =>
    (ends g p start none).flatMap fun x => ((ends g q none stop).filter fun y => y.1 = x.2).map fun y => (x.1, y.2)
  | alternative p q, start, stop => ends g p start stop ++ ends g q start stop
  | zeroOrOne p, start, stop =>
    (((starts g start stop).map fun t => (t, t)).filter (fun x => fits stop x.2) ++ ends g p start stop).dedup
  | zeroOrMore p, start, stop =>
    (starts g start stop).flatMap fun t =>
      ((reach (fun x => (ends g p (some x) none).map (·.2)) (nodes g).length [t]).filter (fits stop)).map fun y => (t, y)
  | oneOrMore p, start, stop =>
    let step := fun x => (ends g p (some x) none).map (·.2)
    (starts g start stop).flatMap fun t =>
      ((reach step (nodes g).length (step t)).filter (fits stop)).map fun y => (t, y)
  | negated is, start, stop =>
    ((g.toList.filter fun t => t.predicate ∉ is && fits start t.subject && fits stop t.object).map fun t =>
      (t.subject, t.object)).dedup

/-- The term that a pattern is, unless it stands for any term. -/
def TermPattern.given? : TermPattern → Option Term
  | .var _ | .term (.blank _) => none
  | .term t => some t

/-! ### Conditions -/

/-- Whether a condition is true of a row. A condition on a variable without a value, or with a value of another kind,
    is an error and not true. -/
def Condition.holds (r : Row Variable) : Condition → Bool
  | .isIri v =>
    match r.lookup v with
    | some (.iri _) => true
    | _ => false
  | .startsWith v text =>
    match r.lookup v with
    | some (.literal (.plain s)) | some (.literal (.tagged s _)) => text.toList.isPrefixOf s.toList
    | _ => false

/-! ### Patterns and queries -/

/-- The solutions of a pattern in a dataset of which `g` is the graph that is searched. -/
def Pattern.rows (d : Dataset) (g : Graph) : Pattern → Multiset (Row Variable)
  | .basic ts => (Sparql.solve g ts).map Row.visible
  | .path s p o =>
    (((p.ends g s.given? o.given? : List (Term × Term)) : Multiset (Term × Term)).bind fun x =>
      Row.join (s.rows x.1) (o.rows x.2)).map Row.visible
  | .graph (.iri i) inner =>
    match d.named.lookup (.iri i) with
    | some g => rows d g inner
    | none => 0
  | .graph (.var v) inner =>
    (d.named : Multiset (Term × Graph)).bind fun x => Row.join {Finmap.singleton v x.1} (rows d x.2 inner)
  | .filter c inner => (rows d g inner).filter fun r => c.holds r
  | .union l r => rows d g l + rows d g r
  | .join l r => Row.join (rows d g l) (rows d g r)
  | .leftJoin l r => Row.leftJoin (rows d g l) (rows d g r)
  | .values v is => (is : Multiset Iri).map fun i => Finmap.singleton v (.iri i)
  | .count counted total inner =>
    let values := (rows d g inner).filterMap (Finmap.lookup counted)
    {Finmap.singleton total (.literal (.ofNat values.dedup.card))}
  | .foreign p => d.foreign p g

/-- The solutions of a query in no order, without regard to its slice. -/
def Select.rows (d : Dataset) (s : Select) : Multiset (Row Variable) :=
  let all := s.pattern.rows d d.default
  let shown := if s.projection.isEmpty then all else all.map (Row.restrict s.projection)
  if s.distinct then shown.dedup else shown

/-- The selection that a query is made from. -/
def Query.selection : Query → Select
  | .select s | .construct _ s | .describe s | .ask s => s

end CollectionQuery
