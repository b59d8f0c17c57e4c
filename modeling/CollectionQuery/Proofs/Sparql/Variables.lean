import CollectionQuery.Collection.Fragment

/-! The variables of patterns and queries. Putting fragments together neither loses a variable nor adds one. -/

namespace CollectionQuery

def TermPattern.vars : TermPattern → List Variable
  | var v => [v]
  | term _ => []

def NamePattern.vars : NamePattern → List Variable
  | var v => [v]
  | iri _ => []

def TriplePattern.vars (t : TriplePattern) : List Variable :=
  t.subject.vars ++ t.predicate.vars ++ t.object.vars

def Condition.vars : Condition → List Variable
  | isIri v | startsWith v _ => [v]

def Fragment.pattern : Fragment → Pattern
  | required p | optional p => p

namespace Pattern

def vars : Pattern → List Variable
  | basic ts => ts.flatMap TriplePattern.vars
  | path s _ o => s.vars ++ o.vars
  | graph name inner => name.vars ++ inner.vars
  | filter condition inner => condition.vars ++ inner.vars
  | union left right | join left right | leftJoin left right => left.vars ++ right.vars
  | values v _ => [v]
  | count counted total inner => counted :: total :: inner.vars
  | foreign p => p.vars

theorem vars_triple (s : TermPattern) (p : NamePattern) (o : TermPattern) :
    (triple s p o).vars = s.vars ++ p.vars ++ o.vars := by
  simp [triple, vars, TriplePattern.vars]

theorem mem_vars_along {s o : TermPattern} {path : Path} {w : Variable} :
    w ∈ (along s path o).vars ↔ w ∈ s.vars ∨ w ∈ o.vars := by
  unfold along
  split <;> simp [vars_triple, vars, NamePattern.vars, or_comm]

theorem vars_merge (l r : Pattern) : (l.merge r).vars = l.vars ++ r.vars := by
  unfold merge
  split <;> simp [vars]

theorem vars_extend (p : Pattern) (f : Fragment) : (p.extend f).vars = p.vars ++ f.pattern.vars := by
  cases f with
  | required q => exact vars_merge p q
  | optional q => rfl

theorem vars_foldl_extend (p : Pattern) (fs : List Fragment) :
    (fs.foldl extend p).vars = p.vars ++ fs.flatMap fun f => f.pattern.vars := by
  induction fs generalizing p with
  | nil => exact (List.append_nil _).symm
  | cons f fs ih => rw [List.foldl_cons, ih, vars_extend, List.flatMap_cons, List.append_assoc]

theorem vars_group (fs : List Fragment) : (group fs).vars = fs.flatMap fun f => f.pattern.vars :=
  vars_foldl_extend _ fs

end Pattern

def Select.vars (s : Select) : List Variable := s.projection ++ s.pattern.vars ++ s.order.map (·.key)

def Query.vars : Query → List Variable
  | select s | describe s | ask s => s.vars
  | construct template s => template.flatMap TriplePattern.vars ++ s.vars

end CollectionQuery
