import CollectionQuery.Rdf.Term

/-! Graphs: triples without duplicates in the order in which they came, with tables that give the positions of the
    triples of a subject, a predicate or an object. A look-up gives the matching triples in their order, as if the
    whole graph were searched. -/

namespace CollectionQuery

/-! ### Tables of positions -/

/-- The positions stored under each key, keys and positions in the order in which they came. -/
structure Table (κ : Type) where
  entries : List (κ × List Nat) := []

namespace Table

variable {κ : Type} [DecidableEq κ]

/-- The positions under the key `k` of some entries. -/
def find (k : κ) : List (κ × List Nat) → List Nat
  | [] => []
  | (key, positions) :: rest => if key = k then positions else find k rest

/-- Some entries with `i` stored last under the key `k`. -/
def store (k : κ) (i : Nat) : List (κ × List Nat) → List (κ × List Nat)
  | [] => [(k, [i])]
  | (key, positions) :: rest =>
    if key = k then (key, positions ++ [i]) :: rest else (key, positions) :: store k i rest

def get (t : Table κ) (k : κ) : List Nat := find k t.entries

def add (t : Table κ) (k : κ) (i : Nat) : Table κ := ⟨store k i t.entries⟩

theorem find_store (k k' : κ) (i : Nat) (es : List (κ × List Nat)) :
    find k' (store k i es) = if k = k' then find k es ++ [i] else find k' es := by
  induction es with
  | nil => simp [store, find]
  | cons e es ih =>
    obtain ⟨key, positions⟩ := e
    by_cases hk : key = k
    · subst hk
      by_cases h' : key = k' <;> simp [store, find, h']
    · by_cases h' : k = k'
      · subst h'
        simp [store, find, hk, ih]
      · simp [store, find, hk, ih, h']

theorem get_add (t : Table κ) (k k' : κ) (i : Nat) :
    (t.add k i).get k' = if k = k' then t.get k ++ [i] else t.get k' := find_store k k' i t.entries

/-- The table gives, for each key, positions within `ts` that hold exactly the triples with that key. -/
def Indexes (t : Table κ) (key : Triple → κ) (ts : Array Triple) : Prop :=
  ∀ k, (∀ i ∈ t.get k, i < ts.size) ∧
    (t.get k).filterMap (fun i => ts[i]?) = ts.toList.filter fun x => key x = k

theorem Indexes.empty (key : Triple → κ) : Indexes (⟨[]⟩ : Table κ) key #[] := fun _ => by simp [get, find]

/-- A longer array has the same triples at the positions of a shorter one. -/
theorem filterMap_push {ts : Array Triple} (x : Triple) :
    ∀ {positions : List Nat}, (∀ i ∈ positions, i < ts.size) →
      positions.filterMap (fun i => (ts.push x)[i]?) = positions.filterMap fun i => ts[i]?
  | [], _ => rfl
  | i :: rest, h => by
    have hi : (ts.push x)[i]? = ts[i]? := by simp [Array.getElem?_push, Nat.ne_of_lt (h i (by simp))]
    simp only [List.filterMap_cons, hi, filterMap_push x fun j hj => h j (List.mem_cons_of_mem _ hj)]

theorem Indexes.push {t : Table κ} {key : Triple → κ} {ts : Array Triple} (h : t.Indexes key ts) (x : Triple) :
    (t.add (key x) ts.size).Indexes key (ts.push x) := by
  intro k
  have hold := fun k => filterMap_push x (h k).1
  rw [get_add]
  split
  · next hk =>
    subst hk
    constructor
    · intro i hi
      rcases List.mem_append.mp hi with hi | hi
      · exact Nat.lt_of_lt_of_le ((h (key x)).1 i hi) (by simp)
      · simp_all
    · rw [List.filterMap_append, hold, (h (key x)).2]
      simp [List.filter_append]
  · next hk =>
    constructor
    · exact fun i hi => Nat.lt_of_lt_of_le ((h k).1 i hi) (by simp)
    · rw [hold, (h k).2]
      simp [List.filter_append, hk]

end Table

/-! ### Graphs -/

structure Graph where
  triples : Array Triple := #[]
  bySubject : Table Term := {}
  byPredicate : Table Iri := {}
  byObject : Table Term := {}
  nodup : triples.toList.Nodup := by simp
  indexed_subject : bySubject.Indexes (·.subject) triples := by exact Table.Indexes.empty _
  indexed_predicate : byPredicate.Indexes (·.predicate) triples := by exact Table.Indexes.empty _
  indexed_object : byObject.Indexes (·.object) triples := by exact Table.Indexes.empty _

namespace Graph

def empty : Graph := {}

instance : Inhabited Graph := ⟨empty⟩

/-- The triples in the order in which they came. -/
def toList (g : Graph) : List Triple := g.triples.toList

def size (g : Graph) : Nat := g.triples.size

/-- The triples at some positions. -/
def pick (g : Graph) (positions : List Nat) : List Triple := positions.filterMap fun i => g.triples[i]?

/-- The triples of a subject. -/
def ofSubject (g : Graph) (s : Term) : List Triple := g.pick (g.bySubject.get s)

/-- The triples of a predicate. -/
def ofPredicate (g : Graph) (p : Iri) : List Triple := g.pick (g.byPredicate.get p)

/-- The triples of an object. -/
def ofObject (g : Graph) (o : Term) : List Triple := g.pick (g.byObject.get o)

def contains (g : Graph) (t : Triple) : Bool := (g.ofSubject t.subject).contains t

/-- The objects of a subject and a predicate. -/
def objects (g : Graph) (s : Term) (p : Iri) : List Term :=
  ((g.ofSubject s).filter fun t => t.predicate = p).map (·.object)

/-- The first object of a subject and a predicate. -/
def object? (g : Graph) (s : Term) (p : Iri) : Option Term := (g.objects s p).head?

/-- The subjects of a predicate and an object. -/
def subjects (g : Graph) (p : Iri) (o : Term) : List Term :=
  ((g.ofObject o).filter fun t => t.predicate = p).map (·.subject)

/-! ### Look-ups and the list of triples -/

theorem ofSubject_eq (g : Graph) (s : Term) : g.ofSubject s = g.toList.filter fun t => t.subject = s :=
  (g.indexed_subject s).2

theorem ofPredicate_eq (g : Graph) (p : Iri) : g.ofPredicate p = g.toList.filter fun t => t.predicate = p :=
  (g.indexed_predicate p).2

theorem ofObject_eq (g : Graph) (o : Term) : g.ofObject o = g.toList.filter fun t => t.object = o :=
  (g.indexed_object o).2

theorem contains_iff {g : Graph} {t : Triple} : g.contains t = true ↔ t ∈ g.toList := by
  simp [contains, ofSubject_eq]

/-! ### Building -/

/-- The graph with `t` as its last triple, unless it holds it already. -/
def insert (g : Graph) (t : Triple) : Graph :=
  if h : g.contains t = true then g
  else
    { triples := g.triples.push t
      bySubject := g.bySubject.add t.subject g.triples.size
      byPredicate := g.byPredicate.add t.predicate g.triples.size
      byObject := g.byObject.add t.object g.triples.size
      nodup := by
        rw [contains_iff] at h
        rw [Array.toList_push, List.nodup_append]
        exact ⟨g.nodup, by simp, fun a ha b hb e => h (by simp at hb; subst hb e; exact ha)⟩
      indexed_subject := g.indexed_subject.push t
      indexed_predicate := g.indexed_predicate.push t
      indexed_object := g.indexed_object.push t }

def insertAll (g : Graph) (ts : List Triple) : Graph := ts.foldl insert g

def ofList (ts : List Triple) : Graph := empty.insertAll ts

theorem toList_insert (g : Graph) (t : Triple) :
    (g.insert t).toList = if t ∈ g.toList then g.toList else g.toList ++ [t] := by
  unfold insert
  split
  · next h => simp [contains_iff.mp h]
  · next h =>
    rw [contains_iff] at h
    rw [if_neg h]
    simp [toList]

theorem mem_insert {g : Graph} {t x : Triple} : x ∈ (g.insert t).toList ↔ x ∈ g.toList ∨ x = t := by
  rw [toList_insert]
  split
  · next h => exact ⟨Or.inl, fun hx => hx.elim id fun e => e ▸ h⟩
  · simp

theorem mem_insertAll {g : Graph} {ts : List Triple} {x : Triple} :
    x ∈ (g.insertAll ts).toList ↔ x ∈ g.toList ∨ x ∈ ts := by
  induction ts generalizing g with
  | nil => simp [insertAll]
  | cons t ts ih =>
    rw [show g.insertAll (t :: ts) = (g.insert t).insertAll ts from rfl, ih, mem_insert]
    simp [or_assoc]

end Graph
end CollectionQuery
