import CollectionQuery.Proofs.Search.Query

/-! What the expansion of a template asks for. A template is gone through from brace to brace, and each variable in an
    expression asks for its values before the next one does. The names that are asked for are those of the template, in
    their order and with repetitions, whichever values are given for them; so nothing else can change the expansion. -/

namespace CollectionQuery
namespace Template
open Text

/-- A computation that asks for the values of variables, one after another. -/
inductive Asking (α : Type) where
  | done (outcome : α)
  | ask (name : List Char) (resume : List (List Char) → Asking α)

namespace Asking
variable {α β : Type}

protected def bind : Asking α → (α → Asking β) → Asking β
  | done a, f => f a
  | ask name resume, f => ask name fun values => (resume values).bind f

instance : Monad Asking where
  pure := done
  bind := Asking.bind

/-- Asks for the values of one variable. -/
def valuesOf (name : List Char) : Asking (List (List Char)) := ask name done

/-- What the computation comes to if each variable has the given values. -/
def outcome (values : List Char → List (List Char)) : Asking α → α
  | done a => a
  | ask name resume => (resume (values name)).outcome values

/-- The names that are asked for if each variable has the given values, in order. -/
def asked (values : List Char → List (List Char)) : Asking α → List (List Char)
  | done _ => []
  | ask name resume => name :: (resume (values name)).asked values

variable {values values' : List Char → List (List Char)}

theorem outcome_bind (x : Asking α) (f : α → Asking β) :
    (x >>= f).outcome values = (f (x.outcome values)).outcome values := by
  induction x with
  | done a => rfl
  | ask name resume ih => exact ih (values name)

theorem asked_bind (x : Asking α) (f : α → Asking β) :
    (x >>= f).asked values = x.asked values ++ (f (x.outcome values)).asked values := by
  induction x with
  | done a => rfl
  | ask name resume ih => exact congrArg (name :: ·) (ih (values name))

/-- The outcome depends on nothing but the values that are asked for. -/
theorem outcome_congr {x : Asking α} (h : ∀ name ∈ x.asked values, values' name = values name) :
    x.outcome values' = x.outcome values := by
  induction x with
  | done a => rfl
  | ask name resume ih =>
    obtain ⟨hname, hlater⟩ := List.forall_mem_cons.mp h
    rw [outcome, outcome, hname]
    exact ih _ hlater

end Asking

/-! ### Scanning -/

/-- The expansions of some variables, which ask for their values in turn. -/
def askAll (op : Operator) : List VarSpec → Asking (List (List Char))
  | [] => pure []
  | spec :: specs => do
    let values ← Asking.valuesOf spec.name
    let expansions ← askAll op specs
    pure ((expandSpec op spec values).toList ++ expansions)

/-- The expansion of an expression. -/
def askExpression (body : List Char) : Asking (List Char) := do
  let (op, specs) := Operator.split body
  let expansions ← askAll op (readSpecs specs)
  pure (op.combine expansions)

theorem length_lt_of_cut? {c : Char} {cs front back : List Char} (h : cut? c cs = some (front, back)) :
    back.length < cs.length := by
  rw [eq_of_cut? h, List.length_append, List.length_cons]
  omega

/-- The expansion of a template by a loop of its own, without its parts. The template is cut at the first opening brace
    and at the first closing brace behind it, and what stands behind them is a template again. Where a brace is missing,
    the text is copied. -/
def askTemplate (template : List Char) : Asking (List Char) :=
  match _ : cut? '{' template with
  | none => pure template
  | some (front, back) =>
    match _ : cut? '}' back with
    | none => pure template
    | some (body, rest) => do
      let expansion ← askExpression body
      let others ← askTemplate rest
      pure (front ++ expansion ++ others)
termination_by template.length
decreasing_by
  have hback := length_lt_of_cut? ‹cut? '{' template = some (front, back)›
  have hrest := length_lt_of_cut? ‹cut? '}' back = some (body, rest)›
  exact Nat.lt_trans hrest hback

/-! ### Parts between braces -/

theorem partsFrom_true_of_notMem {text : List Char} (h : '}' ∉ text) (done : List Char) :
    partsFrom true done text = [.literal ('{' :: done.reverse ++ text)] := by
  induction text generalizing done with
  | nil => simp [partsFrom]
  | cons c text ih =>
    rw [partsFrom, if_neg (List.ne_of_not_mem_cons h).symm, ih fun hm => h (List.mem_cons_of_mem c hm)]
    simp

theorem parts_of_notMem {text : List Char} (h : '{' ∉ text) : parts text = [.literal text] := by
  have hparts := partsFrom_append h [] []
  rw [List.append_nil, List.append_nil] at hparts
  rw [parts, hparts, partsFrom, List.reverse_reverse]

theorem parts_open {front back : List Char} (hfront : '{' ∉ front) (hback : '}' ∉ back) :
    parts (front ++ '{' :: back) = [.literal front, .literal ('{' :: back)] := by
  rw [parts, partsFrom_false hfront, partsFrom_true_of_notMem hback]
  rfl

theorem parts_closed {front body : List Char} (hfront : '{' ∉ front) (hbody : '}' ∉ body) (rest : List Char) :
    parts (front ++ '{' :: (body ++ '}' :: rest)) = .literal front :: .expression body :: parts rest := by
  rw [parts, partsFrom_false hfront, partsFrom_true hbody]
  rfl

/-! ### Names -/

variable (values : List Char → List (List Char))

theorem askAll_spec (op : Operator) (specs : List VarSpec) :
    (askAll op specs).outcome values = specs.filterMap (fun s => expandSpec op s (values s.name)) ∧
      (askAll op specs).asked values = specs.map (·.name) := by
  induction specs with
  | nil => exact ⟨rfl, rfl⟩
  | cons spec specs ih =>
    obtain ⟨houtcome, hasked⟩ := ih
    constructor
    · rw [askAll, Asking.outcome_bind, Asking.outcome_bind, houtcome, List.filterMap_cons]
      change (expandSpec op spec (values spec.name)).toList ++ _ = _
      cases expandSpec op spec (values spec.name) <;> rfl
    · rw [askAll, Asking.asked_bind, Asking.asked_bind, hasked]
      exact congrArg (spec.name :: ·) (List.append_nil _)

theorem askExpression_spec (body : List Char) :
    (askExpression body).outcome values = expandExpression values body ∧
      (askExpression body).asked values = (readSpecs (Operator.split body).2).map (·.name) := by
  obtain ⟨houtcome, hasked⟩ :=
    askAll_spec values (Operator.split body).1 (readSpecs (Operator.split body).2)
  constructor
  · rw [askExpression, Asking.outcome_bind, houtcome]
    rfl
  · rw [askExpression, Asking.asked_bind, hasked]
    exact List.append_nil _

theorem askTemplate_spec (template : List Char) :
    (askTemplate template).outcome values = expand template values ∧
      (askTemplate template).asked values = names template := by
  fun_induction askTemplate template with
  | case1 template h =>
    have hparts := parts_of_notMem (cut?_eq_none_iff.mp h)
    rw [expand, names, hparts]
    exact ⟨(List.append_nil _).symm, rfl⟩
  | case2 template front back hfront hbody =>
    have hparts := parts_open (not_mem_of_cut? hfront) (cut?_eq_none_iff.mp hbody)
    rw [← eq_of_cut? hfront] at hparts
    rw [expand, names, hparts]
    refine ⟨?_, rfl⟩
    change template = front ++ ('{' :: back ++ [])
    rw [List.append_nil]
    exact eq_of_cut? hfront
  | case3 template front back hfront body rest hbody ih =>
    have hparts := parts_closed (not_mem_of_cut? hfront) (not_mem_of_cut? hbody) rest
    rw [← eq_of_cut? hbody, ← eq_of_cut? hfront] at hparts
    obtain ⟨houtcome, hasked⟩ := ih
    obtain ⟨houtcome', hasked'⟩ := askExpression_spec values body
    rw [expand, names, hparts, Asking.outcome_bind, Asking.outcome_bind, Asking.asked_bind, Asking.asked_bind,
      houtcome', hasked', houtcome, hasked]
    constructor
    · exact List.append_assoc _ _ _
    · exact congrArg (_ ++ ·) (List.append_nil _)

/-! ### Links -/

/-- No variable in the text of a template has a property of which all mappings are unused. -/
theorem property?_ne_of_unused {t : SearchTemplate} {p : Iri}
    (h : ∀ m ∈ t.mappings, m.property = some p → m ∈ t.unused) {name : List Char}
    (hname : name ∈ names t.template.toList) : t.property? (String.ofList name) ≠ some p := by
  intro hp
  obtain ⟨m, hm, hvariable, hproperty⟩ := SearchTemplate.property?_eq_some hp
  have hunused := (List.mem_filter.mp (h m hm hproperty)).2
  rw [hvariable, String.toList_ofList] at hunused
  simp [hname] at hunused

/-- The expansion of a template asks for its names, whichever values it is given for them, and depends on nothing else.
    So a link shows nothing of a property of which all mappings are unused. -/
theorem expansion_asks_for_names (template : List Char) (t : SearchTemplate) {p : Iri}
    (h : ∀ m ∈ t.mappings, m.property = some p → m ∈ t.unused) :
    (∀ values, (askTemplate template).outcome values = expand template values ∧
      (askTemplate template).asked values = names template) ∧
    (∀ values values', (∀ name ∈ names template, values' name = values name) →
      expand template values' = expand template values) ∧
    ∀ params params', (∀ q ≠ p, params'.values q = params.values q) → t.expand params' = t.expand params := by
  have hcongr (template : List Char) {values values' : List Char → List (List Char)}
      (hnames : ∀ name ∈ names template, values' name = values name) :
      expand template values' = expand template values := by
    have houtcome (values : List Char → List (List Char)) := (askTemplate_spec values template).1
    rw [← houtcome, ← houtcome]
    refine Asking.outcome_congr fun name hname => hnames name ?_
    rwa [(askTemplate_spec _ template).2] at hname
  refine ⟨fun values => askTemplate_spec values template, fun values values' => hcongr template, ?_⟩
  intro params params' hvalues
  refine congrArg String.ofList (hcongr _ fun name hname => ?_)
  have hne := property?_ne_of_unused h hname
  unfold SearchTemplate.valuesOf
  cases hq : t.property? (String.ofList name) with
  | none => rfl
  | some q =>
    dsimp only
    rw [hvalues q fun e => hne (e ▸ hq)]

/-! ### Untidy braces -/

/-- A brace within an expression, an empty expression, a closing brace too many and an expression without an end. -/
def untidy : List Char := "a{?x,y*}{{b:3}{}c}".toList ++ '{' :: "&z".toList

/-- A search for authors and genres, of which the text of the template lacks the genres. -/
def authorSearch : SearchTemplate where
  template := "http://example.org/books{?author}"
  mappings := [Library.authorMapping, Library.genreMapping]

theorem untidy_expansion_asks_for_names :
    let values : List Char → List (List Char) := fun name => if name = ['x'] then [['1']] else []
    let values' : List Char → List (List Char) := fun name => if name = ['z'] then [['2']] else values name
    let ann : SearchParams := .ofList [(Library.author, .literal (.plain "ann"))]
    let annCrime := ann.replace Library.genre [.literal (.plain "crime")]
    names untidy = [['x'], ['y'], ['{', 'b'], []] ∧ (∀ name ∈ names untidy, values' name = values name) ∧
      (askTemplate untidy).asked values' = names untidy ∧ expand untidy values' = expand untidy values ∧
      expand untidy values = "a?x=1c".toList ++ ['}', '{'] ++ "&z".toList ∧
      authorSearch.expand annCrime = authorSearch.expand ann ∧
      authorSearch.expand ann = "http://example.org/books?author=ann" := by
  intro values values' ann annCrime
  have hunused : ∀ m ∈ authorSearch.mappings, m.property = some Library.genre →
      m ∈ authorSearch.unused := by decide +kernel
  have hnames : ∀ name ∈ names untidy, values' name = values name := by decide +kernel
  obtain ⟨hasked, hexpand, hlink⟩ := expansion_asks_for_names untidy authorSearch hunused
  refine ⟨by decide +kernel, hnames, (hasked values').2, hexpand values values' hnames, by decide +kernel, ?_,
    by decide +kernel⟩
  exact hlink ann annCrime fun q hq => SearchParams.values_replace_of_ne ann hq _

end Template
end CollectionQuery
