import CollectionQuery.Collection.Render

/-! What comes out of conversations with an endpoint. A rendering comes to a result, which the queries before it may
    affect through the endpoint; it ensures a property if it succeeds with a value that has the property, whichever
    queries were sent before it. -/

namespace CollectionQuery

namespace Conversation
variable {α β : Type} {endpoint : List Query → Query → Reply} {sent : List Query}

theorem holdAfter_bind (x : Conversation α) (f : α → Conversation β) :
    (holdAfter endpoint sent (x >>= f)).outcome =
      (holdAfter endpoint (holdAfter endpoint sent x).queries (f (holdAfter endpoint sent x).outcome)).outcome := by
  induction x generalizing sent with
  | done a => rfl
  | warn w rest ih => exact ih
  | ask q resume ih => exact ih (endpoint sent q)

theorem queries_holdAfter_bind (x : Conversation α) (f : α → Conversation β) :
    (holdAfter endpoint sent (x >>= f)).queries =
      (holdAfter endpoint (holdAfter endpoint sent x).queries (f (holdAfter endpoint sent x).outcome)).queries := by
  induction x generalizing sent with
  | done a => rfl
  | warn w rest ih => exact ih
  | ask q resume ih => exact ih (endpoint sent q)

theorem holdAfter_map (x : Conversation α) (f : α → β) :
    (holdAfter endpoint sent (f <$> x)).outcome = f (holdAfter endpoint sent x).outcome ∧
      (holdAfter endpoint sent (f <$> x)).queries = (holdAfter endpoint sent x).queries :=
  ⟨holdAfter_bind x fun a => pure (f a), queries_holdAfter_bind x fun a => pure (f a)⟩

theorem outcome_ofNoted (x : Noted α) : (holdAfter endpoint sent (ofNoted x)).outcome = x.value := by
  unfold ofNoted
  induction x.warnings with
  | nil => rfl
  | cons w ws ih => exact ih

theorem queries_ofNoted (x : Noted α) : (holdAfter endpoint sent (ofNoted x)).queries = sent := by
  unfold ofNoted
  induction x.warnings with
  | nil => rfl
  | cons w ws ih => exact ih

theorem ofNoted_bind (x : Noted α) (f : α → Noted β) :
    ofNoted (x >>= f) = ofNoted x >>= fun a => ofNoted (f a) := by
  change (x.warnings ++ (f x.value).warnings).foldr warn (done (f x.value).value) =
    Conversation.bind (x.warnings.foldr warn (done x.value)) fun a => ofNoted (f a)
  induction x.warnings with
  | nil => rfl
  | cons w ws ih => exact congrArg (warn w) ih

/-- The endpoint that knows nothing of any resource. -/
def silent : List Query → Query → Reply := fun _ _ => .ok (.graph [])

end Conversation

namespace Rendering
variable {α β : Type} {endpoint : List Query → Query → Reply} {sent : List Query} {r : Resolver}

/-! ### Results -/

/-- What a rendering comes to that is held behind other queries. -/
structure Result (α : Type) where
  outcome : Except CollectionError α
  resolver : Resolver
  /-- The queries before and those of the rendering. -/
  queries : List Query

def after (endpoint : List Query → Query → Reply) (sent : List Query) (r : Resolver) (x : Rendering α) : Result α :=
  ⟨(Conversation.holdAfter endpoint sent (x.run r)).outcome.1,
    (Conversation.holdAfter endpoint sent (x.run r)).outcome.2,
    (Conversation.holdAfter endpoint sent (x.run r)).queries⟩

theorem after_pure (a : α) : after endpoint sent r (pure a) = ⟨.ok a, r, sent⟩ := rfl

theorem after_bind (x : Rendering α) (f : α → Rendering β) :
    after endpoint sent r (x >>= f) =
      match after endpoint sent r x with
      | ⟨.ok a, r', sent'⟩ => after endpoint sent' r' (f a)
      | ⟨.error e, r', sent'⟩ => ⟨.error e, r', sent'⟩ := by
  have hrun : (x >>= f).run r = x.run r >>= fun y => ExceptT.bindCont f y.1 y.2 := rfl
  unfold after
  rw [hrun, Conversation.holdAfter_bind, Conversation.queries_holdAfter_bind]
  generalize Conversation.holdAfter endpoint sent (x.run r) = record
  obtain ⟨⟨y, r'⟩, queries, warnings⟩ := record
  cases y <;> rfl

theorem after_bind_ok {x : Rendering α} {f : α → Rendering β} {a : α} {r' : Resolver} {sent' : List Query}
    (h : after endpoint sent r x = ⟨.ok a, r', sent'⟩) :
    after endpoint sent r (x >>= f) = after endpoint sent' r' (f a) := by
  rw [after_bind, h]

theorem after_bind_error {x : Rendering α} {f : α → Rendering β} {e : CollectionError} {r' : Resolver}
    {sent' : List Query} (h : after endpoint sent r x = ⟨.error e, r', sent'⟩) :
    after endpoint sent r (x >>= f) = ⟨.error e, r', sent'⟩ := by
  rw [after_bind, h]

theorem after_resolving (x : Resolving α) :
    after endpoint sent r (resolving x) = ⟨.ok (x r).value.1, (x r).value.2, sent⟩ := by
  have hrun : (resolving x).run r = Conversation.ofNoted (x r) >>= fun y => pure (.ok y.1, y.2) := rfl
  unfold after
  rw [hrun, Conversation.holdAfter_bind, Conversation.queries_holdAfter_bind, Conversation.outcome_ofNoted,
    Conversation.queries_ofNoted]
  rfl

theorem after_noted (x : Noted α) : after endpoint sent r (noted x) = ⟨.ok x.value, r, sent⟩ := by
  have hrun : (noted x).run r = Conversation.ofNoted x >>= fun a => pure (.ok a, r) := rfl
  unfold after
  rw [hrun, Conversation.holdAfter_bind, Conversation.queries_holdAfter_bind, Conversation.outcome_ofNoted,
    Conversation.queries_ofNoted]
  rfl

theorem after_conversing (x : Conversation (Except CollectionError α)) :
    after endpoint sent r (conversing x) =
      ⟨(Conversation.holdAfter endpoint sent x).outcome, r, (Conversation.holdAfter endpoint sent x).queries⟩ := by
  have hrun : (conversing x).run r = x >>= fun a => pure (a, r) := rfl
  unfold after
  rw [hrun, Conversation.holdAfter_bind, Conversation.queries_holdAfter_bind]
  rfl

theorem after_outcome (x : Except CollectionError α) : after endpoint sent r (outcome x) = ⟨x, r, sent⟩ := rfl

/-- The reply to a query decides what asking it comes to. -/
theorem after_asking (q : Query) (read : Reply → Except EndpointError α) :
    after endpoint sent r (asking q read) = ⟨(read (endpoint sent q)).mapError .endpoint, r, sent ++ [q]⟩ := by
  have hput : Conversation.holdAfter endpoint sent (Conversation.put q) =
    { outcome := endpoint sent q, queries := sent ++ [q] } := rfl
  unfold asking
  rw [after_conversing, Conversation.holdAfter_bind, Conversation.queries_holdAfter_bind, hput]
  dsimp only
  cases read (endpoint sent q) <;> rfl

/-! ### Ensured properties -/

variable {P : α → Prop} {Q : β → Prop}

/-- The rendering succeeds with a value that has the property. -/
def Ensures (endpoint : List Query → Query → Reply) (r : Resolver) (x : Rendering α) (P : α → Prop) : Prop :=
  ∀ sent, ∃ a, (Conversation.holdAfter endpoint sent (x.run r)).outcome.1 = .ok a ∧ P a

theorem Ensures.pure {a : α} (h : P a) : Ensures endpoint r (Pure.pure a) P := fun _ => ⟨a, rfl, h⟩

theorem Ensures.bind {x : Rendering α} {f : α → Rendering β} (hx : Ensures endpoint r x P)
    (hf : ∀ a r', P a → Ensures endpoint r' (f a) Q) : Ensures endpoint r (x >>= f) Q := by
  intro sent
  obtain ⟨a, ha, hP⟩ := hx sent
  have hafter : after endpoint sent r x =
      ⟨.ok a, (after endpoint sent r x).resolver, (after endpoint sent r x).queries⟩ := congrArg (Result.mk · _ _) ha
  obtain ⟨b, hb, hQ⟩ := hf a _ hP (after endpoint sent r x).queries
  exact ⟨b, (congrArg Result.outcome (after_bind_ok hafter)).trans hb, hQ⟩

theorem Ensures.imp {x : Rendering α} {P' : α → Prop} (hx : Ensures endpoint r x P) (h : ∀ a, P a → P' a) :
    Ensures endpoint r x P' := fun sent => by
  obtain ⟨a, ha, hP⟩ := hx sent
  exact ⟨a, ha, h a hP⟩

theorem ensures_resolving {x : Resolving α} (h : P (x r).value.1) : Ensures endpoint r (resolving x) P := fun _ =>
  ⟨_, congrArg Result.outcome (after_resolving x), h⟩

theorem ensures_noted {x : Noted α} (h : P x.value) : Ensures endpoint r (noted x) P := fun _ =>
  ⟨_, congrArg Result.outcome (after_noted x), h⟩

theorem ensures_conversing {x : Conversation (Except CollectionError α)}
    (h : ∀ sent, ∃ a, (Conversation.holdAfter endpoint sent x).outcome = .ok a ∧ P a) :
    Ensures endpoint r (conversing x) P := fun sent => by
  obtain ⟨a, ha, hP⟩ := h sent
  exact ⟨a, (congrArg Result.outcome (after_conversing x)).trans ha, hP⟩

/-- The reply to a query decides what asking it ensures. -/
theorem ensures_asking {q : Query} {read : Reply → Except EndpointError α}
    (h : ∀ sent, ∃ a, read (endpoint sent q) = .ok a ∧ P a) : Ensures endpoint r (asking q read) P := fun sent => by
  obtain ⟨a, ha, hP⟩ := h sent
  refine ⟨a, (congrArg Result.outcome (after_asking q read)).trans ?_, hP⟩
  rw [ha]
  rfl

theorem ensures_outcome {a : α} (h : P a) : Ensures endpoint r (outcome (.ok a)) P := fun _ => ⟨a, rfl, h⟩

end Rendering
end CollectionQuery
