import CollectionQuery.Noted
import CollectionQuery.Sparql.Result

/-! Computations that put queries to an endpoint. A conversation says what to do with each reply before the reply is
    known; held with an endpoint, it has an outcome, the queries that were sent, and the warnings. -/

namespace CollectionQuery

inductive Conversation (α : Type) where
  | done (outcome : α)
  | warn (warning : Warning) (rest : Conversation α)
  | ask (query : Query) (resume : Reply → Conversation α)

namespace Conversation

variable {α β : Type}

protected def bind : Conversation α → (α → Conversation β) → Conversation β
  | done a, f => f a
  | warn w rest, f => warn w (rest.bind f)
  | ask q resume, f => ask q fun reply => (resume reply).bind f

instance : Monad Conversation where
  pure := done
  bind := Conversation.bind

/-- Puts one query. -/
def put (q : Query) : Conversation Reply := ask q done

/-- A computation that puts no query. -/
def ofNoted (x : Noted α) : Conversation α := x.warnings.foldr warn (done x.value)

/-! ### Holding a conversation -/

/-- What a conversation leaves behind. -/
structure Record (α : Type) where
  outcome : α
  queries : List Query := []
  warnings : List Warning := []

/-- Holds a conversation with an endpoint whose reply depends on the query and on the queries before it. -/
def holdAfter (endpoint : List Query → Query → Reply) : (sent : List Query) → Conversation α → Record α
  | sent, done a => { outcome := a, queries := sent }
  | sent, warn w rest =>
    let r := holdAfter endpoint sent rest
    { r with warnings := w :: r.warnings }
  | sent, ask q resume => holdAfter endpoint (sent ++ [q]) (resume (endpoint sent q))

def hold (endpoint : List Query → Query → Reply) (c : Conversation α) : Record α := holdAfter endpoint [] c

instance : LawfulMonad Conversation :=
  LawfulMonad.mk' Conversation
    (fun x => by
      change x.bind done = x
      induction x with
      | done a => rfl
      | warn w rest ih => exact congrArg (warn w) ih
      | ask q resume ih => exact congrArg (ask q) (funext ih))
    (fun _ _ => rfl)
    (fun x f g => by
      change (x.bind f).bind g = x.bind fun a => (f a).bind g
      induction x with
      | done a => rfl
      | warn w rest ih => exact congrArg (warn w) ih
      | ask q resume ih => exact congrArg (ask q) (funext ih))

end Conversation
end CollectionQuery
