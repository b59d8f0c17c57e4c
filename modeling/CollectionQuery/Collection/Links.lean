import CollectionQuery.Collection.Resolver

/-! Loading resources together with the resources that they link to, by one query. -/

namespace CollectionQuery
namespace Links

/-- The variable that stands for a linked resource. -/
def linkedVariable : Variable := ⟨"linked"⟩

/-- The member has the type, if one is given, and a path leads from it to the linked resource. -/
def branch (member : Variable) (type : Option Iri) (path : Path) : Pattern :=
  let link := Pattern.along (.var member) path (.var linkedVariable)
  match type with
  | none => link
  | some c =>
    let typed : TriplePattern := ⟨.var member, .iri Rdf.type, .term (.iri c)⟩
    match link with
    | .basic ts => .basic (typed :: ts)
    | other => .join (.basic [typed]) other

/-- The branch of an include, none if its path cannot be read. -/
def branchOf (member : Variable) (rule : IncludeRule) : Noted (Option Pattern) :=
  match rule.path with
  | .ok path => pure (some (.filter (.isIri linkedVariable) (branch member rule.memberType path)))
  | .error error => do
    Noted.warn (.invalidInclude rule.node error)
    pure none

/-- The query for some members and the resources that the branches lead to. -/
def describe (member : Variable) (members : List Iri) : List Pattern → Query
  | [] => .describe { projection := [member], pattern := .values member members }
  | b :: bs => .describe {
      projection := [member, linkedVariable]
      pattern := .leftJoin (.values member members) (bs.foldl .union b) }

/-- The query for some members and what the includes lead to. There is none without members. -/
def query (member : Variable) (members : List Iri) (includes : List IncludeRule) : Noted (Option Query) :=
  if members.isEmpty then pure none
  else do
    let branches ← Noted.keep (branchOf member) includes
    pure (some (describe member members branches))

/-- The data of some members and of what the includes lead to. -/
def load (member : Variable) (members : List Iri) (includes : List IncludeRule) :
    Conversation (Except EndpointError (List Triple)) := do
  match ← Conversation.ofNoted (query member members includes) with
  | none => pure (.ok [])
  | some q => Reply.triples <$> Conversation.put q

end Links

/-- The strategy that describes resources and follows some includes. -/
def DescribeStrategy.following (member : Variable) (includes : List IncludeRule) : DescribeStrategy where
  describe resources := do
    match ← Links.load member resources includes with
    | .ok ts => pure (.ok ts)
    | .error e => pure (.error (.endpoint e))

end CollectionQuery
