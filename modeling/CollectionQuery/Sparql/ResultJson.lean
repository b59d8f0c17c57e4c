import CollectionQuery.Iri.Resolve
import CollectionQuery.Sparql.Result
import CollectionQuery.Text.Json
import CollectionQuery.Text.LanguageTag

/-! Reading of solutions and booleans in the JSON format of query results. -/

namespace CollectionQuery
namespace ResultJson
open Text

def text? : Json → Option String
  | .string cs => some (String.ofList cs)
  | _ => none

def field? (name : String) (j : Json) : Option String := (j.member? name).bind text?

/-- A literal has a language or a datatype, or neither. -/
def literal? (j : Json) : Option Literal := do
  let value ← field? "value" j
  match field? "xml:lang" j, field? "datatype" j with
  | some language, none =>
    guard (LanguageTag.isWellFormed language.toList)
    pure (.tagged value (String.ofList (LanguageTag.lower language.toList)))
  | none, some datatype => do
    let d ← Iri.parse? datatype
    pure (.ofDatatype value d)
  | none, none => pure (.plain value)
  | some _, some _ => none

def term? (j : Json) : Option Term := do
  match ← field? "type" j with
  | "uri" => (Iri.parse? (← field? "value" j)).map .iri
  | "bnode" => (field? "value" j).map .blank
  | "literal" | "typed-literal" => (literal? j).map .literal
  | _ => none

/-- The names of the variables that solutions may bind. -/
def names? (j : Json) : Option (List String) := do
  match ← (← j.member? "head").member? "vars" with
  | .array names => names.mapM text?
  | _ => none

def solution? (names : List String) : Json → Option Solution
  | .object members => do
    let bindings ← members.mapM fun (name, value) => do
      guard (names.contains (String.ofList name))
      let t ← term? value
      pure ((⟨String.ofList name⟩ : Variable), t)
    pure ⟨bindings⟩
  | _ => none

/-- The result that a document holds: a boolean, or solutions of the variables in its head. -/
def read? (cs : List Char) : Option QueryResult := do
  let j ← Json.read? cs
  match j.member? "boolean" with
  | some (.bool b) => pure (.boolean b)
  | some _ => none
  | none => do
    let names ← names? j
    match ← (← j.member? "results").member? "bindings" with
    | .array rows => do
      let solutions ← rows.mapM (solution? names)
      pure (.solutions solutions)
    | _ => none

end ResultJson
end CollectionQuery
