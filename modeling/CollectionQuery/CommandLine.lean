import CollectionQuery.Collection.Render
import CollectionQuery.Endpoint.Target
import CollectionQuery.Rdf.NTriples
import CollectionQuery.Url.Reader

/-! The command line: `compile` writes the queries of a collection, `render` puts them to an endpoint and writes the
    page. Arguments that cannot be understood end with 2, other errors with 1. A request for the version is granted as
    soon as the arguments in front of it are understood. -/

namespace CollectionQuery
namespace CommandLine
open Text

/-! ### Arguments -/

inductive Command where
  | compile
  | render (endpoint : Url)
  deriving DecidableEq, Repr

structure Arguments where
  api : String
  data : Option String
  collection : String
  query : String
  pageSize : Nat
  command : Command
  deriving DecidableEq, Repr

/-- What the program is asked to do. -/
inductive Invocation where
  | version
  | run (args : Arguments)
  deriving DecidableEq, Repr

/-- Whether an argument asks for the version. -/
def asksVersion (arg : String) : Bool := arg = "--version" || (behind? ['-', 'V'] arg.toList).isSome

/-- Takes the options in front of the first other argument: their names and values. -/
def takeOptions : List String → Option (List (String × String) × List String)
  | [] => some ([], [])
  | arg :: rest =>
    match behind? ['-', '-'] arg.toList with
    | none | some [] => some ([], arg :: rest)
    | some text =>
      if asksVersion arg then some ([], arg :: rest)
      else match cut? '=' text with
      | some (name, value) =>
        (takeOptions rest).map fun (options, rest) => ((String.ofList name, String.ofList value) :: options, rest)
      | none =>
        match rest with
        | [] => none
        | value :: rest =>
          if value.toList.head? = some '-' ∧ value ≠ "-" then none
          else (takeOptions rest).map fun (options, rest) => ((String.ofList text, value) :: options, rest)

/-- Whether options have distinct names, all of them among the given ones. -/
def areKnown (names : List String) (options : List (String × String)) : Bool :=
  let given := options.map (·.1)
  given.all names.contains && given.length = given.eraseDups.length

/-- Whether nothing follows the options. Two hyphens may mark their end. -/
def isEnd (rest : List String) : Bool := rest = [] || rest = ["--"]

/-- The command that the arguments behind the options give. -/
def readCommand : List String → Option Command
  | "compile" :: rest => if isEnd rest then some .compile else none
  | "render" :: rest => do
    let (options, rest) ← takeOptions rest
    guard (isEnd rest && areKnown ["endpoint"] options)
    let endpoint ← Url.read? (← options.lookup "endpoint").toList
    pure (.render endpoint)
  | _ => none

/-- A value that names a file. -/
def isFileName (value : String) : Bool := !value.isEmpty

def readArguments (args : List String) : Option Invocation := do
  let (options, rest) ← takeOptions args
  guard (areKnown ["api", "data", "collection", "query", "page-size"] options)
  guard ((options.lookup "api").all isFileName && (options.lookup "data").all isFileName)
  let pageSize ← match options.lookup "page-size" with
    | some text => Count.read? text.toList
    | none => some 10
  if rest.head?.any asksVersion then pure .version
  else do
    let command ← readCommand rest
    let api ← options.lookup "api"
    let collection ← options.lookup "collection"
    pure (.run {
      api, data := options.lookup "data", collection, query := (options.lookup "query").getD "", pageSize, command })

/-- The files that are read. -/
def Invocation.files : Invocation → List String
  | .version => []
  | .run args => args.api :: args.data.toList

/-! ### Files -/

/-- The name of the file at a path: the last part that does not stay in its directory. -/
def fileName? (path : List Char) : Option (List Char) :=
  match ((path.splitOn '/').filter fun part => part ≠ [] && part ≠ ['.']).getLast? with
  | some ['.', '.'] => none
  | name => name

/-- What comes behind the last full stop of the name of a file. A full stop in front of a name does not count. -/
def extension? (path : List Char) : Option (List Char) := do
  let (name, extension) ← cutLast? '.' (← fileName? path)
  guard (name ≠ [])
  pure extension

/-- Whether the format with an extension has names of graphs, if the extension is known. -/
def namesGraphs? (extension : List Char) : Option Bool :=
  match String.ofList (extension.map Char.toLower) with
  | "nt" | "txt" => some false
  | "nq" => some true
  | _ => none

/-- The default graph in a file. -/
def loadGraph (files : String → Option (List UInt8)) (path : String) : Except String Graph :=
  match extension? path.toList with
  | none => .error ("The path " ++ path ++ " has no extension to guess a file format from")
  | some extension =>
    match namesGraphs? extension with
    | none =>
      .error ("Not able to guess the file format from file name extension '" ++ String.ofList extension ++ "'")
    | some names =>
      match files path with
      | none => .error ("Unable to open " ++ path)
      | some bytes =>
        match (Utf8.decode? bytes).bind (NTriples.read? names) with
        | none => .error ("Unable to parse " ++ path)
        | some statements =>
          .ok (.ofList ((statements.filter fun s => s.graphName.isNone).map (·.triple)))

/-! ### Running -/

/-- What a run of the program leaves behind. -/
structure Outcome where
  exit : Nat := 0
  output : String := ""
  error : Option String := none
  deriving DecidableEq, Repr

def Outcome.failed (message : String) : Outcome := { exit := 1, error := some message }

/-- The queries as text. -/
def queriesText (q : MemberQueries) : String :=
  (match q.page with
    | some p => "# page " ++ toString p.index ++ " of size " ++ toString p.size ++ "\n"
    | none => "") ++
  "# members\n" ++ q.members.text ++ "\n\n# total\n" ++ q.total.text ++ "\n"

/-- The text of an error. A request that gets no answer is reported with the address of the endpoint. -/
def errorText (endpoint : Url) : CollectionError → String
  | .endpoint .transport => endpoint.failureText
  | e => e.message

/-- Compiles or renders a collection with the graphs that describe the API and the collection. -/
def runWith (args : Arguments) (collection : Iri) (api data : Graph) : Conversation Outcome := do
  let snapshot ← Conversation.ofNoted (Snapshot.load api (.ofRegistry [] []))
  let options := ({} : Options).withPageSize args.pageSize
  match args.command with
  | .compile => do
    let c ← Conversation.ofNoted (Collection.read collection data snapshot.graph)
    let (queries, _) ← Conversation.ofNoted
      ((MemberQueries.assemble c (c.searchParams args.query) options).run snapshot.resolver)
    match queries with
    | some q => pure { output := queriesText q }
    | none => pure (.failed ("The collection " ++ collection.bracketed ++ " has no valid member assertion"))
  | .render endpoint => do
    let (page, _) ← snapshot.render options collection data args.query
    match page with
    | .ok page => pure { output := String.join (page.graph.toList.map NTriples.line) }
    | .error e => pure (.failed (errorText endpoint e))

/-- Loads the graphs and runs the command. -/
def runCommand (files : String → Option (List UInt8)) (args : Arguments) : Conversation Outcome :=
  match Iri.parse? args.collection with
  | none => pure (.failed ("The collection IRI " ++ args.collection ++ " is invalid"))
  | some collection =>
    match loadGraph files args.api with
    | .error message => pure (.failed message)
    | .ok api =>
      match args.data with
      | none => runWith args collection api api
      | some path =>
        match loadGraph files path with
        | .error message => pure (.failed message)
        | .ok data => runWith args collection api data

/-- Runs the program with the files that can be opened. -/
def run (files : String → Option (List UInt8)) (args : List String) : Conversation Outcome :=
  match readArguments args with
  | none => pure { exit := 2 }
  | some .version => pure { output := "hydra-fusion 0.1.0\n" }
  | some (.run args) => runCommand files args

end CommandLine
end CollectionQuery
