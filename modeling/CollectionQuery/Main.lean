import CollectionQuery.CommandLine
import CollectionQuery.Endpoint.Http

/-! The program: reads the files that the arguments name, runs, and writes what comes out. It has no connection to an
    endpoint, so a request never gets a response. -/

open CollectionQuery

/-- The contents of the files that can be read. -/
def openFiles (paths : List String) : IO (List (String × List UInt8)) :=
  paths.filterMapM fun (path : String) => do
    try
      let bytes ← IO.FS.readBinFile path
      return some (path, bytes.toList)
    catch _ => return none

def main (args : List String) : IO UInt32 := do
  let files ← openFiles ((CommandLine.readArguments args).toList.flatMap CommandLine.Invocation.files)
  let record := (CommandLine.run (fun path => files.lookup path) args).hold fun _ q => Http.reply q none
  for w in record.warnings do
    IO.eprintln ("WARN " ++ w.message ++ String.join (w.fields.map fun (name, value) => " " ++ name ++ "=" ++ value))
  IO.print record.outcome.output
  if let some message := record.outcome.error then IO.eprintln ("Error: " ++ message)
  return record.outcome.exit.toUInt32
