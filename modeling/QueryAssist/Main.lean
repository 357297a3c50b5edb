import QueryAssist.CommandLine.Response

/-!
# The command line program

Prints the completion list for a cursor in a text as JSON.
-/

namespace QueryAssist

namespace CommandLine

/-- Reads the content of a file, or says why it cannot be read. -/
def readContent (path : String) : IO (Except String String) := do
  try
    return .ok (← IO.FS.readFile path)
  catch error =>
    return .error (toString error)

/-- Prints the completion list that was asked for. -/
def printCompletions (arguments : Arguments) : IO UInt32 := do
  let text ←
    match arguments.sql with
    | some text => pure text
    | none => (← IO.getStdin).readToEnd
  let content ←
    match arguments.schema with
    | some path => readContent path
    | none => pure (.ok "")
  match complete arguments text content with
  | .ok items =>
    IO.print (render items)
    return 0
  | .error failure =>
    IO.eprintln failure.message
    return 1

end CommandLine

end QueryAssist

/-- The program. -/
def main (arguments : List String) : IO UInt32 := do
  match QueryAssist.CommandLine.Request.ofArguments arguments with
  | .complete arguments => QueryAssist.CommandLine.printCompletions arguments
  | .help =>
    IO.print QueryAssist.CommandLine.help
    return 0
  | .version =>
    IO.print QueryAssist.CommandLine.version
    return 0
  | .badUsage =>
    IO.eprintln "error: invalid arguments\n\nUsage: sql-complete [OPTIONS]"
    return 2
