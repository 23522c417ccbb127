import ServiceCatalog.CommandLine.Run

/-!
# The program

Gathers what surrounds the program, runs the command line, and carries out the effects one by one.
The files that the run may read are read beforehand, and there is no connection to the web.

Every text is spelled where it comes in, and shown where it goes out: what is printed or written is
as it was, and half of a pair in a remark is shown as an escape.
-/

namespace ServiceCatalog

/-- The spelling of a text from outside. -/
def spelled (text : String) : String := String.ofList (Text.spelling text.toList)

/-- A text for outside. -/
def shown (text : String) : String := String.ofList (Text.shown text.toList)

/-- What bytes hold. -/
def Contents.ofBytes (bytes : ByteArray) : Contents :=
  match decodeBytes bytes.toList with
  | .ok s => .text s
  | .error cause => .undecodable cause.message

/-- All bytes of a stream, behind those that have been read. -/
partial def readAll (input : IO.FS.Stream) (read : ByteArray) : IO ByteArray := do
  let next ← input.read 65536
  if next.isEmpty then return read else readAll input (read ++ next)

/-- What the standard input holds. -/
def readInput : IO Contents := do
  try
    return .ofBytes (← readAll (← IO.getStdin) .empty)
  catch e => return .unreadable (toString e)

/-- What the file at a path holds, if there is one. -/
def readContents? (path : String) : IO (Option Contents) := do
  try
    return some (.ofBytes (← IO.FS.readBinFile path))
  catch
    | .noFileOrDirectory .. => return none
    | .inappropriateType .. => return none
    | e => return some (.unreadable (toString e))

/-- The files at some paths. -/
def readFiles (paths : List String) : IO FileTree := do
  let mut found : List (Path × Contents) := []
  for path in paths do
    let p := Path.ofText path
    match ← readContents? (shown p.text) with
    | some contents => found := (p, contents) :: found
    | none => pure ()
  let files := found
  return {
    contents? := fun p => files.lookup p
    isTooLong := fun _ => false
    obstacle? := fun _ => none }

/-- What surrounds the program when it is called with some arguments. -/
def surroundings (args : List String) : IO Surroundings := do
  let mut environment : List (String × String) := []
  for name in [configurationVariable, "NO_COLOR", "TERM"] do
    match ← IO.getEnv name with
    | some value => environment := (name, spelled value) :: environment
    | none => pure ()
  let (paths, readsInput) := match Invocation.ofArguments args with
    | .ok (.run o cmd) =>
      ((Invocation.run o cmd).paths environment, decide (Source.ofText cmd.source = Source.input))
    | _ => ([], false)
  return {
    files := ← readFiles paths
    folder := spelled (toString (← IO.currentDir))
    environment := environment
    input := ← if readsInput then readInput else pure (.text "")
    fetch := fun _ => .failure "no connection" }

/-- Carries out effects up to the first one that fails. -/
def perform : List Effect → IO Unit
  | [] => pure ()
  | .output text :: es => do
    IO.print (shown text)
    perform es
  | .remark text :: es => do
    IO.eprint (shown text)
    perform es
  | .save path text :: es => do
    IO.FS.writeFile (shown path) (shown text)
    perform es

end ServiceCatalog

open ServiceCatalog in
/-- Runs the command line. -/
def main (args : List String) : IO UInt32 := do
  let args := args.map spelled
  let outcome := run (← surroundings args) args
  try
    perform outcome.effects
    match outcome.mishap? with
    | some cause => IO.eprintln cause.message
    | none => pure ()
    return outcome.exitCode.toUInt32
  catch e =>
    IO.eprintln s!"Error: Unexpected error: {e}"
    return 1
