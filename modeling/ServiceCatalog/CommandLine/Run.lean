import ServiceCatalog.Api.Record
import ServiceCatalog.Api.Version
import ServiceCatalog.CommandLine.Console
import ServiceCatalog.CommandLine.Invocation
import ServiceCatalog.Configuration.Choice

/-!
# Running a command

A run resolves the settings, loads the document, extracts its services and hands over what the
command asks for.  It stops at the first stage that fails, and because nothing but remarks is
printed before the last stage, a run that fails earlier has printed no data and written no file.

The exit code says which stage it was: 1 for the settings, 7 for the document, 2 for a name that the
document does not have, and 1 for everything that is not foreseen.

## Handing over

The data is carried out effect by effect (`Effect.carriedOut`), and this may fail half way.  A text
is encoded when it is printed, and one that holds half of a pair is not printed at all; but the
lines before it have been.  A file is opened before its text is encoded, and opening it empties it.

## Failures that cannot be told

What is said about a failure may hold a text of the document or of the command line, and faulty
marks in it.  That is a failure of its own and is accounted for in turn, once; if that cannot be
said either, the run ends without a word (`Outcome.mishap?`).
-/

namespace ServiceCatalog

/-- Why a run fails. -/
inductive Failure where
  | settings (cause : SettingsError)
  | load (cause : LoadError)
  | document (cause : DocumentError)
  | unknownService (name : String)
  | unknownOperation (name : String)
  /-- The result holds something that cannot be written. -/
  | unwritable (cause : Unwritable)
  /-- The file for the result cannot be written. -/
  | obstacle (path : String) (cause : Obstacle)
  /-- A text of the result cannot be encoded. -/
  | unencodable (cause : Text.Unencodable)
  /-- The marks of a remark are faulty. -/
  | remark (cause : Terminal.MarkupFault)

namespace Failure

/-- The failure is one of those that a run accounts for by a code of its own. -/
def isForeseen : Failure → Bool
  | .settings (.tooLong _) => false
  | .settings (.undecodable _) => false
  | .settings (.overlong _) => false
  | .settings _ => true
  | .load (.tooLong _) => false
  | .load (.undecodable _) => false
  | .load (.charset _) => false
  | .load (.content (.unsuitable _)) => false
  | .load (.content (.overlong _)) => false
  | .load _ => true
  | .document (.version .overlong) => false
  | .document (.extraction (.description (.overlong _))) => false
  | .document (.extraction (.unnamedPath _)) => false
  | .document (.extraction (.untypedPath _)) => false
  | .document _ => true
  | .unknownService _ => true
  | .unknownOperation _ => true
  | .unwritable _ => false
  | .obstacle _ _ => false
  | .unencodable _ => false
  | .remark _ => false

/-- What the failure consists in. -/
def reason : Failure → String
  | .settings cause => cause.message
  | .load cause => cause.message
  | .document cause => cause.message
  | .unknownService name => s!"Unknown service: {name}"
  | .unknownOperation name => s!"Unknown operation: {name}"
  | .unwritable cause => cause.message
  | .obstacle path cause => cause.message path
  | .unencodable cause => cause.message
  | .remark cause => cause.message

/-- What is said about a failure. -/
def message (f : Failure) : String :=
  if f.isForeseen then f.reason else "Unexpected error: " ++ f.reason

/-- The exit code of a failure. -/
def exitCode (f : Failure) : Nat :=
  if !f.isForeseen then 1
  else match f with
    | .load _ => 7
    | .document _ => 7
    | .unknownService _ => 2
    | .unknownOperation _ => 2
    | _ => 1

end Failure

/-- A stage of a run: it has effects, and it may fail. -/
abbrev Run (α : Type) : Type := ExceptT Failure (StateM (List Effect)) α

namespace Run

/-- Has effects. -/
def emit (effects : List Effect) : Run Unit := fun es => (.ok (), es ++ effects)

/-- Fails. -/
def fail {α : Type} (f : Failure) : Run α := fun es => (.error f, es)

/-- Goes on with a result, or fails. -/
def orFail {α ε : Type} (failure : ε → Failure) : Except ε α → Run α
  | .ok a => pure a
  | .error e => fail (failure e)

/-- Makes a remark. -/
def say (effects : Except Terminal.MarkupFault (List Effect)) : Run Unit := do
  let es ← orFail .remark effects
  emit es

end Run

/-! ## The stages -/

/-- The console of some options. -/
def Options.console (o : Options) (environment : List (String × String)) : Console where
  format := if o.json then .json else .plain
  coloured := Console.isColoured o.noColour environment
  quiet := o.quiet
  verbose := o.verbose
  outputFile := o.outputFile

/-- What is logged before settings are loaded from a source. -/
def SettingsSource.opening : SettingsSource → Option String
  | .option path => some ("Using config from --config: " ++ path)
  | .variable path => some ("Using config from " ++ configurationVariable ++ ": " ++ path)
  | .project => none
  | .defaults => none

/-- What is logged when settings have been loaded from a source. -/
def SettingsSource.closing : SettingsSource → Option String
  | .project => some ("Using project config ./" ++ projectFile)
  | _ => none

/-- What is logged before a document is loaded from a source. -/
def Source.opening : Source → String
  | .input => "Reading document from stdin"
  | .address url => "Fetching document from " ++ url
  | .file path => "Reading document from " ++ path

namespace Run

/-- The settings of a run. -/
def settings (s : Surroundings) (c : Console) (option : Option String) : Run Settings := do
  let source := Settings.source s option
  let log (text : Option String) : Run Unit :=
    emit (text.toList.flatMap (c.log "oasvc.config"))
  log source.opening
  let found ← orFail .settings (Settings.load s source)
  log source.closing
  return found

/-- The services of the document from a source. -/
def services (s : Surroundings) (c : Console) (options : Options) (source : String) :
    Run (List Service) := do
  let chosen ← settings s c options.configuration
  say (c.debug ("Loading document: " ++ source))
  let src := Source.ofText source
  emit (c.log "oasvc.parser.loader" src.opening)
  let doc ← orFail .load (src.load s)
  let found ← orFail .document (extract doc chosen)
  let count := found.services.length
  let total := found.operationCount
  emit (c.log "oasvc.extractor.services"
    (s!"Extracted {count} services with {total} operations from OpenAPI " ++ found.version ++
      " document"))
  return found.services

/-- The services with a name, or all of them. -/
def select (services : List Service) : Option String → Run (List Service)
  | none => pure services
  | some name =>
    match services.filter fun s => s.name = name with
    | [] => fail (.unknownService name)
    | found => pure found

/-- The first operation with a name or an id, and its service. -/
def find (services : List Service) (name : String) : Run (Service × Operation) :=
  let all := services.flatMap fun s => s.operations.map fun o => (s, o)
  match all.find? fun p => p.2.name = name || p.2.id = name with
  | some p => pure p
  | none => fail (.unknownOperation name)

end Run

/-! ## Handing over -/

/-- What is done of an effect where texts are encoded and files may be in the way, and why it is not
done as a whole.  A text that cannot be encoded leaves nothing on the standard output, and an empty
file. -/
def Effect.carriedOut (files : FileTree) : Effect → List Effect × Option Failure
  | .output text =>
    match Text.unencodable? text with
    | none => ([.output text], none)
    | some u => ([], some (.unencodable u))
  | .save path text =>
    match files.obstacle? path, Text.unencodable? text with
    | some o, _ => ([], some (.obstacle path o))
    | none, none => ([.save path text], none)
    | none, some u => ([.save path ""], some (.unencodable u))
  | .remark text => ([.remark text], none)

/-- What is done of effects, one after the other up to the first that is not done as a whole. -/
def Effect.allCarriedOut (files : FileTree) : List Effect → List Effect × Option Failure
  | [] => ([], none)
  | e :: es =>
    match e.carriedOut files with
    | (done, some f) => (done, some f)
    | (done, none) => (done ++ (allCarriedOut files es).1, (allCarriedOut files es).2)

namespace Run

/-- Hands over effects, as far as this can be done. -/
def handOver (s : Surroundings) (effects : List Effect) : Run Unit := do
  emit (Effect.allCarriedOut s.files effects).1
  match (Effect.allCarriedOut s.files effects).2 with
  | some f => fail f
  | none => pure ()

/-- Prints a document, or writes it to its file. -/
def document (s : Surroundings) (c : Console) (j : Json) : Run Unit := do
  let j ← orFail .unwritable j.ensureWritable
  handOver s [c.document j]

end Run

/-! ## The commands -/

/-- A text, or a hyphen where nothing is written. -/
def orHyphen (text : String) : String := if text = "" then "-" else text

/-- An optional text, or a hyphen. -/
def orHyphen? (text : Option String) : String := orHyphen (text.getD "")

/-- Texts with commas between them. -/
def listed (texts : List String) : String := String.intercalate ", " texts

/-- The headers of a table of services. -/
def serviceHeaders : List String := ["Service", "Operations", "Description"]

/-- The row of a service. -/
def Service.row (s : Service) : List String :=
  [s.name, toString s.operations.length, orHyphen? s.description]

/-- The headers of a table of operations. -/
def operationHeaders : List String := ["Service", "Method", "Path", "Name", "Results", "Errors"]

/-- A status code as it is printed. -/
def writtenCode (code : Int) : String := String.ofList (writtenInt code)

/-- The row of an operation in a service. -/
def Operation.row (service : String) (o : Operation) : List String :=
  [service, o.method, o.path, o.name, listed (o.results.map fun r => r.type),
    orHyphen (listed (o.errors.map fun e => writtenCode e.code))]

/-- The rows of the operations of a service. -/
def Service.rows (s : Service) : List (List String) := s.operations.map (Operation.row s.name)

/-- A parameter with its type and its location; an optional one has a question mark. -/
def Parameter.label (p : Parameter) : String :=
  p.name ++ ": " ++ p.type ++ (if p.isRequired then "" else "?") ++ " (" ++ p.location.name ++ ")"

/-- The details of an operation in a service. -/
def Operation.details (service : String) (o : Operation) : List (String × String) :=
  [("Name", o.name),
   ("Id", o.id),
   ("Service", service),
   ("Method", o.method),
   ("Path", o.path),
   ("Summary", orHyphen? o.summary),
   ("Deprecated", if o.deprecated then "yes" else "no"),
   ("Parameters", orHyphen (listed (o.parameters.map Parameter.label))),
   ("Results", listed (o.results.map fun r => writtenCode r.code ++ " " ++ r.type)),
   ("Errors", orHyphen (listed (o.errors.map fun e => writtenCode e.code ++ " " ++ e.description))),
   ("Response header", orHyphen? o.responseHeader)]

namespace Run

/-- What a command does. -/
def command (s : Surroundings) (o : Options) (c : Console) : Command → Run Unit
  | .extract source => do
    let found ← services s c o source
    let j ← orFail .unwritable (Service.records found)
    document s c j
    let count := found.length
    let total := (found.flatMap fun s => s.operations).length
    say (c.info s!"Extracted {count} services, {total} operations.")
  | .services source => do
    let found ← services s c o source
    handOver s (c.table serviceHeaders (found.map Service.row))
  | .operations source service => do
    let found ← services s c o source
    let selected ← select found service
    handOver s (c.table operationHeaders (selected.flatMap Service.rows))
  | .operation source name service => do
    let found ← services s c o source
    let selected ← select found service
    let (owner, operation) ← find selected name
    match c.format with
    | .json =>
      let j ← orFail .unwritable operation.record
      document s c j
    | .plain => handOver s (c.details (operation.details owner.name))

end Run

/-- What to do next when a command fails because of a name. -/
def Command.hint? : Command → Failure → Option String
  | .operation source _ _, .unknownService _ =>
    some ("List operations with: oasvc inspect operations " ++ source)
  | .operation source _ _, .unknownOperation _ =>
    some ("List operations with: oasvc inspect operations " ++ source)
  | _, _ => none

/-- What a run leaves behind. -/
structure Outcome where
  exitCode : Nat
  effects : List Effect
  /-- The fault because of which a failure could not be accounted for. -/
  mishap? : Option Terminal.MarkupFault := none

namespace Outcome

/-- What is printed on the standard output. -/
def output (o : Outcome) : String :=
  String.join (o.effects.map fun
    | .output text => text
    | _ => "")

/-- What is printed on the standard error. -/
def remarks (o : Outcome) : String :=
  String.join (o.effects.map fun
    | .remark text => text
    | _ => "")

/-- The files that are written, in order. -/
def saved (o : Outcome) : List (String × String) :=
  o.effects.filterMap fun
    | .save path text => some (path, text)
    | _ => none

end Outcome

/-- The name and the version of the program. -/
def versionText : String := "oasvc 0.1.0\n"

/-- What the program says about itself. -/
def helpText : String :=
  "Usage: oasvc [OPTIONS] COMMAND [ARGS]...\n\n" ++
  "Extract services and operations from OpenAPI 3.x documents.\n\n" ++
  "Commands:\n" ++
  "  extract SPEC                  Extract services and operations as JSON.\n" ++
  "  inspect services SPEC         List the services (one per tag).\n" ++
  "  inspect operations SPEC       List operations with their results and errors.\n" ++
  "  inspect operation SPEC NAME   Show one operation in detail.\n"

/-- Accounts for a failure of a command, and ends with the exit code. -/
def Command.account (c : Console) (cmd : Command) (f : Failure) : Run Nat := do
  Run.say (c.error f.message)
  match cmd.hint? f with
  | some hint => Run.say (c.suggest hint)
  | none => pure ()
  return f.exitCode

/-- Ends a run that failed: accounts for the failure, and where this fails as well, once for the new
failure.  Nothing is tried again after a failure that was not foreseen. -/
def Command.finish (c : Console) (cmd : Command) (f : Failure) (effects : List Effect) : Outcome :=
  match (cmd.account c f).run.run effects with
  | (.ok code, es) => ⟨code, es, none⟩
  | (.error g, es) =>
    match if f.isForeseen then (cmd.account c g).run.run es else (.error g, es) with
    | (.ok code, es) => ⟨code, es, none⟩
    | (.error (.remark cause), es) => ⟨1, es, some cause⟩
    | (.error h, es) => ⟨h.exitCode, es, none⟩

/-- Runs a command. -/
def Command.run (s : Surroundings) (o : Options) (cmd : Command) : Outcome :=
  let c := o.console s.environment
  match (Run.command s o c cmd).run.run [] with
  | (.ok (), effects) => ⟨0, effects, none⟩
  | (.error f, effects) => cmd.finish c f effects

/-- The source of the document that a command reads. -/
def Command.source : Command → String
  | .extract source => source
  | .services source => source
  | .operations source _ => source
  | .operation source _ _ => source

/-- The paths that a run may read from. -/
def Invocation.paths (environment : List (String × String)) : Invocation → List String
  | .run o cmd =>
    let document := match Source.ofText cmd.source with
      | .file path => [path]
      | _ => []
    projectFile :: o.configuration.toList ++ (environment.lookup configurationVariable).toList ++
      document
  | _ => []

/-- Runs what a command line asks for. -/
def run (s : Surroundings) (args : List String) : Outcome :=
  match Invocation.ofArguments args with
  | .ok (.run o cmd) => cmd.run s o
  | .ok .version => ⟨0, [.output versionText], none⟩
  | .ok .help => ⟨0, [.output helpText], none⟩
  | .error e => ⟨2, [.remark ("Error: " ++ e.message ++ "\n")], none⟩

end ServiceCatalog
