import ServiceCatalog.CommandLine.Arguments

/-!
# Invocations

What a command line asks for.  Options of the whole program stand in front of the command, and those
of a command behind it.  A question for help or for the version is answered before anything else, in
whatever order it stands among the other options, as long as all of them are known.
-/

namespace ServiceCatalog

/-- The options of the whole program. -/
structure Options where
  json : Bool := false
  plain : Bool := false
  noColour : Bool := false
  quiet : Bool := false
  verbose : Bool := false
  configuration : Option String := none
  outputFile : Option String := none
  deriving DecidableEq, Repr

/-- The commands.  Each reads a document from a source; some look at one service only. -/
inductive Command where
  | extract (source : String)
  | services (source : String)
  | operations (source : String) (service : Option String)
  | operation (source name : String) (service : Option String)
  deriving DecidableEq, Repr

/-- What a command line asks for. -/
inductive Invocation where
  | run (options : Options) (command : Command)
  | version
  | help
  deriving DecidableEq, Repr

namespace Invocation

/-- The names of the options of the whole program. -/
inductive RootOption where
  | version
  | help
  | json
  | plain
  | noColour
  | quiet
  | verbose
  | configuration
  | outputFile
  deriving DecidableEq, Repr

/-- The options in front of the command. -/
def rootGrammar : Grammar RootOption where
  long :=
    [("--version", .version), ("--help", .help), ("--json", .json), ("--plain", .plain),
     ("--no-color", .noColour), ("--quiet", .quiet), ("--verbose", .verbose),
     ("--config", .configuration), ("--output", .outputFile)]
  short := [('q', .quiet), ('v', .verbose), ('c', .configuration), ('o', .outputFile)]
  takesValue o := o = .configuration || o = .outputFile
  mixed := false

/-- The names of the options of a command. -/
inductive CommandOption where
  | help
  | service
  deriving DecidableEq, Repr

/-- The options of a group of commands. -/
def groupGrammar : Grammar CommandOption where
  long := [("--help", .help)]
  short := []
  takesValue _ := false
  mixed := false

/-- The options of a command that looks at all services. -/
def plainGrammar : Grammar CommandOption := { groupGrammar with mixed := true }

/-- The options of a command that may look at one service only. -/
def serviceGrammar : Grammar CommandOption where
  long := [("--help", .help), ("--service", .service)]
  short := [('s', .service)]
  takesValue o := o = .service
  mixed := true

/-- What one option makes of the others. -/
def setOption (o : Options) : Chosen RootOption → Options
  | (.version, _) => o
  | (.help, _) => o
  | (.json, _) => { o with json := true }
  | (.plain, _) => { o with plain := true }
  | (.noColour, _) => { o with noColour := true }
  | (.quiet, _) => { o with quiet := true }
  | (.verbose, _) => { o with verbose := true }
  | (.configuration, path) => { o with configuration := some path }
  | (.outputFile, path) => { o with outputFile := some path }

/-- The last value of an option. -/
def lastValue? (option : CommandOption) (chosen : List (Chosen CommandOption)) : Option String :=
  (chosen.reverse.find? fun c => c.1 = option).map Prod.snd

/-- The only argument of a command. -/
def one (args : List String) : Except UsageError String :=
  match args with
  | [] => .error (.missingArgument "SPEC")
  | [source] => .ok source
  | _ :: extra :: _ => .error (.unexpectedArgument extra)

/-- The two arguments of a command. -/
def two (args : List String) : Except UsageError (String × String) :=
  match args with
  | [] => .error (.missingArgument "SPEC")
  | [_] => .error (.missingArgument "NAME")
  | [source, name] => .ok (source, name)
  | _ :: _ :: extra :: _ => .error (.unexpectedArgument extra)

/-- A command, unless help is asked for. -/
def unlessHelp (o : Options) (chosen : List (Chosen CommandOption))
    (command : Except UsageError Command) : Except UsageError Invocation :=
  if chosen.any fun c => c.1 = .help then .ok .help else command.map (.run o)

/-- A command that looks at the services of a document. -/
def ofInspection (o : Options) (name : String) (args : List String) :
    Except UsageError Invocation := do
  match name with
  | "services" =>
    let (chosen, rest) ← plainGrammar.parse args
    unlessHelp o chosen ((one rest).map Command.services)
  | "operations" =>
    let (chosen, rest) ← serviceGrammar.parse args
    unlessHelp o chosen <| (one rest).map fun source =>
      Command.operations source (lastValue? .service chosen)
  | "operation" =>
    let (chosen, rest) ← serviceGrammar.parse args
    unlessHelp o chosen <| (two rest).map fun p =>
      Command.operation p.1 p.2 (lastValue? .service chosen)
  | _ => .error (.unknownCommand name)

/-- A command with its arguments. -/
def ofCommand (o : Options) (name : String) (args : List String) :
    Except UsageError Invocation := do
  match name with
  | "extract" =>
    let (chosen, rest) ← plainGrammar.parse args
    unlessHelp o chosen ((one rest).map Command.extract)
  | "inspect" =>
    let (chosen, rest) ← groupGrammar.parse args
    if chosen.any fun c => c.1 = .help then return .help
    else match rest with
      | [] => .error .missingCommand
      | inspection :: args => ofInspection o inspection args
  | _ => .error (.unknownCommand name)

/-- What a command line asks for. -/
def ofArguments (args : List String) : Except UsageError Invocation := do
  let (chosen, rest) ← rootGrammar.parse args
  match chosen.find? fun c => c.1 = .version || c.1 = .help with
  | some (.version, _) => return .version
  | some _ => return .help
  | none =>
    match rest with
    | [] => .error .missingCommand
    | name :: args => ofCommand (chosen.foldl setOption {}) name args

end Invocation
end ServiceCatalog
