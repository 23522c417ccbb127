/-!
# Arguments of a command line

An argument that starts with a hyphen names options, unless it is a hyphen alone.  A name of several
letters has two hyphens in front, and its value follows an equals sign or is the next argument,
whatever that looks like.  Names of one letter may share a hyphen; the value of the last one is the
rest of the argument or the next one.  Two hyphens alone end the options.

A `Grammar` says which options there are.  Where a command follows, the first argument that is no
option ends them too; elsewhere options and other arguments may be mixed.
-/

namespace ServiceCatalog

/-- Why arguments are not understood. -/
inductive UsageError where
  | unknownOption (name : String)
  | missingValue (name : String)
  | unexpectedValue (name : String)
  | missingCommand
  | unknownCommand (name : String)
  | missingArgument (name : String)
  | unexpectedArgument (text : String)
  deriving DecidableEq, Repr

/-- What is said about arguments that are not understood. -/
def UsageError.message : UsageError → String
  | .unknownOption name => s!"No such option: {name}"
  | .missingValue name => s!"Option '{name}' requires an argument."
  | .unexpectedValue name => s!"Option '{name}' does not take a value."
  | .missingCommand => "Missing command."
  | .unknownCommand name => s!"No such command '{name}'."
  | .missingArgument name => s!"Missing argument '{name}'."
  | .unexpectedArgument text => s!"Got unexpected extra argument ({text})"

/-- The options of a command. -/
structure Grammar (α : Type) where
  /-- The options by their names with two hyphens. -/
  long : List (String × α)
  /-- The options by their letters. -/
  short : List (Char × α)
  takesValue : α → Bool
  /-- Options may stand behind other arguments. -/
  mixed : Bool

/-- An option and its value, which is empty for an option without one. -/
abbrev Chosen (α : Type) : Type := α × String

namespace Grammar

variable {α : Type}

/-- An option with its value: the one that is given, or the next argument. -/
def withValue (option : α) (name : String) (given : Option String) (args : List String) :
    Except UsageError (List (Chosen α) × List String) :=
  match given, args with
  | some value, _ => .ok ([(option, value)], args)
  | none, value :: rest => .ok ([(option, value)], rest)
  | none, [] => .error (.missingValue name)

/-- The options that share a hyphen. -/
def letters (g : Grammar α) : List Char → List String →
    Except UsageError (List (Chosen α) × List String)
  | [], args => .ok ([], args)
  | c :: cs, args =>
    let name := String.ofList ['-', c]
    match g.short.lookup c with
    | none => .error (.unknownOption name)
    | some option =>
      if g.takesValue option then
        withValue option name (if cs.isEmpty then none else some (String.ofList cs)) args
      else (letters g cs args).map fun p => ((option, "") :: p.1, p.2)

/-- The options that one argument names, and the arguments that are left. -/
def options (g : Grammar α) (arg : String) (args : List String) :
    Except UsageError (List (Chosen α) × List String) :=
  let name := String.ofList (arg.toList.takeWhile (· ≠ '='))
  let given := match arg.toList.dropWhile (· ≠ '=') with
    | [] => none
    | _ :: value => some (String.ofList value)
  match g.long.lookup name with
  | some option =>
    if g.takesValue option then withValue option name given args
    else match given with
      | none => .ok ([(option, "")], args)
      | some _ => .error (.unexpectedValue name)
  | none =>
    if arg.startsWith "--" then .error (.unknownOption name) else g.letters arg.toList.tail args

/-- The options in some arguments, and the other arguments.  Every step takes an argument away, so
the number of arguments is fuel enough. -/
def parseFrom (g : Grammar α) : (fuel : Nat) → List String →
    Except UsageError (List (Chosen α) × List String)
  | 0, args => .ok ([], args)
  | _ + 1, [] => .ok ([], [])
  | fuel + 1, arg :: args =>
    if arg = "--" then .ok ([], args)
    else if arg.startsWith "-" && arg ≠ "-" then do
      let (first, rest) ← g.options arg args
      let (others, left) ← parseFrom g fuel rest
      return (first ++ others, left)
    else if g.mixed then (parseFrom g fuel args).map fun p => (p.1, arg :: p.2)
    else .ok ([], arg :: args)

/-- The options in some arguments, and the other arguments. -/
def parse (g : Grammar α) (args : List String) :
    Except UsageError (List (Chosen α) × List String) :=
  g.parseFrom args.length args

end Grammar
end ServiceCatalog
