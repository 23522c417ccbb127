import ServiceCatalog.Configuration.Entry
import ServiceCatalog.Json.Reader
import ServiceCatalog.Source.Load

/-!
# Which configuration counts

There is at most one.  A path that was given on the command line counts before one in the
environment, and that before the file of the project; without any of them the defaults hold.
Whatever counts is the only one that is looked at: if its file is missing or has a fault, nothing
else takes its place.

An empty path on the command line is a path all the same, but an empty one in the environment is
none.
-/

namespace ServiceCatalog

/-- Where settings come from. -/
inductive SettingsSource where
  | option (path : String)
  | variable (path : String)
  | project
  | defaults
  deriving DecidableEq, Repr

/-- The variable that may hold the path of a configuration. -/
def configurationVariable : String := "OASVC_CONFIG"

/-- The file of a project's configuration, in the working folder. -/
def projectFile : String := "oasvc.json"

/-- Why there are no settings.  Each cause carries the text of the path. -/
inductive SettingsError where
  | notFound (path : String)
  | tooLong (path : String)
  | unreadable (path reason : String)
  /-- The bytes of the file encode no text. -/
  | undecodable (reason : String)
  | malformed (path : String) (cause : Json.SyntaxError)
  /-- An integer in the file is too long. -/
  | overlong (cause : Overlong)
  | notAnObject (path : String)
  | faults (path : String) (found : List SettingFault)
  deriving DecidableEq

/-- What is said about a setting that is not what it should be. -/
def SettingFault.message (f : SettingFault) : String :=
  let place := match f.index with
    | some i => f.key ++ "." ++ toString i
    | none => f.key
  place ++ match f.demand with
    | .text => ": should be a string"
    | .wordSet => ": should be a set of strings"
    | .wordList => ": should be a list of strings"

/-- What is said when there are no settings. -/
def SettingsError.message : SettingsError → String
  | .notFound path => s!"Config file not found: {path}"
  | .tooLong path => Obstacle.tooLong.message path
  | .unreadable path reason => s!"Failed to read config at {path}: {reason}"
  | .undecodable reason => reason
  | .malformed path cause => s!"Invalid config at {path}: " ++ cause.message
  | .overlong cause => cause.message
  | .notAnObject path => s!"Invalid config at {path}: expected a JSON object"
  | .faults path found =>
    s!"Invalid config at {path}: " ++ String.intercalate "; " (found.map SettingFault.message)

namespace Settings

/-- The settings that a configuration text makes; `path` is where it was found. -/
def ofText (path text : String) : Except SettingsError Settings :=
  match Json.parse text with
  | .error (.malformed cause) => .error (.malformed path cause)
  | .error (.overlong cause) => .error (.overlong cause)
  | .ok (.object members) => (ofMembers members).mapError (.faults path)
  | .ok _ => .error (.notAnObject path)

/-- The settings in the file at a path, which is called by some text. -/
def ofFile (files : FileTree) (p : Path) (path : String) : Except SettingsError Settings :=
  match files.read? p with
  | none => .error (if files.isTooLong p then .tooLong path else .notFound path)
  | some (.text text) => ofText path text
  | some (.unreadable reason) => .error (.unreadable path reason)
  | some (.undecodable reason) => .error (.undecodable reason)

/-- The path in the environment, unless it is empty. -/
def variablePath? (s : Surroundings) : Option String :=
  (s.environment.lookup configurationVariable).filter (· ≠ "")

/-- Where the settings come from, given the path on the command line. -/
def source (s : Surroundings) (option : Option String) : SettingsSource :=
  match option, variablePath? s with
  | some path, _ => .option path
  | none, some path => .variable path
  | none, none => if s.files.hasFile (Path.ofText projectFile) then .project else .defaults

/-- The settings from a source. -/
def load (s : Surroundings) : SettingsSource → Except SettingsError Settings
  | .option path => ofFile s.files (Path.ofText path) (Path.ofText path).text
  | .variable path => ofFile s.files (Path.ofText path) (Path.ofText path).text
  | .project => ofFile s.files (Path.ofText projectFile) (s.folder ++ "/" ++ projectFile)
  | .defaults => .ok {}

/-- The settings that hold, given the path on the command line. -/
def resolve (s : Surroundings) (option : Option String) : Except SettingsError Settings :=
  load s (source s option)

end Settings
end ServiceCatalog
