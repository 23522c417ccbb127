import ServiceCatalog.Files.Tree
import ServiceCatalog.Source.ContentType
import ServiceCatalog.Source.Format

/-!
# Where a document comes from

A source is a single hyphen for the standard input, an address on the web, or a path.  What the
library needs of the world to load one is gathered in `Surroundings`, so that loading is a function:
the files, the standard input, what an address answers, and the environment.

A text from the input or from a file has to hold something other than blanks; an answer from the web
does not.  That either cannot be read at all is one of the failures of loading; that its bytes
encode no text is not foreseen as one.
-/

namespace ServiceCatalog

/-- What an address answers. -/
inductive Fetched where
  /-- An answer with a status, a content type and a body. -/
  | answer (status : Nat) (contentType : String) (body : List UInt8)
  /-- No answer, and why. -/
  | failure (reason : String)

/-- What surrounds the program. -/
structure Surroundings where
  files : FileTree
  /-- The full name of the working folder. -/
  folder : String := ""
  /-- The variables of the environment. -/
  environment : List (String × String) := []
  /-- The standard input. -/
  input : Contents := .text ""
  fetch : String → Fetched := fun _ => .failure ""

/-- Where a document comes from. -/
inductive Source where
  | input
  | address (url : String)
  | file (path : String)
  deriving DecidableEq, Repr

/-- The source that a text names. -/
def Source.ofText (text : String) : Source :=
  if text = "-" then .input
  else if text.startsWith "http://" || text.startsWith "https://" then .address text
  else .file text

/-- Why a document is not loaded. -/
inductive LoadError where
  | noInput
  | unreadableInput (reason : String)
  | refused (status : Nat) (url : String)
  | unreachable (url reason : String)
  | notFound (path : String)
  | tooLong (path : String)
  | empty (path : String)
  | unreadable (path reason : String)
  /-- The bytes of a file, or of the standard input, encode no text. -/
  | undecodable (reason : String)
  /-- The body of an answer is not decoded. -/
  | charset (cause : CharsetFault)
  | content (cause : ReadError)

/-- What is said about a document that is not loaded. -/
def LoadError.message : LoadError → String
  | .noInput => "No input received from stdin"
  | .unreadableInput reason => s!"Failed to read from stdin: {reason}"
  | .refused status url => s!"HTTP {status} fetching document from {url}"
  | .unreachable url reason => s!"Failed to fetch document from {url}: {reason}"
  | .notFound path => s!"Document not found: {path}"
  | .tooLong path => Obstacle.tooLong.message path
  | .empty path => s!"Document is empty: {path}"
  | .unreadable path reason => s!"Failed to read {path}: {reason}"
  | .undecodable reason => reason
  | .charset cause => cause.message
  | .content cause => cause.message

namespace Source

/-- A text holds nothing but blanks. -/
def isBlankText (text : String) : Bool := text.toList.all Text.isBlank

/-- The document that a text is. -/
def read (text : String) (hint : Option Format) : Except LoadError Value :=
  (Document.ofText text hint).mapError .content

/-- The document on the standard input. -/
def loadInput (s : Surroundings) : Except LoadError Value :=
  match s.input with
  | .text text => if isBlankText text then .error .noInput else read text none
  | .unreadable reason => .error (.unreadableInput reason)
  | .undecodable reason => .error (.undecodable reason)

/-- The document at an address. -/
def loadAddress (s : Surroundings) (url : String) : Except LoadError Value :=
  match s.fetch url with
  | .failure reason => .error (.unreachable url reason)
  | .answer status contentType body =>
    if 200 ≤ status ∧ status < 300 then
      match ContentType.bodyText contentType body with
      | .ok text => read text (Format.hint? contentType)
      | .error cause => .error (.charset cause)
    else .error (.refused status url)

/-- The document in a file. -/
def loadFile (s : Surroundings) (path : String) : Except LoadError Value :=
  let p := Path.ofText path
  match s.files.read? p with
  | none => .error (if s.files.isTooLong p then .tooLong p.text else .notFound path)
  | some (.text text) =>
    if isBlankText text then .error (.empty path) else read text (Format.hint? p.suffix)
  | some (.unreadable reason) => .error (.unreadable path reason)
  | some (.undecodable reason) => .error (.undecodable reason)

/-- The document from a source. -/
def load (s : Surroundings) : Source → Except LoadError Value
  | .input => loadInput s
  | .address url => loadAddress s url
  | .file path => loadFile s path

end Source
end ServiceCatalog
