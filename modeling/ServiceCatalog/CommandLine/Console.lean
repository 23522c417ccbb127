import ServiceCatalog.Files.Tree
import ServiceCatalog.Json.Writer
import ServiceCatalog.Terminal.Markup
import ServiceCatalog.Terminal.Wrap

/-!
# What is printed

Data goes to the standard output, or a document to a file that was named for it, and everything that
is said about the run goes to the standard error.  Printing is a value here: a list of `Effect`s,
which the outermost layer carries out.

## Two formats

Data is printed as JSON or in plain lines.  A table in JSON is an array of objects, one for every
row, keyed by the headers; a plain one has a line for the headers and one for every row, with tabs
between the cells.

## Remarks

A quiet run drops what is merely informative, and a verbose one adds what helps to find faults.
Warnings and errors are always printed.  When colours are on, a remark is marked up
(`ServiceCatalog.Terminal.Markup`) and cut into lines that fit (`ServiceCatalog.Terminal.Wrap`).
The text of a remark may bring marks of its own, and because those may be faulty, printing one can
fail.
-/

namespace ServiceCatalog

/-- The formats of printed data. -/
inductive OutputFormat where
  | json
  | plain
  deriving DecidableEq, Repr

/-- The name of a format of printed data. -/
def OutputFormat.name : OutputFormat → String
  | .json => "json"
  | .plain => "plain"

/-- What a run does to the world. -/
inductive Effect where
  /-- Prints on the standard output. -/
  | output (text : String)
  /-- Prints on the standard error. -/
  | remark (text : String)
  /-- Writes a file. -/
  | save (path text : String)
  deriving DecidableEq, Repr

/-- How a run prints. -/
structure Console where
  format : OutputFormat := .plain
  coloured : Bool := false
  quiet : Bool := false
  verbose : Bool := false
  /-- The file for documents; an empty name is none. -/
  outputFile : Option String := none
  deriving DecidableEq, Repr

namespace Console

/-- Colours are on unless they are refused: by a flag, by a variable that is set, or by a terminal
without any. -/
def isColoured (refused : Bool) (environment : List (String × String)) : Bool :=
  !refused && (environment.lookup "NO_COLOR").isNone && environment.lookup "TERM" ≠ some "dumb"

/-- A line on the standard output. -/
def line (text : String) : Effect := .output (text ++ "\n")

/-- A remark on the standard error: in marked form if colours are on, and otherwise as it is. -/
def remark (c : Console) (marked plain : String) : Except Terminal.MarkupFault (List Effect) :=
  if c.coloured then do
    let text ← Terminal.markedUp marked.toList
    return [.remark (String.ofList (Terminal.fitted text) ++ "\n")]
  else .ok [.remark (plain ++ "\n")]

/-! ## Data -/

/-- A document, on the standard output or in the file for it. -/
def document (c : Console) (j : Json) : Effect :=
  match c.outputFile with
  | none => line j.render
  | some path => if path = "" then line j.render else .save path (j.render ++ "\n")

/-- The object of a row. -/
def rowObject (headers row : List String) : Json :=
  .object (Json.distinct (headers.zip (row.map Json.text)))

/-- Cells on one line. -/
def cells (row : List String) : String := String.intercalate "\t" row

/-- A table. -/
def table (c : Console) (headers : List String) (rows : List (List String)) : List Effect :=
  match c.format with
  | .json => [line (Json.array (rows.map (rowObject headers))).render]
  | .plain => line (cells headers) :: rows.map fun row => line (cells row)

/-- One record as labels and values. -/
def details (c : Console) (fields : List (String × String)) : List Effect :=
  match c.format with
  | .json => [line (Json.object (fields.map fun f => (f.1, Json.text f.2))).render]
  | .plain => fields.map fun f => line (f.1 ++ "\t" ++ f.2)

/-! ## Remarks -/

/-- Something informative. -/
def info (c : Console) (text : String) : Except Terminal.MarkupFault (List Effect) :=
  if c.quiet then .ok [] else c.remark text text

/-- A warning. -/
def warning (c : Console) (text : String) : Except Terminal.MarkupFault (List Effect) :=
  c.remark ("[yellow]Warning:[/yellow] " ++ text) ("Warning: " ++ text)

/-- An error. -/
def error (c : Console) (text : String) : Except Terminal.MarkupFault (List Effect) :=
  c.remark ("[bold red]Error:[/bold red] " ++ text) ("Error: " ++ text)

/-- A hint what to do next. -/
def suggest (c : Console) (text : String) : Except Terminal.MarkupFault (List Effect) :=
  if c.quiet then .ok [] else c.remark ("[dim]→ " ++ text ++ "[/dim]") ("→ " ++ text)

/-- Something that helps to find faults. -/
def debug (c : Console) (text : String) : Except Terminal.MarkupFault (List Effect) :=
  if c.verbose then c.remark ("[dim][debug] " ++ text ++ "[/dim]") ("[debug] " ++ text) else .ok []

/-- A record of what a part of the program does, which is never marked up. -/
def log (c : Console) (topic text : String) : List Effect :=
  if c.verbose then [.remark ("[debug] " ++ topic ++ ": " ++ text ++ "\n")] else []

end Console
end ServiceCatalog
