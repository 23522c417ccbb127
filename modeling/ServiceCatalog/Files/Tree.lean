import ServiceCatalog.Files.Path
import ServiceCatalog.Text.Quoted

/-!
# Files

What the library has to know about the files around it: what the file at a path holds, if one is
there, whether a path is too long to be looked up at all, and whether a file could be written at a
path.  Everything else about folders stays outside of this interface; `FileTree.ofFiles` builds it
for a working folder of which all files are given.

A file that is there may resist being read, or hold bytes that encode no text (`Contents`).  A text
is read with every end of a line as a line feed.  A name on a path has at most 255 bytes, and
a path at most 4095; a name that is too long is only noticed in a folder that is there.
-/

namespace ServiceCatalog

/-- Why no file can be written at a path. -/
inductive Obstacle where
  | missingFolder
  | notAFolder
  | isAFolder
  /-- The path, or a name on it, is too long. -/
  | tooLong
  /-- A character of the path has the number zero. -/
  | zero
  deriving DecidableEq, Repr

/-- What is said about a path at which no file can be written. -/
def Obstacle.message (path : String) : Obstacle → String
  | .missingFolder => s!"[Errno 2] No such file or directory: " ++ quotedPath
  | .notAFolder => s!"[Errno 20] Not a directory: " ++ quotedPath
  | .isAFolder => s!"[Errno 21] Is a directory: " ++ quotedPath
  | .tooLong => s!"[Errno 36] File name too long: " ++ quotedPath
  | .zero => "embedded null byte"
where
  /-- The path between quotes. -/
  quotedPath : String := String.ofList (Text.quoted path.toList)

/-- What a file, or the standard input, holds when it is read. -/
inductive Contents where
  | text (s : String)
  /-- It cannot be read, and why. -/
  | unreadable (reason : String)
  /-- It holds bytes that encode no text, and what is wrong with them. -/
  | undecodable (reason : String)
  deriving DecidableEq, Repr

instance : Coe String Contents := ⟨.text⟩

/-- The files that can be read and written. -/
structure FileTree where
  /-- What the file at a path holds. -/
  contents? : Path → Option Contents
  /-- A path is too long to be looked up. -/
  isTooLong : Path → Bool
  /-- Why no file can be written at a path, given by its text. -/
  obstacle? : String → Option Obstacle

/-- A text with every end of a line as a line feed. -/
def withLineFeeds : List Char → List Char
  | [] => []
  | '\r' :: '\n' :: cs => '\n' :: withLineFeeds cs
  | '\r' :: cs => '\n' :: withLineFeeds cs
  | c :: cs => c :: withLineFeeds cs

/-- What is read, with every end of a line as a line feed. -/
def Contents.withLineFeeds : Contents → Contents
  | .text s => .text (String.ofList (ServiceCatalog.withLineFeeds s.toList))
  | other => other

namespace FileTree

/-- The text of the file at a path, if it has one. -/
def text? (t : FileTree) (p : Path) : Option String :=
  match t.contents? p with
  | some (.text s) => some s
  | _ => .none

theorem contents?_eq_some_of_text? {t : FileTree} {p : Path} {s : String} (h : t.text? p = some s) :
    t.contents? p = some (.text s) := by
  unfold text? at h
  split at h
  next heq => rw [heq, Option.some.inj h]
  next => cases h

/-- What is read from the file at a path. -/
def read? (t : FileTree) (p : Path) : Option Contents :=
  (t.contents? p).map Contents.withLineFeeds

/-- There is a file at a path. -/
def hasFile (t : FileTree) (p : Path) : Bool := (t.contents? p).isSome

/-- Files without any. -/
def none : FileTree := ⟨fun _ => .none, fun _ => false, fun _ => some .missingFolder⟩

/-! ## A working folder -/

/-- Where a path leads. -/
inductive Spot where
  | folder (segments : List String)
  /-- A folder around the working folder. -/
  | outside
  | file (text : String)
  | missing
  /-- The path goes on below a file. -/
  | belowFile
  /-- A name is too long for the folder that it is looked up in. -/
  | tooLong
  deriving DecidableEq

/-- A name is longer than a name in a folder can be. -/
def isLongName (name : String) : Bool := 255 < name.utf8ByteSize

/-- A path is longer than a path can be. -/
def isLongPath (path : String) : Bool := 4095 < path.utf8ByteSize

/-- There is a folder at some names: a file is somewhere below. -/
def isFolder (files : List (List String × String)) (segments : List String) : Bool :=
  segments.isEmpty || files.any fun f => f.1.take segments.length = segments ∧ f.1 ≠ segments

/-- Where names lead from a folder.  Nothing is known of what lies outside. -/
def walk (files : List (List String × String)) : Spot → List String → Spot
  | spot, [] => spot
  | .folder here, name :: names =>
    if name = "." then walk files (.folder here) names
    else if name = ".." then
      walk files (if here.isEmpty then .outside else .folder here.dropLast) names
    else if isLongName name then .tooLong
    else
      match files.lookup (here ++ [name]) with
      | some text => walk files (.file text) names
      | .none =>
        if isFolder files (here ++ [name]) then walk files (.folder (here ++ [name])) names
        else .missing
  | .outside, name :: names =>
    if name = "." ∨ name = ".." then walk files .outside names
    else if isLongName name then .tooLong
    else .missing
  | .file _, _ :: _ => .belowFile
  | spot, _ :: _ => spot

/-- The spot where a path starts. -/
def start (isAbsolute : Bool) : Spot := if isAbsolute then .outside else .folder []

/-- The obstacle that a folder is, if it is no folder. -/
def folderObstacle? : Spot → Option Obstacle
  | .folder _ => .none
  | .outside => .none
  | .file _ => some .notAFolder
  | .missing => some .missingFolder
  | .belowFile => some .notAFolder
  | .tooLong => some .tooLong

/-- The obstacle that a file is which cannot be written. -/
def fileObstacle? : Spot → Option Obstacle
  | .folder _ => some .isAFolder
  | .outside => some .isAFolder
  | .tooLong => some .tooLong
  | _ => .none

/-- Why no file can be written at a path in a folder with some files.  A slash at the end asks for a
folder. -/
def obstacleIn (files : List (List String × String)) (path : String) : Option Obstacle :=
  let names := Path.names path.toList
  let isAbsolute := path.startsWith "/"
  let spot (names : List String) : Spot := walk files (start isAbsolute) names
  if path.toList.contains '\x00' then some .zero
  else if isLongPath path then some .tooLong
  else
    match names.getLast? with
    | .none => some (if path = "" then .missingFolder else .isAFolder)
    | some last =>
      if last = "." ∨ last = ".." then (folderObstacle? (spot names)).or (some .isAFolder)
      else
        (folderObstacle? (spot names.dropLast)).or <|
          if isLongName last then some .tooLong
          else if path.endsWith "/" then some .isAFolder
          else if isAbsolute then some .missingFolder
          else fileObstacle? (spot names)

/-- The files of a working folder, given by their paths. -/
def ofFiles (files : List (String × String)) : FileTree :=
  let listed := files.map fun f => ((Path.ofText f.1).segments, f.2)
  let spot (p : Path) : Spot := walk listed (start (p.root ≠ "")) p.segments
  { contents? := fun p =>
      match spot p with
      | .file text => if isLongPath p.text then .none else some text
      | _ => .none
    isTooLong := fun p =>
      !p.text.toList.contains '\x00' && (isLongPath p.text || spot p = .tooLong)
    obstacle? := obstacleIn listed }

end FileTree
end ServiceCatalog
