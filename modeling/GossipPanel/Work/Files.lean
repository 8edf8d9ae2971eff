import GossipPanel.Node.FileName

/-!
# The files of the panel

A tree of files, seen from the working directory. A path is followed component by component, so
that the first obstacle on the way decides how an operation fails.

* `Files.read` gives the text of a file.
* `Files.makeDirectory` makes one directory; `Files.makeAll` makes those above it as well.
* `Files.save` writes a text into a directory, which is made if it is missing.
-/

namespace GossipPanel.Work

open Node Text

/-- Why a file cannot be read or written. -/
inductive FileError where
  | notFound
  | alreadyExists
  | notDirectory
  | isDirectory
  | nameTooLong
  /-- A path holds the character NUL. -/
  | nulInPath
  deriving DecidableEq, Repr

/-- The text of the operating system for a failure. -/
def FileError.message : FileError → String
  | notFound => "No such file or directory (os error 2)"
  | alreadyExists => "File exists (os error 17)"
  | notDirectory => "Not a directory (os error 20)"
  | isDirectory => "Is a directory (os error 21)"
  | nameTooLong => "File name too long (os error 36)"
  | nulInPath => "file name contained an unexpected NUL byte"

/-- The greatest number of bytes of a name. -/
def maxNameBytes : Nat := 255

/-- The greatest number of bytes of a path. -/
def maxPathBytes : Nat := 4095

/-- A place in the tree: the names that lead to it from the working directory. A place outside of
it begins with `..` or with `/`. -/
abbrev Place := List String

/-- What a place holds. -/
inductive Entry where
  | file (text : String)
  | directory
  deriving DecidableEq, Repr

/-- The files and directories, each with its place. -/
structure Files where
  entries : List (Place × Entry) := []
  deriving DecidableEq, Repr

/-- The place where a path begins. -/
def startOf (path : String) : Place :=
  if isAbsolute path then ["/"] else []

/-- The place of the directory that holds a place. Above the working directory the way leads
further up. -/
def parent (place : Place) : Place :=
  if place = ["/"] then place
  else if place.all (· = "..") then place ++ [".."]
  else place.dropLast

def names (path : String) : List String :=
  ((splitOn '/' path.toList).map String.ofList).filter (· != "")

/-- A name that stands for a directory which exists. -/
def isDots (name : String) : Bool :=
  name = "." || name = ".."

/-- The operating system takes the path. -/
def checkPath (path : String) : Except FileError Unit :=
  if path.toList.contains '\x00' then .error .nulInPath
  else if maxPathBytes < path.utf8ByteSize then .error .nameTooLong
  else .ok ()

/-- The names of a path that lead somewhere. A single dot counts at the start of a path only, and
there only if the path begins at the working directory. -/
def leadingNames (path : String) : List String :=
  match names path with
  | [] => []
  | first :: more =>
    (if first = "." ∧ isAbsolute path then [] else [first]) ++ more.filter (· != ".")

/-- The beginnings of a list that are neither empty nor the whole list, the longest one first. -/
def beginnings : List String → List (List String)
  | [] => []
  | [_] => []
  | name :: more => (beginnings more).map (name :: ·) ++ [[name]]

/-- A path and the paths of the directories above it, the nearest one first. There are none where
it begins. -/
def pathsAbove (path : String) : List String :=
  let lead := if isAbsolute path then "/" else ""
  match leadingNames path with
  | [] => []
  | counted => path :: (beginnings counted).map fun names => lead ++ String.intercalate "/" names

namespace Files

/-- What a place holds. The directories above an entry exist with it. -/
def find? (fs : Files) (place : Place) : Option Entry :=
  match fs.entries.lookup place with
  | some entry => some entry
  | none =>
    if place = [] ∨ place = ["/"] ∨ place.all (· = "..") ∨
        fs.entries.any (fun e => place.isPrefixOf e.1) then
      some .directory
    else none

def put (fs : Files) (place : Place) (entry : Entry) : Files :=
  { entries := (place, entry) :: fs.entries.filter (·.1 != place) }

/-- One component of a path, taken at a place that has to be a directory. -/
def step (fs : Files) (place : Place) (name : String) : Except FileError Place :=
  match fs.find? place with
  | none => .error .notFound
  | some (.file _) => .error .notDirectory
  | some .directory =>
    if name = "" ∨ name = "." then .ok place
    else if name = ".." then .ok (parent place)
    else if maxNameBytes < name.utf8ByteSize then .error .nameTooLong
    else .ok (place ++ [name])

/-- The place that a path leads to; nothing needs to be there. -/
def resolve (fs : Files) (path : String) : Except FileError Place := do
  checkPath path
  ((splitOn '/' path.toList).map String.ofList).foldlM fs.step (startOf path)

def read (fs : Files) (path : String) : Except FileError String := do
  let place ← fs.resolve path
  match fs.find? place with
  | none => .error .notFound
  | some .directory => .error .isDirectory
  | some (.file text) => .ok text

def write (fs : Files) (path text : String) : Except FileError Files := do
  let place ← fs.resolve path
  match fs.find? place with
  | some .directory => .error .isDirectory
  | _ => .ok (fs.put place (.file text))

def isDirectory (fs : Files) (path : String) : Bool :=
  match fs.resolve path with
  | .ok place => fs.find? place = some .directory
  | .error _ => false

def makeDirectory (fs : Files) (path : String) : Except FileError Files := do
  checkPath path
  match (names path).reverse with
  | [] => .error (if isAbsolute path then .alreadyExists else .notFound)
  | last :: before =>
    let above ← before.reverse.foldlM fs.step (startOf path)
    let place ← fs.step above last
    if isDots last ∨ (fs.find? place).isSome then .error .alreadyExists
    else .ok (fs.put place .directory)

/-- Makes the directory of the first path, after those of the paths above it if they are missing.
A directory that is there already will do. What has been made stays when one cannot be made. -/
def makeAll (fs : Files) : List String → Except FileError Unit × Files
  | [] => (.ok (), fs)
  | path :: above =>
    let settle (fs : Files) (e : FileError) : Except FileError Unit × Files :=
      (if e = .alreadyExists ∧ fs.isDirectory path then .ok () else .error e, fs)
    match fs.makeDirectory path with
    | .ok fs => (.ok (), fs)
    | .error .notFound =>
      match makeAll fs above with
      | (.error e, fs) => (.error e, fs)
      | (.ok (), fs) =>
        match fs.makeDirectory path with
        | .ok fs => (.ok (), fs)
        | .error e => settle fs e
    | .error e => settle fs e

def save (fs : Files) (directory name text : String) : Except FileError Unit × Files :=
  match fs.makeAll (pathsAbove directory) with
  | (.error e, fs) => (.error e, fs)
  | (.ok (), fs) =>
    match fs.write (joinPath directory name) text with
    | .error e => (.error e, fs)
    | .ok fs => (.ok (), fs)

/-- The files at these paths of the working directory. -/
def ofList (files : List (String × String)) : Files :=
  { entries := files.map fun (path, text) => (pathComponents path, .file text) }

/-- A place outside of the working directory. -/
def isOutside (place : Place) : Bool :=
  place.head?.any fun name => name = ".." || name = "/"

/-- The place `a` comes before `b`, or is the same: by the first name that differs, a directory
before what it holds. -/
def precedes : Place → Place → Bool
  | [], _ => true
  | _ :: _, [] => false
  | a :: as, b :: bs => if a = b then precedes as bs else decide (a < b)

/-- The files below the working directory, in the order of their places. -/
def toList (fs : Files) : List (String × String) :=
  let files := fs.entries.filterMap fun (place, entry) =>
    match entry with
    | .file text => if isOutside place then none else some (place, text)
    | .directory => none
  (files.mergeSort fun a b => precedes a.1 b.1).map fun (place, text) =>
    (String.intercalate "/" place, text)

end Files

end GossipPanel.Work
