/-!
# Files a command works on

A command reads and writes files below its working directory.  A `FileTree`
holds them: the files with their text and the directories, each named by its
path components.  A path that starts at the root keeps a leading `/`
component, so it never names a file of the working directory.

The operations follow the usual rules of a file system:

* reading needs every directory on the way and a file at the end;
* writing needs every directory on the way and creates or replaces a file,
  but never replaces a directory;
* creating a directory with all its parents stops at the first part of the
  path that is a file.

Every failure is an `IoError` whose text carries the system's error number.
-/

namespace Attest

/-- A failed file operation. -/
inductive IoError where
  /-- A part of the path does not exist. -/
  | notFound
  /-- A file stands where a directory was to be made. -/
  | alreadyExists
  /-- A part of the path before its end is a file. -/
  | notDirectory
  /-- The path names a directory where a file was wanted. -/
  | isDirectory
  deriving DecidableEq, Repr

namespace IoError

/-- The system's error number. -/
def code : IoError → Nat
  | .notFound => 2
  | .alreadyExists => 17
  | .notDirectory => 20
  | .isDirectory => 21

/-- The system's description. -/
def description : IoError → String
  | .notFound => "No such file or directory"
  | .alreadyExists => "File exists"
  | .notDirectory => "Not a directory"
  | .isDirectory => "Is a directory"

/-- The text of an error: its description and number. -/
def message (e : IoError) : String :=
  e.description ++ " (os error " ++ toString e.code ++ ")"

end IoError

/-- The components of a path: empty and `.` parts are dropped, `..` drops the
component before it, and a path from the root starts with `/`. -/
def pathParts (path : String) : List String :=
  let step := fun (acc : List String) (part : String) =>
    if part = "" || part = "." then acc
    else if part = ".." then
      match acc with
      | top :: rest => if top = ".." || top = "/" then part :: acc else rest
      | [] => [part]
    else part :: acc
  let parts := (path.splitOn "/").foldl step (if path.startsWith "/" then ["/"] else [])
  parts.reverse

/-- A path followed by a name: the name alone when it starts at the root or
the path is empty, otherwise joined with one `/`. -/
def joinPath (base name : String) : String :=
  if name.startsWith "/" || base.isEmpty then name
  else if base.endsWith "/" then base ++ name
  else base ++ "/" ++ name

/-- The proper prefixes of a component list, shortest first, without the empty
one. -/
def properPrefixes : List String → List (List String)
  | [] => []
  | [_] => []
  | c :: rest => [c] :: (properPrefixes rest).map (c :: ·)

/-- Files and directories below a working directory. -/
structure FileTree where
  /-- Files by path components, with their text. -/
  files : List (List String × String)
  /-- Directories by path components; the working directory itself, and the
  root, always count as directories. -/
  dirs : List (List String)
  deriving Repr

namespace FileTree

/-- The empty working directory. -/
def empty : FileTree := ⟨[], []⟩

/-- The text of the file at some components. -/
def fileAt? (t : FileTree) (key : List String) : Option String := t.files.lookup key

/-- Whether components name a directory. -/
def isDir (t : FileTree) (key : List String) : Bool :=
  key.isEmpty || key == ["/"] || t.dirs.contains key

/-- The tree with a directory added. -/
def addDir (t : FileTree) (key : List String) : FileTree :=
  if t.isDir key then t else { t with dirs := t.dirs ++ [key] }

/-- The tree with the file at some components set to a text. -/
def putFile (t : FileTree) (key : List String) (text : String) : FileTree :=
  if (t.fileAt? key).isSome then
    { t with files := t.files.map fun (k, v) => if k == key then (k, text) else (k, v) }
  else { t with files := t.files ++ [(key, text)] }

/-- Check the directories on the way to some components: the first that is
missing or is a file decides the error. -/
def checkWay (t : FileTree) (key : List String) : Except IoError Unit :=
  match (properPrefixes key).find? (fun p => !t.isDir p) with
  | none => .ok ()
  | some p => if (t.fileAt? p).isSome then .error .notDirectory else .error .notFound

/-- The text of the file at a path. -/
def read (t : FileTree) (path : String) : Except IoError String := do
  if path.isEmpty then throw .notFound
  let key := pathParts path
  t.checkWay key
  if t.isDir key then throw .isDirectory
  match t.fileAt? key with
  | some text => pure text
  | none => throw .notFound

/-- Create or replace the file at a path. -/
def write (t : FileTree) (path : String) (text : String) : Except IoError FileTree := do
  if path.isEmpty then throw .notFound
  let key := pathParts path
  t.checkWay key
  if t.isDir key then throw .isDirectory
  pure (t.putFile key text)

/-- Create a directory and every missing directory above it.  The empty path
needs nothing; a file on the way stops it, with `alreadyExists` when the file
is the path itself. -/
def createDirAll (t : FileTree) (path : String) : Except IoError FileTree :=
  if path.isEmpty then .ok t
  else
    let key := pathParts path
    let chain := properPrefixes key ++ [key]
    match chain.find? (fun p => !t.isDir p) with
    | none => .ok t
    | some p =>
      if (t.fileAt? p).isSome then
        .error (if p == key then .alreadyExists else .notDirectory)
      else .ok (chain.foldl addDir t)

/-- A working directory holding files at relative paths, with the
directories above them. -/
def ofFiles (files : List (String × String)) : FileTree :=
  files.foldl (fun t (path, text) =>
    let key := pathParts path
    ((properPrefixes key).foldl addDir t).putFile key text) empty

/-- The text of components as a relative path. -/
def keyText (key : List String) : String := "/".intercalate key

/-- The files below the working directory that are new or changed since
`before`, by relative path. -/
def changesSince (t before : FileTree) : List (String × String) :=
  t.files.filterMap fun (key, text) =>
    if key.head? == some "/" then none
    else if before.fileAt? key == some text then none
    else some (keyText key, text)

end FileTree

end Attest
