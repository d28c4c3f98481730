import NetworkTime.Host.Path
import NetworkTime.Wire.Layout

/-! The files of a host, as far as a program reads and writes them. -/

namespace NetworkTime

/-- Why a file cannot be used. -/
inductive FileFault
  | notFound
  | denied
  | alreadyThere
  | notDirectory
  | isDirectory
  | nameTooLong
  | badName
  | notText
  | other (message : String)
deriving DecidableEq, Repr

def FileFault.message : FileFault → String
  | notFound => "No such file or directory (os error 2)"
  | denied => "Permission denied (os error 13)"
  | alreadyThere => "File exists (os error 17)"
  | notDirectory => "Not a directory (os error 20)"
  | isDirectory => "Is a directory (os error 21)"
  | nameTooLong => "File name too long (os error 36)"
  | badName => "file name contained an unexpected NUL byte"
  | notText => "stream did not contain valid UTF-8"
  | other message => message

/-- The names that lead to a place from the root. -/
abbrev Place := List String

/-- What stands at a place, and what stands below it. -/
inductive FileTree
  | file (content : Bytes)
  | directory (entries : List (String × FileTree))

namespace FileTree

/-- What a directory holds. A file holds nothing. -/
def entries : FileTree → List (String × FileTree)
  | file _ => []
  | directory es => es

def child? (t : FileTree) (name : String) : Option FileTree := t.entries.lookup name

def find? : FileTree → Place → Option FileTree
  | t, [] => some t
  | t, name :: rest => (t.child? name).bind (·.find? rest)

/-- The tree with another one at a place. What is missing on the way becomes a directory. -/
def put : FileTree → Place → FileTree → FileTree
  | _, [], new => new
  | t, name :: rest, new =>
    let inner := (t.child? name).getD (directory [])
    directory ((name, inner.put rest new) :: t.entries.filter (·.1 ≠ name))

@[simp] theorem find?_put (t : FileTree) (place : Place) (new : FileTree) :
    (t.put place new).find? place = some new := by
  induction place generalizing t with
  | nil => rfl
  | cons name rest ih => simp [put, find?, child?, entries, ih]

end FileTree

/-- The way from the root to a place: its names, the last first, each with what stands there. -/
abbrev Trail := List (String × Option FileTree)

/-- What stands where, the place that paths start from, and the directories to write in. -/
structure Files where
  root : FileTree := .directory []
  working : Place := []
  writable : List Place := []

namespace Files

def entry? (fs : Files) (place : Place) : Option FileTree := fs.root.find? place

def put (fs : Files) (place : Place) (t : FileTree) : Files :=
  { fs with root := fs.root.put place t }

/-- Whether a place lies below a directory that may be written in. -/
def isWritable (fs : Files) (place : Place) : Bool := fs.writable.any (·.isPrefixOf place)

/-- What stands at the end of a trail. -/
def reached? (fs : Files) : Trail → Option FileTree
  | [] => some fs.root
  | (_, t) :: _ => t

/-- The trail that goes on to a name. -/
def follow (fs : Files) (here : Trail) (name : String) : Trail :=
  (name, (fs.reached? here).bind (·.child? name)) :: here

/-- The most bytes that a name may have. -/
def nameLimit : Nat := 255

/-- The most bytes that a path may have. -/
def pathLimit : Nat := 4095

/-- Where parts of a path lead to from the end of a trail, each through a directory. -/
def walk (fs : Files) : Trail → List (List Char) → Except FileFault Trail
  | here, [] => .ok here
  | here, part :: parts =>
    match fs.reached? here with
    | none => .error .notFound
    | some (.file _) => .error .notDirectory
    | some (.directory _) =>
      if Path.isIdle part then walk fs here parts
      else if part = ['.', '.'] then walk fs here.tail parts
      else if nameLimit < (part.map Char.utf8Size).sum then .error .nameTooLong
      else walk fs (fs.follow here (String.ofList part)) parts

/-- The place that a path with the given parts leads to. There need be nothing there yet. -/
def resolveParts (fs : Files) (path : String) (parts : List (List Char)) :
    Except FileFault Place :=
  if path.toList.contains '\x00' then .error .badName
  else if path = "" then .error .notFound
  else if pathLimit < path.utf8ByteSize then .error .nameTooLong
  else
    let start := if path.toList.head? = some '/' then [] else fs.working.foldl fs.follow []
    (fs.walk start parts).map fun trail => (trail.map (·.1)).reverse

/-- The place that a path leads to. -/
def resolve (fs : Files) (path : String) : Except FileFault Place :=
  fs.resolveParts path (Path.parts path)

/-- The content of a file. -/
def read (fs : Files) (path : String) : Except FileFault Bytes := do
  match fs.entry? (← fs.resolve path) with
  | none => throw .notFound
  | some (.directory _) => throw .isDirectory
  | some (.file content) => return content

/-- The content of a file, which must be text in UTF-8. -/
def readText (fs : Files) (path : String) : Except FileFault String := do
  match String.fromUTF8? ⟨(← fs.read path).toArray⟩ with
  | some text => return text
  | none => throw .notText

def isDirectory (fs : Files) (path : String) : Bool :=
  match fs.resolve path with
  | .ok place =>
    match fs.entry? place with
    | some (.directory _) => true
    | _ => false
  | .error _ => false

/-- Makes a directory where there is nothing. -/
def makeDirectory (fs : Files) (path : String) : Except FileFault Files := do
  let place ← fs.resolve path
  if (fs.entry? place).isSome then throw .alreadyThere
  else if fs.isWritable place then return fs.put place (.directory [])
  else throw .denied

/-- Makes a directory, and those that it lies in, where they are missing. -/
def makeDirectories : (fuel : Nat) → Files → String → Except FileFault Files
  | 0, fs, _ => .ok fs
  | fuel + 1, fs, path =>
    let settle (fs : Files) (fault : FileFault) : Except FileFault Files :=
      if fs.isDirectory path then .ok fs else .error fault
    match fs.makeDirectory path with
    | .ok fs => .ok fs
    | .error .notFound => do
      let fs ← match Path.directory? path with
        | some outer => makeDirectories fuel fs outer
        | none => .ok fs
      match fs.makeDirectory path with
      | .ok fs => return fs
      | .error fault => settle fs fault
    | .error fault => settle fs fault

/-- Makes the directories that the place of a path lies in. -/
def makeRoomFor (fs : Files) (path : String) : Except FileFault Files :=
  match Path.directory? path with
  | some directory => makeDirectories path.length fs directory
  | none => .ok fs

/-- Makes a file where there is none, so that it can be written to. A path with a slash at its end
is one of a directory, whatever there is and whatever its last name. -/
def openFile (fs : Files) (path : String) : Except FileFault Files := do
  let parts := Path.parts path
  let named := (parts.reverse.dropWhile List.isEmpty).reverse
  if named.length < parts.length then
    let _ ← fs.resolveParts path (named.dropLast ++ [['.']])
    throw .isDirectory
  let place ← fs.resolveParts path named
  match fs.entry? place with
  | some (.directory _) => throw .isDirectory
  | some (.file content) =>
    if fs.isWritable place then return fs.put place (.file content) else throw .denied
  | none => if fs.isWritable place then return fs.put place (.file []) else throw .denied

/-- Writes a text at the end of a file. Nothing happens where there is no file. -/
def append (fs : Files) (path text : String) : Files :=
  match fs.resolve path with
  | .error _ => fs
  | .ok place =>
    match fs.entry? place with
    | some (.file content) => fs.put place (.file (content ++ text.toUTF8.data.toList))
    | _ => fs

end Files
end NetworkTime
