/-
# File systems

Directories and files by their place below the root. A path is followed name by name
from the root or from the working directory, and each name but the last must be that of
a directory.

* `FileSystem` — the files with their contents, and the directories.
* `Device` — what is refused, wherever the path leads.
* `FileSystem.place` — what is where a path leads.
* `FileSystem.read` — the content of a file.
* `FileSystem.write` — opens a file, which empties it, and stores a content.
* `FileFault` — why a path leads to no content.
-/

import KeyTree.Files.Path
import KeyTree.Text.Quoted

namespace KeyTree

/-- A place in a file system: the names that lead to it from the root. -/
abbrev Location := List String

/-- What the device of a file system refuses, with the wording of the refusal. -/
structure Device where
  /-- To read what is at a place. -/
  unreadable : Location → Option String := fun _ => none
  /-- To open a place for writing. -/
  unwritable : Location → Option String := fun _ => none
  /-- To store more than this number of the first bytes of a content, at a place that is open. -/
  overfull : Location → List UInt8 → Option (Nat × String) := fun _ _ => none

/-- A file system with a working directory. -/
structure FileSystem where
  workingDirectory : Location := []
  directories : List Location := []
  files : List (Location × List UInt8) := []
  device : Device := {}

/-- The reasons why a path leads to no content. -/
inductive FileFault where
  /-- Nothing has the name. -/
  | notFound
  /-- A name that is not the last one is that of a file. -/
  | notDirectory
  /-- The path leads to a directory. -/
  | isDirectory
  /-- The path or one of its names is too long. -/
  | nameTooLong
  /-- The path holds the character that ends a path. -/
  | nullCharacter
  /-- The device refuses. -/
  | refused (wording : String)
  deriving DecidableEq, Repr

/-- The wording of a fault with a path. -/
def FileFault.message (path : Path) : FileFault → String
  | .notFound => "[Errno 2] No such file or directory: " ++ Text.quote path.text
  | .notDirectory => "[Errno 20] Not a directory: " ++ Text.quote path.text
  | .isDirectory => "[Errno 21] Is a directory: " ++ Text.quote path.text
  | .nameTooLong => "[Errno 36] File name too long: " ++ Text.quote path.text
  | .nullCharacter => "embedded null byte"
  | .refused wording => wording

/-- What is at a place. -/
inductive Place where
  | directory
  | file (location : Location) (content : List UInt8)
  /-- Nothing yet, in a directory. -/
  | vacant (location : Location)
  deriving Repr

/-- Where a content can be put, if something other than a directory is there. -/
def Place.location? : Place → Option Location
  | .directory => none
  | .file location _ => some location
  | .vacant location => some location

namespace FileSystem

/-- The content of the file at a place. -/
def content? (fs : FileSystem) (location : Location) : Option (List UInt8) :=
  fs.files.lookup location

/-- Whether a directory is at a place. The root is one. -/
def isDirectory (fs : FileSystem) (location : Location) : Bool :=
  location = [] || fs.directories.contains location

/-! ### Following paths -/

/-- The greatest number of bytes of a name. -/
def nameLimit : Nat := 255

/-- The greatest number of bytes of a path. -/
def pathLimit : Nat := 4095

/-- Where names lead from a directory on. Double dots lead one directory up, and from
the root to itself. -/
def follow (fs : FileSystem) (start : Location) : List String → Except FileFault Place
  | [] => .ok .directory
  | name :: rest =>
    if name = ".." then fs.follow start.dropLast rest
    else if nameLimit < name.utf8ByteSize then .error .nameTooLong
    else if fs.isDirectory (start ++ [name]) then fs.follow (start ++ [name]) rest
    else
      match fs.content? (start ++ [name]) with
      | some content =>
        if rest = [] then .ok (.file (start ++ [name]) content) else .error .notDirectory
      | none =>
        if rest = [] then .ok (.vacant (start ++ [name])) else .error .notFound

/-- Where a path leads. -/
def place (fs : FileSystem) (path : Path) : Except FileFault Place :=
  if path.names.any fun name => name.toList.contains '\x00' then .error .nullCharacter
  else if pathLimit < path.text.utf8ByteSize then .error .nameTooLong
  else fs.follow (if path.isAbsolute then [] else fs.workingDirectory) path.names

/-! ### Contents -/

/-- Goes on unless there is a refusal. -/
def unlessRefused (refusal : Option String) : Except FileFault Unit :=
  match refusal with
  | none => .ok ()
  | some wording => .error (.refused wording)

/-- The content of the file that a path leads to. -/
def read (fs : FileSystem) (path : Path) : Except FileFault (List UInt8) := do
  match ← fs.place path with
  | .file location content =>
    unlessRefused (fs.device.unreadable location)
    return content
  | .vacant location =>
    unlessRefused (fs.device.unreadable location)
    throw .notFound
  | .directory => throw .isDirectory

/-- The file system with a content at a place. -/
def put (fs : FileSystem) (location : Location) (content : List UInt8) : FileSystem :=
  { fs with files := (location, content) :: fs.files.filter (·.1 ≠ location) }

/-- The place that a path leads to, when it can be opened for writing. -/
def target (fs : FileSystem) (path : Path) : Except FileFault Location := do
  match (← fs.place path).location? with
  | some location =>
    unlessRefused (fs.device.unwritable location)
    return location
  | none => throw .isDirectory

/-- Stores a content at a place that is open and empty, or the first bytes of it. -/
def store (fs : FileSystem) (location : Location) (content : List UInt8) :
    Except FileFault Unit × FileSystem :=
  match fs.device.overfull location content with
  | none => (.ok (), fs.put location content)
  | some (kept, wording) => (.error (.refused wording), fs.put location (content.take kept))

/-- Writes a content to where a path leads. Opening the place empties it, before anything is
stored. -/
def write (fs : FileSystem) (path : Path) (content : List UInt8) :
    Except FileFault Unit × FileSystem :=
  match fs.target path with
  | .error fault => (.error fault, fs)
  | .ok location => (fs.put location []).store location content

/-! ### Reading back -/

/-- A place holds what was put there. -/
theorem content?_put_self (fs : FileSystem) (location : Location) (content : List UInt8) :
    (fs.put location content).content? location = some content := by
  simp [put, content?]

/-- Looking up another key in a list without the entries of a key. -/
theorem lookup_filter_ne {location other : Location} (h : other ≠ location) :
    (files : List (Location × List UInt8)) →
      (files.filter (·.1 ≠ location)).lookup other = files.lookup other
  | [] => rfl
  | (place, content) :: rest => by
    have ih := lookup_filter_ne h rest
    simp only [ne_eq, decide_not] at ih
    by_cases hp : place = location
    · have hne : (other == location) = false := by simp [h]
      simp [hp, List.lookup_cons, hne, ih]
    · by_cases ho : other = place
      · simp [ho, hp]
      · have hne : (other == place) = false := by simp [ho]
        simp [hp, List.lookup_cons, hne, ih]

/-- Every other place holds what it held. -/
theorem content?_put_of_ne (fs : FileSystem) {location other : Location}
    (content : List UInt8) (h : other ≠ location) :
    (fs.put location content).content? other = fs.content? other := by
  have hne : (other == location) = false := by simp [h]
  simp only [put, content?, List.lookup_cons, hne]
  exact lookup_filter_ne h fs.files

end FileSystem

end KeyTree
