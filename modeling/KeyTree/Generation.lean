/-
# From declaration files to modules

A declaration file is read, its lookups are built, and they are written as one module or
summed up in one line each.

* `DeclarationFile.ofContent` — the declaration file of what a path leads to.
* `DeclarationFile.module` — the text of the module of its lookups.
* `Lookup.summary` — a line on a lookup.
* `FileSystem.generate` — the module of a file, written to another file.
* `GenerationFault.exit?` — the faults that nothing reports.
-/

import KeyTree.Declaration.Conversion
import KeyTree.Declaration.Reading
import KeyTree.Files.System
import KeyTree.Source.Module
import KeyTree.Text.LineEnd
import KeyTree.Text.Utf8

namespace KeyTree

/-- The reasons why a declaration file gives no module. -/
inductive GenerationFault where
  /-- There is no declaration file. -/
  | missing (path : Path)
  /-- A path leads to no content. -/
  | file (path : Path) (fault : FileFault)
  /-- The content of the file is no text. -/
  | encoding (fault : Text.Utf8.Fault)
  /-- The text is no declaration file. -/
  | text (fault : TextFault)
  /-- A declaration gives no lookup. -/
  | conversion (fault : ConversionFault)
  /-- The lookups give no module. -/
  | render (fault : Source.RenderFault)

/-- The wording of a fault. -/
def GenerationFault.message : GenerationFault → String
  | .missing path => "YAML file not found: " ++ path.text
  | .file path fault => fault.message path
  | .encoding fault => fault.message
  | .text fault => fault.message
  | .conversion fault => fault.message
  | .render fault => fault.message

/-- The exit that a fault stands for. -/
def GenerationFault.exit? : GenerationFault → Option Raised
  | .text fault => fault.exit?
  | .conversion fault => fault.exit?
  | _ => none

/-- What it means that a declaration file cannot be read. -/
def readingFault (path : Path) (fault : FileFault) : GenerationFault :=
  match fault with
  | .notFound | .notDirectory | .nullCharacter => .missing path
  | .isDirectory | .nameTooLong | .refused _ => .file path fault

namespace DeclarationFile

/-- The declaration file of what a path leads to. -/
def ofContent (load : Loader) (path : Path) (content : Except FileFault (List UInt8)) :
    Except GenerationFault DeclarationFile := do
  let bytes ← content.mapError (readingFault path)
  let text ← (Text.Utf8.decode bytes).mapError .encoding
  (ofText load (String.ofList (Text.unifyLineEnds text.toList))).mapError .text

/-- The texts that document the lookups, by the names of these. -/
def docs (file : DeclarationFile) : List (String × String) :=
  file.lookups.filterMap fun fields => do
    let name ← (← Value.field? fields "name").content?
    let doc ← (← Value.field? fields "doc").content?
    if doc = "" then none else some (name, doc)

/-- The path that the file wants its module written to, which starts from the directory
of the file. -/
def output? (file : DeclarationFile) (path : Path) : Option Path := do
  let output ← (← Value.field? file.config "output").content?
  return path.parent.join (.ofString output)

/-- The text of the module of lookups that the file declares. -/
def module (file : DeclarationFile) (lookups : List Lookup) : Except GenerationFault String :=
  (Source.renderModule Source.standardUnit file.docs
    (lookups.map fun l => (l.name, l))).mapError .render

/-- The lookups of the file. -/
def build (env : Environment) (file : DeclarationFile) : Except GenerationFault (List Lookup) :=
  (file.toLookups env).mapError .conversion

end DeclarationFile

/-- One line on a lookup: how many keys it has, their lengths, and the size of its
tree. -/
def Lookup.summary (l : Lookup) : String :=
  let lengths := (l.keys.map Text.length).mergeSort.eraseDups
  l.name.print ++ ": " ++ toString l.keyCount ++ " key(s), lengths ["
    ++ commaSeparated (lengths.map toString) ++ "], depth " ++ toString l.depth ++ ", "
    ++ toString l.nodeCount ++ " node(s)"

namespace FileSystem

/-- The declaration file that a path leads to. -/
def declarations (load : Loader) (fs : FileSystem) (path : Path) :
    Except GenerationFault DeclarationFile :=
  DeclarationFile.ofContent load path (fs.read path)

/-- A line on each lookup of the declaration file that a path leads to. -/
def summary (env : Environment) (load : Loader) (fs : FileSystem) (path : Path) :
    Except GenerationFault (List String) := do
  let lookups ← (← fs.declarations load path).build env
  return lookups.map Lookup.summary

/-- A module written to a path, if one is given. -/
def deliver (fs : FileSystem) (source : String) :
    Option Path → Except GenerationFault String × FileSystem
  | none => (.ok source, fs)
  | some target =>
    match fs.write target (Text.Utf8.encode source) with
    | (.ok (), written) => (.ok source, written)
    | (.error fault, written) => (.error (.file target fault), written)

/-- The module of the declaration file that a path leads to, and the file system after it
has been written to another path, if one is given. It is written when it is there as a whole,
to the files as building the lookups has left them. -/
def generate (env : Environment) (load : Loader) (fs : FileSystem) (path : Path)
    (output : Option Path) : Except GenerationFault String × FileSystem :=
  match fs.declarations load path with
  | .error fault => (.error fault, fs)
  | .ok file =>
    match file.build env >>= file.module with
    | .error fault => (.error fault, file.touched env fs)
    | .ok source => (file.touched env fs).deliver source output

end FileSystem

end KeyTree
