/-
# Running the command

The command reads one declaration file and writes at most one module, after everything
else that may fail has been done. What it does is a plan made from the content of the
declaration file, so that the same plan serves a file system as a value and a real one.
The names of classes are looked up on the way: what that prints comes first, and the module
is written to the files that it leaves.

* `Report` — what the command prints, and how it ends.
* `Plan` — the report, with the file to write before it, if any; `planOf` — makes it.
* `run` — carries the plan out in a file system.
-/

import KeyTree.Command.Arguments
import KeyTree.Generation

namespace KeyTree.Command

/-- How the command ends: with an exit code, or by an exception that it lets through. -/
inductive Ending where
  | code (number : Nat)
  | raised (exception : Raised)
  deriving DecidableEq, Repr

/-- What the command prints, and how it ends. -/
structure Report where
  ending : Ending := .code 0
  stdout : String := ""
  stderr : String := ""
  deriving DecidableEq, Repr

/-- What the command does. -/
inductive Plan where
  | finish (report : Report)
  /-- To write a text to where a path leads, and then to report how that went. -/
  | write (path : Path) (text : String) (after : Except FileFault Unit → Report)

/-! ### Messages -/

/-- The report of wrong usage. -/
def usageReport (fault : UsageFault) : Report where
  ending := .code 2
  stderr := usage ++ "python -m lookupgen.yaml: error: " ++ fault.message ++ "\n"

/-- The report of a failure, behind what has been printed before it. Exits are let through. -/
def failureReport (before : Report) (fault : GenerationFault) : Report :=
  match fault.exit? with
  | some exception => { before with ending := .raised exception }
  | none =>
    { before with
      ending := .code 1
      stderr := before.stderr ++ "Error: " ++ fault.message ++ "\n" }

/-- A message on progress, which only a verbose run prints. -/
def progress (settings : Settings) (message : String) : String :=
  if settings.verbose then "INFO lookupgen.yaml.runner: " ++ message ++ "\n" else ""

/-- The message after the lookups have been built. -/
def loadedMessage (settings : Settings) (path : Path) (count : Nat) : String :=
  progress settings ("Loaded " ++ toString count ++ " lookup(s) from " ++ path.text)

/-- The message after the module has been written. -/
def wroteMessage (settings : Settings) (path : Path) : String :=
  progress settings ("Wrote " ++ path.text)

/-! ### Plans -/

/-- The path of the declaration file. -/
def Settings.path (settings : Settings) : Path := .ofString settings.file

/-- The path that the module is written to: the one asked for, or else the one that the
declaration file wants. -/
def Settings.target? (settings : Settings) (file : DeclarationFile) : Option Path :=
  match settings.output with
  | some output => some (.ofString output)
  | none => file.output? settings.path

/-- The report of a dry run, which sums up the lookups. -/
def dryRunReport (env : Environment) (load : Loader) (settings : Settings)
    (content : Except FileFault (List UInt8)) : Report :=
  let opening : Report := { stdout := "Parsed " ++ settings.path.text ++ ":\n" }
  match DeclarationFile.ofContent load settings.path content with
  | .error fault => failureReport opening fault
  | .ok file =>
    let searched : Report := { stdout := opening.stdout ++ file.printed env }
    match file.build env with
    | .error fault => failureReport searched fault
    | .ok lookups =>
      { stdout := searched.stdout
          ++ String.join (lookups.map fun l => "  - " ++ l.summary ++ "\n") }

/-- The plan for a declaration file. -/
def planOfFile (env : Environment) (settings : Settings) (file : DeclarationFile) : Plan :=
  let searched : Report := { stdout := file.printed env }
  match file.build env with
  | .error fault => .finish (failureReport searched fault)
  | .ok lookups =>
    let loaded : Report :=
      { searched with stderr := loadedMessage settings settings.path lookups.length }
    match file.module lookups with
    | .error fault => .finish (failureReport loaded fault)
    | .ok source =>
      match settings.target? file with
      | none => .finish { loaded with stdout := loaded.stdout ++ source }
      | some target =>
        .write target source fun
          | .ok () => { loaded with stderr := loaded.stderr ++ wroteMessage settings target }
          | .error fault => failureReport loaded (.file target fault)

/-- The plan of a run, from what the path of the declaration file leads to. -/
def planOf (env : Environment) (load : Loader) (settings : Settings)
    (content : Except FileFault (List UInt8)) : Plan :=
  if settings.dryRun then .finish (dryRunReport env load settings content)
  else
    match DeclarationFile.ofContent load settings.path content with
    | .error fault => .finish (failureReport {} fault)
    | .ok file => planOfFile env settings file

/-- The file system in which the names have been looked up of what the path of the declaration
file leads to. -/
def searched (env : Environment) (load : Loader) (settings : Settings) (fs : FileSystem) :
    FileSystem :=
  match fs.declarations load settings.path with
  | .ok file => file.touched env fs
  | .error _ => fs

/-- Carries a plan out. -/
def Plan.carryOut (fs : FileSystem) : Plan → Report × FileSystem
  | .finish report => (report, fs)
  | .write path text after =>
    let (outcome, written) := fs.write path (Text.Utf8.encode text)
    (after outcome, written)

/-- Runs the command with arguments in a file system. -/
def run (env : Environment) (load : Loader) (fs : FileSystem) (arguments : List String) :
    Report × FileSystem :=
  match Request.ofWords arguments with
  | .error fault => (usageReport fault, fs)
  | .ok .help => ({ stdout := help }, fs)
  | .ok (.run settings) =>
    (planOf env load settings (fs.read settings.path)).carryOut (searched env load settings fs)

end KeyTree.Command
