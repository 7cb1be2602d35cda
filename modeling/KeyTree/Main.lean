/-
# The command

The command on the files of the operating system: reads the declaration file, makes the
plan and carries it out.
-/

import KeyTree.Class.Known
import KeyTree.Command.Run
import KeyTree.Yaml.Load

namespace KeyTree.Command

/-- The number of an error, which may come with its sign turned. -/
def errorNumber (code : UInt32) : UInt32 := if code < 0x80000000 then code else 0 - code

/-- The fault that an error of the operating system stands for. -/
def fileFaultOf : IO.Error → FileFault
  | .inappropriateType _ code _ =>
    if errorNumber code = 20 then .notDirectory else .isDirectory
  | .invalidArgument _ code _ =>
    if errorNumber code = 36 then .nameTooLong else .nullCharacter
  | .permissionDenied _ code details | .resourceExhausted _ code details =>
    .refused ("[Errno " ++ toString (errorNumber code) ++ "] " ++ details)
  | _ => .notFound

/-- Prints a report, and gives its exit code. An exception that is let through counts as a
failure. -/
def conclude (report : Report) : IO UInt32 := do
  IO.print report.stdout
  IO.eprint report.stderr
  match report.ending with
  | .code number => return number.toUInt32
  | .raised _ => return 1

end KeyTree.Command

open KeyTree KeyTree.Command

/-- Runs the command with arguments. -/
def main (arguments : List String) : IO UInt32 := do
  match Request.ofWords arguments with
  | .error fault => conclude (usageReport fault)
  | .ok .help => conclude { stdout := help }
  | .ok (.run settings) =>
    let content ← try
        let bytes ← IO.FS.readBinFile settings.path.text
        pure (.ok bytes.data.toList)
      catch e => pure (.error (fileFaultOf e))
    match planOf .known Yaml.loader settings content with
    | .finish report => conclude report
    | .write path text after =>
      let written ← try
          IO.FS.writeFile path.text text
          pure (.ok ())
        catch e => pure (.error (fileFaultOf e))
      conclude (after written)
