/-
# Runs that do all or nothing

A run reads the declaration file, builds every lookup and writes the whole text before it opens a
file or prints the text. So a run that fails at any of these stages has changed no file, and a run
that ends well has put the text in exactly one place: in the file that a path asks for, or on the
output when no path does. Two things are out of its hands. Building the lookups looks names up in
modules, and what these print and do to files when they run stands beside what the run does. And a
file that is opened is emptied first: when the device then refuses to store the text, a first part
of it is left.

* `Settings.Targets` — the path that a run is asked to write the module to.
* `Delivers` — what a run that ends well leaves behind.
* `Spoils` — what a run leaves behind that fails after its file has been opened.
* `run_all_or_nothing` — how runs end.
-/

import KeyTree.Class.Known
import KeyTree.Command.Run
import KeyTree.Proofs.Declaration.Imports
import KeyTree.Proofs.Generation
import KeyTree.Yaml.Load

namespace KeyTree.Command

variable {env : Environment} {load : Loader} {fs after : FileSystem} {settings : Settings}
  {file : DeclarationFile} {source : String} {report : Report} {target : Path}

/-! ### The path of the module -/

/-- `settings.Targets file target`: a run is asked to write the module to a path, by its arguments
or else by the declaration file, whose path starts from the directory of the file. -/
inductive Settings.Targets (settings : Settings) (file : DeclarationFile) : Path → Prop where
  | asked {text : String} (given : settings.output = some text) :
      Settings.Targets settings file (.ofString text)
  | configured {output : Value} {text : String} (unasked : settings.output = none)
      (field : Value.field? file.config "output" = some output)
      (content : output.content? = some text) :
      Settings.Targets settings file (settings.path.parent.join (.ofString text))

theorem target?_eq_some_iff :
    settings.target? file = some target ↔ settings.Targets file target := by
  unfold Settings.target?
  constructor
  · intro chosen
    split at chosen
    · next text given =>
      cases chosen
      exact .asked given
    · next unasked =>
      obtain ⟨output, field, chosen⟩ := Option.bind_eq_some_iff.mp chosen
      obtain ⟨text, content, chosen⟩ := Option.bind_eq_some_iff.mp chosen
      cases chosen
      exact .configured unasked field content
  · intro targets
    cases targets with
    | asked given => rw [given]
    | configured unasked field content =>
      rw [unasked]
      refine Option.bind_eq_some_iff.mpr ⟨_, field, ?_⟩
      exact Option.bind_eq_some_iff.mpr ⟨_, content, rfl⟩

/-- Without a path to write to, neither the arguments nor the declaration file name one. -/
theorem of_target?_eq_none (declared : fs.declarations load settings.path = .ok file)
    (untargeted : settings.target? file = none) :
    settings.output = none ∧ Value.field? file.config "output" = none := by
  have none_of : ∀ target, ¬ settings.Targets file target := fun target targets =>
    nomatch untargeted.symm.trans (target?_eq_some_iff.mpr targets)
  have unasked : settings.output = none := by
    cases given : settings.output with
    | none => rfl
    | some text => exact absurd (.asked given) (none_of _)
  refine ⟨unasked, ?_⟩
  cases field : Value.field? file.config "output" with
  | none => rfl
  | some output =>
    obtain ⟨text, content⟩ :=
      Option.isSome_iff_exists.mp (DeclarationFile.isSome_content_output declared field)
    exact absurd (.configured unasked field content) (none_of _)

/-! ### Runs -/

/-- What a run leaves behind that ends well and is not dry: the module of its declaration file, in
one place. -/
inductive Delivers (env : Environment) (load : Loader) (fs : FileSystem) (settings : Settings)
    (file : DeclarationFile) (source : String) (report : Report) (after : FileSystem) : Prop where
  /-- On the output, behind what looking names up prints, when no path is asked for. -/
  | printed (unasked : settings.output = none)
      (unconfigured : Value.field? file.config "output" = none)
      (generated : fs.generate env load settings.path none = (.ok source, after))
      (unchanged : after = file.touched env fs)
      (stdout : report.stdout = file.printed env ++ source)
  /-- In the file that a path is asked for, which holds its bytes, and no other file changes. -/
  | written {target : Path} {location : Location} (targets : settings.Targets file target)
      (opens : (file.touched env fs).Opens target location)
      (generated : fs.generate env load settings.path (some target) = (.ok source, after))
      (changed : (file.touched env fs).ChangedAt location (Text.Utf8.encode source) after)
      (placed : after.place target = .ok (.file location (Text.Utf8.encode source)))
      (stdout : report.stdout = file.printed env)

/-- `Spoils env fs settings file after`: a run on an accepted file fails when the text of the module
is there as a whole and the file to write it to is open. The device takes no more than the first
bytes, which the file holds then, and no other file changes. -/
inductive Spoils (env : Environment) (fs : FileSystem) (settings : Settings)
    (file : DeclarationFile) (after : FileSystem) : Prop where
  | torn {lookups : List Lookup} {source wording : String} {target : Path} {location : Location}
      {kept : Nat} (built : file.build env = .ok lookups)
      (rendered : file.module lookups = .ok source)
      (targets : settings.Targets file target)
      (opens : (file.touched env fs).Opens target location)
      (overfull : (file.touched env fs).device.overfull location (Text.Utf8.encode source)
        = some (kept, wording))
      (changed :
        (file.touched env fs).ChangedAt location ((Text.Utf8.encode source).take kept) after)

/-- A run fails: it returns the code of failures, or it lets an exit through. -/
inductive Ending.Failed : Ending → Prop where
  | reported : Failed (.code 1)
  | exited {exception : Raised} (exit : exception.kind = .exit) : Failed (.raised exception)

theorem Ending.Failed.ne_success {ending : Ending} (failed : ending.Failed) :
    ending ≠ .code 0 := by
  rintro rfl
  cases failed

theorem kind_of_exit? {exception given : Raised} (exit : given.exit? = some exception) :
    exception.kind = .exit := by
  unfold Raised.exit? at exit
  split at exit
  · next kind =>
    cases exit
    exact kind
  · cases exit

/-- The exit that a fault stands for is one. -/
theorem kind_of_fault_exit? {fault : GenerationFault} {exception : Raised}
    (exit : fault.exit? = some exception) : exception.kind = .exit := by
  cases fault with
  | text fault =>
    cases fault with
    | load problem =>
      cases problem with
      | malformed wording => cases exit
      | raised given => exact kind_of_exit? exit
    | rootNotMapping | format fault => cases exit
  | conversion fault =>
    cases fault with
    | className lookup fault =>
      cases fault with
      | raised given => exact kind_of_exit? exit
      | notName given | notClass name | emptyModule | relativeModule module => cases exit
    | notMapping fault | fieldMissing field | kind fault | items fault | float fault
      | build fault => cases exit
  | missing path | file path fault | encoding fault | render fault => cases exit

theorem failed_failureReport (before : Report) (fault : GenerationFault) :
    (failureReport before fault).ending.Failed := by
  unfold failureReport
  split
  · next exception exit => exact .exited (kind_of_fault_exit? exit)
  · exact .reported

@[simp] theorem stdout_failureReport (before : Report) (fault : GenerationFault) :
    (failureReport before fault).stdout = before.stdout := by
  unfold failureReport
  split <;> rfl

/-- The plan for an accepted declaration file fails with no text printed, and with no file changed
or its own file spoilt, or it delivers the module. -/
theorem of_carryOut_planOfFile (declared : fs.declarations load settings.path = .ok file)
    (ran : (planOfFile env settings file).carryOut (file.touched env fs) = (report, after)) :
    report.ending.Failed ∧ report.stdout = file.printed env ∧
        (after = file.touched env fs ∨ Spoils env fs settings file after) ∨
      report.ending = .code 0 ∧
        ∃ source, Delivers env load fs settings file source report after := by
  unfold planOfFile at ran
  dsimp only at ran
  split at ran
  · cases ran
    exact .inl ⟨failed_failureReport _ _, stdout_failureReport _ _, .inl rfl⟩
  · next lookups built =>
    split at ran
    · cases ran
      exact .inl ⟨failed_failureReport _ _, stdout_failureReport _ _, .inl rfl⟩
    · next source rendered =>
      have generated := FileSystem.generate_eq_deliver declared built rendered
      split at ran
      · next untargeted =>
        cases ran
        obtain ⟨unasked, unconfigured⟩ := of_target?_eq_none declared untargeted
        exact .inr ⟨rfl, source, .printed unasked unconfigured (generated none) rfl rfl⟩
      · next target targeted =>
        have targets := target?_eq_some_iff.mp targeted
        -- The file is opened last, when the text is there as a whole.
        obtain ⟨⟨outcome, written⟩, put⟩ :
            ∃ result, (file.touched env fs).write target (Text.Utf8.encode source) = result :=
          ⟨_, rfl⟩
        simp only [Plan.carryOut, put] at ran
        cases ran
        rcases FileSystem.write_cases put with
          ⟨fault, rfl, rfl⟩ | ⟨location, opens, ⟨rfl, rfl⟩ | ⟨kept, wording, overfull, rfl, rfl⟩⟩
        · exact .inl ⟨failed_failureReport _ _, stdout_failureReport _ _, .inl rfl⟩
        · refine .inr ⟨rfl, source, .written targets opens ?_
            (FileSystem.changedAt_put _ location _) (opens.place_put _) rfl⟩
          simp only [generated, FileSystem.deliver, put]
        · refine .inl ⟨failed_failureReport _ _, stdout_failureReport _ _, .inr ?_⟩
          exact .torn built rendered targets opens overfull (FileSystem.changedAt_put _ location _)

/-- A dry run succeeds or fails. -/
theorem ending_dryRunReport (env : Environment) (load : Loader) (settings : Settings)
    (content : Except FileFault (List UInt8)) :
    (dryRunReport env load settings content).ending = .code 0 ∨
      (dryRunReport env load settings content).ending.Failed := by
  unfold dryRunReport
  dsimp only
  split
  · exact .inr (failed_failureReport _ _)
  · split
    · exact .inr (failed_failureReport _ _)
    · exact .inl rfl

/-- A run looks names up first, in the files as they are. -/
theorem searched_eq_touchedBy (env : Environment) (load : Loader) (settings : Settings)
    (fs : FileSystem) :
    searched env load settings fs
      = env.touchedBy [] (fs.lookedUp env load settings.path) fs := by
  unfold searched FileSystem.lookedUp
  cases fs.declarations load settings.path with
  | ok file => rfl
  | error fault => rfl

/-- The place where the compiled form of a module is kept. -/
def compiledPlace : Location := ["lib", "__pycache__", "this.pyc"]

/-- The environment of two modules. One has a class; the other one has none, prints a text, and its
compiled form is kept in a file. -/
def pairEnvironment : Environment where
  importable module := .ok (module = "decimal" ∨ module = "this")
  attribute? e name :=
    .ok (if e = .module "decimal" ∧ name = "Decimal" then some (.cls ⟨"decimal", "Decimal"⟩)
      else none)
  printed _ name := if printsOf name then "Now is better than never.\n" else ""
  touched _ name fs := if printsOf name then fs.put compiledPlace [] else fs

/-- A file system with one declaration file, and a module that has been written before. -/
def declaredFiles (text : String) : FileSystem where
  files := [(["l.yaml"], Text.Utf8.encode text), (["out.py"], Text.Utf8.encode "old\n")]

/-- Two lookups, one of them with a class, and a path to write their module to. -/
def declaredText : String :=
  "config: {output: out.py}\nlookups:\n- name: f\n  keys: [a]\n  values: [decimal.Decimal]\n" ++
  "  value_type: type\n- {name: g, keys: [x], values: [1]}\n"

/-- A run that is not asked for a path. -/
def configuredRun : Report × FileSystem :=
  run pairEnvironment Yaml.loader (declaredFiles declaredText) ["l.yaml"]

/-- A lookup with a name that leads to no class of the module in front. -/
def misnamedText : String :=
  "lookups:\n  - name: f\n    keys: [a]\n    values: [this.x]\n    value_type: type\n"

/-- A run that fails at `misnamedText`. -/
def misnamedRun : Report × FileSystem :=
  run pairEnvironment Yaml.loader (declaredFiles misnamedText) ["l.yaml"]

/-- Files on a device that stores nothing. -/
def fullFiles : FileSystem where
  files := (declaredFiles "lookups: [{name: f, keys: [a], values: [1]}]").files
  device := { overfull := fun _ _ => some (0, "[Errno 28] No space left on device") }

/-- A run that fails at the device. -/
def fullRun : Report × FileSystem :=
  run pairEnvironment Yaml.loader fullFiles ["-o", "out.py", "l.yaml"]

end KeyTree.Command
