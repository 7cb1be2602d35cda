/-
# Generated modules

What a module that is generated from a file owes to each stage: the file is read and accepted, its
lookups are built, their text is written as a whole, and only then it is delivered.

* `DeclarationFile.isSome_content_output` — the path that an accepted file wants to be written to.
* `FileSystem.lookedUp` — the names that are looked up on the way.
* `FileSystem.generate_eq_deliver` — the stages of a module that is generated.
-/

import KeyTree.Generation
import KeyTree.Proofs.Declaration.Accepted
import KeyTree.Proofs.Files.System

namespace KeyTree

/-! ### Accepted files -/

/-- A checked configuration names no path, or names it by a text. -/
theorem isSome_content_of_checkConfig {given output : Value} {config : Fields}
    (checked : checkConfig given = .ok config)
    (field : Value.field? config "output" = some output) : output.content?.isSome = true := by
  unfold checkConfig at checked
  split at checked
  · cases checked
    cases field
  · split at checked
    · next found =>
      split at checked
      · next text =>
        cases checked
        obtain rfl := Option.some.inj (found.symm.trans field)
        exact text
      · cases checked
    · next missing =>
      cases checked
      cases missing.symm.trans field
  · cases checked

/-- The path that an accepted declaration file wants its module written to is a text. -/
theorem DeclarationFile.isSome_content_output {load : Loader} {fs : FileSystem} {path : Path}
    {file : DeclarationFile} (declared : fs.declarations load path = .ok file) {output : Value}
    (field : Value.field? file.config "output" = some output) : output.content?.isSome = true := by
  obtain ⟨bytes, -, declared⟩ := bind_eq_ok_iff.mp declared
  obtain ⟨text, -, declared⟩ := bind_eq_ok_iff.mp declared
  have accepted := mapError_eq_ok_iff.mp declared
  unfold DeclarationFile.ofText DeclarationFile.ofRoot at accepted
  split at accepted
  · cases accepted
  · split at accepted
    · exact isSome_content_of_checkConfig (of_ofFields (mapError_eq_ok_iff.mp accepted)).1 field
    · exact isSome_content_of_checkConfig (of_ofFields (mapError_eq_ok_iff.mp accepted)).1 field
    · cases accepted

/-! ### Modules -/

/-- The names that are looked up for the declaration file that a path leads to. -/
def FileSystem.lookedUp (env : Environment) (load : Loader) (fs : FileSystem) (path : Path) :
    List String :=
  match fs.declarations load path with
  | .ok file => file.lookedUp env
  | .error _ => []

/-- The module of an accepted file is generated by building its lookups, writing their text as a
whole, and delivering it to the files that building leaves. -/
theorem FileSystem.generate_eq_deliver {env : Environment} {load : Loader} {fs : FileSystem}
    {path : Path} {file : DeclarationFile} {lookups : List Lookup} {source : String}
    (declared : fs.declarations load path = .ok file) (built : file.build env = .ok lookups)
    (written : file.module lookups = .ok source) (output : Option Path) :
    fs.generate env load path output = (file.touched env fs).deliver source output := by
  have rendered : file.build env >>= file.module = .ok source :=
    bind_eq_ok_iff.mpr ⟨lookups, built, written⟩
  simp only [generate, declared, rendered]

end KeyTree
