/-
# Known classes

The environment in which declarations name classes: the modules of the standard library that
declarations use, and those of the generator itself, with their classes and their other
objects. Every object has its class as an attribute, and a class has the attributes of the
classes that it extends.

* `Entity.classOf` — the class of an object.
* `rotatedText` — the text of the one module that prints something.
* `Environment.known` — the environment; `Environment.classAt?` — the class that a module
  and a qualified name lead to.
-/

import KeyTree.Class.Environment
import KeyTree.Class.Objects

namespace KeyTree

/-! ### Entries of the tables -/

/-- What a word of a table leads to: a word with an equals sign gives the name and where it
leads, and any other word is the name of a class of the module itself. -/
def readWord (module word : String) : String × ClassName :=
  match Text.parts '=' word.toList with
  | [name, target] => (String.ofList name, .ofText (String.ofList target))
  | _ => (word, ⟨module, word⟩)

/-- The class that a name leads to by the words of a module. -/
def classOfWords (module : String) (words : List String) (name : String) : Option ClassName :=
  (words.map (readWord module)).lookup name

/-- The group of modules, in which each word gives the module that a name leads to. -/
def moduleGroup : String := "module"

/-- The group of classes, in which each word gives the class that a name leads to. -/
def classGroup : String := "class"

/-- What a name leads to by a group of attributes: the group of modules, the group of
classes, or the objects of one class. -/
def entityOfGroup (name : String) (group : String × String) : Option Entity :=
  let words := wordsOf group.2
  if group.1 = moduleGroup then
    (classOfWords "" words name).map fun target => .module target.module
  else if group.1 = classGroup then (classOfWords "" words name).map Entity.cls
  else if words.contains name then some (.object (.ofText group.1))
  else none

/-! ### Attributes -/

/-- The class of an object. -/
def Entity.classOf : Entity → ClassName
  | .module _ => .builtin "module"
  | .cls c => c.classOf
  | .object c => c
  | .absent => .builtin "NoneType"

/-- What an attribute of a module leads to. -/
def moduleAttribute? (module name : String) : Option Entity :=
  match standardClasses.lookup module >>= fun words =>
      classOfWords module (wordsOf words) name with
  | some c => some (.cls c)
  | none => ((moduleObjects.lookup module).getD []).findSome? (entityOfGroup name)

/-- What an attribute of a class leads to: its own, or that of a class that it extends. -/
def classAttribute? (c : ClassName) (name : String) : Option Entity :=
  c.lineage.findSome? fun c =>
    match classAttributes.lookup c.text with
    | some (_, groups) => groups.findSome? (entityOfGroup name)
    | none => none

/-- The class of an attribute that an object has through its class: a function becomes a
method, and every other object stays what it is. -/
def boundClass (c : ClassName) : ClassName :=
  match [("function", "method"), ("method_descriptor", "builtin_function_or_method"),
      ("wrapper_descriptor", "method-wrapper")].lookup c.qualname with
  | some bound => .builtin bound
  | none => c

/-- What an attribute of an object leads to through its class. -/
def objectAttribute? (c : ClassName) (name : String) : Option Entity :=
  (classAttribute? c name).map fun
    | .object c => .object (boundClass c)
    | other => other

/-- What an attribute of an object leads to. -/
def Entity.attribute? (e : Entity) (name : String) : Option Entity :=
  if name = "__class__" then some (.cls e.classOf)
  else
    match e with
    | .module m => moduleAttribute? m name
    | .cls c =>
      if name = "__base__" then c.base?.map .cls
      else (classAttribute? c name).orElse fun _ => classAttribute? c.classOf name
    | .object c => objectAttribute? c name
    | .absent => objectAttribute? e.classOf name

/-! ### Printed texts -/

/-- The letter that is half an alphabet away. -/
def rotate (c : Char) : Char :=
  if c.isUpper then Char.ofNat ((c.toNat - 0x41 + 13) % 26 + 0x41)
  else if c.isLower then Char.ofNat ((c.toNat - 0x61 + 13) % 26 + 0x61)
  else c

/-- The text that one of the modules prints, with the letters rotated as the module keeps
it. -/
def rotatedText : String :=
  "Gur Mra bs Clguba, ol Gvz Crgref\n" ++
  "\n" ++
  "Ornhgvshy vf orggre guna htyl.\n" ++
  "Rkcyvpvg vf orggre guna vzcyvpvg.\n" ++
  "Fvzcyr vf orggre guna pbzcyrk.\n" ++
  "Pbzcyrk vf orggre guna pbzcyvpngrq.\n" ++
  "Syng vf orggre guna arfgrq.\n" ++
  "Fcnefr vf orggre guna qrafr.\n" ++
  "Ernqnovyvgl pbhagf.\n" ++
  "Fcrpvny pnfrf nera'g fcrpvny rabhtu gb oernx gur ehyrf.\n" ++
  "Nygubhtu cenpgvpnyvgl orngf chevgl.\n" ++
  "Reebef fubhyq arire cnff fvyragyl.\n" ++
  "Hayrff rkcyvpvgyl fvyraprq.\n" ++
  "Va gur snpr bs nzovthvgl, ershfr gur grzcgngvba gb thrff.\n" ++
  "Gurer fubhyq or bar-- naq cersrenoyl bayl bar --boivbhf jnl gb qb vg.\n" ++
  "Nygubhtu gung jnl znl abg or boivbhf ng svefg hayrff lbh'er Qhgpu.\n" ++
  "Abj vf orggre guna arire.\n" ++
  "Nygubhtu arire vf bsgra orggre guna *evtug* abj.\n" ++
  "Vs gur vzcyrzragngvba vf uneq gb rkcynva, vg'f n onq vqrn.\n" ++
  "Vs gur vzcyrzragngvba vf rnfl gb rkcynva, vg znl or n tbbq vqrn.\n" ++
  "Anzrfcnprf ner bar ubaxvat terng vqrn -- yrg'f qb zber bs gubfr!\n"

/-- Whether the module that prints the text is in front of a name. A module prints only when it
is imported for the first time. -/
def printsOf (name : String) : Bool := (dottedParts name).head? = some "this"

/-! ### The environment -/

namespace Environment

/-- The environment of the known classes. -/
def known : Environment where
  importable module := .ok (standardClasses.lookup module).isSome
  attribute? e name := .ok (e.attribute? name)
  printed before name :=
    if printsOf name && !before.any printsOf then rotatedText.map rotate else ""

/-- The class that a qualified name leads to in a module that can be imported. -/
def classAt? (env : Environment) (c : ClassName) : Option ClassName :=
  match env.importable c.module with
  | .ok true =>
    match env.follow (.module c.module) (dottedParts c.qualname) with
    | .ok (.cls found) => some found
    | _ => none
  | _ => none

end Environment

end KeyTree
