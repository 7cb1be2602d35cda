/-
# Command line arguments

The arguments of the command ask for help or for a run with certain settings. An option
may be shortened as long as it stays the only one, options of one letter may be joined in
one word, and an argument may be attached to the option that takes it. After two dashes
every word is an operand.

* `Settings`, `Request` — what arguments ask for; `Request.ofWords` — finds it out.
* `UsageFault` — why arguments ask for nothing.
-/

import KeyTree.Text.Digit
import KeyTree.Text.Quoted
import KeyTree.Text.Spans

namespace KeyTree.Command

/-! ### Options -/

/-- The options of the command. -/
inductive Switch where
  | help
  | output
  | verbose
  | dryRun
  deriving DecidableEq, Repr

namespace Switch

/-- The names of the options, in the order in which they are reported. -/
def names : List (String × Switch) :=
  [("-h", .help), ("--help", .help), ("-o", .output), ("--output", .output),
   ("-v", .verbose), ("--verbose", .verbose), ("--dry-run", .dryRun)]

/-- The option with a name. -/
def ofName? (name : String) : Option Switch := names.lookup name

/-- The names of an option, as messages show them. -/
def label (s : Switch) : String :=
  String.intercalate "/" ((names.filter (·.2 = s)).map Prod.fst)

/-- Whether an option takes an argument. -/
def takesArgument (s : Switch) : Bool := s = .output

end Switch

/-! ### Faults -/

/-- The reasons why arguments ask for nothing. -/
inductive UsageFault where
  /-- A shortened option could be any of several. -/
  | ambiguous (word : String) (names : List String)
  /-- An option that takes no argument has one attached. -/
  | ignoredArgument (s : Switch) (text : String)
  /-- An option lacks its argument. -/
  | missingArgument (s : Switch)
  /-- Words are left over. -/
  | unrecognized (words : List String)
  deriving DecidableEq, Repr

/-- The wording of a fault. -/
def UsageFault.message : UsageFault → String
  | .ambiguous word names =>
    "ambiguous option: " ++ word ++ " could match " ++ String.intercalate ", " names
  | .ignoredArgument s text =>
    "argument " ++ s.label ++ ": ignored explicit argument " ++ Text.quote text
  | .missingArgument s => "argument " ++ s.label ++ ": expected one argument"
  | .unrecognized words => "unrecognized arguments: " ++ String.intercalate " " words

/-! ### Words -/

/-- A text behind the name of an option in the same word, and whether an equals sign sets
it off. -/
structure Attachment where
  text : List Char
  setOff : Bool
  deriving DecidableEq, Repr

/-- What a word is by its form. -/
inductive Word where
  | operand (text : String)
  /-- Two dashes, before which options may stand. -/
  | separator
  /-- An option; `long` tells that its name starts with two dashes. -/
  | option (s : Switch) (long : Bool) (attachment : Option Attachment)
  /-- The form of an option, but no option. -/
  | unknown (text : String)
  deriving DecidableEq, Repr

/-- Whether a character is a decimal digit of any script. -/
def isDigit (c : Char) : Bool := (Text.digitValue? c).isSome

/-- Whether characters are a negative number: a dash and digits, with at most one point
that has a digit behind it. A line feed may follow. -/
def isNegativeNumber (s : List Char) : Bool :=
  match s with
  | '-' :: rest =>
    let body := if rest.getLast? = some '\n' then rest.dropLast else rest
    match body.span isDigit with
    | (digits, []) => digits ≠ []
    | (_, '.' :: digits) => digits ≠ [] && digits.all isDigit
    | _ => false
  | _ => false

/-- The characters before the first equals sign, and those behind it, if there is one. -/
def splitAtEquals (s : List Char) : List Char × Option Attachment :=
  match s.span (· ≠ '=') with
  | (name, _ :: text) => (name, some ⟨text, true⟩)
  | (name, []) => (name, none)

/-- The options that a word shortens or carries an attachment behind: by two dashes and
the start of a name, or by a dash and a letter. -/
def candidates (s : List Char) : List (String × Switch × Bool × Option Attachment) :=
  match s with
  | '-' :: '-' :: _ =>
    let (start, attachment) := splitAtEquals s
    (Switch.names.filter fun name => start.isPrefixOf name.1.toList).map fun name =>
      (name.1, name.2, true, attachment)
  | '-' :: letter :: rest =>
    (Switch.names.filter fun name => name.1.toList = ['-', letter]).map fun name =>
      (name.1, name.2, false, some ⟨rest, false⟩)
  | _ => []

/-- Whether a name of an option starts with two dashes. -/
def isLong (name : String) : Bool := "--".toList.isPrefixOf name.toList

/-- What a word is by its form. -/
def Word.ofString (word : String) : Except UsageFault Word :=
  let s := word.toList
  if s.head? ≠ some '-' then .ok (.operand word)
  else
    match Switch.ofName? word with
    | some switch => .ok (.option switch (isLong word) none)
    | none =>
      if s.length = 1 then .ok (.operand word)
      else
        let (name, attachment) := splitAtEquals s
        match attachment, Switch.ofName? (String.ofList name) with
        | some _, some switch => .ok (.option switch (isLong word) attachment)
        | _, _ =>
          match candidates s with
          | [(_, switch, long, attachment)] => .ok (.option switch long attachment)
          | _ :: _ :: _ => .error (.ambiguous word ((candidates s).map Prod.fst))
          | [] =>
            if isNegativeNumber s || s.contains ' ' then .ok (.operand word)
            else .ok (.unknown word)

/-- What words are by their form. Behind the first two dashes all are operands. -/
def wordsOf : List String → Except UsageFault (List Word)
  | [] => .ok []
  | word :: rest =>
    if word = "--" then .ok (.separator :: rest.map Word.operand)
    else do
      let first ← Word.ofString word
      return first :: (← wordsOf rest)

/-! ### Joined options -/

/-- How the options of a word end. -/
inductive WordEnd where
  /-- With the last of them. -/
  | complete
  /-- With the argument of an option. -/
  | argument (text : String)
  /-- With an option whose argument is the next word. -/
  | awaiting (s : Switch)
  /-- With letters that are no options. -/
  | unknown (text : String)
  deriving DecidableEq, Repr

/-- The options of a word that starts with an option of one letter, with the characters
behind that letter: those without argument, and how the word ends. -/
def joined (s : Switch) : List Char → Except UsageFault (List Switch × WordEnd)
  | [] => .ok (if s.takesArgument then ([], .awaiting s) else ([s], .complete))
  | c :: rest =>
    if s.takesArgument then .ok ([], .argument (String.ofList (c :: rest)))
    else if c = '-' then .error (.ignoredArgument s (String.ofList (c :: rest)))
    else
      match Switch.ofName? (String.ofList ['-', c]) with
      | none => .ok ([s], .unknown (String.ofList ('-' :: c :: rest)))
      | some next => do
        let (others, ending) ←
          match rest with
          | '=' :: text => setOffArgument next text
          | _ => joined next rest
        return (s :: others, ending)
where
  /-- An option of one letter with an equals sign and characters behind it. -/
  setOffArgument (s : Switch) (text : List Char) :
      Except UsageFault (List Switch × WordEnd) :=
    if s.takesArgument then .ok ([], .argument (String.ofList text))
    else .error (.ignoredArgument s (String.ofList text))

/-- The options of a word: those without argument, and how the word ends. -/
def optionsOf (s : Switch) (long : Bool) (attachment : Option Attachment) :
    Except UsageFault (List Switch × WordEnd) :=
  match attachment with
  | none => joined s []
  | some ⟨text, setOff⟩ =>
    if s.takesArgument then .ok ([], .argument (String.ofList text))
    else if long ∨ setOff ∨ text = [] then .error (.ignoredArgument s (String.ofList text))
    else joined s text

/-! ### Requests -/

/-- The settings of a run. -/
structure Settings where
  file : String := "lookups.yaml"
  output : Option String := none
  verbose : Bool := false
  dryRun : Bool := false
  deriving DecidableEq, Repr

/-- What arguments ask for. -/
inductive Request where
  | help
  | run (settings : Settings)
  deriving DecidableEq, Repr

/-- What has been taken from the words so far: the settings, whether the operand has been
taken, and the words that are left over, the last one first. -/
structure Progress where
  settings : Settings := {}
  operandTaken : Bool := false
  leftOver : List String := []

namespace Progress

/-- Takes an option without argument. -/
def take (p : Progress) : Switch → Progress
  | .verbose => { p with settings := { p.settings with verbose := true } }
  | .dryRun => { p with settings := { p.settings with dryRun := true } }
  | _ => p

/-- Takes options without argument. -/
def takeAll (p : Progress) (switches : List Switch) : Progress := switches.foldl take p

/-- Takes the argument of an option. -/
def takeArgument (p : Progress) (text : String) : Progress :=
  { p with settings := { p.settings with output := some text } }

/-- Takes an operand: the first one names the file. -/
def takeOperand (p : Progress) (text : String) : Progress :=
  if p.operandTaken then { p with leftOver := text :: p.leftOver }
  else { p with settings := { p.settings with file := text }, operandTaken := true }

/-- Leaves a word over. -/
def leave (p : Progress) (text : String) : Progress :=
  { p with leftOver := text :: p.leftOver }

/-- What the words taken ask for. -/
def request (p : Progress) : Except UsageFault Request :=
  if p.leftOver = [] then .ok (.run p.settings) else .error (.unrecognized p.leftOver.reverse)

/-- Takes words in order. The two dashes vanish next to the operand that names the
file. -/
def requestAfter (p : Progress) : List Word → Except UsageFault Request
  | [] => p.request
  | .operand text :: .separator :: rest =>
    if p.operandTaken then ((p.leave text).leave "--").requestAfter rest
    else (p.takeOperand text).requestAfter rest
  | .operand text :: rest => (p.takeOperand text).requestAfter rest
  | .separator :: rest =>
    if p.operandTaken then (p.leave "--").requestAfter rest else p.requestAfter rest
  | .unknown text :: rest => (p.leave text).requestAfter rest
  | .option s long attachment :: rest =>
    match optionsOf s long attachment with
    | .error fault => .error fault
    | .ok (switches, ending) =>
      match ending, rest with
      | .awaiting _, .operand text :: rest =>
        if switches.contains .help then .ok .help
        else ((p.takeAll switches).takeArgument text).requestAfter rest
      | .awaiting last, _ => .error (.missingArgument last)
      | .complete, rest =>
        if switches.contains .help then .ok .help
        else (p.takeAll switches).requestAfter rest
      | .argument text, rest =>
        if switches.contains .help then .ok .help
        else ((p.takeAll switches).takeArgument text).requestAfter rest
      | .unknown text, rest =>
        if switches.contains .help then .ok .help
        else ((p.takeAll switches).leave text).requestAfter rest

end Progress

/-- What arguments ask for. -/
def Request.ofWords (words : List String) : Except UsageFault Request := do
  Progress.requestAfter {} (← wordsOf words)

/-! ### Help -/

/-- The line that shows how the command is called. -/
def usage : String :=
  "usage: python -m lookupgen.yaml [-h] [-o OUTPUT] [-v] [--dry-run] [yaml_file]\n"

/-- The help text. -/
def help : String :=
  usage ++ "\n" ++
  "Generate exact-match lookup functions from a YAML file\n" ++
  "\n" ++
  "positional arguments:\n" ++
  "  yaml_file             Path to the YAML file (default: lookups.yaml)\n" ++
  "\n" ++
  "options:\n" ++
  "  -h, --help            show this help message and exit\n" ++
  "  -o OUTPUT, --output OUTPUT\n" ++
  "                        Write the generated module here (default:\n" ++
  "                        config.output, else stdout)\n" ++
  "  -v, --verbose         Print progress information\n" ++
  "  --dry-run             Build the lookups and summarise them without\n" ++
  "                        generating code\n"

end KeyTree.Command
