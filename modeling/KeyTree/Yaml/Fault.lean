/-
# Faults of a text

Why a text stands for no value: it is malformed, or a scalar in it is not what its tag says.

* `LoadFault` — the reasons; `LoadFault.message` — their wording.
* `LoadFault.problem` — what a declaration file reports of them.
-/

import KeyTree.Declaration.Reading
import KeyTree.Text.Quoted
import KeyTree.Value.Calendar

namespace KeyTree.Yaml

/-- The reasons why a text stands for no value. -/
inductive LoadFault where
  /-- The text is malformed. -/
  | malformed
  /-- A character is written by a number beyond the last character. -/
  | notCharacter
  /-- A character is written by a number beyond all signed numbers of 32 bits. -/
  | codeTooLarge
  /-- A decimal number has too many digits. -/
  | tooManyDigits (count : Nat)
  /-- A scalar tagged as an integer is not one in its base. -/
  | notInteger (base : Nat) (text : String)
  /-- A scalar tagged as a floating-point number is not one. -/
  | notFloat (text : String)
  /-- A floating-point number to the base sixty has too many parts. -/
  | tooManyParts
  /-- A scalar tagged as a number is empty. -/
  | emptyNumber
  /-- A scalar tagged as a truth value is not one. -/
  | notTruth (text : String)
  /-- A scalar tagged as a timestamp is not one. -/
  | notTimestamp
  /-- A mapping is tagged as a timestamp. -/
  | mappingAsTimestamp
  /-- A date or a time of day does not exist. -/
  | calendar (fault : CalendarFault)
  deriving DecidableEq, Repr

/-- How many characters of a scalar that is no integer a message shows, with its quotes. -/
def shownLength : Nat := 200

/-- The most digits of a decimal number. -/
def digitLimit : Nat := 4300

/-- The wording of a fault. Nothing is kept of why a text is malformed. -/
def LoadFault.message : LoadFault → String
  | .malformed => ""
  | .notCharacter => "chr() arg not in range(0x110000)"
  | .codeTooLarge => "Python int too large to convert to C int"
  | .tooManyDigits count =>
    "Exceeds the limit (" ++ toString digitLimit ++ " digits) for integer string conversion: "
      ++ "value has " ++ toString count ++ " digits; use sys.set_int_max_str_digits() to "
      ++ "increase the limit"
  | .notInteger base text =>
    "invalid literal for int() with base " ++ toString base ++ ": "
      ++ String.ofList ((Text.quote text).toList.take shownLength)
  | .notFloat text => "could not convert string to float: " ++ Text.quote text
  | .tooManyParts => "int too large to convert to float"
  | .emptyNumber => "string index out of range"
  | .notTruth text => Text.quote text
  | .notTimestamp => "'NoneType' object has no attribute 'groupdict'"
  | .mappingAsTimestamp => "expected string or bytes-like object, got 'list'"
  | .calendar fault => fault.message

/-- The kind of the exception that a fault is raised as. -/
def LoadFault.kind : LoadFault → ExceptionKind
  | .notCharacter | .tooManyDigits _ | .notInteger .. | .notFloat _ | .calendar _ => .valueError
  | _ => .error

/-- What a declaration file reports of a fault. -/
def LoadFault.problem : LoadFault → LoadProblem
  | .malformed => .malformed LoadFault.malformed.message
  | fault => .raised ⟨fault.kind, fault.message⟩

end KeyTree.Yaml
