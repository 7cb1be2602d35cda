/-
# Identifiers

The names a generated function may carry: an identifier that is not a reserved
word. Soft keywords (`match`, `case`, `type`, `_`) are not reserved.
-/

import KeyTree.Text.NameRest

namespace KeyTree.Text

/-- Whether a text is an identifier: a starting character, then continuing ones. -/
def isIdentifier (name : String) : Bool :=
  match name.toList with
  | [] => false
  | c :: rest => isNameStart c && rest.all isNameRest

/-- The reserved words, none of which may name a function. -/
def reservedWords : List String :=
  ["False", "None", "True", "and", "as", "assert", "async", "await", "break", "class", "continue",
   "def", "del", "elif", "else", "except", "finally", "for", "from", "global", "if", "import",
   "in", "is", "lambda", "nonlocal", "not", "or", "pass", "raise", "return", "try", "while",
   "with", "yield"]

/-- Whether a text may name a generated function. -/
def isFunctionName (name : String) : Bool :=
  isIdentifier name && !reservedWords.contains name

end KeyTree.Text
