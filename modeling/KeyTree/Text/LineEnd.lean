/-
# Line ends

A line of a file ends with a line feed, a carriage return, or both in that order.
-/

namespace KeyTree.Text

/-- The characters of a file with every line end as one line feed. -/
def unifyLineEnds : List Char → List Char
  | [] => []
  | '\r' :: '\n' :: rest => '\n' :: unifyLineEnds rest
  | c :: rest => (if c = '\r' then '\n' else c) :: unifyLineEnds rest

end KeyTree.Text
