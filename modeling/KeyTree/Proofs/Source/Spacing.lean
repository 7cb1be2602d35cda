/-
# The text of a sequence of calls

What a writer has written after a sequence of calls is told by the calls alone. Every text that is
not empty stands on a line of its own, behind the indentation of the level at its call. Between two
such texts stand as many blank lines as the largest request among the calls between them; what is
asked for before the first text or behind the last one leaves nothing. The level counts the blocks
that have been entered and not left, and leaving one at level zero fails without a trace.

* `Call` — what can be asked of a writer; `Writer.after` — the writer after a sequence of calls.
* `linesFrom`, `requests`, `layout` — the lines of a sequence of calls, and the blank lines between
  them.
* `Writer.reverse_reversed_after`, `Writer.level_after` — what a sequence of calls does to a writer.
* `Writer.render_after` — the text of a sequence of calls.
-/

import KeyTree.Source.Writer

namespace KeyTree.Source

/-! ### Calls -/

/-- What can be asked of a writer: a line, blank lines before the next line, and the entrance into
a block and the way out of it. -/
inductive Call where
  | line (text : String)
  | blank (count : Int)
  | indent
  | dedent
  deriving DecidableEq, Repr

namespace Call

/-- Whether a call writes a line. -/
def writes : Call → Bool
  | .line text => !text.isEmpty
  | _ => false

/-- The number of blank lines that a call asks for. An empty text asks for one. -/
def blanks : Call → Nat
  | .line text => if text.isEmpty then 1 else 0
  | .blank count => count.toNat
  | .indent => 0
  | .dedent => 0

/-- The level behind a call. No block can be left at level zero. -/
def levelAfter (level : Nat) : Call → Nat
  | .line _ => level
  | .blank _ => level
  | .indent => level + 1
  | .dedent => level - 1

end Call

namespace Writer

/-- The writer before the first call. -/
def fresh (unit : String) : Writer := { unit }

/-- The writer after a call, or why the call fails. -/
def call (w : Writer) : Call → Except IndentFault Writer
  | .line text => .ok (w.line text)
  | .blank count => .ok (w.blank count)
  | .indent => .ok w.indent
  | .dedent => w.dedent

/-- The writer behind a call. A call that fails leaves it as it was. -/
def step (w : Writer) (c : Call) : Writer :=
  match w.call c with
  | .ok next => next
  | .error _ => w

/-- The writer behind some calls. -/
def after (w : Writer) (calls : List Call) : Writer := calls.foldl step w

/-- The faults of the calls that fail. -/
def faults (w : Writer) : List Call → List IndentFault
  | [] => []
  | c :: rest =>
    match w.call c with
    | .ok next => next.faults rest
    | .error fault => fault :: w.faults rest

end Writer

/-! ### Layout -/

/-- The lines of calls from a level on: each text behind one unit of indentation for each level at
its call. -/
def linesFrom (unit : String) (level : Nat) : List Call → List String
  | [] => []
  | .line text :: rest =>
    if text.isEmpty then linesFrom unit level rest
    else (String.join (List.replicate level unit) ++ text) :: linesFrom unit level rest
  | c :: rest => linesFrom unit (c.levelAfter level) rest

/-- The largest number of blank lines that some calls ask for. -/
def largestRequest (calls : List Call) : Nat := (calls.map Call.blanks).foldr max 0

/-- The blank lines asked for before the first text, between each two, and behind the last. -/
def requests (calls : List Call) : List Nat := (calls.splitOnP Call.writes).map largestRequest

/-- Lines with numbers of blank lines before them. -/
def spaced (blanks : List Nat) (lines : List String) : List String :=
  (List.zipWith (fun count line => List.replicate count "" ++ [line]) blanks lines).flatten

/-- The lines of calls and the blank lines between them. None stand before the first. -/
def layout (unit : String) (calls : List Call) : List String :=
  spaced (0 :: (requests calls).tail) (linesFrom unit 0 calls)

/-- A text ends a run of requests, and another call joins the first of them. -/
theorem requests_cons (c : Call) (rest : List Call) :
    requests (c :: rest) =
      if c.writes then 0 :: requests rest else (requests rest).modifyHead (max c.blanks) := by
  obtain ⟨gap, gaps, split⟩ := List.exists_cons_of_ne_nil (List.splitOnP_ne_nil Call.writes rest)
  rw [requests, List.splitOnP_cons_eq_if_modifyHead, requests, split]
  split <;> rfl

/-- There is always a run of requests. -/
theorem requests_ne_nil (calls : List Call) : requests calls ≠ [] := by
  rw [requests, ne_eq, List.map_eq_nil_iff]
  exact List.splitOnP_ne_nil Call.writes calls

/-- A call that writes nothing adds no line. -/
theorem linesFrom_of_quiet (unit : String) (level : Nat) {c : Call} (quiet : c.writes = false)
    (rest : List Call) :
    linesFrom unit level (c :: rest) = linesFrom unit (c.levelAfter level) rest := by
  cases c with
  | line text =>
    have empty : text.isEmpty = true := by simpa [Call.writes] using quiet
    rw [linesFrom, if_pos empty, Call.levelAfter]
  | blank | indent | dedent => rfl

namespace Writer

/-! ### One call -/

/-- The blank lines that are owed when a number of them is asked for. Before the first line no
request counts. -/
def owes (w : Writer) (count : Nat) : Nat := if w.started then max w.pending count else w.pending

/-- A request changes what is owed and nothing else. -/
theorem blank_eq (w : Writer) (count : Int) :
    w.blank count = { w with pending := w.owes count.toNat } := by
  unfold blank owes
  split <;> rfl

/-- Requests for blank lines do not add up: the largest counts. -/
theorem owes_blank (w : Writer) (count : Int) (more : Nat) :
    (w.blank count).owes more = w.owes (max count.toNat more) := by
  rw [blank_eq]
  unfold owes
  split
  · exact Nat.max_assoc _ _ _
  · rfl

/-- An empty text is a request for one blank line. -/
theorem step_empty (w : Writer) {text : String} (empty : text.isEmpty = true) :
    w.step (.line text) = w.blank 1 := by
  rw [step, call, line, if_pos empty]

/-- A text is written behind the blank lines that are owed, and then none are owed. -/
theorem step_text (w : Writer) {text : String} (filled : text.isEmpty = false) :
    w.step (.line text) =
      { w with
        reversed := (margin w.unit w.level ++ text) :: (List.replicate w.pending "" ++ w.reversed)
        pending := 0
        started := true } := by
  rw [step, call, line, if_neg (by simp [filled])]

/-- The way out of a block lowers the level, if it can be lowered. -/
theorem step_dedent (w : Writer) : w.step .dedent = { w with level := w.level - 1 } := by
  rw [step, call, dedent]
  obtain ⟨unit, level, reversed, pending, started⟩ := w
  cases level <;> rfl

/-- A call keeps the unit of indentation, and changes the level as it does without a writer. -/
theorem unit_level_step (w : Writer) (c : Call) :
    (w.step c).unit = w.unit ∧ (w.step c).level = c.levelAfter w.level := by
  cases c with
  | line text =>
    cases empty : text.isEmpty with
    | true => rw [step_empty w empty, blank_eq]; exact ⟨rfl, rfl⟩
    | false => rw [step_text w empty]; exact ⟨rfl, rfl⟩
  | blank count => rw [step, call, blank_eq]; exact ⟨rfl, rfl⟩
  | indent => exact ⟨rfl, rfl⟩
  | dedent => rw [step_dedent]; exact ⟨rfl, rfl⟩

/-- A call that writes nothing keeps the lines, and counts as a request for blank lines. -/
theorem step_of_quiet (w : Writer) {c : Call} (quiet : c.writes = false) :
    (w.step c).reversed = w.reversed ∧
      ∀ more, (w.step c).owes more = w.owes (max c.blanks more) := by
  cases c with
  | line text =>
    have empty : text.isEmpty = true := by simpa [Call.writes] using quiet
    rw [step_empty w empty, Call.blanks, if_pos empty]
    exact ⟨by rw [blank_eq], owes_blank w 1⟩
  | blank count => exact ⟨by rw [step, call, blank_eq], owes_blank w count⟩
  | indent => exact ⟨rfl, fun more => by rw [Call.blanks, Nat.zero_max]; rfl⟩
  | dedent =>
    rw [step_dedent]
    exact ⟨rfl, fun more => by rw [Call.blanks, Nat.zero_max]; rfl⟩

/-! ### Sequences of calls -/

/-- What calls write stands behind what has been written: the lines that the calls tell, each behind
the blank lines that are owed there. -/
theorem reverse_reversed_after (w : Writer) (calls : List Call) :
    (w.after calls).reversed.reverse = w.reversed.reverse
      ++ spaced ((requests calls).modifyHead w.owes) (linesFrom w.unit w.level calls) := by
  induction calls generalizing w with
  | nil => simp [after, linesFrom, spaced]
  | cons c rest ih =>
    obtain ⟨unit, level⟩ := w.unit_level_step c
    rw [after, List.foldl_cons, ← after, ih (w.step c), unit, level, requests_cons]
    cases writes : c.writes with
    | false =>
      -- The request joins the first run behind it.
      obtain ⟨lines, owes⟩ := w.step_of_quiet writes
      have joined : (w.step c).owes = w.owes ∘ max c.blanks := funext owes
      rw [lines, joined, if_neg (by simp), List.modifyHead_modifyHead,
        linesFrom_of_quiet _ _ writes]
    | true =>
      cases c with
      | line text =>
        -- The text stands behind what is owed, and the first run behind it starts anew.
        have filled : text.isEmpty = false := by simpa [Call.writes] using writes
        have settled : (w.step (.line text)).owes = id := by
          rw [step_text w filled]
          exact funext Nat.zero_max
        have owed : w.owes 0 = w.pending := by
          unfold owes
          split <;> simp
        rw [settled, List.modifyHead_id, step_text w filled, if_pos rfl, List.modifyHead_cons, owed,
          linesFrom, if_neg (by simp [filled])]
        simp [spaced, Call.levelAfter, margin]
      | blank | indent | dedent => cases writes

/-- The level behind calls is the one that the calls tell. -/
theorem level_after (w : Writer) (calls : List Call) :
    (w.after calls).level = calls.foldl Call.levelAfter w.level := by
  induction calls generalizing w with
  | nil => rfl
  | cons c rest ih =>
    rw [after, List.foldl_cons, ← after, ih, (w.unit_level_step c).2, List.foldl_cons]

/-- The only call that fails is the way out of a block at level zero. -/
theorem call_eq_error_iff (w : Writer) {c : Call} {fault : IndentFault} :
    w.call c = .error fault ↔ c = .dedent ∧ w.level = 0 := by
  cases c with
  | line | blank | indent => exact iff_of_false nofun (fun both => nomatch both.1)
  | dedent =>
    rw [call, dedent]
    cases w.level with
    | zero => exact iff_of_true rfl ⟨rfl, rfl⟩
    | succ level => exact iff_of_false nofun (fun both => nomatch both.2)

/-- A call that fails leaves the writer as it is. -/
theorem step_of_error {w : Writer} {c : Call} {fault : IndentFault}
    (failed : w.call c = .error fault) : w.step c = w := by
  rw [step, failed]

/-- The faults of calls are those of the first one and of the others behind it. -/
theorem faults_cons (w : Writer) (c : Call) (rest : List Call) :
    w.faults (c :: rest) = w.faults [c] ++ (w.step c).faults rest := by
  rw [faults, faults, step]
  cases w.call c <;> rfl

/-- An entrance raises the level, and a way out lowers it unless it fails. -/
theorem level_step_add_count (w : Writer) (c : Call) :
    (w.step c).level + [c].count .dedent
      = w.level + [c].count .indent + (w.faults [c]).length := by
  cases c with
  | line | blank =>
    rw [(w.unit_level_step _).2]
    rfl
  | indent => rfl
  | dedent =>
    obtain ⟨unit, level, reversed, pending, started⟩ := w
    cases level <;> rfl

/-- The level counts the blocks that have been entered, without those that have been left. A way
out that fails leaves no block. -/
theorem level_after_add_count (w : Writer) (calls : List Call) :
    (w.after calls).level + calls.count .dedent
      = w.level + calls.count .indent + (w.faults calls).length := by
  induction calls generalizing w with
  | nil => rfl
  | cons c rest ih =>
    have first := w.level_step_add_count c
    have others := ih (w.step c)
    rw [after, List.foldl_cons, ← after, faults_cons, List.length_append,
      ← List.singleton_append, List.count_append, List.count_append]
    omega

/-- After any calls the text of a writer is the layout of the calls, without the white space at the
end and with one line end. Its level is the one by which the layout indents a line that comes next:
the number of blocks that have been entered and not been left. A call fails exactly where a block is
left at level zero, and then it changes nothing. -/
theorem render_after (unit : String) (calls : List Call) :
    ((fresh unit).after calls).render
        = String.ofList (Text.trimEnd (String.intercalate "\n" (layout unit calls)).toList)
          ++ "\n" ∧
      ((fresh unit).after calls).level = calls.foldl Call.levelAfter 0 ∧
      ((fresh unit).after calls).level + calls.count .dedent
        = calls.count .indent + ((fresh unit).faults calls).length ∧
      ∀ c fault,
        (((fresh unit).after calls).call c = .error fault ↔
          c = .dedent ∧ ((fresh unit).after calls).level = 0) ∧
        (((fresh unit).after calls).call c = .error fault →
          (fresh unit).after (calls ++ [c]) = (fresh unit).after calls) := by
  refine ⟨?_, level_after _ calls, ?_, fun c fault => ⟨call_eq_error_iff _, fun failed => ?_⟩⟩
  · obtain ⟨first, others, split⟩ := List.exists_cons_of_ne_nil (requests_ne_nil calls)
    rw [render, reverse_reversed_after, layout, split]
    rfl
  · have start : (fresh unit).level = 0 := rfl
    rw [level_after_add_count, start, Nat.zero_add]
  · rw [after, List.foldl_append, ← after]
    exact step_of_error failed

/-- Requests at the ends leave nothing, and of those between two texts the largest counts. -/
example :
    ((fresh "  ").after [.blank 3, .line "a", .indent, .line "", .blank 2, .blank (-1), .line "b",
      .dedent, .line "c", .blank 1]).render = "a\n\n\n  b\nc\n" := by
  decide +kernel

end Writer

end KeyTree.Source
