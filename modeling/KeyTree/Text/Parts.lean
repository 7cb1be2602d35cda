/-
# Parts of a text

The parts of a text between the occurrences of a mark.
-/

namespace KeyTree.Text

/-- The parts of a text between the occurrences of a mark. A text without the mark is its
only part. -/
def parts (mark : Char) : List Char → List (List Char)
  | [] => [[]]
  | c :: rest =>
    if c = mark then [] :: parts mark rest
    else
      match parts mark rest with
      | part :: others => (c :: part) :: others
      | [] => [[c]]

/-- There is at least one part. -/
theorem parts_ne_nil (mark : Char) (s : List Char) : parts mark s ≠ [] := by
  fun_cases parts mark s <;> simp

/-- The mark is in no part. -/
theorem not_mem_of_mem_parts {mark : Char} (s : List Char) :
    ∀ part ∈ parts mark s, mark ∉ part := by
  fun_induction parts mark s with
  | case1 => simp
  | case2 rest ih =>
    intro part h
    rcases List.mem_cons.1 h with rfl | h
    · simp
    · exact ih part h
  | case3 c rest hc part others h ih =>
    rw [h] at ih
    intro p hp
    rcases List.mem_cons.1 hp with rfl | hp
    · simp [Ne.symm hc, ih part (by simp)]
    · exact ih p (by simp [hp])
  | case4 c rest hc h ih => simp [Ne.symm hc]

/-- The parts with the mark between them make up the text. -/
theorem intercalate_parts (mark : Char) (s : List Char) :
    List.intercalate [mark] (parts mark s) = s := by
  fun_induction parts mark s with
  | case1 => simp
  | case2 rest ih =>
    cases h : parts mark rest with
    | nil => exact absurd h (parts_ne_nil mark rest)
    | cons part others => rw [h] at ih; simp [List.intercalate_cons_cons, ih]
  | case3 c rest hc part others h ih =>
    rw [h] at ih
    cases others with
    | nil => simpa using ih
    | cons p ps => simpa [List.intercalate_cons_cons] using ih
  | case4 c rest hc h ih => exact absurd h (parts_ne_nil mark rest)

end KeyTree.Text
