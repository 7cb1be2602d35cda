/-
# Totals

The total of a measure over the items of a list, with its laws.
-/

namespace KeyTree

variable {α β : Type}

/-- The total of a measure over the items of a list. -/
def total (measure : α → Nat) : List α → Nat
  | [] => 0
  | x :: rest => measure x + total measure rest

@[simp] theorem total_nil (measure : α → Nat) : total measure [] = 0 := rfl

@[simp] theorem total_cons (measure : α → Nat) (x : α) (rest : List α) :
    total measure (x :: rest) = measure x + total measure rest := rfl

@[simp] theorem total_append (measure : α → Nat) (xs ys : List α) :
    total measure (xs ++ ys) = total measure xs + total measure ys := by
  induction xs with
  | nil => simp
  | cons x rest ih => simp [ih, Nat.add_assoc]

@[simp] theorem total_map (measure : β → Nat) (f : α → β) (xs : List α) :
    total measure (xs.map f) = total (fun x => measure (f x)) xs := by
  induction xs with
  | nil => rfl
  | cons x rest ih => simp [ih]

@[simp] theorem total_reverse (measure : α → Nat) (xs : List α) :
    total measure xs.reverse = total measure xs := by
  induction xs with
  | nil => rfl
  | cons x rest ih => simp [ih, Nat.add_comm]

end KeyTree
