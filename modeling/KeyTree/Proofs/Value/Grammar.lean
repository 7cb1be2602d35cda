/-
# The grammar of literals

What a literal denotes is told by the grammar of the language that is generated, which has more
ways to write a value than are used: integers in four bases with separators between the digits, and
texts in either mark with escapes of every kind. The literal that is written for a plain scalar is
one line of printed characters, and by this grammar it denotes the scalar and nothing else. This
holds of texts of any code points, halves of pairs among them.

* `Text.escape?`, `Text.Inside` — the inside of texts; `Text.inside_flatMap_escapePoint` — the one
  that is written.
* `natural?` — integers without a sign; `natural?_toDigits` — those that are written.
* `Scalar`, `Scalar.literal` — the plain scalars, with their literals.
* `LiteralOf` — what the literals of plain scalars denote; `LiteralOf.unique` — one value each.
* `literal_reads_back` — the literals that are written.
-/

import KeyTree.Number.Reading
import KeyTree.Proofs.Value.Literal

namespace KeyTree

namespace Text

/-! ### Code points -/

/-- The code point of a number, if there is one. -/
def pointOfCode? (n : Nat) : Option Point :=
  if h : 0xD800 ≤ n ∧ n < 0xE000 then some (.half ⟨n - 0xD800, by omega⟩)
  else (charOfCode? n).map .char

/-- The code point of a run of hexadecimal digits. -/
def pointOfHex? (digits : List Char) : Option Point := hexNumber? digits >>= pointOfCode?

/-- A code point is that of its number. -/
theorem pointOfCode?_code (p : Point) : pointOfCode? p.code = some p := by
  cases p with
  | char c =>
    have valid : c.toNat.isValidChar := c.valid
    have whole : ¬ (0xD800 ≤ c.toNat ∧ c.toNat < 0xE000) := by
      rcases valid with low | ⟨high, -⟩ <;> omega
    rw [Point.code, pointOfCode?, dif_neg whole, charOfCode?, if_pos valid, Char.ofNat_toNat]
    rfl
  | half n =>
    have half : 0xD800 ≤ 0xD800 + n.val ∧ 0xD800 + n.val < 0xE000 := by omega
    rw [Point.code, pointOfCode?, dif_pos half]
    simp

/-- Enough digits of the number of a code point give the code point. -/
theorem pointOfHex?_hexDigits {width : Nat} {p : Point} (wide : p.code < 16 ^ width) :
    pointOfHex? (hexDigits width p.code) = some p := by
  rw [pointOfHex?, hexNumber?_hexDigits, Nat.mod_eq_of_lt wide]
  exact pointOfCode?_code p

/-! ### Texts -/

/-- The signs that stand for a character behind a backslash: the marks for themselves, and letters
for control characters. -/
def signs : List (Char × Char) :=
  [('\\', '\\'), ('\x27', '\x27'), ('\x22', '\x22'), ('a', '\x07'), ('b', '\x08'), ('f', '\x0C'),
   ('n', '\n'), ('r', '\r'), ('t', '\t'), ('v', '\x0B')]

/-- The number of hexadecimal digits behind a letter that announces a code point. -/
def codeWidth? (c : Char) : Option Nat :=
  if c = 'x' then some 2 else if c = 'u' then some 4 else if c = 'U' then some 8 else none

/-- The octal digits in front, three at most. -/
def octalDigits (s : List Char) : List Char := (s.take 3).takeWhile fun c => '0' ≤ c ∧ c ≤ '7'

/-- What stands behind a backslash: the code points that it denotes, and what is left. An escaped
line end denotes nothing, and a sign without a meaning stands for itself with the backslash. The
names of characters and escaped carriage returns are left out. -/
def escape? : List Char → Option (List Point × List Char)
  | [] => none
  | c :: rest =>
    match signs.lookup c, codeWidth? c with
    | some d, _ => some ([.char d], rest)
    | none, some width =>
      if rest.length < width then none
      else (pointOfHex? (rest.take width)).map fun p => ([p], rest.drop width)
    | none, none =>
      if c = '\n' then some ([], rest)
      else if octalDigits (c :: rest) ≠ [] then
        some ([.char (Char.ofNat (Nat.ofDigitChars 8 (octalDigits (c :: rest)) 0))],
          (c :: rest).drop (octalDigits (c :: rest)).length)
      else if c = 'N' ∨ c = '\r' then none
      else some ([.char '\\', .char c], rest)

/-- `Inside mark s t`: the characters up to a closing mark, which is the last one, denote a text. -/
inductive Inside (mark : Char) : List Char → List Point → Prop where
  | close : Inside mark [mark] []
  | plain {c : Char} {s : List Char} {t : List Point} (other : c ≠ mark) (bare : c ≠ '\\')
      (online : c ≠ '\n' ∧ c ≠ '\r') (behind : Inside mark s t) :
      Inside mark (c :: s) (.char c :: t)
  | escape {s rest : List Char} {denoted t : List Point} (read : escape? s = some (denoted, rest))
      (behind : Inside mark rest t) : Inside mark ('\\' :: s) (denoted ++ t)

/-- The inside of a text denotes one text. -/
theorem Inside.unique {mark : Char} (enclosing : mark ≠ '\\') {s : List Char} {t t' : List Point}
    (inside : Inside mark s t) (inside' : Inside mark s t') : t = t' := by
  induction inside generalizing t' with
  | close =>
    cases inside' with
    | close => rfl
    | plain other => exact absurd rfl other
    | escape => exact absurd rfl enclosing
  | plain other bare online behind ih =>
    cases inside' with
    | close => exact absurd rfl other
    | plain _ _ _ behind' => rw [ih behind']
    | escape => exact absurd rfl bare
  | escape read behind ih =>
    cases inside' with
    | close => exact absurd rfl enclosing
    | plain _ bare => exact absurd rfl bare
    | escape read' behind' =>
      obtain ⟨rfl, rfl⟩ := Prod.mk.inj (Option.some.inj (read.symm.trans read'))
      rw [ih behind']

/-- A code point is read from as many digits as the letter in front announces. -/
theorem escape?_code {c : Char} {p : Point} {width : Nat} (announced : codeWidth? c = some width)
    (wide : p.code < 16 ^ width) (rest : List Char) :
    escape? (c :: (hexDigits width p.code ++ rest)) = some ([p], rest) := by
  have unlisted : signs.lookup c = none := by
    unfold codeWidth? at announced
    split_ifs at announced with two four eight
    · rw [two]; rfl
    · rw [four]; rfl
    · rw [eight]; rfl
  have length : (hexDigits width p.code).length = width := length_hexDigits width p.code
  have front : (hexDigits width p.code ++ rest).take width = hexDigits width p.code :=
    List.take_left' length
  have back : (hexDigits width p.code ++ rest).drop width = rest := List.drop_left' length
  rw [escape?, unlisted, announced]
  dsimp only
  rw [if_neg (by simp [length]), front, back, pointOfHex?_hexDigits wide]
  rfl

/-! ### Texts that are written -/

section Written

variable {mark : Char} {rest : List Char} {t : List Point}

/-- A character written by its code point is read back. -/
theorem inside_escapeCode (c : Char) (behind : Inside mark rest t) :
    Inside mark (escapeCode c ++ rest) (.char c :: t) := by
  unfold escapeCode
  split_ifs with two four
  · exact .escape (@escape?_code 'x' (.char c) 2 rfl two rest) behind
  · exact .escape (@escape?_code 'u' (.char c) 4 rfl four rest) behind
  · have eight : c.toNat < 16 ^ 8 := by
      have valid : c.toNat.isValidChar := c.valid
      rcases valid with low | ⟨-, high⟩ <;> omega
    exact .escape (@escape?_code 'U' (.char c) 8 rfl eight rest) behind

/-- A code point inside marks is read back. -/
theorem inside_escapePoint (enclosing : mark = '\x27' ∨ mark = '\x22') (p : Point)
    (behind : Inside mark rest t) : Inside mark (escapePoint mark p ++ rest) (p :: t) := by
  cases p with
  | half n =>
    have short : (Point.half n).code < 16 ^ 4 := by
      simp [Point.code]
      omega
    exact .escape (@escape?_code 'u' (.half n) 4 rfl short rest) behind
  | char c =>
    simp only [escapePoint, escapeChar]
    split_ifs with special tab feed carriage shown
    · refine @Inside.escape _ (c :: rest) rest [.char c] t ?_ behind
      rcases special with rfl | rfl
      · rcases enclosing with rfl | rfl <;> rfl
      · rfl
    · rw [tab]
      exact @Inside.escape _ ('t' :: rest) rest [.char '\t'] t rfl behind
    · rw [feed]
      exact @Inside.escape _ ('n' :: rest) rest [.char '\n'] t rfl behind
    · rw [carriage]
      exact @Inside.escape _ ('r' :: rest) rest [.char '\r'] t rfl behind
    · obtain ⟨other, bare⟩ := not_or.mp special
      exact .plain other bare ⟨feed, carriage⟩ behind
    · exact inside_escapeCode c behind

/-- The inside of a quoted text is read back. -/
theorem inside_flatMap_escapePoint (enclosing : mark = '\x27' ∨ mark = '\x22') (s : List Point) :
    Inside mark (s.flatMap (escapePoint mark) ++ [mark]) s := by
  induction s with
  | nil => exact .close
  | cons p rest ih =>
    rw [List.flatMap_cons, List.append_assoc]
    exact inside_escapePoint enclosing p ih

end Written

/-- A quoted text consists of characters that have printed forms. -/
theorem isPrintable_of_mem_quotePoints {s : List Point} {d : Char}
    (member : d ∈ (quotePoints s).toList) : isPrintable d = true := by
  have enclosing := quoteMark_eq (s.filterMap Point.char?)
  have mark : isPrintable (quoteMark (s.filterMap Point.char?)) = true := by
    rcases enclosing with eq | eq <;> rw [eq] <;> decide
  rw [quotePoints, String.toList_ofList] at member
  rcases List.mem_cons.mp member with rfl | member
  · exact mark
  · rcases List.mem_append.mp member with inside | last
    · obtain ⟨p, -, written⟩ := List.mem_flatMap.mp inside
      cases p with
      | char c => exact isPrintable_of_mem_escapeChar enclosing written
      | half n =>
        simp only [escapePoint, List.mem_cons] at written
        rcases written with rfl | rfl | digit
        · decide
        · decide
        · exact isPrintable_of_mem_hexDigits digit
    · rwa [List.mem_singleton.mp last]

end Text

/-! ### Integers -/

/-- The value of a digit of a base. -/
def digitOf? (base : Nat) (c : Char) : Option Nat := (Text.hexValue? c).filter (· < base)

/-- The digits of a base, with the separators between them taken out. -/
def digitsOf? (base : Nat) (s : List Char) : Option (List Char) :=
  Number.dropSeparators? (fun c => (digitOf? base c).isSome) s

/-- The number of some digits of a base, of which there is one at least. -/
def valueOf? (base : Nat) (digits : List Char) : Option Nat :=
  if digits.isEmpty then none
  else digits.foldlM (fun n c => (digitOf? base c).map (base * n + ·)) 0

/-- A number in decimal digits. Only zero starts with the digit zero. -/
def decimal? (s : List Char) : Option Nat := do
  let digits ← digitsOf? 10 s
  if digits.head? = some '0' ∧ digits.any (· ≠ '0') then none else valueOf? 10 digits

/-- The base that a letter behind the digit zero announces. -/
def announcedBase? (c : Char) : Option Nat :=
  if c = 'b' ∨ c = 'B' then some 2
  else if c = 'o' ∨ c = 'O' then some 8
  else if c = 'x' ∨ c = 'X' then some 16
  else none

/-- A number without a sign: decimal, or in the base that is announced. A separator may follow the
announcement. -/
def natural? (s : List Char) : Option Nat :=
  match s with
  | '0' :: letter :: rest =>
    match announcedBase? letter with
    | some base => do
      let digits ← digitsOf? base (if rest.head? = some '_' then rest.tail else rest)
      valueOf? base digits
    | none => decimal? s
  | _ => decimal? s

/-! ### Digits that are written -/

/-- A decimal digit has its value. -/
theorem digitOf?_of_isDigit {c : Char} (digit : c.isDigit = true) :
    digitOf? 10 c = some (c.toNat - 0x30) := by
  have bounds := digit
  simp only [Char.isDigit, Bool.and_eq_true, decide_eq_true_eq] at bounds
  have high : c.toNat ≤ 0x39 := UInt32.le_iff_toNat_le.mp bounds.2
  have small : c.toNat - 0x30 < 10 := by omega
  rw [digitOf?, Text.hexValue?, if_pos ⟨bounds.1, bounds.2⟩, Option.filter_some,
    if_pos (decide_eq_true small)]

/-- What has a value below ten is a decimal digit. -/
theorem isDigit_of_digitOf? {c : Char} {d : Nat} (value : digitOf? 10 c = some d) :
    c.isDigit = true := by
  obtain ⟨value, small⟩ := Option.filter_eq_some_iff.mp value
  have below : d < 10 := of_decide_eq_true small
  unfold Text.hexValue? at value
  split_ifs at value with digit lower upper
  · simp only [Char.isDigit, Bool.and_eq_true, decide_eq_true_eq]
    exact digit
  · have letter : 0x61 ≤ c.toNat := UInt32.le_iff_toNat_le.mp lower.1
    have := Option.some.inj value
    omega
  · have letter : 0x41 ≤ c.toNat := UInt32.le_iff_toNat_le.mp upper.1
    have := Option.some.inj value
    omega

/-- Without separators there is nothing to take out. -/
theorem dropSeparators?_of_not_mem {isDigit : Char → Bool} {s : List Char} (plain : '_' ∉ s) :
    Number.dropSeparators? isDigit s = some s := by
  fun_induction Number.dropSeparators? isDigit s with
  | case1 => rfl
  | case2 => exact absurd List.mem_cons_self plain
  | case3 => exact absurd (List.mem_cons_of_mem _ List.mem_cons_self) plain
  | case4 => exact absurd (List.mem_cons_of_mem _ List.mem_cons_self) plain
  | case5 c rest _ _ ih => rw [ih (fun inside => plain (List.mem_cons_of_mem c inside))]; rfl

/-- Decimal digits make up a number. -/
theorem foldlM_digitOf? {digits : List Char} (all : ∀ c ∈ digits, c.isDigit = true) (n : Nat) :
    digits.foldlM (fun n c => (digitOf? 10 c).map (10 * n + ·)) n
      = some (Nat.ofDigitChars 10 digits n) := by
  induction digits generalizing n with
  | nil => rfl
  | cons c rest ih =>
    obtain ⟨first, others⟩ := List.forall_mem_cons.mp all
    rw [List.foldlM_cons, digitOf?_of_isDigit first]
    exact ih others _

/-- No number but zero starts with the digit zero. -/
theorem head?_toDigits_ne {n : Nat} (positive : 0 < n) : (Nat.toDigits 10 n).head? ≠ some '0' := by
  induction n using Nat.strongRecOn with
  | _ n ih =>
    by_cases small : n < 10
    -- The first digit is the only one, or that of the number without its last digit.
    · rw [Nat.toDigits_of_lt_base small, List.head?_cons]
      intro zero
      have := Nat.digitChar_eq_zero.mp (Option.some.inj zero)
      omega
    · have front := ih (n / 10) (by omega) (by omega)
      rw [Nat.toDigits_of_base_le (by decide) (Nat.not_lt.mp small),
        List.head?_append_of_ne_nil _ Nat.toDigits_ne_nil]
      exact front

/-- The decimal digits of a number denote it. -/
theorem decimal?_toDigits (n : Nat) : decimal? (Nat.toDigits 10 n) = some n := by
  have all : ∀ c ∈ Nat.toDigits 10 n, c.isDigit = true := fun c member =>
    Nat.isDigit_of_mem_toDigits (by decide) (by decide) member
  have leading : ¬ ((Nat.toDigits 10 n).head? = some '0' ∧
      (Nat.toDigits 10 n).any (· ≠ '0') = true) := by
    rcases Nat.eq_zero_or_pos n with rfl | positive
    · decide
    · exact fun both => head?_toDigits_ne positive both.1
  have filled : (Nat.toDigits 10 n).isEmpty = false :=
    List.isEmpty_eq_false_iff.mpr Nat.toDigits_ne_nil
  rw [decimal?, digitsOf?, dropSeparators?_of_not_mem Nat.underscore_not_in_toDigits]
  change (if _ then none else valueOf? 10 (Nat.toDigits 10 n)) = _
  rw [if_neg leading, valueOf?, filled, if_neg Bool.false_ne_true, foldlM_digitOf? all,
    Nat.ofDigitChars_ten_toDigits]

/-- A digit announces no base. -/
theorem announcedBase?_of_isDigit {c : Char} (digit : c.isDigit = true) :
    announcedBase? c = none := by
  unfold announcedBase?
  split_ifs with two eight sixteen
  · rcases two with rfl | rfl <;> cases digit
  · rcases eight with rfl | rfl <;> cases digit
  · rcases sixteen with rfl | rfl <;> cases digit
  · rfl

/-- A number is written in decimal digits that denote it. -/
theorem natural?_toDigits (n : Nat) : natural? (Nat.toDigits 10 n) = some n := by
  have whole := decimal?_toDigits n
  unfold natural?
  split
  · rename_i letter rest digits
    have member : letter ∈ Nat.toDigits 10 n := by
      rw [digits]
      exact List.mem_cons_of_mem _ List.mem_cons_self
    rw [announcedBase?_of_isDigit (Nat.isDigit_of_mem_toDigits (by decide) (by decide) member)]
    exact whole
  · exact whole

/-- The first digit is not taken out. -/
theorem head?_of_dropSeparators? {isDigit : Char → Bool} {s digits : List Char}
    (read : Number.dropSeparators? isDigit s = some digits) : digits.head? = s.head? := by
  unfold Number.dropSeparators? at read
  split at read
  · rw [← Option.some.inj read]
  · cases read
  · split at read
    · obtain ⟨others, -, rfl⟩ := Option.map_eq_some_iff.mp read
      rfl
    · cases read
  · obtain ⟨others, -, rfl⟩ := Option.map_eq_some_iff.mp read
    rfl

/-- A decimal number starts with a digit. -/
theorem exists_of_decimal? {s : List Char} {n : Nat} (read : decimal? s = some n) :
    ∃ c rest, s = c :: rest ∧ c.isDigit = true := by
  obtain ⟨digits, taken, read⟩ := Option.bind_eq_some_iff.mp read
  have first := head?_of_dropSeparators? taken
  split at read
  · cases read
  · unfold valueOf? at read
    split at read
    · cases read
    · cases digits with
      | nil => rename_i filled; exact absurd rfl filled
      | cons c rest =>
        obtain ⟨others, same⟩ := List.head?_eq_some_iff.mp first.symm
        rw [List.foldlM_cons] at read
        obtain ⟨value, leads, -⟩ := Option.bind_eq_some_iff.mp read
        obtain ⟨d, digit, -⟩ := Option.map_eq_some_iff.mp leads
        exact ⟨c, others, same, isDigit_of_digitOf? digit⟩

/-- A number starts with a digit. -/
theorem exists_of_natural? {s : List Char} {n : Nat} (read : natural? s = some n) :
    ∃ c rest, s = c :: rest ∧ c.isDigit = true := by
  unfold natural? at read
  split at read
  · exact ⟨'0', _, rfl, rfl⟩
  · exact exists_of_decimal? read

/-! ### Literals -/

/-- A plain scalar: the absent value, a truth value, an integer, or a text of any code points. -/
inductive Scalar where
  | none
  | bool (b : Bool)
  | int (n : Int)
  | text (points : List Text.Point)
  deriving DecidableEq, Repr

/-- The plain scalar that a value is, if it is one. -/
def Value.scalar? : Value → Option Scalar
  | .none => some .none
  | .bool b => some (.bool b)
  | .int n => some (.int n)
  | .str s => some (.text (s.toList.map .char))
  | _ => Option.none

/-- The literal of a plain scalar, or why there is none. -/
def Scalar.literal : Scalar → Except LiteralFault String
  | .none => Value.none.literal
  | .bool b => (Value.bool b).literal
  | .int n => (Value.int n).literal
  | .text points => .ok (Text.quotePoints points)

/-- `LiteralOf s x`: the characters are a literal of a plain scalar. Texts with a letter in front or
in three marks are left out: no literal that is written starts as they do. -/
inductive LiteralOf : List Char → Scalar → Prop where
  | none : LiteralOf ['N', 'o', 'n', 'e'] .none
  | true : LiteralOf ['T', 'r', 'u', 'e'] (.bool true)
  | false : LiteralOf ['F', 'a', 'l', 's', 'e'] (.bool false)
  | natural {s : List Char} {n : Nat} (read : natural? s = some n) : LiteralOf s (.int n)
  | negative {s : List Char} {n : Nat} (read : natural? s = some n) :
      LiteralOf ('-' :: s) (.int (-n))
  | text {mark : Char} {s : List Char} {t : List Text.Point}
      (enclosing : mark = '\x27' ∨ mark = '\x22') (inside : Text.Inside mark s t) :
      LiteralOf (mark :: s) (.text t)

/-- A literal that starts with a digit is that of a number. -/
theorem natural?_of_literalOf {s : List Char} {n : Nat} (read : natural? s = some n) {x : Scalar}
    (literal : LiteralOf s x) : x = .int n := by
  obtain ⟨c, rest, rfl, digit⟩ := exists_of_natural? read
  cases literal with
  | natural read' => rw [Option.some.inj (read.symm.trans read')]
  | text enclosing => rcases enclosing with rfl | rfl <;> cases digit
  | none | true | false | negative => cases digit

/-- A literal denotes one value. -/
theorem LiteralOf.unique {s : List Char} {x y : Scalar} (literal : LiteralOf s x)
    (literal' : LiteralOf s y) : x = y := by
  cases literal with
  | natural read => exact (natural?_of_literalOf read literal').symm
  | none =>
    cases literal' with
    | none => rfl
    | natural read => exact natural?_of_literalOf read .none
    | text enclosing => rcases enclosing with mark | mark <;> cases mark
  | true =>
    cases literal' with
    | true => rfl
    | natural read => exact natural?_of_literalOf read .true
    | text enclosing => rcases enclosing with mark | mark <;> cases mark
  | false =>
    cases literal' with
    | false => rfl
    | natural read => exact natural?_of_literalOf read .false
    | text enclosing => rcases enclosing with mark | mark <;> cases mark
  | negative read =>
    cases literal' with
    | negative read' => rw [Option.some.inj (read.symm.trans read')]
    | natural read' => exact natural?_of_literalOf read' (.negative read)
    | text enclosing => rcases enclosing with mark | mark <;> cases mark
  | @text mark _ _ enclosing inside =>
    have bare : mark ≠ '\\' := by rcases enclosing with rfl | rfl <;> decide
    cases literal' with
    | text _ inside' => rw [inside.unique bare inside']
    | natural read => exact natural?_of_literalOf read (.text enclosing inside)
    | none | true | false | negative => rcases enclosing with mark | mark <;> cases mark

/-! ### Literals that are written -/

/-- An integer is written as a literal of it. -/
theorem literalOf_toString (n : Int) : LiteralOf (toString n).toList (.int n) := by
  rw [Int.toString_eq_repr, Int.repr_eq_if]
  split
  · rename_i positive
    have digits := LiteralOf.natural (natural?_toDigits n.toNat)
    rwa [Int.toNat_of_nonneg positive, ← Nat.toList_repr] at digits
  · rename_i negative
    have signed := LiteralOf.negative (natural?_toDigits (-n).toNat)
    rw [Int.toNat_of_nonneg (by omega), Int.neg_neg, ← Nat.toList_repr] at signed
    rw [String.toList_append]
    exact signed

/-- A text is written as a literal of it. -/
theorem literalOf_quotePoints (s : List Text.Point) :
    LiteralOf (Text.quotePoints s).toList (.text s) := by
  have enclosing := Text.quoteMark_eq (s.filterMap Text.Point.char?)
  rw [Text.quotePoints, String.toList_ofList]
  exact .text enclosing (Text.inside_flatMap_escapePoint enclosing s)

/-- The characters that end a line. -/
def Text.lineBreaks : List Char :=
  ['\n', '\x0B', '\x0C', '\r', '\x1C', '\x1D', '\x1E', '\x85', '\u2028', '\u2029']

/-- They have no printed form. -/
theorem Text.isPrintable_of_mem_lineBreaks {c : Char} (member : c ∈ lineBreaks) :
    isPrintable c = false := by
  have all : (lineBreaks.all fun c => !isPrintable c) = true := by decide +kernel
  simpa using List.all_eq_true.mp all c member

/-- A value without a fault has its literal. -/
theorem literal_eq_ok_iff {v : Value} {s : String} :
    v.literal = .ok s ↔ v.literalFault? = none ∧ v.literalText = s := by
  rw [Value.literal]
  cases v.literalFault? with
  | none => simp
  | some fault => simp

/-- A plain scalar has a literal unless it is an integer of too many digits. -/
theorem Scalar.exists_literal_iff (x : Scalar) :
    (∃ s, x.literal = .ok s) ↔ ∀ n, x = .int n → n.natAbs < Value.longInteger := by
  have scalar {v : Value} (plain : v.isPlain = true) :
      (∃ s, v.literal = .ok s) ↔ ∀ n, v = .int n → n.natAbs < Value.longInteger := by
    simp only [literal_eq_ok_iff, exists_and_left, exists_eq', and_true,
      literalFault?_of_isPlain plain]
  cases x with
  | none => simp [Scalar.literal, scalar (v := .none) rfl]
  | bool b => simp [Scalar.literal, scalar (v := .bool b) rfl]
  | int n => simp [Scalar.literal, scalar (v := .int n) rfl]
  | text points => simp [Scalar.literal]

/-- The literal of a plain scalar is one of it by the grammar, and has printed forms throughout. -/
theorem Scalar.literalOf_literal {x : Scalar} {s : String} (literal : x.literal = .ok s) :
    LiteralOf s.toList x ∧ ∀ c ∈ s.toList, Text.isPrintable c = true := by
  cases x with
  | none =>
    obtain ⟨-, rfl⟩ := (@literal_eq_ok_iff .none s).mp literal
    exact ⟨.none, fun c => Value.isPrintable_of_mem_literalText rfl⟩
  | bool b =>
    obtain ⟨-, rfl⟩ := (@literal_eq_ok_iff (.bool b) s).mp literal
    refine ⟨?_, fun c => Value.isPrintable_of_mem_literalText rfl⟩
    cases b with
    | true => exact .true
    | false => exact .false
  | int n =>
    obtain ⟨-, rfl⟩ := (@literal_eq_ok_iff (.int n) s).mp literal
    exact ⟨literalOf_toString n, fun c => Value.isPrintable_of_mem_literalText rfl⟩
  | text points =>
    obtain rfl := Except.ok.inj literal
    exact ⟨literalOf_quotePoints points, fun c => Text.isPrintable_of_mem_quotePoints⟩

/-- A value that is a plain scalar has the literal of the scalar. -/
theorem Value.literal_of_scalar? {v : Value} {x : Scalar} (scalar : v.scalar? = some x) :
    v.literal = x.literal := by
  cases v with
  | str s =>
    obtain rfl := Option.some.inj scalar
    exact congrArg Except.ok (Text.quotePoints_map_char s).symm
  | none | bool b | int n =>
    obtain rfl := Option.some.inj scalar
    rfl
  | _ => cases scalar

/-- A plain scalar has a literal unless it is an integer of too many digits. The literal stands on
one line and has a printed form throughout, and by the grammar it denotes the scalar and no other
one. So plain scalars with the same literal are the same, as are the values that they are. -/
theorem literal_reads_back (x : Scalar) :
    ((∃ s, x.literal = .ok s) ↔ ∀ n, x = .int n → n.natAbs < Value.longInteger) ∧
      (∀ s, x.literal = .ok s →
        (∀ c ∈ s.toList, Text.isPrintable c = true ∧ c ∉ Text.lineBreaks) ∧
        (∀ y, LiteralOf s.toList y ↔ y = x) ∧
        ∀ y : Scalar, y.literal = .ok s → y = x) ∧
      ∀ v : Value, v.scalar? = some x → v.literal = x.literal := by
  refine ⟨x.exists_literal_iff, fun s literal => ?_, fun v => v.literal_of_scalar?⟩
  obtain ⟨denotes, printed⟩ := Scalar.literalOf_literal literal
  refine ⟨fun c member => ⟨printed c member, fun breaks => ?_⟩, fun y => ⟨?_, ?_⟩,
    fun y literal' => ?_⟩
  · have shown := printed c member
    rw [Text.isPrintable_of_mem_lineBreaks breaks] at shown
    cases shown
  · exact fun denotes' => denotes'.unique denotes
  · rintro rfl
    exact denotes
  · exact (Scalar.literalOf_literal literal').1.unique denotes

/-- A text with escapes of three kinds and half of a pair is enclosed in double quotes, since it
holds a single one. -/
example : Text.quotePoints (("it's\n\u2028".toList.map .char) ++ [.half 0])
    = "\"it's\\n\\u2028\\ud800\"" := by
  decide +kernel

/-- An integer of too many digits is a plain scalar without a literal. -/
theorem long_literal_missing :
    (Value.int Value.longInteger).isPlain = true ∧
      (Value.int Value.longInteger).literal = .error .tooLong := by
  have long : (Value.int Value.longInteger).literalFault? = some .tooLong := by
    rw [Value.literalFault?_eq_tooLong_iff, Value.isTooLong, Int.natAbs_natCast]
    exact ⟨decide_eq_true (Nat.le_refl _), rfl⟩
  exact ⟨rfl, by rw [Value.literal, long]⟩

end KeyTree
