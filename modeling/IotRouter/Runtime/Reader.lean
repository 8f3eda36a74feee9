import Mathlib.Algebra.Group.Nat.Defs
import Mathlib.Data.List.Infix
import Mathlib.Data.List.TakeWhile
import Mathlib.Tactic.Common

/-!
# Readers of text

A reader takes characters from the front of a text and fails or leaves the rest.
A reader that never takes a certain character is local at it: what comes after
that character makes no difference to it. Locality is kept by the ways to make
readers, and turns a statement about a text put together at such a character into
one about its parts.
-/

namespace IotRouter.Runtime

/-- What is read, and the rest of the text. -/
abbrev Reader (α : Type) := StateT (List Char) Option α

namespace Reader

variable {α β : Type}

def char (expected : Char) : Reader Unit
  | found :: rest => if found = expected then some ((), rest) else none
  | [] => none

/-- Read if it goes well, and nothing otherwise. -/
def attempt (reader : Reader α) : Reader (Option α) := fun input =>
  match reader input with
  | some (value, rest) => some (some value, rest)
  | none => some (none, input)

/-- `char::to_digit` -/
def toDigit (radix : Nat) (found : Char) : Option Nat :=
  let value :=
    if found.isDigit then found.toNat - 48
    else if found.isLower then found.toNat - 87
    else if found.isUpper then found.toNat - 55
    else radix
  if value < radix then some value else none

def splitDigits (radix : Nat) : List Char → List Nat × List Char
  | [] => ([], [])
  | found :: rest =>
      match toDigit radix found with
      | some digit =>
          (digit :: (splitDigits radix rest).1, (splitDigits radix rest).2)
      | none => ([], found :: rest)

/-- The digits at the front, as many as there are. -/
def digits (radix : Nat) : Reader (List Nat) := fun input =>
  some (splitDigits radix input)

def numeral (radix : Nat) (digits : List Nat) : Nat :=
  digits.foldl (fun value digit => radix * value + digit) 0

/-- Take nothing, and fail if there is no value. -/
def ofOption (value : Option α) : Reader α := fun input =>
  value.map fun value => (value, input)

/-- The number that digits stand for, if there are any, `maxDigits` at most if
that is given, no leading zero unless it is allowed, and the number is below
`bound`. -/
def numberOf (radix : Nat) (maxDigits : Option Nat) (allowZeroPrefix : Bool)
    (bound : Nat) (digits : List Nat) : Option Nat :=
  if digits ≠ [] ∧ (∀ most ∈ maxDigits, digits.length ≤ most) ∧
      (allowZeroPrefix = false → 1 < digits.length → digits.head? ≠ some 0) ∧
      numeral radix digits < bound then
    some (numeral radix digits)
  else none

def number (radix : Nat) (maxDigits : Option Nat) (allowZeroPrefix : Bool)
    (bound : Nat) : Reader Nat := do
  let found ← digits radix
  ofOption (numberOf radix maxDigits allowZeroPrefix bound found)

/-- Read the whole text. -/
def whole (reader : Reader α) (input : List Char) : Option α :=
  match reader input with
  | some (value, []) => some value
  | _ => none

/-! ## What is read -/

section Inversion

variable {input rest : List Char}

theorem bind_eq_some {reader : Reader α} {next : α → Reader β} {found : β} :
    (reader >>= next) input = some (found, rest) ↔
      ∃ value left, reader input = some (value, left) ∧
        next value left = some (found, rest) := by
  show (reader input).bind (fun read => next read.1 read.2) = _ ↔ _
  rw [Option.bind_eq_some_iff, Prod.exists]

theorem map_eq_some {reader : Reader α} {f : α → β} {found : β} :
    (f <$> reader) input = some (found, rest) ↔
      ∃ value, reader input = some (value, rest) ∧ f value = found := by
  show (reader >>= fun value => pure (f value)) input = _ ↔ _
  rw [bind_eq_some]
  constructor
  · rintro ⟨value, left, here, same⟩
    cases same
    exact ⟨value, here, rfl⟩
  · rintro ⟨value, here, rfl⟩
    exact ⟨value, rest, here, rfl⟩

theorem char_eq_some {expected : Char} {read : Unit} :
    char expected input = some (read, rest) ↔ input = expected :: rest := by
  cases read
  cases input with
  | nil => simp [Reader.char]
  | cons found input =>
      simp only [Reader.char, List.cons.injEq]
      split <;> simp_all

/-- A character is read without a look at what comes after it. -/
theorem char_append {expected : Char} (some_ : input ≠ []) (after : List Char) :
    char expected (input ++ after) =
      (char expected input).map (Prod.map id (· ++ after)) := by
  cases input with
  | nil => exact absurd rfl some_
  | cons found input =>
      simp only [Reader.char, List.cons_append]
      split <;> rfl

theorem whole_eq_some {reader : Reader α} {found : α} :
    reader.whole input = some found ↔ reader input = some (found, []) := by
  simp only [whole]
  split <;> simp_all

theorem whole_bind {reader : Reader α} {next : α → Reader β} :
    (reader >>= next).whole input =
      (reader input).bind fun read => (next read.1).whole read.2 := by
  show (match (reader input).bind fun read => next read.1 read.2 with
    | some (value, []) => some value
    | _ => none) = _
  cases reader input <;> rfl

theorem whole_map {reader : Reader α} {f : α → β} :
    (f <$> reader).whole input = (reader.whole input).map f := by
  show (match (reader input).bind fun read => some (f read.1, read.2) with
    | some (value, []) => some value
    | _ => none) = (reader.whole input).map f
  rw [whole]
  cases reader input with
  | none => rfl
  | some read =>
      rcases read with ⟨value, rest⟩
      cases rest <;> rfl

end Inversion

/-! ## What a reader takes -/

/-- The rest is a part of the text. -/
def Leaves (reader : Reader α) : Prop :=
  ∀ input value rest, reader input = some (value, rest) → rest <:+ input

/-- What comes after `stop` makes no difference. -/
def Local (stop : Char) (reader : Reader α) : Prop :=
  ∀ input after, reader (input ++ stop :: after) =
    (reader input).map (Prod.map id (· ++ stop :: after))

theorem Leaves.pure (value : α) : Leaves (pure value : Reader α) := by
  intro input found rest read
  cases read
  exact List.suffix_rfl

theorem Leaves.ofOption (value : Option α) : Leaves (ofOption value) := by
  intro input found rest read
  rcases Option.map_eq_some_iff.mp read with ⟨_, _, same⟩
  rw [show rest = input from (congrArg Prod.snd same).symm]

theorem Leaves.bind {reader : Reader α} {next : α → Reader β}
    (first : Leaves reader) (second : ∀ value, Leaves (next value)) :
    Leaves (reader >>= next) := by
  intro input value rest read
  rcases Option.bind_eq_some_iff.mp read with ⟨⟨middle, left⟩, here, onward⟩
  exact (second middle left value rest onward).trans
    (first input middle left here)

theorem Leaves.map {reader : Reader α} (leaves : Leaves reader) (f : α → β) :
    Leaves (f <$> reader) :=
  leaves.bind fun value => .pure (f value)

theorem Leaves.char (expected : Char) : Leaves (char expected) := by
  intro input value rest read
  cases input with
  | nil => cases read
  | cons found input =>
      simp only [Reader.char] at read
      split at read <;> cases read
      exact List.suffix_cons _ _

theorem Leaves.attempt {reader : Reader α} (leaves : Leaves reader) :
    Leaves (attempt reader) := by
  intro input value rest read
  simp only [Reader.attempt] at read
  split at read <;> cases read
  · exact leaves _ _ _ ‹_›
  · exact List.suffix_rfl

theorem splitDigits_suffix (radix : Nat) (input : List Char) :
    (splitDigits radix input).2 <:+ input := by
  induction input with
  | nil => exact List.suffix_rfl
  | cons found input ih =>
      simp only [splitDigits]
      split
      · exact ih.trans (List.suffix_cons _ _)
      · exact List.suffix_rfl

theorem Leaves.digits (radix : Nat) : Leaves (digits radix) := by
  intro input value rest read
  have same := congrArg Prod.snd (Option.some.inj read)
  rw [← show _ = rest from same]
  exact splitDigits_suffix radix input

theorem Local.pure {stop : Char} (value : α) :
    Local stop (pure value : Reader α) := by
  intro input after
  rfl

theorem Local.ofOption {stop : Char} (value : Option α) :
    Local stop (ofOption value) := by
  intro input after
  cases value <;> rfl

theorem Local.bind {stop : Char} {reader : Reader α} {next : α → Reader β}
    (first : Local stop reader) (second : ∀ value, Local stop (next value)) :
    Local stop (reader >>= next) := by
  intro input after
  show (reader (input ++ stop :: after)).bind (fun read => next read.1 read.2) =
    ((reader input).bind fun read => next read.1 read.2).map _
  rw [first input after, Option.map_bind]
  cases reader input with
  | none => rfl
  | some read => exact second read.1 read.2 after

theorem Local.map {stop : Char} {reader : Reader α} (here : Local stop reader) (f : α → β) :
    Local stop (f <$> reader) :=
  here.bind fun value => .pure (f value)

theorem Local.char {stop expected : Char} (different : expected ≠ stop) :
    Local stop (char expected) := by
  intro input after
  cases input with
  | nil => simp [Reader.char, Ne.symm different]
  | cons found input =>
      simp only [Reader.char, List.cons_append]
      split <;> rfl

theorem Local.attempt {stop : Char} {reader : Reader α}
    (here : Local stop reader) : Local stop (attempt reader) := by
  intro input after
  simp only [Reader.attempt, here input after]
  cases reader input <;> rfl

theorem splitDigits_stop {radix : Nat} {stop : Char}
    (none : toDigit radix stop = none) (input after : List Char) :
    splitDigits radix (input ++ stop :: after) =
      Prod.map id (· ++ stop :: after) (splitDigits radix input) := by
  induction input with
  | nil => simp [splitDigits, none]
  | cons found input ih =>
      simp only [List.cons_append, splitDigits, ih]
      split <;> rfl

theorem Local.digits {radix : Nat} {stop : Char}
    (none : toDigit radix stop = none) : Local stop (digits radix) := by
  intro input after
  simp only [Reader.digits, splitDigits_stop none, Option.map_some]

section Number

variable {radix : Nat} {maxDigits : Option Nat} {allowZeroPrefix : Bool}
  {bound : Nat}

theorem Leaves.number :
    Leaves (number radix maxDigits allowZeroPrefix bound) := by
  apply Leaves.bind (.digits radix)
  intro found
  exact .ofOption _

theorem Local.number {stop : Char} (none : toDigit radix stop = none) :
    Local stop (number radix maxDigits allowZeroPrefix bound) := by
  apply Local.bind (.digits none)
  intro found
  exact .ofOption _

end Number

/-! ## Decimal numbers -/

theorem toDigit_ten (found : Char) :
    toDigit 10 found =
      if found.isDigit then some (found.toNat - 48) else none := by
  simp only [toDigit]
  split
  · rename_i digit
    simp only [Char.isDigit, Bool.and_eq_true, decide_eq_true_eq] at digit
    have upper : found.toNat ≤ 57 := UInt32.le_iff_toNat_le.mp digit.2
    rw [if_pos (by omega)]
  · rw [if_neg]
    split
    · rename_i lower
      have bound : 97 ≤ found.toNat := UInt32.le_iff_toNat_le.mp
        (of_decide_eq_true (Bool.and_eq_true_iff.mp lower).1)
      omega
    · split
      · rename_i upper
        have bound : 65 ≤ found.toNat :=
          UInt32.le_iff_toNat_le.mp (of_decide_eq_true upper).1
        omega
      · omega

theorem splitDigits_ten (input : List Char) :
    splitDigits 10 input =
      ((input.takeWhile Char.isDigit).map (·.toNat - 48),
        input.dropWhile Char.isDigit) := by
  induction input with
  | nil => rfl
  | cons found input ih =>
      simp only [splitDigits, toDigit_ten, ih]
      cases digit : found.isDigit with
      | true => simp [digit]
      | false => simp [digit]

theorem numeral_ten (digits : List Char) :
    numeral 10 (digits.map (·.toNat - 48)) = Nat.ofDigitChars 10 digits 0 := by
  rw [numeral, List.foldl_map]
  rfl

/-- A numeral of more than one digit does not begin with a zero. -/
theorem head_toDigits (value : Nat)
    (long : 1 < (Nat.toDigits 10 value).length) :
    (Nat.toDigits 10 value).head? ≠ some '0' := by
  induction value using Nat.strongRecOn with
  | ind value ih =>
      by_cases short : value < 10
      · rw [Nat.toDigits_of_lt_base short] at long
        exact absurd long (Nat.lt_irrefl 1)
      rw [Nat.toDigits_of_base_le (by decide) (Nat.not_lt.mp short),
        List.head?_append_of_ne_nil _ Nat.toDigits_ne_nil]
      by_cases tens : value / 10 < 10
      · rw [Nat.toDigits_of_lt_base tens]
        intro zero
        have front : value / 10 = 0 :=
          Nat.digitChar_eq_zero.mp (Option.some.inj zero)
        omega
      · apply ih (value / 10) (by omega)
        rw [Nat.toDigits_of_base_le (by decide) (Nat.not_lt.mp tens),
          List.length_append, List.length_singleton]
        have positive := @Nat.length_toDigits_pos 10 (value / 10 / 10)
        omega

/-- Digits without a leading zero are the numeral of their value. -/
theorem toDigits_ofDigitChars {digits : List Char} (some_ : digits ≠ [])
    (all : ∀ digit ∈ digits, digit.isDigit = true)
    (front : 1 < digits.length → digits.head? ≠ some '0') :
    Nat.toDigits 10 (Nat.ofDigitChars 10 digits 0) = digits := by
  induction digits using List.reverseRecOn with
  | nil => exact absurd rfl some_
  | append_singleton digits last ih =>
      have digit : last.isDigit = true := all last (by simp)
      simp only [Char.isDigit, Bool.and_eq_true, decide_eq_true_eq] at digit
      have lower : 48 ≤ last.toNat := UInt32.le_iff_toNat_le.mp digit.1
      have upper : last.toNat ≤ 57 := UInt32.le_iff_toNat_le.mp digit.2
      have value : Nat.ofDigitChars 10 (digits ++ [last]) 0 =
          10 * Nat.ofDigitChars 10 digits 0 + (last.toNat - 48) := by
        rw [Nat.ofDigitChars_append, Nat.ofDigitChars_cons, Nat.ofDigitChars_nil]
        rfl
      have same : Nat.digitChar (last.toNat - 48) = last := by
        apply Char.toNat_inj.mp
        rw [Nat.toNat_digitChar_of_lt_ten (by omega)]
        omega
      cases digits with
      | nil =>
          rw [value, Nat.ofDigitChars_nil,
            Nat.toDigits_of_lt_base (by omega : _ < 10), Nat.mul_zero,
            Nat.zero_add, same]
          rfl
      | cons first digits =>
          have before := ih (List.cons_ne_nil _ _)
            (fun digit member => all digit (List.mem_append_left _ member))
            (fun _ => front (by simp))
          have positive : 0 < Nat.ofDigitChars 10 (first :: digits) 0 := by
            apply Nat.pos_of_ne_zero
            intro zero
            rw [zero, Nat.toDigits_zero] at before
            exact front (by simp) (congrArg List.head? before.symm)
          rw [value, ← Nat.toDigits_append_toDigits (by decide) positive
            (by omega), before, Nat.toDigits_of_lt_base (by omega), same]

section Decimal

variable {maxDigits : Option Nat} {allowZeroPrefix : Bool} {bound value : Nat}
variable {input rest : List Char}

/-- What `number` makes of the decimal digits at the front. -/
theorem number_ten : number 10 maxDigits allowZeroPrefix bound input =
    (numberOf 10 maxDigits allowZeroPrefix bound
      ((input.takeWhile Char.isDigit).map (·.toNat - 48))).map fun value =>
        (value, input.dropWhile Char.isDigit) := by
  show ofOption (numberOf 10 maxDigits allowZeroPrefix bound
    (splitDigits 10 input).1) (splitDigits 10 input).2 = _
  rw [splitDigits_ten]
  rfl

/-- A digit stands for zero only if it is one. -/
theorem head_map_digits {digits : List Char}
    (all : ∀ digit ∈ digits, digit.isDigit = true) :
    (digits.map (·.toNat - 48)).head? = some 0 ↔ digits.head? = some '0' := by
  cases digits with
  | nil => simp
  | cons digit digits =>
      have isDigit := all digit List.mem_cons_self
      simp only [Char.isDigit, Bool.and_eq_true, decide_eq_true_eq] at isDigit
      have lower : 48 ≤ digit.toNat := UInt32.le_iff_toNat_le.mp isDigit.1
      simp only [List.map_cons, List.head?_cons, Option.some.injEq]
      rw [← Char.toNat_inj]
      show digit.toNat - 48 = 0 ↔ digit.toNat = 48
      omega

theorem numberOf_ten {digits : List Char}
    (all : ∀ digit ∈ digits, digit.isDigit = true) :
    numberOf 10 maxDigits allowZeroPrefix bound (digits.map (·.toNat - 48)) =
        some value ↔
      (digits ≠ [] ∧ (∀ most ∈ maxDigits, digits.length ≤ most) ∧
        (allowZeroPrefix = false → 1 < digits.length →
          digits.head? ≠ some '0')) ∧
        Nat.ofDigitChars 10 digits 0 = value ∧ value < bound := by
  rw [numberOf, Option.ite_none_right_eq_some, Option.some.injEq, numeral_ten,
    ne_eq, ne_eq, head_map_digits all, List.map_eq_nil_iff, List.length_map]
  constructor
  · rintro ⟨⟨some_, most, front, below⟩, rfl⟩
    exact ⟨⟨some_, most, front⟩, rfl, below⟩
  · rintro ⟨⟨some_, most, front⟩, rfl, below⟩
    exact ⟨⟨some_, most, front, below⟩, rfl⟩

/-- Nothing but the digits of a numeral is taken from it. -/
theorem takeWhile_toDigits (stops : ∀ next ∈ rest.head?, next.isDigit = false) :
    (Nat.toDigits 10 value ++ rest).takeWhile Char.isDigit =
        Nat.toDigits 10 value ∧
      (Nat.toDigits 10 value ++ rest).dropWhile Char.isDigit = rest := by
  have all : ∀ digit ∈ Nat.toDigits 10 value, digit.isDigit = true :=
    fun digit member => Nat.isDigit_of_mem_toDigits (by decide) (by decide) member
  have stopped : rest.takeWhile Char.isDigit = [] ∧
      rest.dropWhile Char.isDigit = rest := by
    cases rest with
    | nil => exact ⟨rfl, rfl⟩
    | cons next rest =>
        have stops := stops next rfl
        simp [stops]
  rw [List.takeWhile_append_of_pos all, List.dropWhile_append_of_pos all,
    stopped.1, stopped.2, List.append_nil]
  exact ⟨rfl, rfl⟩

/-- Where leading zeros are not allowed, exactly the numerals below the bound are
read. -/
theorem number_canonical {most : Nat} (positive : 0 < most)
    (enough : bound ≤ 10 ^ most) :
    number 10 (some most) false bound input = some (value, rest) ↔
      value < bound ∧ input = Nat.toDigits 10 value ++ rest ∧
        ∀ next ∈ rest.head?, next.isDigit = false := by
  rw [number_ten, Option.map_eq_some_iff]
  constructor
  · rintro ⟨found, isNumber, same⟩
    cases same
    rcases (numberOf_ten fun _ => List.mem_takeWhile_imp).mp isNumber with
      ⟨⟨some_, _, front⟩, rfl, below⟩
    refine ⟨below, ?_, ?_⟩
    · rw [toDigits_ofDigitChars some_ (fun _ => List.mem_takeWhile_imp)
        (front rfl), List.takeWhile_append_dropWhile]
    · intro next isNext
      have stops := List.head?_dropWhile_not Char.isDigit input
      rw [Option.mem_def.mp isNext] at stops
      exact stops
  · rintro ⟨below, rfl, stops⟩
    rcases takeWhile_toDigits stops with ⟨taken, left⟩
    rw [taken, left]
    refine ⟨value, (numberOf_ten ?_).mpr ⟨⟨Nat.toDigits_ne_nil, ?_, ?_⟩,
      Nat.ofDigitChars_ten_toDigits, below⟩, rfl⟩
    · exact fun digit member =>
        Nat.isDigit_of_mem_toDigits (by decide) (by decide) member
    · intro limit isLimit
      cases isLimit
      exact (Nat.length_toDigits_le_iff (by decide) positive).mpr
        (Nat.lt_of_lt_of_le below enough)
    · exact fun _ => head_toDigits value

/-- Where they are allowed and the length is not limited, every numeral is
read. -/
theorem number_toDigits (below : value < bound)
    (stops : ∀ next ∈ rest.head?, next.isDigit = false) :
    number 10 none true bound (Nat.toDigits 10 value ++ rest) =
      some (value, rest) := by
  rcases takeWhile_toDigits stops with ⟨taken, left⟩
  have isNumber : numberOf 10 none true bound
      ((Nat.toDigits 10 value).map (·.toNat - 48)) = some value := by
    refine (numberOf_ten ?_).mpr ⟨⟨Nat.toDigits_ne_nil, by simp, by simp⟩,
      Nat.ofDigitChars_ten_toDigits, below⟩
    exact fun digit member =>
      Nat.isDigit_of_mem_toDigits (by decide) (by decide) member
  rw [number_ten, taken, left, isNumber, Option.map_some]

end Decimal

/-! ## Hexadecimal numbers -/

theorem toDigit_digitChar {digit : Nat} (small : digit < 16) :
    toDigit 16 (Nat.digitChar digit) = some digit := by
  have all : ∀ digit < 16, toDigit 16 (Nat.digitChar digit) = some digit := by
    decide
  exact all digit small

/-- A hexadecimal numeral by the values of its digits. -/
theorem exists_digits (value : Nat) : ∃ digits : List Nat,
    Nat.toDigits 16 value = digits.map Nat.digitChar ∧
      (∀ digit ∈ digits, digit < 16) ∧ numeral 16 digits = value := by
  induction value using Nat.strongRecOn with
  | ind value ih =>
      by_cases short : value < 16
      · refine ⟨[value], Nat.toDigits_of_lt_base short, ?_, ?_⟩
        · intro digit member
          rw [List.mem_singleton.mp member]
          exact short
        · simp [numeral]
      · rcases ih (value / 16) (by omega) with ⟨digits, text, small, reads⟩
        refine ⟨digits ++ [value % 16], ?_, ?_, ?_⟩
        · rw [Nat.toDigits_of_base_le (by decide) (Nat.not_lt.mp short), text,
            List.map_append, List.map_singleton]
        · intro digit member
          rcases List.mem_append.mp member with front | last
          · exact small digit front
          · rw [List.mem_singleton.mp last]
            exact Nat.mod_lt value (by decide)
        · rw [numeral, List.foldl_append, ← numeral, reads]
          simp only [List.foldl_cons, List.foldl_nil]
          omega

theorem notMem_toDigits {found : Char}
    (other : ∀ digit < 16, Nat.digitChar digit ≠ found) (value : Nat) :
    found ∉ Nat.toDigits 16 value := by
  rcases exists_digits value with ⟨digits, text, small, _⟩
  rw [text]
  intro member
  rcases List.mem_map.mp member with ⟨digit, listed, same⟩
  exact other digit (small digit listed) same

/-- What comes next does not continue a hexadecimal number. -/
def StopsHex (rest : List Char) : Prop :=
  ∀ next ∈ rest.head?, toDigit 16 next = none

theorem StopsHex.cons {next : Char} {rest : List Char}
    (stops : toDigit 16 next = none) : StopsHex (next :: rest) := by
  intro first isNext
  cases isNext
  exact stops

/-- Then it does not continue a decimal number either. -/
theorem StopsHex.decimal {rest : List Char} (stops : StopsHex rest) :
    ∀ next ∈ rest.head?, next.isDigit = false := by
  intro next isNext
  apply Bool.eq_false_iff.mpr
  intro digit
  have noDigit := stops next isNext
  simp only [toDigit, digit, if_true, ite_eq_right_iff, reduceCtorEq,
    imp_false] at noDigit
  simp only [Char.isDigit, Bool.and_eq_true, decide_eq_true_eq] at digit
  have upper : next.toNat ≤ 57 := UInt32.le_iff_toNat_le.mp digit.2
  omega

section Hexadecimal

variable {rest : List Char}

theorem splitDigits_digitChars {digits : List Nat}
    (small : ∀ digit ∈ digits, digit < 16) (stops : StopsHex rest) :
    splitDigits 16 (digits.map Nat.digitChar ++ rest) = (digits, rest) := by
  induction digits with
  | nil =>
      cases rest with
      | nil => rfl
      | cons next rest => simp [splitDigits, stops next rfl]
  | cons digit digits ih =>
      rcases List.forall_mem_cons.mp small with ⟨here, small⟩
      simp only [List.map_cons, List.cons_append, splitDigits,
        toDigit_digitChar here, ih small]

/-- Every hexadecimal numeral that is short enough is read. -/
theorem number_hexDigits {most bound value : Nat} (positive : 0 < most)
    (short : value < 16 ^ most) (below : value < bound) (stops : StopsHex rest) :
    number 16 (some most) true bound (Nat.toDigits 16 value ++ rest) =
      some (value, rest) := by
  rcases exists_digits value with ⟨digits, text, small, reads⟩
  have limited : digits.length ≤ most := by
    have limited := (Nat.length_toDigits_le_iff (by decide : 1 < 16)
      positive).mpr short
    rwa [text, List.length_map] at limited
  have nonempty : digits ≠ [] := by
    intro empty
    have nonempty := @Nat.toDigits_ne_nil value 16
    rw [text, empty] at nonempty
    exact nonempty rfl
  have isNumber : numberOf 16 (some most) true bound digits = some value := by
    rw [numberOf, if_pos, reads]
    refine ⟨nonempty, ?_, by simp, reads ▸ below⟩
    intro limit isLimit
    cases isLimit
    exact limited
  rw [text]
  show ofOption (numberOf 16 (some most) true bound
    (splitDigits 16 (digits.map Nat.digitChar ++ rest)).1)
    (splitDigits 16 (digits.map Nat.digitChar ++ rest)).2 = _
  rw [splitDigits_digitChars small stops]
  simp [ofOption, isNumber]

end Hexadecimal

/-! ## Whole texts -/

/-- A reader that is local at a character that comes next leaves something. -/
theorem Local.whole_eq_none {stop : Char} {reader : Reader α}
    (here : Local stop reader) (input after : List Char) :
    whole reader (input ++ stop :: after) = none := by
  simp only [whole, here input after]
  cases reader input with
  | none => rfl
  | some read =>
      rcases read with ⟨value, rest⟩
      cases rest <;> rfl

end Reader

end IotRouter.Runtime
