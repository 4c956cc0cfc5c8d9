import PromptTemplate.Number.Rounding
/-!
# Integer texts

An integer text is an optional sign followed by one or more ASCII digits and nothing else: no
blanks, no separators, no exponent. Its value is rounded as numbers are and must then be safe, so
a text of any length reads exactly or not at all.

`intText` writes an integer without leading zeros.
-/

namespace PromptTemplate.Number

/-- The value of an ASCII digit. -/
def digit? (c : Char) : Option Nat :=
  if '0' ≤ c ∧ c ≤ '9' then some (c.toNat - '0'.toNat) else none

/-- The value of digits read after the number `acc`. -/
def digitsFrom? (acc : Nat) : List Char → Option Nat
  | [] => some acc
  | c :: cs => (digit? c).bind fun d => digitsFrom? (10 * acc + d) cs

/-- The value of one or more digits. -/
def digits? (cs : List Char) : Option Nat := if cs.isEmpty then none else digitsFrom? 0 cs

/-- The rounded value of an exact integer, if it is safe. -/
def safe? (exact : Int) : Option Int :=
  let value := round exact
  if isSafe value then some value else none

/-- The value of an integer text with an optional `+`. -/
def unsigned? (cs : List Char) : Option Nat :=
  let value :=
    match cs with
    | '+' :: ds => digits? ds
    | ds => digits? ds
  value.bind fun n => (safe? (n : Int)).map Int.toNat

/-- The value of an integer text with an optional `+` or `-`. -/
def signed? (cs : List Char) : Option Int :=
  let value : Option Int :=
    match cs with
    | '+' :: ds => (digits? ds).map Int.ofNat
    | '-' :: ds => (digits? ds).map fun n => -(n : Int)
    | ds => (digits? ds).map Int.ofNat
  value.bind safe?

/-! ## Writing -/

/-- The digit of a value below ten. -/
def digitChar (d : Nat) : Char := Char.ofNat ('0'.toNat + d)

/-- The digits of a number, the most significant first. -/
def natDigits (n : Nat) : List Char :=
  if n < 10 then [digitChar n] else natDigits (n / 10) ++ [digitChar (n % 10)]
termination_by n

/-- The decimal text of a number. -/
def natText (n : Nat) : String := String.ofList (natDigits n)

/-- The decimal text of an integer. -/
def intText (z : Int) : String :=
  if z < 0 then "-" ++ natText z.natAbs else natText z.natAbs

/-- A text behind enough copies of `fill` to have `width` characters. -/
def padLeft (width : Nat) (fill : Char) (s : String) : String :=
  String.ofList (List.replicate (width - s.length) fill) ++ s

/-! ## Facts -/

theorem natDigits_ne_nil (n : Nat) : natDigits n ≠ [] := by
  unfold natDigits
  split <;> simp

end PromptTemplate.Number
