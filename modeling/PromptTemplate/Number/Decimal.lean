import PromptTemplate.Number.Integer
/-!
# Decimal numbers

A decimal number is a sign, a digit string and a power of ten, as it stands in a text. It is worth
the nearest binary floating-point number: a significand of at most 53 bits times a power of two
from `2 ^ -1074` on, below `2 ^ 1024`. `Decimal.text` writes that number with the fewest digits
that read back as it, and of several such the nearest; a tie goes to the even digit.
-/

namespace PromptTemplate.Number

/-- The number `± digits * 10 ^ exponent`. -/
structure Decimal where
  negative : Bool
  digits : Nat
  exponent : Int
  deriving Repr, DecidableEq

/-- A positive binary number: `significand * 2 ^ exponent`. -/
structure Binary where
  significand : Nat
  exponent : Int
  deriving Repr, DecidableEq

/-- What a number is worth, its sign apart. -/
inductive Magnitude where
  | zero
  | finite (value : Binary)
  | infinite
  deriving Repr, DecidableEq

namespace Decimal

/-- An integer as a decimal number. -/
def ofInt (z : Int) : Decimal := ⟨decide (z < 0), z.natAbs, 0⟩

/-- A natural number as a decimal number. -/
def ofNat (n : Nat) : Decimal := ⟨false, n, 0⟩

/-- The quotient rounded to the nearest integer; a tie goes to the even one. -/
def divRound (num den : Nat) : Nat :=
  let q := num / den
  let r := num % den
  if 2 * r < den ∨ (2 * r = den ∧ q % 2 = 0) then q else q + 1

/-- A fraction `num / den` times `2 ^ shift`, as a fraction. -/
def scaleBinary (num den : Nat) (shift : Int) : Nat × Nat :=
  (num * Nat.pow 2 shift.toNat, den * Nat.pow 2 (-shift).toNat)

/-- The nearest binary number to the fraction `num / den`, which is not zero. -/
def nearestBinary (num den : Nat) : Magnitude :=
  let guess := max (-1074) ((num.log2 : Int) - den.log2 - 52)
  let (n, d) := scaleBinary num den (-guess)
  let exponent := if n / d < significandEnd / 2 then max (-1074) (guess - 1) else guess
  let (n, d) := scaleBinary num den (-exponent)
  let m := divRound n d
  if m = 0 then .zero
  else
    let value : Binary :=
      if m = significandEnd then ⟨significandEnd / 2, exponent + 1⟩ else ⟨m, exponent⟩
    if value.exponent > 971 then .infinite else .finite value

/-- What a decimal number is worth. -/
def magnitude (x : Decimal) : Magnitude :=
  if x.digits = 0 then .zero
  else
    let order := x.exponent + (natDigits x.digits).length
    if order > 310 then .infinite
    else if order < -330 then .zero
    else nearestBinary (x.digits * Nat.pow 10 x.exponent.toNat) (Nat.pow 10 (-x.exponent).toNat)

/-- The fraction of a binary number. -/
def fraction (b : Binary) : Nat × Nat := scaleBinary b.significand 1 b.exponent

/-- The fraction `num / den` is worth the binary number. -/
def readsAs (b : Binary) (num den : Nat) : Bool := nearestBinary num den == .finite b

/-- The number `digits * 10 ^ exponent` is worth the binary number. -/
def candidate? (b : Binary) (digits : Nat) (exponent : Int) : Bool :=
  digits != 0 && readsAs b (digits * Nat.pow 10 exponent.toNat) (Nat.pow 10 (-exponent).toNat)

/-- The greatest `e ≤ start` with `10 ^ e ≤ num / den`, looking at no more than `fuel` of them. -/
def leadingPower (num den : Nat) : Nat → Int → Int
  | 0, e => e
  | fuel + 1, e =>
    if den * Nat.pow 10 e.toNat ≤ num * Nat.pow 10 (-e).toNat then e
    else leadingPower num den fuel (e - 1)

/-- The fewest digits, from `n` on, that are worth the binary number, with their power of ten. -/
def shortestFrom (b : Binary) (power : Int) : Nat → Nat → Nat × Int
  | 0, _ => (0, 0)
  | fuel + 1, n =>
    let exponent := power - n + 1
    let (num, den) := fraction b
    let num := num * Nat.pow 10 (-exponent).toNat
    let den := den * Nat.pow 10 exponent.toNat
    let below := num / den
    let above := below + 1
    match candidate? b below exponent, candidate? b above exponent with
    | true, true =>
      (divRound num den, exponent)
    | true, false => (below, exponent)
    | false, true => (above, exponent)
    | false, false => shortestFrom b power fuel (n + 1)

/-- The fewest digits that are worth the binary number, with their power of ten. -/
def shortest (b : Binary) : Nat × Int :=
  let (num, den) := fraction b
  let power := leadingPower num den 700 (((num.log2 : Int) - den.log2) * 302 / 1000 + 2)
  shortestFrom b power 18 1

/-- Digits without their trailing zeros. -/
def stripZeros (digits : List Char) : List Char :=
  (digits.reverse.dropWhile (· == '0')).reverse

/-- The text of `digits * 10 ^ exponent`: positional when the first digit stands from the seventh
place behind the point to the twenty-first before it, else with a power of ten. -/
def layout (digits : Nat) (exponent : Int) : String :=
  let all := natDigits digits
  let shown := stripZeros all
  let k : Int := shown.length
  let point : Int := all.length + exponent
  if k ≤ point ∧ point ≤ 21 then
    String.ofList (shown ++ List.replicate (point - k).toNat '0')
  else if 0 < point ∧ point ≤ 21 then
    String.ofList (shown.take point.toNat ++ '.' :: shown.drop point.toNat)
  else if -6 < point ∧ point ≤ 0 then
    "0." ++ String.ofList (List.replicate (-point).toNat '0' ++ shown)
  else
    let tail := shown.drop 1
    let mantissa := shown.take 1 ++ if tail.isEmpty then [] else '.' :: tail
    let power := point - 1
    String.ofList mantissa ++ "e" ++ (if power < 0 then "-" else "+") ++ natText power.natAbs

/-- The text of a number; `none` if it is infinite. -/
def text? (x : Decimal) : Option String :=
  match x.magnitude with
  | .zero => some "0"
  | .infinite => none
  | .finite b =>
    let (digits, exponent) := shortest b
    some ((if x.negative then "-" else "") ++ layout digits exponent)

/-- The text of a number, infinite or not. -/
def text (x : Decimal) : String :=
  match x.text? with
  | some s => s
  | none => if x.negative then "-Infinity" else "Infinity"

/-- The integer that a decimal number is, if it is one. -/
def toInt? (x : Decimal) : Option Int :=
  let whole : Option Nat :=
    if 0 ≤ x.exponent then some (x.digits * Nat.pow 10 x.exponent.toNat)
    else
      let unit := Nat.pow 10 (-x.exponent).toNat
      if x.digits % unit = 0 then some (x.digits / unit) else none
  whole.map fun n => if x.negative then -(n : Int) else n

end Decimal

end PromptTemplate.Number
