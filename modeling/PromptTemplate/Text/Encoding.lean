import PromptTemplate.Text.LowerCase
import PromptTemplate.Text.Utf16
import PromptTemplate.Text.Utf8
/-!
# Encodings

The ways in which the octets of a file can be read as a text. Besides UTF-8 there are UTF-16 with
the low octet first, the two that give each octet a character of its own, and those that write the
octets down as digits. An encoding is asked for by name, in whatever case.
-/

namespace PromptTemplate

/-- A way to read octets as a text. -/
inductive Encoding where
  | utf8
  | utf16
  /-- Each octet is a character. -/
  | latin1
  /-- Each octet is a character once its highest bit is taken off. -/
  | ascii
  | hex
  | base64
  /-- The digits that a web address may hold, without a filling. -/
  | base64Url
  deriving Repr, DecidableEq

namespace Encoding

open Text

/-- The names of the encodings. -/
def names : List (String × Encoding) :=
  [("utf8", .utf8), ("utf-8", .utf8), ("ucs2", .utf16), ("ucs-2", .utf16), ("utf16le", .utf16),
    ("utf-16le", .utf16), ("latin1", .latin1), ("binary", .latin1), ("ascii", .ascii),
    ("hex", .hex), ("base64", .base64), ("base64url", .base64Url)]

/-- The encoding that a name stands for. -/
def ofName? (name : String) : Option Encoding :=
  names.lookup (String.ofList (lower name.toList))

/-- Two octets a unit, the low one first; an octet without a partner is left out. -/
def units : List UInt8 → List UInt16
  | low :: high :: octets => (low.toUInt16 + 256 * high.toUInt16) :: units octets
  | _ => []

/-- Two hexadecimal digits for each octet. -/
def hexDigits (octets : List UInt8) : List Char :=
  octets.flatMap fun b => [Nat.digitChar (b.toNat / 16), Nat.digitChar (b.toNat % 16)]

/-- The digit of six bits; the last two of the sixty-four depend on the encoding. -/
def sixBitChar (last : Char × Char) (n : Nat) : Char :=
  if n < 26 then Char.ofNat ('A'.toNat + n)
  else if n < 52 then Char.ofNat ('a'.toNat + (n - 26))
  else if n < 62 then Char.ofNat ('0'.toNat + (n - 52))
  else if n = 62 then last.1
  else last.2

/-- Four digits for three octets; `filling` stands for each digit that is missing at the end. -/
def sixBitDigits (last : Char × Char) (filling : List Char) : List UInt8 → List Char
  | a :: b :: c :: octets =>
    let n := a.toNat * 0x10000 + b.toNat * 0x100 + c.toNat
    [n / 0x40000, n / 0x1000 % 0x40, n / 0x40 % 0x40, n % 0x40].map (sixBitChar last) ++
      sixBitDigits last filling octets
  | [a, b] =>
    let n := a.toNat * 0x400 + b.toNat * 4
    [n / 0x1000, n / 0x40 % 0x40, n % 0x40].map (sixBitChar last) ++ filling
  | [a] =>
    let n := a.toNat * 0x10
    [n / 0x40, n % 0x40].map (sixBitChar last) ++ filling ++ filling
  | [] => []

/-- The text that octets stand for. -/
def decode (octets : List UInt8) : Encoding → String
  | utf8 => Text.decode octets
  | utf16 => (Utf16.mk (units octets)).text
  | latin1 => String.ofList (octets.map fun b => Char.ofNat b.toNat)
  | ascii => String.ofList (octets.map fun b => Char.ofNat (b.toNat % 128))
  | hex => String.ofList (hexDigits octets)
  | base64 => String.ofList (sixBitDigits ('+', '/') ['='] octets)
  | base64Url => String.ofList (sixBitDigits ('-', '_') [] octets)

/-! ## Facts -/

example : ofName? "UTF-8" = some .utf8 ∧ ofName? "utf9" = none := by decide +kernel

example : decode [0x4D, 0xC3, 0x3D, 0xD8, 0x00, 0xDE] .latin1 = "MÃ=Ø\x00Þ" ∧
    decode [0x41, 0x00, 0x3D, 0xD8, 0x00, 0xDE] .utf16 = "A😀" ∧
    decode [0xC1, 0xFF] .ascii = "A\x7F" ∧ decode [0xFB, 0xEF, 0xBE, 0x01] .base64 = "++++AQ==" ∧
    decode [0xFB, 0x0F] .hex = "fb0f" := by decide +kernel

end Encoding

end PromptTemplate
