import PromptTemplate.Text.Units
/-!
# UTF-8

`encode` writes a text as octets and `decode` reads any octets as a text. Octets that are not the
encoding of a text still decode: each maximal beginning of an encoded character that breaks off,
and each octet that begins none, reads as one replacement character. A byte-order mark is an
ordinary character.
-/

namespace PromptTemplate.Text

/-- What a leading octet announces: how many octets follow, the bits it carries, and the range
that the first of the following octets must lie in. -/
structure Lead where
  following : Nat
  bits : Nat
  low : Nat
  high : Nat
  deriving Repr, DecidableEq

/-- The well-formed leading octets above 0x7F. The narrowed ranges keep out overlong forms,
surrogates and everything above U+10FFFF. -/
def lead? (b : Nat) : Option Lead :=
  if 0xC2 ≤ b ∧ b ≤ 0xDF then some ⟨1, b - 0xC0, 0x80, 0xBF⟩
  else if b = 0xE0 then some ⟨2, 0, 0xA0, 0xBF⟩
  else if b = 0xED then some ⟨2, 0x0D, 0x80, 0x9F⟩
  else if 0xE1 ≤ b ∧ b ≤ 0xEF then some ⟨2, b - 0xE0, 0x80, 0xBF⟩
  else if b = 0xF0 then some ⟨3, 0, 0x90, 0xBF⟩
  else if 0xF1 ≤ b ∧ b ≤ 0xF3 then some ⟨3, b - 0xF0, 0x80, 0xBF⟩
  else if b = 0xF4 then some ⟨3, 4, 0x80, 0x8F⟩
  else none

/-- A character that is being read: the octets still to come, the bits so far and the range of the
next octet. -/
abbrev Pending := Lead

/-- Begin a character at an octet: the characters that are complete, and the one begun. -/
def begin (n : Nat) : List Char × Option Pending :=
  if n < 0x80 then ([Char.ofNat n], none)
  else
    match lead? n with
    | some p => ([], some p)
    | none => ([replacement], none)

/-- Read one octet. One that cannot continue the pending character breaks it off and begins
another. -/
def step (pending : Option Pending) (n : Nat) : List Char × Option Pending :=
  match pending with
  | none => begin n
  | some p =>
    if p.low ≤ n ∧ n ≤ p.high then
      let bits := p.bits * 0x40 + (n - 0x80)
      if p.following ≤ 1 then ([Char.ofNat bits], none)
      else ([], some ⟨p.following - 1, bits, 0x80, 0xBF⟩)
    else (replacement :: (begin n).1, (begin n).2)

/-- The characters that the octets stand for, after those of a pending character. -/
def decodeFrom : Option Pending → List UInt8 → List Char
  | none, [] => []
  | some _, [] => [replacement]
  | pending, b :: bs =>
    let (complete, next) := step pending b.toNat
    complete ++ decodeFrom next bs

/-- The text that octets stand for. -/
def decode (bytes : List UInt8) : String := String.ofList (decodeFrom none bytes)

/-- The octets of one character. -/
def encodeChar (c : Char) : List UInt8 :=
  let n := c.toNat
  if n < 0x80 then [n.toUInt8]
  else if n < 0x800 then [(0xC0 + n / 0x40).toUInt8, (0x80 + n % 0x40).toUInt8]
  else if n < 0x10000 then
    [(0xE0 + n / 0x1000).toUInt8, (0x80 + n / 0x40 % 0x40).toUInt8, (0x80 + n % 0x40).toUInt8]
  else
    [(0xF0 + n / 0x40000).toUInt8, (0x80 + n / 0x1000 % 0x40).toUInt8,
      (0x80 + n / 0x40 % 0x40).toUInt8, (0x80 + n % 0x40).toUInt8]

/-- The octets of a text. -/
def encode (s : String) : List UInt8 := s.toList.flatMap encodeChar

end PromptTemplate.Text
