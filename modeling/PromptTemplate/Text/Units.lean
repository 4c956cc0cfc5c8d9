/-!
# Sixteen-bit units

Lengths, cuts and the sort order of this library count text in sixteen-bit units: a character
above U+FFFF takes two of them, a high and a low surrogate, every other character one.

A cut may fall between the two halves of such a character. Where a text is made of characters, each
half that is left over reads as the replacement character U+FFFD.
-/

namespace PromptTemplate.Text

/-- The mark that stands for what cannot be read as a character. -/
def replacement : Char := '\uFFFD'

/-- The character takes two units. -/
def isWide (c : Char) : Bool := 0x10000 ≤ c.toNat

/-- The units of one character. -/
def unitsOf (c : Char) : List UInt16 :=
  let n := c.toNat
  if isWide c then
    [UInt16.ofNat (0xD800 + (n - 0x10000) / 0x400), UInt16.ofNat (0xDC00 + (n - 0x10000) % 0x400)]
  else [UInt16.ofNat n]

/-- The unit is the first half of a wide character. -/
def isHighSurrogate (u : UInt16) : Bool := 0xD800 ≤ u.toNat && u.toNat < 0xDC00

/-- The unit is the second half of a wide character. -/
def isLowSurrogate (u : UInt16) : Bool := 0xDC00 ≤ u.toNat && u.toNat < 0xE000

/-- The character whose halves are given. -/
def joinHalves (high low : UInt16) : Char :=
  Char.ofNat (0x10000 + (high.toNat - 0xD800) * 0x400 + (low.toNat - 0xDC00))

/-- All but the last unit, and the last unit. -/
def cutLastUnit? : List Char → Option (List Char × Char)
  | [] => none
  | [c] => some (if isWide c then ([replacement], replacement) else ([], c))
  | c :: d :: cs => (cutLastUnit? (d :: cs)).map fun cut => (c :: cut.1, cut.2)

/-! ## Facts -/

/-- The code points that are characters: all but the surrogates. -/
theorem toNat_range (c : Char) : c.toNat < 0xD800 ∨ 0xE000 ≤ c.toNat ∧ c.toNat < 0x110000 := by
  have h := c.valid
  simp only [UInt32.isValidChar, Nat.isValidChar] at h
  simp only [Char.toNat]
  omega

theorem unitsOf_narrow {c : Char} (h : isWide c = false) : unitsOf c = [UInt16.ofNat c.toNat] := by
  simp [unitsOf, h]

theorem unitsOf_wide {c : Char} (h : isWide c = true) :
    unitsOf c = [UInt16.ofNat (0xD800 + (c.toNat - 0x10000) / 0x400),
      UInt16.ofNat (0xDC00 + (c.toNat - 0x10000) % 0x400)] := by
  simp [unitsOf, h]

theorem cutLastUnit?_eq_none_iff (cs : List Char) : cutLastUnit? cs = none ↔ cs = [] := by
  induction cs with
  | nil => simp [cutLastUnit?]
  | cons c rest ih =>
    cases rest with
    | nil => simp [cutLastUnit?]
    | cons d rest => simpa [cutLastUnit?] using ih

end PromptTemplate.Text
