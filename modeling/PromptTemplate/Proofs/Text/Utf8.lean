import PromptTemplate.Text.Utf8
/-!
# Reading what was written

The octets of a text read back as that text, whatever its characters are (`decode_encode`). Read
from the left they never break a character off, since the octets of each one announce how many
there are, so that it is complete before the next begins (`decodeFrom_encodeChar_append`).
-/

namespace PromptTemplate.Text

/-! ## Octets -/

section

variable {n following bits low high : Nat} {p : Pending}

theorem toNat_toUInt8 (h : n < 256) : n.toUInt8.toNat = n := by
  rw [Nat.toUInt8, UInt8.toNat_ofNat']
  omega

theorem decodeFrom_narrow (h : n < 0x80) (bs : List UInt8) :
    decodeFrom none (n.toUInt8 :: bs) = Char.ofNat n :: decodeFrom none bs := by
  rw [decodeFrom, toNat_toUInt8 (by omega), step, begin, if_pos h]
  rfl

theorem decodeFrom_lead (hlead : lead? n = some p) (hlow : 0x80 ≤ n) (hhigh : n < 256)
    (bs : List UInt8) : decodeFrom none (n.toUInt8 :: bs) = decodeFrom (some p) bs := by
  rw [decodeFrom, toNat_toUInt8 hhigh, step, begin, if_neg (by omega), hlead]
  rfl

/-- An octet that another must follow. -/
theorem decodeFrom_inner (hrange : low ≤ n ∧ n ≤ high) (hhigh : n < 256) (hmore : 1 < following)
    (bs : List UInt8) :
    decodeFrom (some ⟨following, bits, low, high⟩) (n.toUInt8 :: bs) =
      decodeFrom (some ⟨following - 1, bits * 0x40 + (n - 0x80), 0x80, 0xBF⟩) bs := by
  rw [decodeFrom, toNat_toUInt8 hhigh, step, if_pos hrange]
  dsimp only
  rw [if_neg (by omega)]
  rfl

/-- The last octet of a character. -/
theorem decodeFrom_last (hrange : low ≤ n ∧ n ≤ high) (hhigh : n < 256) (hlast : following ≤ 1)
    (bs : List UInt8) :
    decodeFrom (some ⟨following, bits, low, high⟩) (n.toUInt8 :: bs) =
      Char.ofNat (bits * 0x40 + (n - 0x80)) :: decodeFrom none bs := by
  rw [decodeFrom, toNat_toUInt8 hhigh, step, if_pos hrange]
  dsimp only
  rw [if_pos hlast]
  rfl

end

/-! ## Leading octets -/

theorem lead?_two {n : Nat} (hlow : 0x80 ≤ n) (hhigh : n < 0x800) :
    lead? (0xC0 + n / 0x40) = some ⟨1, n / 0x40, 0x80, 0xBF⟩ := by
  rw [lead?, if_pos (by omega), Nat.add_sub_cancel_left]

/-- The range of the second octet leaves out nothing that is not written with fewer octets, and no
character: surrogates are none. -/
theorem exists_lead?_three {n : Nat} (hlow : 0x800 ≤ n) (hhigh : n < 0x10000)
    (hchar : n < 0xD800 ∨ 0xE000 ≤ n) :
    ∃ low high, lead? (0xE0 + n / 0x1000) = some ⟨2, n / 0x1000, low, high⟩ ∧
      low ≤ 0x80 + n / 0x40 % 0x40 ∧ 0x80 + n / 0x40 % 0x40 ≤ high := by
  unfold lead?
  rw [if_neg (by omega)]
  by_cases hfirst : n / 0x1000 = 0
  · rw [hfirst, if_pos rfl]
    exact ⟨_, _, rfl, by omega, by omega⟩
  · rw [if_neg (by omega)]
    by_cases hbefore : n / 0x1000 = 0x0D
    · rw [hbefore, if_pos rfl]
      exact ⟨_, _, rfl, by omega, by omega⟩
    · rw [if_neg (by omega), if_pos (by omega), Nat.add_sub_cancel_left]
      exact ⟨_, _, rfl, by omega, by omega⟩

theorem exists_lead?_four {n : Nat} (hlow : 0x10000 ≤ n) (hhigh : n < 0x110000) :
    ∃ low high, lead? (0xF0 + n / 0x40000) = some ⟨3, n / 0x40000, low, high⟩ ∧
      low ≤ 0x80 + n / 0x1000 % 0x40 ∧ 0x80 + n / 0x1000 % 0x40 ≤ high := by
  unfold lead?
  rw [if_neg (by omega), if_neg (by omega), if_neg (by omega), if_neg (by omega)]
  by_cases hfirst : n / 0x40000 = 0
  · rw [hfirst, if_pos rfl]
    exact ⟨_, _, rfl, by omega, by omega⟩
  · rw [if_neg (by omega)]
    by_cases hlast : n / 0x40000 = 4
    · rw [hlast, if_neg (by omega), if_pos rfl]
      exact ⟨_, _, rfl, by omega, by omega⟩
    · rw [if_pos (by omega), Nat.add_sub_cancel_left]
      exact ⟨_, _, rfl, by omega, by omega⟩

/-! ## Texts -/

theorem decodeFrom_encodeChar_append (c : Char) (bs : List UInt8) :
    decodeFrom none (encodeChar c ++ bs) = c :: decodeFrom none bs := by
  have hc : Char.ofNat c.toNat = c := Char.ofNat_toNat c
  have hrange := toNat_range c
  unfold encodeChar
  generalize c.toNat = n at hc hrange
  dsimp only
  split
  · next hone =>
    rw [List.singleton_append, decodeFrom_narrow hone, hc]
  · split
    · next hone htwo =>
      have hbits : n / 0x40 * 0x40 + (0x80 + n % 0x40 - 0x80) = n := by omega
      rw [List.cons_append, List.singleton_append,
        decodeFrom_lead (lead?_two (by omega) htwo) (by omega) (by omega),
        decodeFrom_last (by omega) (by omega) (by decide), hbits, hc]
    · split
      · next htwo hthree =>
        obtain ⟨low, high, hlead, hlow, hhigh⟩ :=
          exists_lead?_three (n := n) (by omega) hthree (by omega)
        have hbits : (n / 0x1000 * 0x40 + (0x80 + n / 0x40 % 0x40 - 0x80)) * 0x40 +
            (0x80 + n % 0x40 - 0x80) = n := by omega
        rw [List.cons_append, List.cons_append, List.singleton_append,
          decodeFrom_lead hlead (by omega) (by omega),
          decodeFrom_inner ⟨hlow, hhigh⟩ (by omega) (by decide),
          decodeFrom_last (by omega) (by omega) (by decide), hbits, hc]
      · next hthree =>
        obtain ⟨low, high, hlead, hlow, hhigh⟩ :=
          exists_lead?_four (n := n) (by omega) (by omega)
        have hbits : ((n / 0x40000 * 0x40 + (0x80 + n / 0x1000 % 0x40 - 0x80)) * 0x40 +
            (0x80 + n / 0x40 % 0x40 - 0x80)) * 0x40 + (0x80 + n % 0x40 - 0x80) = n := by omega
        rw [List.cons_append, List.cons_append, List.cons_append, List.singleton_append,
          decodeFrom_lead hlead (by omega) (by omega),
          decodeFrom_inner ⟨hlow, hhigh⟩ (by omega) (by decide),
          decodeFrom_inner (by omega) (by omega) (by decide),
          decodeFrom_last (by omega) (by omega) (by decide), hbits, hc]

theorem decodeFrom_flatMap_encodeChar (cs : List Char) :
    decodeFrom none (cs.flatMap encodeChar) = cs := by
  induction cs with
  | nil => rfl
  | cons c cs ih => rw [List.flatMap_cons, decodeFrom_encodeChar_append, ih]

/-- **Round trip.** The octets of a text stand for that text. -/
theorem decode_encode (s : String) : decode (encode s) = s := by
  rw [decode, encode, decodeFrom_flatMap_encodeChar, String.ofList_toList]

end PromptTemplate.Text
