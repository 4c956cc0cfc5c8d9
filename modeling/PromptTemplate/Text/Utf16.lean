import PromptTemplate.Text.Units
/-!
# Texts in sixteen-bit units

The data of a job is text in sixteen-bit units, which may hold a surrogate without its partner:
files can spell one out, and a cut may fall between two partners. Such a unit is kept as it is, and
two halves that come to stand side by side make a character. What a text spells is worked out only
when it is shown (`Utf16.text`); a unit that has no partner then reads as U+FFFD.

A text of characters goes in by `Utf16.ofString` and comes out unchanged (`text_ofString`).
-/

namespace PromptTemplate

/-- A text in sixteen-bit units. -/
structure Utf16 where
  units : List UInt16
  deriving Repr, DecidableEq, Inhabited

/-- What stands at one place of a text: a character, or a surrogate without a partner. -/
inductive Spelled where
  | char (c : Char)
  | lone (unit : UInt16)
  deriving Repr, DecidableEq

/-- The character that is shown. -/
def Spelled.shown : Spelled → Char
  | char c => c
  | lone _ => Text.replacement

namespace Utf16

open Text

/-- The text of characters. -/
def ofChars (cs : List Char) : Utf16 := ⟨cs.flatMap unitsOf⟩

/-- The text of a string. -/
def ofString (s : String) : Utf16 := ofChars s.toList

instance : Coe String Utf16 := ⟨ofString⟩

instance : Append Utf16 := ⟨fun a b => ⟨a.units ++ b.units⟩⟩

/-- What a unit without a partner spells. -/
def spellOne (u : UInt16) : Spelled :=
  if isHighSurrogate u || isLowSurrogate u then .lone u else .char (Char.ofNat u.toNat)

/-- What units spell. -/
def spell : List UInt16 → List Spelled
  | [] => []
  | [u] => [spellOne u]
  | u :: v :: us =>
    if isHighSurrogate u && isLowSurrogate v then .char (joinHalves u v) :: spell us
    else spellOne u :: spell (v :: us)

/-- The text as it is shown. -/
def text (t : Utf16) : String := String.ofList ((spell t.units).map Spelled.shown)

/-- How many units a text has. -/
def size (t : Utf16) : Nat := t.units.length

/-- The first `n` units. -/
def take (t : Utf16) (n : Nat) : Utf16 := ⟨t.units.take n⟩

/-- How many lines a text has. -/
def lineCount (t : Utf16) : Nat := t.units.count 10 + 1

/-- One text stands before another: at the first unit that differs its unit is smaller, or it ends
there. Character for character that is the code-point order, but for the wide characters, whose
high surrogate sorts before U+E000 to U+FFFF. -/
def lt (a b : Utf16) : Bool := a.units.lex b.units fun x y => decide (x.toNat < y.toNat)

/-- One text does not stand behind another. -/
def le (a b : Utf16) : Bool := !lt b a

/-- The texts in ascending order. -/
def sort (ts : List Utf16) : List Utf16 := ts.mergeSort le

/-- The strings in ascending order of their units. -/
def sortStrings (ss : List String) : List String :=
  ss.mergeSort fun a b => (ofString a).le (ofString b)

/-! ## Facts -/

@[simp] theorem units_append (a b : Utf16) : (a ++ b).units = a.units ++ b.units := rfl

@[simp] theorem size_append (a b : Utf16) : (a ++ b).size = a.size + b.size := by simp [size]

theorem append_assoc (a b c : Utf16) : a ++ b ++ c = a ++ (b ++ c) := by
  show Utf16.mk (a.units ++ b.units ++ c.units) = ⟨a.units ++ (b.units ++ c.units)⟩
  rw [List.append_assoc]

@[simp] theorem ofString_empty : ofString "" = ⟨[]⟩ := rfl

@[simp] theorem append_empty (t : Utf16) : t ++ ⟨[]⟩ = t := by
  show Utf16.mk (t.units ++ []) = t
  rw [List.append_nil]

@[simp] theorem empty_append (t : Utf16) : (⟨[]⟩ : Utf16) ++ t = t := rfl

theorem ofString_append (a b : String) : ofString (a ++ b) = ofString a ++ ofString b := by
  show Utf16.mk _ = Utf16.mk _
  simp [ofString, ofChars, String.toList_append]

theorem spellOne_unitsOf {c : Char} (h : isWide c = false) :
    isHighSurrogate (UInt16.ofNat c.toNat) = false ∧
      spellOne (UInt16.ofNat c.toNat) = .char c := by
  have hr := toNat_range c
  simp only [isWide, decide_eq_false_iff_not, Nat.not_le] at h
  have hn : (UInt16.ofNat c.toNat).toNat = c.toNat := by
    rw [UInt16.toNat_ofNat']
    omega
  have hh : isHighSurrogate (UInt16.ofNat c.toNat) = false := by
    rw [isHighSurrogate, hn]
    simp only [Bool.and_eq_false_iff, decide_eq_false_iff_not]
    omega
  have hl : isLowSurrogate (UInt16.ofNat c.toNat) = false := by
    rw [isLowSurrogate, hn]
    simp only [Bool.and_eq_false_iff, decide_eq_false_iff_not]
    omega
  refine ⟨hh, ?_⟩
  rw [spellOne, hh, hl, hn]
  simp

theorem joinHalves_unitsOf {c : Char} (h : 0x10000 ≤ c.toNat) :
    isHighSurrogate (UInt16.ofNat (0xD800 + (c.toNat - 0x10000) / 0x400)) = true ∧
      isLowSurrogate (UInt16.ofNat (0xDC00 + (c.toNat - 0x10000) % 0x400)) = true ∧
        joinHalves (UInt16.ofNat (0xD800 + (c.toNat - 0x10000) / 0x400))
          (UInt16.ofNat (0xDC00 + (c.toNat - 0x10000) % 0x400)) = c := by
  have hr := toNat_range c
  have hhi : (UInt16.ofNat (0xD800 + (c.toNat - 0x10000) / 0x400)).toNat =
      0xD800 + (c.toNat - 0x10000) / 0x400 := by
    rw [UInt16.toNat_ofNat']
    omega
  have hlo : (UInt16.ofNat (0xDC00 + (c.toNat - 0x10000) % 0x400)).toNat =
      0xDC00 + (c.toNat - 0x10000) % 0x400 := by
    rw [UInt16.toNat_ofNat']
    omega
  refine ⟨?_, ?_, ?_⟩
  · rw [isHighSurrogate, hhi, Bool.and_eq_true, decide_eq_true_eq, decide_eq_true_eq]
    omega
  · rw [isLowSurrogate, hlo, Bool.and_eq_true, decide_eq_true_eq, decide_eq_true_eq]
    omega
  · rw [joinHalves, hhi, hlo]
    have hn : 0x10000 + (0xD800 + (c.toNat - 0x10000) / 0x400 - 0xD800) * 0x400 +
        (0xDC00 + (c.toNat - 0x10000) % 0x400 - 0xDC00) = c.toNat := by omega
    rw [hn, Char.ofNat_toNat]

theorem spell_unitsOf_append (c : Char) (us : List UInt16) :
    spell (unitsOf c ++ us) = .char c :: spell us := by
  cases h : isWide c with
  | false =>
    obtain ⟨hh, ho⟩ := spellOne_unitsOf h
    rw [unitsOf_narrow h]
    cases us with
    | nil => simp [spell, ho]
    | cons v us => simp [spell, hh, ho]
  | true =>
    obtain ⟨hh, hl, hj⟩ := joinHalves_unitsOf (of_decide_eq_true h)
    rw [unitsOf_wide h]
    simp only [List.cons_append, List.nil_append, spell, hh, hl, hj, Bool.and_self, if_true]

theorem spell_ofChars (cs : List Char) : spell (ofChars cs).units = cs.map Spelled.char := by
  induction cs with
  | nil => rfl
  | cons c cs ih =>
    simp only [ofChars, List.flatMap_cons, spell_unitsOf_append, List.map_cons]
    rw [← ih]
    rfl

@[simp] theorem text_ofString (s : String) : (ofString s).text = s := by
  rw [text, ofString, spell_ofChars, List.map_map]
  have h : Spelled.shown ∘ Spelled.char = id := rfl
  rw [h, List.map_id, String.ofList_toList]

theorem ofString_injective {a b : String} (h : ofString a = ofString b) : a = b := by
  rw [← text_ofString a, h, text_ofString]

theorem sort_perm (ts : List Utf16) : (sort ts).Perm ts := List.mergeSort_perm ts le

end Utf16

end PromptTemplate
