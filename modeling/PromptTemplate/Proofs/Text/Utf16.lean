import PromptTemplate.Text.Utf16
/-!
# What units spell

Nothing is lost by spelling: the pieces that units spell have just those units again
(`flatMap_units_spell`). A text is therefore known from how it is shown, as long as it is shown
without U+FFFD, which may stand for a surrogate without a partner (`toList_text_eq_iff`).

The cut that takes the last unit off a text gives what the two pieces show
(`toList_text_of_cutLastUnit?`).
-/

namespace PromptTemplate

open Text

/-- The units of a piece of a text. -/
def Spelled.units : Spelled → List UInt16
  | char c => unitsOf c
  | lone unit => [unit]

theorem Text.cutLastUnit?_concat (cs : List Char) (c : Char) :
    cutLastUnit? (cs ++ [c]) =
      some (if isWide c then (cs ++ [replacement], replacement) else (cs, c)) := by
  induction cs with
  | nil => rfl
  | cons d cs ih =>
    have hne : cs ++ [c] ≠ [] := List.append_ne_nil_of_right_ne_nil cs (List.cons_ne_nil c [])
    obtain ⟨e, rest, hrest⟩ := List.exists_cons_of_ne_nil hne
    rw [List.cons_append, hrest, cutLastUnit?, ← hrest, ih]
    split <;> rfl

namespace Utf16

theorem toNat_ofNat {n : Nat} (h : n < 0xD800 ∨ 0xDFFF < n ∧ n < 0x110000) :
    (Char.ofNat n).toNat = n := by
  have hvalid : n.isValidChar := h
  rw [Char.ofNat, dif_pos hvalid]
  rfl

theorem units_spellOne (u : UInt16) : (spellOne u).units = [u] := by
  unfold spellOne
  split
  · rfl
  · next hsurrogate =>
    have hlt : u.toNat < 65536 := u.toNat_lt
    have hchar : (Char.ofNat u.toNat).toNat = u.toNat := by
      refine toNat_ofNat ?_
      simp only [isHighSurrogate, isLowSurrogate, Bool.or_eq_true, Bool.and_eq_true,
        decide_eq_true_eq, not_or] at hsurrogate
      omega
    have hnarrow : isWide (Char.ofNat u.toNat) = false := by
      rw [isWide, hchar]
      exact decide_eq_false (by omega)
    show unitsOf (Char.ofNat u.toNat) = [u]
    rw [unitsOf_narrow hnarrow, hchar, UInt16.ofNat_toNat]

theorem unitsOf_joinHalves {high low : UInt16} (hhigh : isHighSurrogate high = true)
    (hlow : isLowSurrogate low = true) : unitsOf (joinHalves high low) = [high, low] := by
  simp only [isHighSurrogate, isLowSurrogate, Bool.and_eq_true, decide_eq_true_eq] at hhigh hlow
  have hchar : (joinHalves high low).toNat =
      0x10000 + (high.toNat - 0xD800) * 0x400 + (low.toNat - 0xDC00) := by
    refine toNat_ofNat ?_
    omega
  have hwide : isWide (joinHalves high low) = true := by
    rw [isWide, hchar]
    exact decide_eq_true (by omega)
  have hfirst : 0xD800 + ((joinHalves high low).toNat - 0x10000) / 0x400 = high.toNat := by
    rw [hchar]
    omega
  have hsecond : 0xDC00 + ((joinHalves high low).toNat - 0x10000) % 0x400 = low.toNat := by
    rw [hchar]
    omega
  rw [unitsOf_wide hwide, hfirst, hsecond, UInt16.ofNat_toNat, UInt16.ofNat_toNat]

theorem flatMap_units_spell (us : List UInt16) : (spell us).flatMap Spelled.units = us := by
  fun_induction spell us with
  | case1 => rfl
  | case2 u => rw [List.flatMap_singleton, units_spellOne]
  | case3 u v us h ih =>
    rw [Bool.and_eq_true] at h
    rw [List.flatMap_cons, ih]
    show unitsOf (joinHalves u v) ++ us = u :: v :: us
    rw [unitsOf_joinHalves h.1 h.2]
    rfl
  | case4 u v us h ih =>
    rw [List.flatMap_cons, ih, units_spellOne]
    rfl

theorem eq_map_char_of_shown {pieces : List Spelled} {cs : List Char}
    (h : pieces.map Spelled.shown = cs) (hcs : replacement ∉ cs) : pieces = cs.map .char := by
  subst h
  induction pieces with
  | nil => rfl
  | cons piece pieces ih =>
    rw [List.map_cons, List.mem_cons, not_or] at hcs
    cases piece with
    | char c => rw [List.map_cons, List.map_cons, ← ih hcs.2]; rfl
    | lone unit => exact absurd rfl hcs.1

theorem toList_text_ofChars (cs : List Char) : (ofChars cs).text.toList = cs := by
  have htext := text_ofString (String.ofList cs)
  rw [ofString, String.toList_ofList] at htext
  rw [htext, String.toList_ofList]

theorem ofChars_injective {xs ys : List Char} (h : ofChars xs = ofChars ys) : xs = ys := by
  rw [← toList_text_ofChars xs, h, toList_text_ofChars]

/-- A text that is shown without U+FFFD is the text of the characters that are shown. -/
theorem toList_text_eq_iff {t : Utf16} {cs : List Char} (hcs : replacement ∉ cs) :
    t.text.toList = cs ↔ t = ofChars cs := by
  constructor
  · intro h
    rw [text, String.toList_ofList] at h
    have hunits := flatMap_units_spell t.units
    rw [eq_map_char_of_shown h hcs, List.flatMap_map] at hunits
    show Utf16.mk t.units = Utf16.mk (cs.flatMap unitsOf)
    rw [← hunits]
    rfl
  · rintro rfl
    exact toList_text_ofChars cs

/-! ## The last unit -/

/-- The text without its last unit. -/
def dropLast (t : Utf16) : Utf16 := ⟨t.units.dropLast⟩

/-- The last unit of the text, if it has one. -/
def lastUnit (t : Utf16) : Utf16 := ⟨t.units.getLast?.toList⟩

theorem dropLast_append_lastUnit (t : Utf16) : t.dropLast ++ t.lastUnit = t := by
  show Utf16.mk (t.units.dropLast ++ t.units.getLast?.toList) = Utf16.mk t.units
  cases hlast : t.units.getLast? with
  | none => rw [List.getLast?_eq_none_iff.1 hlast]; rfl
  | some u =>
    obtain ⟨us, hus⟩ := List.getLast?_eq_some_iff.1 hlast
    rw [hus, List.dropLast_concat]
    rfl

theorem ofChars_append (xs ys : List Char) : ofChars (xs ++ ys) = ofChars xs ++ ofChars ys := by
  rw [ofChars, List.flatMap_append]
  rfl

theorem units_ofChars_concat (cs : List Char) (c : Char) :
    (ofChars (cs ++ [c])).units = (ofChars cs).units ++ unitsOf c := by
  rw [ofChars_append, units_append, ofChars, ofChars, List.flatMap_singleton]

theorem spell_ofChars_append (cs : List Char) (us : List UInt16) :
    spell ((ofChars cs).units ++ us) = cs.map .char ++ spell us := by
  induction cs with
  | nil => rfl
  | cons c cs ih =>
    have hunits : (ofChars (c :: cs)).units = unitsOf c ++ (ofChars cs).units := rfl
    rw [hunits, List.append_assoc, spell_unitsOf_append, ih]
    rfl

/-- A half that stands behind characters is shown as U+FFFD. -/
theorem toList_text_append_half (cs : List Char) {u : UInt16}
    (h : (isHighSurrogate u || isLowSurrogate u) = true) :
    (Utf16.mk ((ofChars cs).units ++ [u])).text.toList = cs ++ [replacement] := by
  rw [text, String.toList_ofList, spell_ofChars_append, spell, spellOne, if_pos h]
  simp [Spelled.shown, Function.comp_def]

theorem toList_text_of_cutLastUnit? {cs front : List Char} {last : Char}
    (h : cutLastUnit? cs = some (front, last)) :
    (ofChars cs).dropLast.text.toList = front ∧ (ofChars cs).lastUnit.text.toList = [last] := by
  rcases List.eq_nil_or_concat cs with rfl | ⟨init, c, rfl⟩
  · cases h
  rw [List.concat_eq_append, cutLastUnit?_concat, Option.some_inj] at h
  rw [List.concat_eq_append]
  cases hwide : isWide c with
  | false =>
    rw [hwide] at h
    cases h
    have hunits := units_ofChars_concat front last
    rw [unitsOf_narrow hwide] at hunits
    have hfront : (ofChars (front ++ [last])).dropLast = ofChars front := by
      rw [dropLast, hunits, List.dropLast_concat]
    have hlast : (ofChars (front ++ [last])).lastUnit = ofChars [last] := by
      rw [lastUnit, hunits, List.getLast?_concat, ofChars, List.flatMap_singleton,
        unitsOf_narrow hwide]
      rfl
    rw [hfront, hlast]
    exact ⟨toList_text_ofChars front, toList_text_ofChars [last]⟩
  | true =>
    rw [hwide] at h
    cases h
    obtain ⟨hhigh, hlow, -⟩ := joinHalves_unitsOf (of_decide_eq_true hwide)
    have hunits := units_ofChars_concat init c
    rw [unitsOf_wide hwide, List.append_cons (ofChars init).units] at hunits
    constructor
    · rw [dropLast, hunits, List.dropLast_concat]
      exact toList_text_append_half init (by rw [hhigh]; rfl)
    · rw [lastUnit, hunits, List.getLast?_concat]
      exact toList_text_append_half [] (by rw [hlow, Bool.or_true])

end Utf16

end PromptTemplate
