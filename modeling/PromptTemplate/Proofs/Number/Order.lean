import PromptTemplate.Proofs.Number.Digits
import PromptTemplate.Proofs.Text.Order
/-!
# The order of numbers as texts

Numbers that are written with the same number of digits are in the order of their texts, and what
stands behind them counts only where they are equal (`SpellsIn.lt_append_iff`). So texts that have
numbers of fixed widths and the same separators between them are compared number by number.
-/

namespace PromptTemplate

open Text (isWide)

namespace Number

/-! ## Digits -/

theorem toNat_of_digit? {c : Char} {x : Nat} (h : digit? c = some x) :
    x < 10 ∧ c.toNat = '0'.toNat + x := by
  unfold digit? at h
  split at h
  · next hrange =>
    cases h
    have hlow : '0'.toNat ≤ c.toNat := hrange.1
    have hhigh : c.toNat ≤ '9'.toNat := hrange.2
    have hzero : '0'.toNat = 48 := rfl
    have hnine : '9'.toNat = 57 := rfl
    omega
  · cases h

theorem isWide_of_digit? {c : Char} {x : Nat} (h : digit? c = some x) : isWide c = false := by
  have := toNat_of_digit? h
  have hzero : '0'.toNat = 48 := rfl
  exact decide_eq_false (by omega)

theorem digitsFrom?_bounds {acc n : Nat} {cs : List Char} (h : digitsFrom? acc cs = some n) :
    acc * 10 ^ cs.length ≤ n ∧ n < (acc + 1) * 10 ^ cs.length := by
  induction cs generalizing acc with
  | nil =>
    cases h
    rw [List.length_nil, Nat.pow_zero]
    omega
  | cons c cs ih =>
    obtain ⟨x, hx, hrest⟩ := Option.bind_eq_some_iff.1 h
    obtain ⟨hle, hlt⟩ := ih hrest
    have hdigit := (toNat_of_digit? hx).1
    have hlow : acc * 10 ^ (cs.length + 1) ≤ (10 * acc + x) * 10 ^ cs.length := by
      rw [Nat.pow_succ, Nat.mul_comm (10 ^ cs.length), ← Nat.mul_assoc]
      exact Nat.mul_le_mul_right _ (by omega)
    have hhigh : (10 * acc + x + 1) * 10 ^ cs.length ≤ (acc + 1) * 10 ^ (cs.length + 1) := by
      rw [Nat.pow_succ, Nat.mul_comm (10 ^ cs.length), ← Nat.mul_assoc]
      exact Nat.mul_le_mul_right _ (by omega)
    exact ⟨hlow.trans hle, hlt.trans_le hhigh⟩

/-- A greater digit makes a greater number, whatever digits stand behind. -/
theorem lt_of_digit_lt {acc x y m n : Nat} {cs ds : List Char} (hlength : cs.length = ds.length)
    (hm : digitsFrom? (10 * acc + x) cs = some m) (hn : digitsFrom? (10 * acc + y) ds = some n)
    (h : x < y) : m < n := by
  have hhigh := (digitsFrom?_bounds hm).2
  have hlow := (digitsFrom?_bounds hn).1
  rw [← hlength] at hlow
  exact hhigh.trans_le ((Nat.mul_le_mul_right _ (by omega)).trans hlow)

theorem lt_ofChars_digits {acc m n : Nat} {cs ds : List Char} (hlength : cs.length = ds.length)
    (hm : digitsFrom? acc cs = some m) (hn : digitsFrom? acc ds = some n) (u v : Utf16) :
    Utf16.lt (Utf16.ofChars cs ++ u) (Utf16.ofChars ds ++ v) = true ↔
      m < n ∨ m = n ∧ Utf16.lt u v = true := by
  induction cs generalizing acc ds with
  | nil =>
    obtain rfl := List.length_eq_zero_iff.1 hlength.symm
    cases hm
    cases hn
    simp [Utf16.lt, Utf16.ofChars]
  | cons c cs ih =>
    obtain ⟨d, ds, rfl⟩ := List.exists_cons_of_length_eq_add_one hlength.symm
    obtain ⟨x, hx, hcs⟩ := Option.bind_eq_some_iff.1 hm
    obtain ⟨y, hy, hds⟩ := Option.bind_eq_some_iff.1 hn
    have hlength := Nat.succ.inj hlength
    obtain ⟨-, hc⟩ := toNat_of_digit? hx
    obtain ⟨-, hd⟩ := toNat_of_digit? hy
    rw [Utf16.lt_ofChars_cons (isWide_of_digit? hx) (isWide_of_digit? hy), hc, hd,
      Nat.add_lt_add_iff_left, Nat.add_left_cancel_iff]
    rcases Nat.lt_trichotomy x y with hlt | rfl | hlt
    · exact iff_of_true (.inl hlt) (.inl (lt_of_digit_lt hlength hcs hds hlt))
    · rw [ih hlength hcs hds]
      simp
    · have hmn := lt_of_digit_lt hlength.symm hds hcs hlt
      refine iff_of_false ?_ ?_
      · rintro (h | ⟨h, -⟩) <;> omega
      · rintro (h | ⟨h, -⟩) <;> omega

/-! ## Widths -/

/-- The text is a number in so many digits. -/
structure SpellsIn (places : Nat) (s : String) (n : Nat) : Prop where
  length : s.toList.length = places
  value : digitsFrom? 0 s.toList = some n

theorem spellsIn_natText (n : Nat) : SpellsIn (natDigits n).length (natText n) n := by
  constructor <;> rw [natText, String.toList_ofList]
  exact digitsFrom?_natDigits n

theorem spellsIn_padLeft {places n : Nat} (hplaces : 1 ≤ places) (h : n < 10 ^ places) :
    SpellsIn places (padLeft places '0' (natText n)) n where
  length := length_padLeft hplaces h
  value := by rw [toList_padLeft, digitsFrom?_zeros, (spellsIn_natText n).value]

theorem SpellsIn.lt_append_iff {places m n : Nat} {s t : String} (hs : SpellsIn places s m)
    (ht : SpellsIn places t n) (u v : Utf16) :
    Utf16.lt ((s : Utf16) ++ u) ((t : Utf16) ++ v) = true ↔
      m < n ∨ m = n ∧ Utf16.lt u v = true :=
  lt_ofChars_digits (hs.length.trans ht.length.symm) hs.value ht.value u v

theorem SpellsIn.lt_iff {places m n : Nat} {s t : String} (hs : SpellsIn places s m)
    (ht : SpellsIn places t n) : Utf16.lt s t = true ↔ m < n := by
  have h := hs.lt_append_iff ht ⟨[]⟩ ⟨[]⟩
  rwa [Utf16.append_empty, Utf16.append_empty, Utf16.lt_self, eq_false Bool.false_ne_true,
    and_false, or_false] at h

end Number

end PromptTemplate
