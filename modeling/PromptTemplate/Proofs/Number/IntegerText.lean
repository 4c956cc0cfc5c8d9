import PromptTemplate.Proofs.Number.Digits
import PromptTemplate.Proofs.Text.Blank
/-!
# What integer texts denote

A text of digits denotes a number of any size (`IsDigits`), with zeros in front or without. It is
read as that number if the number is safe, and not at all if it is not (`unsigned?_eq_some_iff`, and
with a sign `signed?_eq_some_iff`).
Such texts, and those that integers are written as, hold nothing but signs and digits (`IsNumeral`).
-/

namespace PromptTemplate.Number

/-- The text is one or more ASCII digits, and this is the number that they denote. -/
structure IsDigits (cs : List Char) (n : Nat) : Prop where
  ne_nil : cs ≠ []
  isDigit : ∀ c ∈ cs, c.isDigit = true
  value : Nat.ofDigitChars 10 cs 0 = n

/-- The text is an optional `+` and digits, and this is the number that they denote. -/
inductive IsNaturalText : List Char → Nat → Prop
  | plain {cs : List Char} {n : Nat} (h : IsDigits cs n) : IsNaturalText cs n
  | plus {cs : List Char} {n : Nat} (h : IsDigits cs n) : IsNaturalText ('+' :: cs) n

/-- The text is an optional sign and digits, and this is the integer that they denote. -/
inductive IsIntegerText : List Char → Int → Prop
  | plain {cs : List Char} {n : Nat} (h : IsDigits cs n) : IsIntegerText cs n
  | plus {cs : List Char} {n : Nat} (h : IsDigits cs n) : IsIntegerText ('+' :: cs) n
  | minus {cs : List Char} {n : Nat} (h : IsDigits cs n) : IsIntegerText ('-' :: cs) (-n)

/-- Nothing but signs and digits. -/
def IsNumeral (cs : List Char) : Prop := ∀ c ∈ cs, c = '+' ∨ c = '-' ∨ c.isDigit = true

/-! ## Digits -/

theorem digit?_eq_some_iff {c : Char} {d : Nat} :
    digit? c = some d ↔ c.isDigit = true ∧ c.toNat - '0'.toNat = d := by
  unfold digit? Char.isDigit
  rw [Bool.and_eq_true, decide_eq_true_eq, decide_eq_true_eq]
  split
  · next h =>
    rw [Option.some_inj]
    exact ⟨fun heq => ⟨h, heq⟩, And.right⟩
  · next h => exact ⟨fun hnone => (by cases hnone), fun hdigit => absurd hdigit.1 h⟩

theorem digitsFrom?_eq_some_iff {acc n : Nat} {cs : List Char} :
    digitsFrom? acc cs = some n ↔
      (∀ c ∈ cs, c.isDigit = true) ∧ Nat.ofDigitChars 10 cs acc = n := by
  induction cs generalizing acc with
  | nil => simp [digitsFrom?]
  | cons c cs ih =>
    rw [digitsFrom?, Option.bind_eq_some_iff, List.forall_mem_cons, Nat.ofDigitChars_cons]
    constructor
    · rintro ⟨d, hd, hrest⟩
      obtain ⟨hc, rfl⟩ := digit?_eq_some_iff.1 hd
      obtain ⟨hcs, hvalue⟩ := ih.1 hrest
      exact ⟨⟨hc, hcs⟩, hvalue⟩
    · rintro ⟨⟨hc, hcs⟩, hvalue⟩
      exact ⟨_, digit?_eq_some_iff.2 ⟨hc, rfl⟩, ih.2 ⟨hcs, hvalue⟩⟩

theorem digits?_eq_some_iff {cs : List Char} {n : Nat} : digits? cs = some n ↔ IsDigits cs n := by
  unfold digits?
  split
  · next hnil =>
    exact ⟨fun hnone => (by cases hnone), fun h => absurd (List.isEmpty_iff.1 hnil) h.ne_nil⟩
  · next hcons =>
    rw [digitsFrom?_eq_some_iff]
    exact ⟨fun h => ⟨fun hnil => hcons (List.isEmpty_iff.2 hnil), h.1, h.2⟩,
      fun h => ⟨h.isDigit, h.value⟩⟩

/-! ## Natural numbers -/

theorem safe?_natCast_eq_some_iff {n m : Nat} :
    (safe? (n : Int)).map Int.toNat = some m ↔ m = n ∧ n ≤ maxSafe := by
  rw [Option.map_eq_some_iff]
  constructor
  · rintro ⟨value, hvalue, rfl⟩
    obtain ⟨rfl, hsafe⟩ := safe?_eq_some_iff.1 hvalue
    exact ⟨Int.toNat_natCast n, hsafe⟩
  · rintro ⟨rfl, hsafe⟩
    exact ⟨m, safe?_eq_some_iff.2 ⟨rfl, hsafe⟩, Int.toNat_natCast m⟩

theorem isNaturalText_iff {cs : List Char} {n : Nat} :
    IsNaturalText cs n ↔
      (match cs with
        | '+' :: ds => digits? ds
        | ds => digits? ds) = some n := by
  constructor
  · rintro (h | h)
    · split
      · -- A sign is not a digit.
        exact absurd (h.isDigit '+' List.mem_cons_self) (by decide)
      · exact digits?_eq_some_iff.2 h
    · exact digits?_eq_some_iff.2 h
  · intro h
    split at h
    · exact .plus (digits?_eq_some_iff.1 h)
    · exact .plain (digits?_eq_some_iff.1 h)

theorem IsNaturalText.unique {cs : List Char} {m n : Nat} (h : IsNaturalText cs m)
    (h' : IsNaturalText cs n) : m = n :=
  Option.some.inj ((isNaturalText_iff.1 h).symm.trans (isNaturalText_iff.1 h'))

/-- A natural number is read from its text exactly if it is safe. -/
theorem unsigned?_eq_some_iff {cs : List Char} {n : Nat} :
    unsigned? cs = some n ↔ IsNaturalText cs n ∧ n ≤ maxSafe := by
  unfold unsigned?
  dsimp only
  rw [Option.bind_eq_some_iff]
  constructor
  · rintro ⟨m, hm, hsafe⟩
    obtain ⟨rfl, hle⟩ := safe?_natCast_eq_some_iff.1 hsafe
    exact ⟨isNaturalText_iff.2 hm, hle⟩
  · rintro ⟨h, hle⟩
    exact ⟨n, isNaturalText_iff.1 h, safe?_natCast_eq_some_iff.2 ⟨rfl, hle⟩⟩

/-! ## Integers -/

theorem isIntegerText_iff {cs : List Char} {z : Int} :
    IsIntegerText cs z ↔
      ((match cs with
        | '+' :: ds => (digits? ds).map Int.ofNat
        | '-' :: ds => (digits? ds).map fun n => -(n : Int)
        | ds => (digits? ds).map Int.ofNat) : Option Int) = some z := by
  constructor
  · rintro (h | h | h)
    · split
      · -- A sign is not a digit.
        exact absurd (h.isDigit '+' List.mem_cons_self) (by decide)
      · exact absurd (h.isDigit '-' List.mem_cons_self) (by decide)
      · rw [digits?_eq_some_iff.2 h]
        rfl
    · exact congrArg (Option.map Int.ofNat) (digits?_eq_some_iff.2 h)
    · show Option.map _ (digits? _ >>= _) = _
      rw [digits?_eq_some_iff.2 h]
      rfl
  · intro h
    split at h
    · obtain ⟨n, hn, rfl⟩ := Option.map_eq_some_iff.1 h
      exact .plus (digits?_eq_some_iff.1 hn)
    · obtain ⟨_, hvalue, rfl⟩ := Option.map_eq_some_iff.1 h
      obtain ⟨n, hn, hcast⟩ := Option.bind_eq_some_iff.1 hvalue
      cases hcast
      exact .minus (digits?_eq_some_iff.1 hn)
    · obtain ⟨n, hn, rfl⟩ := Option.map_eq_some_iff.1 h
      exact .plain (digits?_eq_some_iff.1 hn)

theorem IsIntegerText.unique {cs : List Char} {y z : Int} (h : IsIntegerText cs y)
    (h' : IsIntegerText cs z) : y = z :=
  Option.some.inj ((isIntegerText_iff.1 h).symm.trans (isIntegerText_iff.1 h'))

/-- An integer is read from its text exactly if it is safe. -/
theorem signed?_eq_some_iff {cs : List Char} {z : Int} :
    signed? cs = some z ↔ IsIntegerText cs z ∧ z.natAbs ≤ maxSafe := by
  unfold signed?
  dsimp only
  rw [Option.bind_eq_some_iff]
  constructor
  · rintro ⟨exact, hexact, hsafe⟩
    obtain ⟨rfl, hle⟩ := safe?_eq_some_iff.1 hsafe
    exact ⟨isIntegerText_iff.2 hexact, hle⟩
  · rintro ⟨h, hle⟩
    exact ⟨z, isIntegerText_iff.1 h, safe?_eq_some_iff.2 ⟨rfl, hle⟩⟩

theorem IsIntegerText.isNumeral {cs : List Char} {z : Int} (h : IsIntegerText cs z) :
    IsNumeral cs := by
  intro c hc
  rcases h with h | h | h
  · exact .inr (.inr (h.isDigit c hc))
  · rcases List.mem_cons.1 hc with rfl | hc
    · exact .inl rfl
    · exact .inr (.inr (h.isDigit c hc))
  · rcases List.mem_cons.1 hc with rfl | hc
    · exact .inr (.inl rfl)
    · exact .inr (.inr (h.isDigit c hc))

/-! ## Numerals -/

theorem IsNaturalText.isNumeral {cs : List Char} {n : Nat} (h : IsNaturalText cs n) :
    IsNumeral cs := by
  intro c hc
  rcases h with h | h
  · exact .inr (.inr (h.isDigit c hc))
  · rcases List.mem_cons.1 hc with rfl | hc
    · exact .inl rfl
    · exact .inr (.inr (h.isDigit c hc))

theorem isNaturalText_natText (n : Nat) : IsNaturalText (natText n).toList n := by
  rw [natText, String.toList_ofList]
  exact .plain (digits?_eq_some_iff.1 (digits?_natDigits n))

theorem isIntegerText_intText (z : Int) : IsIntegerText (intText z).toList z := by
  have hdigits := digits?_eq_some_iff.1 (digits?_natDigits z.natAbs)
  rw [toList_intText]
  split
  · have hz : -(z.natAbs : Int) = z := by omega
    have h := IsIntegerText.minus hdigits
    rwa [hz] at h
  · have hz : (z.natAbs : Int) = z := by omega
    have h := IsIntegerText.plain hdigits
    rwa [hz] at h

theorem isNumeral_intText (z : Int) : IsNumeral (intText z).toList :=
  (isIntegerText_intText z).isNumeral

section

variable {cs : List Char} (h : IsNumeral cs)

include h

theorem IsNumeral.notMem {c : Char} (hplus : c ≠ '+') (hminus : c ≠ '-')
    (hdigit : c.isDigit = false) : c ∉ cs := by
  intro hmem
  rcases h c hmem with rfl | rfl | hc
  · exact hplus rfl
  · exact hminus rfl
  · rw [hdigit] at hc
    cases hc

theorem IsNumeral.not_isBlank : ∀ c ∈ cs, Text.isBlank c = false := by
  intro c hc
  rcases h c hc with rfl | rfl | hdigit
  · decide
  · decide
  · exact Text.not_isBlank_of_isDigit hdigit

end

theorem notMem_intText {c : Char} (hplus : c ≠ '+') (hminus : c ≠ '-') (hdigit : c.isDigit = false)
    (n : Int) : c ∉ (intText n).toList :=
  (isNumeral_intText n).notMem hplus hminus hdigit

end PromptTemplate.Number
