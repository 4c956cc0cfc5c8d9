import Mathlib.Tactic.IntervalCases
import PromptTemplate.Proofs.Number.Rounding
/-!
# Digits

The digits of a number are read back as that number, with zeros before them or without
(`digits?_natDigits`, `digits?_padLeft`), and so is the text of a safe integer
(`signed?_intText`). A number has at most so many digits exactly if it is below that power of ten
(`length_natDigits_le_iff`).
-/

namespace PromptTemplate.Number

/-! ## Digits -/

theorem isSome_digit?_iff (c : Char) : (digit? c).isSome = true ↔ c.isDigit = true := by
  unfold digit? Char.isDigit
  rw [Bool.and_eq_true, decide_eq_true_eq, decide_eq_true_eq]
  split
  · next h => exact ⟨fun _ => h, fun _ => rfl⟩
  · next h => exact ⟨fun hsome => (by cases hsome), fun hdigit => absurd hdigit h⟩

theorem digit?_digitChar {d : Nat} (h : d < 10) : digit? (digitChar d) = some d := by
  interval_cases d <;> decide

theorem digitsFrom?_append (acc : Nat) (xs ys : List Char) :
    digitsFrom? acc (xs ++ ys) = (digitsFrom? acc xs).bind fun n => digitsFrom? n ys := by
  induction xs generalizing acc with
  | nil => rfl
  | cons c xs ih =>
    rw [List.cons_append, digitsFrom?, digitsFrom?]
    cases digit? c with
    | none => rfl
    | some d => exact ih _

theorem digitsFrom?_natDigits (n : Nat) : digitsFrom? 0 (natDigits n) = some n := by
  fun_induction natDigits n with
  | case1 n h =>
    rw [digitsFrom?, digit?_digitChar h, Option.bind_some, digitsFrom?, Nat.mul_zero, Nat.zero_add]
  | case2 n h ih =>
    rw [digitsFrom?_append, ih, Option.bind_some, digitsFrom?,
      digit?_digitChar (Nat.mod_lt n (by decide)), Option.bind_some, digitsFrom?, Nat.div_add_mod]

theorem digitsFrom?_zeros (k : Nat) (cs : List Char) :
    digitsFrom? 0 (List.replicate k '0' ++ cs) = digitsFrom? 0 cs := by
  induction k with
  | zero => rfl
  | succ k ih =>
    rw [List.replicate_succ, List.cons_append, digitsFrom?]
    exact ih

/-- Only digits have a value. -/
theorem isSome_digit?_of_digitsFrom? {acc n : Nat} {cs : List Char}
    (h : digitsFrom? acc cs = some n) : ∀ c ∈ cs, (digit? c).isSome := by
  induction cs generalizing acc with
  | nil => simp
  | cons c cs ih =>
    rw [digitsFrom?] at h
    obtain ⟨d, hd, hrest⟩ := Option.bind_eq_some_iff.1 h
    rw [List.forall_mem_cons, hd]
    exact ⟨rfl, ih hrest⟩

theorem isSome_digit?_of_digits? {cs : List Char} {n : Nat} (h : digits? cs = some n) :
    ∀ c ∈ cs, (digit? c).isSome := by
  unfold digits? at h
  split at h
  · cases h
  · exact isSome_digit?_of_digitsFrom? h

theorem digits?_natDigits (n : Nat) : digits? (natDigits n) = some n := by
  rw [digits?, if_neg (by simpa using natDigits_ne_nil n), digitsFrom?_natDigits]

/-! ## Width -/

theorem length_natDigits_le_iff {n width : Nat} (h : 1 ≤ width) :
    (natDigits n).length ≤ width ↔ n < 10 ^ width := by
  induction width, h using Nat.le_induction generalizing n with
  | base =>
    have hpos := List.length_pos_iff.2 (natDigits_ne_nil (n / 10))
    unfold natDigits
    split
    · next hn => exact iff_of_true (Nat.le_refl 1) hn
    · rw [List.length_append, List.length_singleton]
      omega
  | succ width h ih =>
    have hpow := Nat.pow_le_pow_right (n := 10) (by decide) h
    rw [Nat.pow_succ]
    unfold natDigits
    split
    · rw [List.length_singleton]
      omega
    · rw [List.length_append, List.length_singleton, Nat.add_le_add_iff_right, ih,
        Nat.div_lt_iff_lt_mul (by decide)]

theorem toList_padLeft (width : Nat) (fill : Char) (s : String) :
    (padLeft width fill s).toList = List.replicate (width - s.length) fill ++ s.toList := by
  rw [padLeft, String.toList_append, String.toList_ofList]

theorem digits?_padLeft (width n : Nat) :
    digits? (padLeft width '0' (natText n)).toList = some n := by
  rw [toList_padLeft, natText, String.toList_ofList, digits?, if_neg, digitsFrom?_zeros,
    digitsFrom?_natDigits]
  simp [natDigits_ne_nil]

theorem length_padLeft {width n : Nat} (hwidth : 1 ≤ width) (h : n < 10 ^ width) :
    (padLeft width '0' (natText n)).toList.length = width := by
  have := (length_natDigits_le_iff hwidth).2 h
  rw [toList_padLeft, List.length_append, List.length_replicate, natText, String.toList_ofList,
    String.length_ofList]
  omega

/-! ## Integers -/

theorem toList_intText (z : Int) :
    (intText z).toList = (if z < 0 then ['-'] else []) ++ natDigits z.natAbs := by
  unfold intText natText
  split
  · rw [String.toList_append, String.toList_ofList, String.toList_ofList]
  · rw [String.toList_ofList, List.nil_append]

theorem notMem_natDigits {c : Char} (h : digit? c = none) (n : Nat) : c ∉ natDigits n := by
  intro hmem
  have hsome := isSome_digit?_of_digits? (digits?_natDigits n) c hmem
  rw [h] at hsome
  cases hsome

theorem signed?_natDigits (n : Nat) : signed? (natDigits n) = safe? (n : Int) := by
  have hvalue := digits?_natDigits n
  have hdigits := isSome_digit?_of_digits? hvalue
  -- A sign is not a digit.
  unfold signed?
  split
  · next heq => exact absurd (hdigits '+' (by simp [heq])) (by decide)
  · next heq => exact absurd (hdigits '-' (by simp [heq])) (by decide)
  · rw [hvalue]
    rfl

theorem signed?_intText {z : Int} (h : z.natAbs ≤ maxSafe) :
    signed? (intText z).toList = some z := by
  have hsafe := safe?_eq_some_iff.2 ⟨rfl, h⟩
  rw [toList_intText]
  split
  · have hz : -(z.natAbs : Int) = z := by omega
    rw [List.singleton_append, signed?, digits?_natDigits]
    exact (congrArg safe? hz).trans hsafe
  · have hz : (z.natAbs : Int) = z := by omega
    rw [List.nil_append, signed?_natDigits, hz, hsafe]

end PromptTemplate.Number
