import Mathlib.Algebra.Ring.Parity
import PromptTemplate.Proofs.Text.Blank
import PromptTemplate.Tag.Parts
/-!
# What a part is

Each part of a text is a piece of it that is not empty, and the first part begins where the text
does, unless the text begins with a separator. Separators are blank, so a trimmed text that is not
empty has a first part (`exists_splitParts_trim`).

A quote is open behind a text with an odd number of quotes (`EndsQuoted`). A part has no separator
where no quote is open, and it ends where there is one (`IsTagPart.splitParts_append`).
-/

namespace PromptTemplate

open Text (isBlank trim)

theorem isBlank_of_isSeparator {c : Char} (h : isSeparator c = true) : isBlank c = true := by
  unfold isSeparator at h
  rw [Bool.or_eq_true, beq_iff_eq, beq_iff_eq] at h
  rcases h with rfl | rfl <;> decide

theorem isSeparator_of_not_isBlank {c : Char} (h : isBlank c = false) : isSeparator c = false := by
  rw [Bool.eq_false_iff]
  intro hseparator
  rw [isBlank_of_isSeparator hseparator] at h
  cases h

theorem takePart_fst_isPrefix (quoted : Bool) (cs : List Char) : (takePart quoted cs).1 <+: cs :=
  ⟨_, takePart_append quoted cs⟩

theorem takePart_snd_isSuffix (quoted : Bool) (cs : List Char) : (takePart quoted cs).2 <:+ cs :=
  ⟨_, takePart_append quoted cs⟩

theorem splitParts_cons {c : Char} (h : isSeparator c = false) (rest : List Char) :
    splitParts (c :: rest) = (c :: (takePart (quotedAfter false c) rest).1) ::
      splitParts (takePart (quotedAfter false c) rest).2 := by
  rw [splitParts, h]
  rfl

theorem exists_splitParts_trim {text : List Char} (h : trim text ≠ []) :
    ∃ name parts, splitParts (trim text) = name :: parts := by
  obtain ⟨c, rest, htext⟩ := List.exists_cons_of_ne_nil h
  have hseparator := isSeparator_of_not_isBlank (Text.not_isBlank_of_trim htext)
  rw [htext, splitParts_cons hseparator]
  exact ⟨_, _, rfl⟩

theorem ne_nil_of_mem_splitParts {part cs : List Char} (h : part ∈ splitParts cs) : part ≠ [] := by
  fun_induction splitParts cs with
  | case1 => cases h
  | case2 c rest hc ih => exact ih h
  | case3 c rest hc cut ih =>
    rcases List.mem_cons.1 h with rfl | h
    · exact List.cons_ne_nil _ _
    · exact ih h

theorem infix_of_mem_splitParts {part cs : List Char} (h : part ∈ splitParts cs) :
    part <:+: cs := by
  fun_induction splitParts cs with
  | case1 => cases h
  | case2 c rest hc ih => exact (ih h).trans (List.suffix_cons c rest).isInfix
  | case3 c rest hc cut ih =>
    rcases List.mem_cons.1 h with rfl | h
    · exact ((List.prefix_cons_inj c).2 (takePart_fst_isPrefix _ rest)).isInfix
    · exact (ih h).trans ((takePart_snd_isSuffix _ rest).trans (List.suffix_cons c rest)).isInfix

/-! ## Quotes -/

/-- Behind the text a quote is open: it holds an odd number of them. -/
def EndsQuoted (cs : List Char) : Prop := Odd (cs.count '"')

instance (cs : List Char) : Decidable (EndsQuoted cs) :=
  inferInstanceAs (Decidable (Odd (cs.count '"')))

theorem not_endsQuoted_nil : ¬ EndsQuoted [] := by decide

theorem endsQuoted_concat_quote {cs : List Char} :
    EndsQuoted (cs ++ ['"']) ↔ ¬ EndsQuoted cs := by
  unfold EndsQuoted
  rw [List.count_append, List.count_singleton_self, Nat.odd_add_one]

theorem endsQuoted_append_of_notMem {cs run : List Char} (h : '"' ∉ run) :
    EndsQuoted (cs ++ run) ↔ EndsQuoted cs := by
  unfold EndsQuoted
  rw [List.count_append, List.count_eq_zero.2 h, Nat.add_zero]

theorem endsQuoted_concat_of_ne {cs : List Char} {c : Char} (h : c ≠ '"') :
    EndsQuoted (cs ++ [c]) ↔ EndsQuoted cs :=
  endsQuoted_append_of_notMem fun hmem => h (List.mem_singleton.1 hmem).symm

theorem endsQuoted_append {before : List Char} (h : ¬ EndsQuoted before) (cs : List Char) :
    EndsQuoted (before ++ cs) ↔ EndsQuoted cs := by
  unfold EndsQuoted at h ⊢
  rw [List.count_append, Nat.odd_add', iff_true_right (Nat.not_odd_iff_even.1 h)]

theorem quotedAfter_decide (before : List Char) (c : Char) :
    quotedAfter (decide (EndsQuoted before)) c = decide (EndsQuoted (before ++ [c])) := by
  unfold quotedAfter
  split
  · next hquote =>
    rw [hquote, decide_eq_decide.2 endsQuoted_concat_quote, decide_not]
  · next hother => rw [decide_eq_decide.2 (endsQuoted_concat_of_ne hother)]

/-! ## Texts that hold together -/

/-- No separator in the text stands outside quotes if the text stands behind `before`. -/
def HoldsBehind (before cs : List Char) : Prop :=
  ∀ front c back, cs = front ++ c :: back → isSeparator c = true → EndsQuoted (before ++ front)

/-- The text ends what stands before it: there is none, or it begins with a separator where no
quote is open. -/
def EndsPart (before cs : List Char) : Prop :=
  ∀ c ∈ cs.head?, isSeparator c = true ∧ ¬ EndsQuoted before

/-- The text is not empty, and it has no separator outside its own quotes. -/
structure IsTagPart (part : List Char) : Prop where
  ne_nil : part ≠ []
  holds : HoldsBehind [] part

theorem holdsBehind_nil (before : List Char) : HoldsBehind before [] := by
  intro front c back heq
  cases front <;> cases heq

theorem holdsBehind_cons_iff {before cs : List Char} {c : Char} :
    HoldsBehind before (c :: cs) ↔
      (isSeparator c = true → EndsQuoted before) ∧ HoldsBehind (before ++ [c]) cs := by
  constructor
  · intro h
    refine ⟨fun hc => ?_, fun front d back heq hd => ?_⟩
    · have hbefore := h [] c cs rfl hc
      rwa [List.append_nil] at hbefore
    · rw [List.append_assoc]
      exact h (c :: front) d back (congrArg (c :: ·) heq) hd
  · rintro ⟨hc, hcs⟩ front d back heq hd
    cases front with
    | nil =>
      cases heq
      rw [List.append_nil]
      exact hc hd
    | cons e front =>
      cases heq
      have hfront := hcs front d back rfl hd
      rwa [List.append_assoc] at hfront

theorem HoldsBehind.append {before front back : List Char} (h : HoldsBehind before front)
    (h' : HoldsBehind (before ++ front) back) : HoldsBehind before (front ++ back) := by
  induction front generalizing before with
  | nil => rwa [List.append_nil] at h'
  | cons c front ih =>
    obtain ⟨hc, hfront⟩ := holdsBehind_cons_iff.1 h
    rw [← List.singleton_append, ← List.append_assoc] at h'
    exact holdsBehind_cons_iff.2 ⟨hc, ih hfront h'⟩

/-- Where no quote is open, a text holds together as it does on its own. -/
theorem HoldsBehind.of_closed {before cs : List Char} (h : HoldsBehind [] cs)
    (hclosed : ¬ EndsQuoted before) : HoldsBehind before cs := by
  intro front c back heq hc
  exact (endsQuoted_append hclosed front).2 (h front c back heq hc)

theorem takePart_cons {quoted : Bool} {c : Char} (h : (isSeparator c && !quoted) = false)
    (cs : List Char) :
    takePart quoted (c :: cs) =
      (c :: (takePart (quotedAfter quoted c) cs).1, (takePart (quotedAfter quoted c) cs).2) := by
  rw [takePart, h]
  rfl

/-- What holds together is taken whole, up to where it ends. -/
theorem HoldsBehind.takePart_append {before part rest : List Char} (h : HoldsBehind before part)
    (hrest : EndsPart (before ++ part) rest) :
    takePart (decide (EndsQuoted before)) (part ++ rest) = (part, rest) := by
  induction part generalizing before with
  | nil =>
    cases rest with
    | nil => rfl
    | cons c rest =>
      obtain ⟨hc, hclosed⟩ := hrest c rfl
      rw [List.append_nil] at hclosed
      rw [List.nil_append, takePart, hc, decide_eq_false hclosed]
      rfl
  | cons c part ih =>
    obtain ⟨hc, hpart⟩ := holdsBehind_cons_iff.1 h
    have hkeep : (isSeparator c && !decide (EndsQuoted before)) = false := by
      rw [← decide_not, Bool.and_eq_false_imp]
      intro hseparator
      exact decide_eq_false (not_not_intro (hc hseparator))
    rw [← List.singleton_append, ← List.append_assoc] at hrest
    rw [List.cons_append, takePart_cons hkeep, quotedAfter_decide, ih hpart hrest]

/-- Every text holds together up to some place and ends there. -/
theorem exists_holdsBehind (before cs : List Char) :
    ∃ part rest, cs = part ++ rest ∧ HoldsBehind before part ∧ EndsPart (before ++ part) rest := by
  induction cs generalizing before with
  | nil => exact ⟨[], [], rfl, holdsBehind_nil before, fun c hc => (by cases hc)⟩
  | cons c cs ih =>
    by_cases hends : isSeparator c = true ∧ ¬ EndsQuoted before
    · refine ⟨[], c :: cs, rfl, holdsBehind_nil before, fun d hd => ?_⟩
      cases hd
      rw [List.append_nil]
      exact hends
    · obtain ⟨part, rest, rfl, hpart, hrest⟩ := ih (before ++ [c])
      refine ⟨c :: part, rest, rfl, holdsBehind_cons_iff.2 ⟨fun hc => ?_, hpart⟩, ?_⟩
      · exact not_not.1 fun hclosed => hends ⟨hc, hclosed⟩
      · rwa [List.append_assoc] at hrest

/-- A text that does not begin with a separator begins with a part. -/
theorem exists_isTagPart {c : Char} (h : ¬ isSeparator c = true) (cs : List Char) :
    ∃ part rest, c :: cs = part ++ rest ∧ IsTagPart part ∧ EndsPart part rest := by
  obtain ⟨part, rest, htext, hholds, hend⟩ := exists_holdsBehind [] (c :: cs)
  refine ⟨part, rest, htext, ⟨?_, hholds⟩, hend⟩
  -- The text does not begin with a separator, so it does not end there.
  rintro rfl
  rw [List.nil_append] at htext
  exact h (hend c (htext ▸ rfl)).1

/-- A part with its end behind it is the first part of the text. -/
theorem IsTagPart.splitParts_append {part rest : List Char} (h : IsTagPart part)
    (hrest : EndsPart part rest) : splitParts (part ++ rest) = part :: splitParts rest := by
  cases part with
  | nil => exact absurd rfl h.ne_nil
  | cons c part =>
    obtain ⟨hc, hpart⟩ := holdsBehind_cons_iff.1 h.holds
    have hseparator : isSeparator c = false :=
      Bool.eq_false_iff.2 fun hc' => not_endsQuoted_nil (hc hc')
    have hquoted := quotedAfter_decide [] c
    rw [decide_eq_false not_endsQuoted_nil] at hquoted
    rw [List.cons_append, splitParts_cons hseparator, hquoted, hpart.takePart_append hrest]

end PromptTemplate
