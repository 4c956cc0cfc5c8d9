import Mathlib.Data.List.DropRight
import PromptTemplate.Text.Blank
/-!
# Trimmed texts

A trimmed text is a piece of the text that it comes from (`trim_isInfix`), does not begin with a
blank (`not_isBlank_of_trim`), and stays as it is when it is trimmed again (`trim_trim`). Blanks
that are put around a text are taken off again, and nothing else if the text begins and ends with
another character (`trim_surrounded`, `trim_eq_self`).
-/

namespace PromptTemplate.Text

theorem trimEnd_isPrefix (cs : List Char) : trimEnd cs <+: cs := List.rdropWhile_prefix isBlank cs

theorem trim_isInfix (cs : List Char) : trim cs <:+: cs :=
  (trimEnd_isPrefix _).isInfix.trans (List.dropWhile_suffix isBlank).isInfix

theorem not_isBlank_of_trim {cs rest : List Char} {c : Char} (h : trim cs = c :: rest) :
    isBlank c = false := by
  obtain ⟨trailing, hstart⟩ := trimEnd_isPrefix (trimStart cs)
  have hhead := List.head?_dropWhile_not isBlank cs
  rw [show cs.dropWhile isBlank = trimStart cs from rfl, ← hstart,
    show trimEnd (trimStart cs) = c :: rest from h] at hhead
  exact hhead

theorem trim_trim (cs : List Char) : trim (trim cs) = trim cs := by
  have hstart : trimStart (trim cs) = trim cs := by
    cases h : trim cs with
    | nil => rfl
    | cons c rest =>
      rw [trimStart, List.dropWhile_cons, not_isBlank_of_trim h]
      rfl
  show trimEnd (trimStart (trim cs)) = trim cs
  rw [hstart]
  exact List.rdropWhile_idempotent isBlank (trimStart cs)

/-- Trimming takes nothing off but blanks. -/
theorem mem_trim_of_not_isBlank {cs : List Char} {c : Char} (hc : isBlank c = false)
    (h : c ∈ cs) : c ∈ trim cs := by
  have hdrop {ds : List Char} (hmem : c ∈ ds) : c ∈ ds.dropWhile isBlank := by
    rw [← List.takeWhile_append_dropWhile (p := isBlank) (l := ds), List.mem_append] at hmem
    refine hmem.resolve_left fun htake => ?_
    rw [List.mem_takeWhile_imp htake] at hc
    cases hc
  exact List.mem_reverse.2 (hdrop (List.mem_reverse.2 (hdrop h)))

theorem length_trim_le (cs : List Char) : (trim cs).length ≤ cs.length :=
  (trim_isInfix cs).length_le

theorem not_isBlank_of_isDigit {c : Char} (h : c.isDigit = true) : isBlank c = false := by
  unfold Char.isDigit at h
  rw [Bool.and_eq_true, decide_eq_true_eq, decide_eq_true_eq, ge_iff_le, UInt32.le_iff_toNat_le,
    UInt32.le_iff_toNat_le] at h
  have hlow : 48 ≤ c.toNat := h.1
  have hhigh : c.toNat ≤ 57 := h.2
  unfold isBlank
  dsimp only
  simp only [Bool.or_eq_false_iff, Bool.and_eq_false_iff, decide_eq_false_iff_not,
    beq_eq_false_iff_ne]
  omega

/-! ## Blanks around a text -/

/-- Every character of the text is blank. -/
def IsBlankText (cs : List Char) : Prop := ∀ c ∈ cs, isBlank c = true

/-- The text neither begins nor ends with a blank. -/
structure HasNoBlankEnds (cs : List Char) : Prop where
  head : ∀ c ∈ cs.head?, isBlank c = false
  last : ∀ c ∈ cs.getLast?, isBlank c = false

theorem isBlankText_of_trim_eq_nil {cs : List Char} (h : trim cs = []) : IsBlankText cs := by
  intro c hc
  rw [← Bool.not_eq_false]
  intro hblank
  have hmem := mem_trim_of_not_isBlank hblank hc
  rw [h] at hmem
  cases hmem

theorem hasNoBlankEnds_of_forall {cs : List Char} (h : ∀ c ∈ cs, isBlank c = false) :
    HasNoBlankEnds cs :=
  ⟨fun c hc => h c (List.mem_of_mem_head? hc), fun c hc => h c (List.mem_of_mem_getLast? hc)⟩

theorem trimEnd_append_blank (cs : List Char) {trail : List Char} (h : IsBlankText trail) :
    trimEnd (cs ++ trail) = trimEnd cs := by
  unfold trimEnd
  rw [List.reverse_append, List.dropWhile_append_of_pos fun c hc => h c (List.mem_reverse.1 hc)]

theorem trim_append_blank (cs : List Char) {trail : List Char} (h : IsBlankText trail) :
    trim (cs ++ trail) = trim cs := by
  unfold trim trimStart
  rw [List.dropWhile_append]
  split
  · next hnil =>
    -- All of the text is blank, and so is all that is left of it.
    rw [List.isEmpty_iff.1 hnil, List.dropWhile_eq_nil_iff.2 h]
  · exact trimEnd_append_blank _ h

theorem trim_surrounded {lead trail : List Char} (hlead : IsBlankText lead)
    (htrail : IsBlankText trail) (cs : List Char) : trim (lead ++ (cs ++ trail)) = trim cs := by
  rw [trim, trimStart_append_blank lead _ hlead]
  exact trim_append_blank cs htrail

theorem trim_eq_self {cs : List Char} (h : HasNoBlankEnds cs) : trim cs = cs := by
  have hstart : trimStart cs = cs := by
    cases cs with
    | nil => rfl
    | cons c rest => rw [trimStart, List.dropWhile_cons, h.head c rfl]; rfl
  unfold trim
  rw [hstart]
  refine List.rdropWhile_eq_self_iff.2 fun hne => ?_
  rw [h.last _ (List.getLast?_eq_some_getLast hne)]
  exact Bool.false_ne_true

end PromptTemplate.Text
