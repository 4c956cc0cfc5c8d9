import Mathlib.Data.List.Infix
import PromptTemplate.Text.Cut
/-!
# The first separator

`cut?` fails exactly on the texts that the separator does not occur in (`cut?_eq_none_iff`), and
otherwise finds the one place before which no occurrence begins (`cut?_eq_some_iff`). For a
separator of one character, or of two different characters such as those around a tag, that is any
place with no occurrence in the text before it (`cut?_singleton_append`, `cut?_pair_append`): two
occurrences of such a separator cannot overlap.

Splitting a text cuts it at every separator: no piece holds one (`notMem_of_mem_splitAt`), and two
texts with a separator between them split as each does alone (`splitAt_append`).
-/

namespace PromptTemplate.Text

theorem cut?_eq_none_iff {sep s : List Char} (hsep : sep ≠ []) :
    cut? sep s = none ↔ ¬ sep <:+: s := by
  induction s with
  | nil =>
    rw [cut?, if_neg (by simpa using hsep), List.infix_nil]
    simp [hsep]
  | cons c rest ih =>
    rw [cut?, List.infix_cons_iff]
    by_cases h : sep.isPrefixOf (c :: rest) = true
    · rw [if_pos h]
      have hstart := List.isPrefixOf_iff_prefix.1 h
      simp [hstart]
    · rw [if_neg h, Option.map_eq_none_iff, ih]
      have hstart : ¬ sep <+: c :: rest := fun hp => h (List.isPrefixOf_iff_prefix.2 hp)
      simp [hstart]

/-- An occurrence that begins before the cut would reach into the separator there. -/
theorem not_infix_dropLast_of_cut? {sep s before after : List Char} (hsep : sep ≠ [])
    (h : cut? sep s = some (before, after)) : ¬ sep <:+: before ++ sep.dropLast := by
  induction s generalizing before with
  | nil =>
    rw [cut?, if_neg (by simpa using hsep)] at h
    cases h
  | cons c rest ih =>
    rw [cut?] at h
    split at h
    · cases h
      intro hinfix
      have hle := hinfix.length_le
      have hpos := List.length_pos_iff.2 hsep
      rw [List.nil_append, List.length_dropLast] at hle
      omega
    · next hstart =>
      obtain ⟨⟨before', after'⟩, hcut, heq⟩ := Option.map_eq_some_iff.1 h
      simp only [Prod.mk.injEq] at heq
      obtain ⟨rfl, rfl⟩ := heq
      rw [List.cons_append, List.infix_cons_iff]
      rintro (hp | hi)
      · have hrest : before' ++ sep.dropLast <+: rest := by
          rw [eq_append_of_cut? hcut, List.append_assoc]
          exact (List.prefix_append_right_inj before').2
            ((List.dropLast_prefix sep).trans (List.prefix_append _ _))
        exact hstart (List.isPrefixOf_iff_prefix.2 (hp.trans ((List.prefix_cons_inj c).2 hrest)))
      · exact ih hcut hi

theorem not_infix_of_cut? {sep s before after : List Char} (hsep : sep ≠ [])
    (h : cut? sep s = some (before, after)) : ¬ sep <:+: before := by
  intro hwithin
  exact not_infix_dropLast_of_cut? hsep h (hwithin.trans (List.prefix_append _ _).isInfix)

theorem cut?_append {sep before : List Char} (after : List Char) (hsep : sep ≠ [])
    (h : ¬ sep <:+: before ++ sep.dropLast) :
    cut? sep (before ++ sep ++ after) = some (before, after) := by
  induction before with
  | nil =>
    obtain ⟨c, rest, rfl⟩ := List.exists_cons_of_ne_nil hsep
    have hstart : (c :: rest).isPrefixOf (c :: (rest ++ after)) = true :=
      List.isPrefixOf_iff_prefix.2 (List.prefix_append (c :: rest) after)
    rw [List.nil_append, List.cons_append, cut?, if_pos hstart, List.length_cons,
      List.drop_succ_cons, List.drop_left]
  | cons c before ih =>
    rw [List.cons_append, List.infix_cons_iff, not_or] at h
    have hstart : ¬ sep.isPrefixOf (c :: (before ++ sep ++ after)) = true := by
      intro hp
      -- The separator is not longer than the text up to its last character at the cut.
      refine h.1 (List.prefix_of_prefix_length_le (List.isPrefixOf_iff_prefix.1 hp) ?_ ?_)
      · rw [List.append_assoc]
        exact (List.prefix_append_right_inj (c :: before)).2
          ((List.dropLast_prefix sep).trans (List.prefix_append _ _))
      · have hpos := List.length_pos_iff.2 hsep
        rw [List.length_cons, List.length_append, List.length_dropLast]
        omega
    rw [List.cons_append, List.cons_append, cut?, if_neg hstart, ih h.2]
    rfl

/-- The cut is at the place before which no occurrence begins. -/
theorem cut?_eq_some_iff {sep s before after : List Char} (hsep : sep ≠ []) :
    cut? sep s = some (before, after) ↔
      s = before ++ sep ++ after ∧ ¬ sep <:+: before ++ sep.dropLast := by
  constructor
  · intro h
    exact ⟨eq_append_of_cut? h, not_infix_dropLast_of_cut? hsep h⟩
  · rintro ⟨rfl, h⟩
    exact cut?_append after hsep h

theorem before_infix_of_cut? {sep s before after : List Char}
    (h : cut? sep s = some (before, after)) : before <:+: s := by
  rw [eq_append_of_cut? h, List.append_assoc]
  exact (List.prefix_append _ _).isInfix

/-- No separator is found before its first character. -/
theorem cut?_cons_append {c : Char} {before : List Char} (sep after : List Char) (h : c ∉ before) :
    cut? (c :: sep) (before ++ c :: (sep ++ after)) = some (before, after) := by
  induction before with
  | nil => simp [cut?]
  | cons d rest ih =>
    rw [List.mem_cons, not_or] at h
    have hstart : ¬ (c :: sep).isPrefixOf (d :: (rest ++ c :: (sep ++ after))) = true := by
      simp [List.isPrefixOf, h.1]
    rw [List.cons_append, cut?, if_neg hstart, ih h.2]
    rfl

/-! ## One character -/

section

variable {c : Char} {s before after : List Char}

theorem cut?_singleton_eq_none_iff : cut? [c] s = none ↔ c ∉ s := by
  rw [cut?_eq_none_iff (List.cons_ne_nil _ _), List.singleton_infix_iff]

theorem notMem_of_cut? (h : cut? [c] s = some (before, after)) : c ∉ before := by
  rw [← List.singleton_infix_iff]
  exact not_infix_of_cut? (List.cons_ne_nil _ _) h

theorem cut?_singleton_append (after : List Char) (h : c ∉ before) :
    cut? [c] (before ++ c :: after) = some (before, after) :=
  cut?_cons_append [] after h

end

/-! ## Two characters -/

theorem cut?_pair_append {a b : Char} (hab : a ≠ b) {before : List Char} (after : List Char)
    (h : ¬ [a, b] <:+: before) : cut? [a, b] (before ++ [a, b] ++ after) = some (before, after) := by
  refine cut?_append after (List.cons_ne_nil _ _) ?_
  show ¬ [a, b] <:+: before ++ [a]
  rw [List.infix_concat_iff, not_or]
  refine ⟨fun hsuffix => ?_, h⟩
  -- An occurrence across the cut would end with the first character of the pair.
  have hlast := hsuffix.getLast (List.cons_ne_nil _ _)
  rw [List.getLast_append_singleton] at hlast
  exact hab hlast.symm

/-! ## Splitting -/

section

variable {sep : Char}

theorem splitAt_append (a b : List Char) :
    splitAt sep (a ++ sep :: b) = splitAt sep a ++ splitAt sep b := by
  induction a with
  | nil => simp [splitAt]
  | cons c a ih =>
    rw [List.cons_append, splitAt, splitAt]
    split
    · rw [ih, List.cons_append]
    · rw [ih]
      obtain ⟨piece, pieces, hsplit⟩ := List.exists_cons_of_ne_nil (splitAt_ne_nil sep a)
      rw [hsplit]
      rfl

theorem splitAt_of_notMem {s : List Char} (h : sep ∉ s) : splitAt sep s = [s] := by
  induction s with
  | nil => rfl
  | cons c s ih =>
    rw [List.mem_cons, not_or] at h
    rw [splitAt, if_neg (Ne.symm h.1), ih h.2]

theorem notMem_of_mem_splitAt {s piece : List Char} (h : piece ∈ splitAt sep s) : sep ∉ piece := by
  induction s generalizing piece with
  | nil =>
    rw [splitAt, List.mem_singleton] at h
    rw [h]
    exact List.not_mem_nil
  | cons c s ih =>
    rw [splitAt] at h
    split at h
    · rcases List.mem_cons.1 h with rfl | h
      · exact List.not_mem_nil
      · exact ih h
    · next hc =>
      obtain ⟨first, pieces, hsplit⟩ := List.exists_cons_of_ne_nil (splitAt_ne_nil sep s)
      rw [hsplit] at h ih
      rcases List.mem_cons.1 h with rfl | h
      · rw [List.mem_cons, not_or]
        exact ⟨Ne.symm hc, ih List.mem_cons_self⟩
      · exact ih (List.mem_cons_of_mem first h)

end

end PromptTemplate.Text
