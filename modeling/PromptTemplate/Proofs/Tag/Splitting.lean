import PromptTemplate.Proofs.Outcome
import PromptTemplate.Proofs.Tag.Written
/-!
# What splitting keeps

A text has its parts in one way (`Splits`), and splitting finds them (`splitParts_eq_iff`). They
hold all of the text but the separators outside quotes (`Splits.flatten_eq`). A quote that is never
closed takes all that follows into the last part, so every other part has its quotes closed
(`Splits.not_endsQuoted`). Hence the parts can be put together again with any gaps between them, and
the text that this gives has the same parts (`splitParts_stable`).
-/

namespace PromptTemplate

/-- These are the parts of the text. A separator stands behind each, unless the text ends with the
part; only then may the part leave a quote open. -/
inductive Splits : List Char → List (List Char) → Prop
  | nil : Splits [] []
  | separator {c : Char} {cs : List Char} {parts : List (List Char)}
    (hc : isSeparator c = true) (h : Splits cs parts) : Splits (c :: cs) parts
  | last {part : List Char} (hpart : IsTagPart part) : Splits part [part]
  | part {part rest : List Char} {c : Char} {parts : List (List Char)} (hpart : IsTagPart part)
    (hclosed : ¬ EndsQuoted part) (hc : isSeparator c = true) (h : Splits rest parts) :
    Splits (part ++ c :: rest) (part :: parts)

/-- The text without the separators outside quotes, if it stands behind `before`. -/
def withoutSeparators (before : List Char) : List Char → List Char
  | [] => []
  | c :: cs =>
    if isSeparator c = true ∧ ¬ EndsQuoted before then withoutSeparators (before ++ [c]) cs
    else c :: withoutSeparators (before ++ [c]) cs

/-- The text is made of the parts, with a gap between each two. -/
inductive IsJoined : List (List Char) → List Char → Prop
  | nil : IsJoined [] []
  | last (part : List Char) : IsJoined [part] part
  | cons {part gap rest : List Char} {parts : List (List Char)} (hgap : IsGap gap)
    (hne : parts ≠ []) (h : IsJoined parts rest) : IsJoined (part :: parts) (part ++ (gap ++ rest))

/-! ## The parts of a text -/

theorem Splits.splitParts_eq {cs : List Char} {parts : List (List Char)} (h : Splits cs parts) :
    splitParts cs = parts := by
  induction h with
  | nil => rw [splitParts]
  | separator hc h ih => rw [splitParts, if_pos hc, ih]
  | @last part hpart =>
    have hend : EndsPart part [] := fun c hc => by cases hc
    have hsplit := hpart.splitParts_append hend
    rwa [List.append_nil, splitParts] at hsplit
  | @part part rest c parts hpart hclosed hc h ih =>
    have hend : EndsPart part (c :: rest) := by
      intro d hd
      cases hd
      exact ⟨hc, hclosed⟩
    rw [hpart.splitParts_append hend, splitParts, if_pos hc, ih]

theorem exists_splits (cs : List Char) : ∃ parts, Splits cs parts := by
  induction hn : cs.length using Nat.strongRecOn generalizing cs with
  | ind n ih =>
    subst hn
    cases cs with
    | nil => exact ⟨[], .nil⟩
    | cons c cs =>
      by_cases hc : isSeparator c = true
      · obtain ⟨parts, h⟩ := ih cs.length (Nat.lt_succ_self _) cs rfl
        exact ⟨parts, .separator hc h⟩
      · obtain ⟨part, rest, htext, hpart, hend⟩ := exists_isTagPart hc cs
        rw [htext]
        cases rest with
        | nil =>
          rw [List.append_nil]
          exact ⟨[part], .last hpart⟩
        | cons d rest =>
          obtain ⟨hd, hclosed⟩ := hend d rfl
          have hlength := congrArg List.length htext
          rw [List.length_append, List.length_cons (a := d)] at hlength
          obtain ⟨parts, h⟩ := ih rest.length (by omega) rest rfl
          exact ⟨part :: parts, .part hpart hclosed hd h⟩

/-- Splitting finds the parts of a text. -/
theorem splitParts_eq_iff (cs : List Char) (parts : List (List Char)) :
    splitParts cs = parts ↔ Splits cs parts :=
  eq_iff_of_exists (exists_splits cs) (fun _ h => h.splitParts_eq) parts

/-! ## What the parts hold -/

theorem endsQuoted_concat_separator {cs : List Char} {c : Char} (hc : isSeparator c = true) :
    EndsQuoted (cs ++ [c]) ↔ EndsQuoted cs := by
  refine endsQuoted_concat_of_ne ?_
  rintro rfl
  exact absurd hc (by decide)

theorem HoldsBehind.withoutSeparators_append {before part : List Char}
    (h : HoldsBehind before part) (rest : List Char) :
    withoutSeparators before (part ++ rest) =
      part ++ withoutSeparators (before ++ part) rest := by
  induction part generalizing before with
  | nil => rw [List.nil_append, List.nil_append, List.append_nil]
  | cons c part ih =>
    obtain ⟨hc, hpart⟩ := holdsBehind_cons_iff.1 h
    rw [List.cons_append, withoutSeparators, if_neg fun hends => hends.2 (hc hends.1), ih hpart,
      List.append_assoc, List.singleton_append, List.cons_append]

theorem withoutSeparators_separator {before : List Char} {c : Char} (hc : isSeparator c = true)
    (hclosed : ¬ EndsQuoted before) (cs : List Char) :
    withoutSeparators before (c :: cs) = withoutSeparators (before ++ [c]) cs := by
  rw [withoutSeparators, if_pos ⟨hc, hclosed⟩]

namespace Splits

variable {cs : List Char} {parts : List (List Char)} (h : Splits cs parts)

include h

theorem isTagPart : ∀ part ∈ parts, IsTagPart part := by
  induction h with
  | nil => exact List.forall_mem_nil _
  | separator hc h ih => exact ih
  | last hpart => exact List.forall_mem_singleton.2 hpart
  | part hpart hclosed hc h ih => exact List.forall_mem_cons.2 ⟨hpart, ih⟩

/-- The parts are the text but for its separators outside quotes. -/
theorem flatten_eq {before : List Char} (hclosed : ¬ EndsQuoted before) :
    parts.flatten = withoutSeparators before cs := by
  induction h generalizing before with
  | nil => rfl
  | @separator c cs parts hc h ih =>
    have hbehind := mt (endsQuoted_concat_separator hc).1 hclosed
    rw [withoutSeparators_separator hc hclosed, ih hbehind]
  | @last part hpart =>
    have hkept := (hpart.holds.of_closed hclosed).withoutSeparators_append []
    rw [List.append_nil] at hkept
    rw [hkept, withoutSeparators, List.append_nil, List.flatten_singleton]
  | @part part rest c parts hpart hpartClosed hc h ih =>
    have hopen := mt (endsQuoted_append hclosed part).1 hpartClosed
    have hbehind := mt (endsQuoted_concat_separator hc).1 hopen
    rw [(hpart.holds.of_closed hclosed).withoutSeparators_append,
      withoutSeparators_separator hc hopen, List.flatten_cons, ih hbehind]

/-- A part that is not the last one has its quotes closed. -/
theorem not_endsQuoted : ∀ part ∈ parts.dropLast, ¬ EndsQuoted part := by
  induction h with
  | nil => exact List.forall_mem_nil _
  | separator hc h ih => exact ih
  | last hpart => exact List.forall_mem_nil _
  | @part part rest c parts hpart hclosed hc h ih =>
    cases parts with
    | nil => exact List.forall_mem_nil _
    | cons next parts => exact List.forall_mem_cons.2 ⟨hclosed, ih⟩

theorem gap_append {gap : List Char} (hgap : ∀ c ∈ gap, isSeparator c = true) :
    Splits (gap ++ cs) parts := by
  induction gap with
  | nil => exact h
  | cons c gap ih =>
    rw [List.forall_mem_cons] at hgap
    exact .separator hgap.1 (ih hgap.2)

end Splits

/-! ## Joining -/

/-- Parts that are put together again are the parts of that text. -/
theorem IsJoined.splits {parts : List (List Char)} {text : List Char} (h : IsJoined parts text)
    (hparts : ∀ part ∈ parts, IsTagPart part)
    (hclosed : ∀ part ∈ parts.dropLast, ¬ EndsQuoted part) : Splits text parts := by
  induction h with
  | nil => exact .nil
  | last part => exact .last (hparts part List.mem_cons_self)
  | @cons part gap rest parts hgap hne h ih =>
    rw [List.forall_mem_cons] at hparts
    rw [List.dropLast_cons_of_ne_nil hne, List.forall_mem_cons] at hclosed
    cases gap with
    | nil => exact absurd rfl hgap.ne_nil
    | cons c gap =>
      obtain ⟨hc, hseparators⟩ := List.forall_mem_cons.1 hgap.separators
      exact .part hparts.1 hclosed.1 hc ((ih hparts.2 hclosed.2).gap_append hseparators)

/-- **Parts.** No part is empty or has a separator outside its own quotes; together they are the
text but for its separators outside quotes; quotes are open behind none but the last; and the parts
joined by gaps are split into the same parts again. -/
theorem splitParts_stable (text : List Char) :
    (∀ part ∈ splitParts text, part ≠ []) ∧
      (splitParts text).flatten = withoutSeparators [] text ∧
      (∀ part ∈ splitParts text, HoldsBehind [] part) ∧
      (∀ part ∈ (splitParts text).dropLast, Even (part.count '"')) ∧
      ∀ joined, IsJoined (splitParts text) joined → splitParts joined = splitParts text := by
  have h := (splitParts_eq_iff text (splitParts text)).1 rfl
  refine ⟨fun part hpart => (h.isTagPart part hpart).ne_nil, h.flatten_eq not_endsQuoted_nil,
    fun part hpart => (h.isTagPart part hpart).holds, fun part hpart => ?_,
    fun joined hjoined => ?_⟩
  · exact Nat.not_odd_iff_even.1 (h.not_endsQuoted part hpart)
  · exact (hjoined.splits h.isTagPart h.not_endsQuoted).splitParts_eq

/-- A quote in the middle of a part, and one that is left open. -/
theorem splitParts_stable_openQuote :
    let text := "  k=\"a b\"x\t w \" c\td ".toList
    let parts := ["k=\"a b\"x".toList, "w".toList, "\" c\td ".toList]
    let joined := "k=\"a b\"x w\t\t\" c\td ".toList
    splitParts text = parts ∧ withoutSeparators [] text = "k=\"a b\"xw\" c\td ".toList ∧
      IsJoined parts joined ∧ splitParts joined = parts := by
  intro text parts joined
  have htext : splitParts text = parts := by decide +kernel
  have hspace : IsGap [' '] := isGap_singleton rfl
  have htabs : IsGap ['\t', '\t'] := ⟨by decide, by simp [isSeparator]⟩
  have hjoined : IsJoined parts joined :=
    .cons hspace (by decide) (.cons htabs (by decide) (.last _))
  obtain ⟨-, hkept, -, -, hagain⟩ := splitParts_stable text
  rw [htext] at hkept hagain
  exact ⟨htext, hkept.symm.trans (by decide +kernel), hjoined, hagain joined hjoined⟩

end PromptTemplate
