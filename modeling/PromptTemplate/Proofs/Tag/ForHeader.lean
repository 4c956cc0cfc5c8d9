import PromptTemplate.Proofs.Number.IntegerText
import PromptTemplate.Proofs.Outcome
import PromptTemplate.Proofs.Tag.Params
import PromptTemplate.Proofs.Tag.Parts
import PromptTemplate.Proofs.Text.Blank
import PromptTemplate.Tag.ForHeader
/-!
# What for-headers are read from

A for-header is a variable and its items around ` in `. Items in parentheses are a range, which has
to hold two bounds with two dots between them (`RangeRead`); other items are the name of a
collection and its params (`ItemsRead`). `ForHeader.Reads` says for every text what comes of it, the
faults included, and `parseForHeader_eq_iff_reads` that reading a trimmed text comes to that.
-/

namespace PromptTemplate

open Text (cut? trim)

/-- The text is a variable and items with ` in ` between them. -/
structure IsHeaderText (header var items : List Char) : Prop where
  text : header = var ++ " in ".toList ++ items
  var : ' ' ∉ var

/-- The text is an optional sign and digits between blanks, and the integer is safe. -/
structure IsBound (text : List Char) (n : Int) : Prop where
  text : Number.IsIntegerText (trim text) n
  safe : n.natAbs ≤ 2 ^ 53 - 1

/-- What stands between the bounds of a range. -/
def dots : List Char := ['.', '.']

/-- The text is two bounds with two dots between them. -/
def IsRangeText (text : List Char) (first last : Int) : Prop :=
  ∃ start stop, text = start ++ dots ++ stop ∧ IsBound start first ∧ IsBound stop last

/-- The text has exactly two pieces around double dots, looked for from the left. -/
structure IsPair (text start stop : List Char) : Prop where
  text : text = start ++ dots ++ stop
  start : ¬ dots <:+: start ++ ['.']
  stop : ¬ dots <:+: stop

/-- What is wrong with a text that is no range. -/
inductive RangeFault (text : List Char) : TemplateError → Prop
  | pieces (hpair : ∀ start stop, ¬ IsPair text start stop) :
    RangeFault text (.malformedRange (String.ofList text))
  | start {start stop : List Char} (hpair : IsPair text start stop)
    (hstart : ∀ n, ¬ IsBound start n) : RangeFault text (.badBound .start (String.ofList start))
  | stop {start stop : List Char} {first : Int} (hpair : IsPair text start stop)
    (hstart : IsBound start first) (hstop : ∀ n, ¬ IsBound stop n) :
    RangeFault text (.badBound .stop (String.ofList stop))

/-- What comes of the text between the parentheses of a range. -/
inductive RangeRead (text : List Char) : Except TemplateError Iterable → Prop
  | ok {first last : Int} (h : IsRangeText text first last) :
    RangeRead text (.ok (.range first last))
  | fault {e : TemplateError} (hnone : ∀ first last, ¬ IsRangeText text first last)
    (hfault : RangeFault text e) (hkind : e.kind = .invalidRangeBound) : RangeRead text (.error e)

/-- What comes of the items of a header. -/
inductive ItemsRead (items : List Char) : Except TemplateError (Iterable × Params) → Prop
  | unclosed {inside : List Char} (hitems : items = '(' :: inside) (hopen : ')' ∉ inside) :
    ItemsRead items (.error .unclosedRange)
  | range {text after : List Char} {outcome : Except TemplateError Iterable}
    (hitems : items = '(' :: (text ++ ')' :: after)) (hclose : ')' ∉ text)
    (hrange : RangeRead text outcome) :
    ItemsRead items (outcome.map fun range => (range, Table.empty))
  | collection {name : List Char} {parts : List (List Char)} {outcome : Except TemplateError Params}
    (hitems : '(' ∉ items.head?) (hparts : splitParts items = name :: parts)
    (hparams : ParamsRead parts outcome) :
    ItemsRead items (outcome.map fun params => (.collection (String.ofList name), params))

/-- What comes of a for-header. -/
inductive ForHeader.Reads (header : List Char) : Except TemplateError ForHeader → Prop
  | malformed (h : ∀ var items, ¬ IsHeaderText header var items) :
    Reads header (.error (.malformedFor (String.ofList header)))
  | items {var items : List Char} {outcome : Except TemplateError (Iterable × Params)}
    (hheader : IsHeaderText header var items) (hitems : ItemsRead (trim items) outcome) :
    Reads header (outcome.map fun found => ⟨String.ofList var, found.1, found.2⟩)

/-! ## Bounds -/

theorem isBound_iff {text : List Char} {n : Int} :
    IsBound text n ↔ Number.signed? (trim text) = some n := by
  rw [Number.signed?_eq_some_iff]
  exact ⟨fun h => ⟨h.text, h.safe⟩, fun h => ⟨h.1, h.2⟩⟩

theorem parseBound_of_isBound {text : List Char} {n : Int} (h : IsBound text n)
    (which : RangeEnd) : parseBound which text = .ok n := by
  unfold parseBound
  rw [isBound_iff.1 h]

theorem parseBound_of_not_isBound {text : List Char} (h : ∀ n, ¬ IsBound text n)
    (which : RangeEnd) :
    parseBound which text = .error (.badBound which (String.ofList text)) := by
  unfold parseBound
  cases hread : Number.signed? (trim text) with
  | none => rfl
  | some n => exact absurd (isBound_iff.2 hread) (h n)

theorem IsBound.dot_notMem {text : List Char} {n : Int} (h : IsBound text n) : '.' ∉ text := by
  intro hmem
  have htrim : '.' ∈ trim text := Text.mem_trim_of_not_isBlank (by decide) hmem
  exact h.text.isNumeral.notMem (by decide) (by decide) (by decide) htrim

/-! ## Ranges -/

theorem dots_ne_nil : dots ≠ [] := List.cons_ne_nil _ _

section

variable {text start stop : List Char}

theorem isPair_iff :
    IsPair text start stop ↔ cut? dots text = some (start, stop) ∧ ¬ dots <:+: stop := by
  rw [Text.cut?_eq_some_iff dots_ne_nil]
  exact ⟨fun h => ⟨⟨h.text, h.start⟩, h.stop⟩, fun h => ⟨h.1.1, h.1.2, h.2⟩⟩

theorem IsPair.unique {start' stop' : List Char} (h : IsPair text start stop)
    (h' : IsPair text start' stop') : start = start' ∧ stop = stop' := by
  have hcut := (isPair_iff.1 h).1.symm.trans (isPair_iff.1 h').1
  rwa [Option.some.injEq, Prod.mk.injEq] at hcut

/-- Bounds hold no dots, so the two dots between them are all there are. -/
theorem isPair_of_isBound {first last : Int} (htext : text = start ++ dots ++ stop)
    (hstart : IsBound start first) (hstop : IsBound stop last) : IsPair text start stop := by
  have hnot {cs : List Char} (hcs : '.' ∉ cs) : ¬ dots <:+: cs :=
    fun hdots => hcs (hdots.subset List.mem_cons_self)
  refine ⟨htext, ?_, hnot hstop.dot_notMem⟩
  rw [List.infix_concat_iff, not_or]
  refine ⟨fun hsuffix => ?_, hnot hstart.dot_notMem⟩
  -- The first of two dots across the cut would be the last character of the bound.
  have hlast : ['.'] <:+ start := by
    rcases List.suffix_concat_iff.1 hsuffix with hnil | ⟨init, hinit, hsuffix⟩
    · exact absurd hnil dots_ne_nil
    · have hdot : ['.'] ++ ['.'] = init ++ ['.'] := hinit
      rwa [← List.append_cancel_right hdot] at hsuffix
  exact hstart.dot_notMem (hlast.subset List.mem_cons_self)

theorem IsPair.parseRange_eq (h : IsPair text start stop) :
    parseRange text =
      (do
        let first ← parseBound .start start
        let last ← parseBound .stop stop
        .ok (.range first last)) := by
  obtain ⟨hcut, hstop⟩ := isPair_iff.1 h
  have hoccurs : Text.occurs dots stop = false := by
    rw [Text.occurs, (Text.cut?_eq_none_iff dots_ne_nil).2 hstop]
    rfl
  unfold dots at hcut hoccurs
  unfold parseRange
  rw [hcut]
  dsimp only
  rw [hoccurs]
  rfl

theorem parseRange_of_not_isPair (h : ∀ start stop, ¬ IsPair text start stop) :
    parseRange text = .error (.malformedRange (String.ofList text)) := by
  unfold parseRange
  split
  · rfl
  · next start stop hcut =>
    split
    · rfl
    · next hoccurs =>
      refine absurd (isPair_iff.2 ⟨hcut, ?_⟩) (h start stop)
      rw [← Text.cut?_eq_none_iff dots_ne_nil]
      unfold Text.occurs at hoccurs
      rwa [Bool.not_eq_true, Option.isSome_eq_false_iff, Option.isNone_iff_eq_none] at hoccurs

end

section

variable {text : List Char}

theorem RangeFault.kind {e : TemplateError} (h : RangeFault text e) :
    e.kind = .invalidRangeBound := by
  cases h <;> rfl

theorem RangeRead.parseRange_eq {outcome : Except TemplateError Iterable}
    (h : RangeRead text outcome) : parseRange text = outcome := by
  cases h with
  | ok h =>
    obtain ⟨start, stop, htext, hstart, hstop⟩ := h
    rw [(isPair_of_isBound htext hstart hstop).parseRange_eq, parseBound_of_isBound hstart,
      parseBound_of_isBound hstop]
    rfl
  | fault hnone hfault hkind =>
    cases hfault with
    | pieces hpair => exact parseRange_of_not_isPair hpair
    | start hpair hstart =>
      rw [hpair.parseRange_eq, parseBound_of_not_isBound hstart]
      rfl
    | stop hpair hstart hstop =>
      rw [hpair.parseRange_eq, parseBound_of_isBound hstart, parseBound_of_not_isBound hstop]
      rfl

theorem exists_rangeRead (text : List Char) : ∃ outcome, RangeRead text outcome := by
  by_cases hrange : ∃ first last, IsRangeText text first last
  · obtain ⟨first, last, h⟩ := hrange
    exact ⟨_, .ok h⟩
  · have hnone : ∀ first last, ¬ IsRangeText text first last :=
      fun first last h => hrange ⟨first, last, h⟩
    have hfault : ∃ e, RangeFault text e := by
      by_cases hpair : ∃ start stop, IsPair text start stop
      · obtain ⟨start, stop, hpair⟩ := hpair
        by_cases hstart : ∃ n, IsBound start n
        · obtain ⟨first, hfirst⟩ := hstart
          exact ⟨_, .stop hpair hfirst fun last hlast =>
            hnone first last ⟨start, stop, hpair.text, hfirst, hlast⟩⟩
        · exact ⟨_, .start hpair fun n hn => hstart ⟨n, hn⟩⟩
      · exact ⟨_, .pieces fun start stop h => hpair ⟨start, stop, h⟩⟩
    obtain ⟨e, he⟩ := hfault
    exact ⟨_, .fault hnone he he.kind⟩

end

/-! ## Items -/

theorem ItemsRead.parseItems_eq {items : List Char}
    {outcome : Except TemplateError (Iterable × Params)} (h : ItemsRead items outcome)
    (header : List Char) : parseItems header items = outcome := by
  cases h with
  | unclosed hitems hopen =>
    rw [hitems, parseItems, Text.cut?_singleton_eq_none_iff.2 hopen]
  | @range text after outcome hitems hclose hrange =>
    rw [hitems, parseItems, Text.cut?_singleton_append after hclose]
    dsimp only
    rw [hrange.parseRange_eq]
    cases outcome <;> rfl
  | @collection name parts outcome hitems hparts hparams =>
    unfold parseItems
    split
    · exact absurd rfl hitems
    · rw [hparts]
      dsimp only
      rw [hparams.parseParams_eq]
      cases outcome <;> rfl

theorem exists_itemsRead {text : List Char} (h : trim text ≠ []) :
    ∃ outcome, ItemsRead (trim text) outcome := by
  by_cases hparen : '(' ∈ (trim text).head?
  · have hitems := List.eq_cons_of_mem_head? hparen
    cases hcut : cut? [')'] (trim text).tail with
    | none => exact ⟨_, .unclosed hitems (Text.cut?_singleton_eq_none_iff.1 hcut)⟩
    | some found =>
      have hinside := Text.eq_append_of_cut? hcut
      rw [List.append_assoc, List.singleton_append] at hinside
      obtain ⟨outcome, hrange⟩ := exists_rangeRead found.1
      exact ⟨_, .range (hitems.trans (congrArg _ hinside)) (Text.notMem_of_cut? hcut) hrange⟩
  · obtain ⟨name, parts, hparts⟩ := exists_splitParts_trim h
    obtain ⟨outcome, hparams⟩ := exists_paramsRead parts
    exact ⟨_, .collection hparen hparts hparams⟩

/-! ## Headers -/

section

variable {header var items : List Char}

/-- The variable ends at the first space, and the word behind it at the next one. -/
theorem cutHeader?_eq_some_iff :
    cutHeader? header = some (var, items) ↔ IsHeaderText header var items := by
  constructor
  · intro h
    unfold cutHeader? at h
    split at h
    · cases h
    · next found rest hfound =>
      split at h
      · cases h
      · next keyword behind hkeyword =>
        split at h
        · next hin =>
          cases h
          subst hin
          refine ⟨?_, Text.notMem_of_cut? hfound⟩
          rw [Text.eq_append_of_cut? hfound, Text.eq_append_of_cut? hkeyword]
          simp
        · cases h
  · rintro ⟨rfl, hvar⟩
    have hin : ' ' ∉ ['i', 'n'] := by decide
    unfold cutHeader?
    rw [List.append_assoc, show " in ".toList ++ items = ' ' :: 'i' :: 'n' :: ' ' :: items from rfl,
      Text.cut?_singleton_append _ hvar]
    dsimp only
    rw [show 'i' :: 'n' :: ' ' :: items = ['i', 'n'] ++ ' ' :: items from rfl,
      Text.cut?_singleton_append items hin]
    rfl

theorem parseForHeader_of_isHeaderText (h : IsHeaderText header var items) :
    parseForHeader header =
      (parseItems header (trim items)).map fun found => ⟨String.ofList var, found.1, found.2⟩ := by
  unfold parseForHeader
  rw [cutHeader?_eq_some_iff.2 h]
  dsimp only
  cases parseItems header (trim items) <;> rfl

theorem parseForHeader_of_not_isHeaderText (h : ∀ var items, ¬ IsHeaderText header var items) :
    parseForHeader header = .error (.malformedFor (String.ofList header)) := by
  unfold parseForHeader
  split
  · rfl
  · next var items hcut => exact absurd (cutHeader?_eq_some_iff.1 hcut) (h var items)

/-- The items of a trimmed text are not blank: its last character would be a blank otherwise. -/
theorem IsHeaderText.trim_items_ne_nil (h : IsHeaderText header var items)
    (htrim : trim header = header) : trim items ≠ [] := by
  intro hnil
  have htrail : Text.IsBlankText (' ' :: items) :=
    List.forall_mem_cons.2 ⟨by decide, Text.isBlankText_of_trim_eq_nil hnil⟩
  have htext : header = (var ++ " in".toList) ++ ' ' :: items := by
    rw [h.text]
    simp
  have hlength := Text.length_trim_le (var ++ " in".toList)
  rw [← Text.trim_append_blank _ htrail, ← htext, htrim, htext, List.length_append,
    List.length_cons] at hlength
  omega

end

theorem ForHeader.Reads.parseForHeader_eq {header : List Char}
    {outcome : Except TemplateError ForHeader} (h : Reads header outcome) :
    parseForHeader header = outcome := by
  cases h with
  | malformed h => exact parseForHeader_of_not_isHeaderText h
  | items hheader hitems =>
    rw [parseForHeader_of_isHeaderText hheader, hitems.parseItems_eq]

theorem ForHeader.exists_reads {header : List Char} (htrim : trim header = header) :
    ∃ outcome, Reads header outcome := by
  by_cases h : ∃ var items, IsHeaderText header var items
  · obtain ⟨var, items, h⟩ := h
    obtain ⟨outcome, hitems⟩ := exists_itemsRead (h.trim_items_ne_nil htrim)
    exact ⟨_, .items h hitems⟩
  · exact ⟨_, .malformed fun var items hheader => h ⟨var, items, hheader⟩⟩

/-- Items that are not empty are not found to be without a name. -/
theorem ItemsRead.kind_ne {items : List Char} {e : TemplateError}
    (h : ItemsRead items (.error e)) : e.kind ≠ .invalidForLoopSyntax := by
  generalize hfailed : (.error e : Except TemplateError (Iterable × Params)) = failed at h
  cases h with
  | unclosed hitems hopen =>
    cases hfailed
    decide
  | range hitems hclose hrange =>
    cases hrange with
    | ok h => cases hfailed
    | fault hnone hfault hkind =>
      cases hfailed
      rw [hkind]
      decide
  | collection hitems hparts hparams =>
    cases hparams with
    | ok h => cases hfailed
    | fault hparts hbefore hpart hkind =>
      cases hfailed
      rw [hkind]
      decide

/-- **For-headers.** A trimmed text is read as what stands in it. It never comes to a header that
lacks items, since behind ` in ` there always are some. -/
theorem parseForHeader_eq_iff_reads {header : List Char} (htrim : trim header = header) :
    (∀ outcome, parseForHeader header = outcome ↔ ForHeader.Reads header outcome) ∧
      (∀ var items, IsHeaderText header var items → trim items ≠ []) ∧
        ∀ text, parseForHeader header ≠ .error (.forWithoutCollection text) := by
  have hreads := eq_iff_of_exists (ForHeader.exists_reads htrim)
    fun _ (h : ForHeader.Reads header _) => h.parseForHeader_eq
  refine ⟨hreads, fun var items h => h.trim_items_ne_nil htrim, fun text hfails => ?_⟩
  generalize hfailed : (.error (.forWithoutCollection text) : Except TemplateError ForHeader) =
    failed at hfails
  cases (hreads failed).1 hfails with
  | malformed h => cases hfailed
  | @items var items outcome hheader hitems =>
    cases outcome with
    | ok found => cases hfailed
    | error e =>
      cases hfailed
      exact hitems.kind_ne rfl

/-- A range with blanks, signs and a text behind it, and one with a dot too many: the dots are found
from the left, so that the third one belongs to the end. -/
theorem parseForHeader_dottedRanges :
    let range := "i in  ( +1 .. -03 ) x".toList
    let dotted := "i in (1...3)".toList
    (trim range = range ∧ ForHeader.Reads range (.ok ⟨"i", .range 1 (-3), Table.empty⟩)) ∧
      trim dotted = dotted ∧ ForHeader.Reads dotted (.error (.badBound .stop ".3")) := by
  intro range dotted
  have hrange : trim range = range := by decide +kernel
  have hdotted : trim dotted = dotted := by decide +kernel
  refine ⟨⟨hrange, ((parseForHeader_eq_iff_reads hrange).1 _).1 ?_⟩, hdotted,
    ((parseForHeader_eq_iff_reads hdotted).1 _).1 ?_⟩
  · exact eq_ok_of_toOption (by decide +kernel)
  · rfl

end PromptTemplate
