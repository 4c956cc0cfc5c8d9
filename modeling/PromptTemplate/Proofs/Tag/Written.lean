import PromptTemplate.Proofs.Number.IntegerText
import PromptTemplate.Proofs.Tag.WellFormed
/-!
# Written tags

A tag is written as its name, its params with separators before each, and its pipe behind a bar with
blanks around it. Whatever the spacing, the parser gives the tag back (`parseTag_of_written`):
quotes keep a value together (`IsUnbroken.holdsBehind`), and the bar, which no part holds, is
the first one there is. Of several params with one key the last counts.
-/

namespace PromptTemplate

open Text (cut? trim isBlank IsBlankText HasNoBlankEnds)

/-- Every quote in the text is closed, and no blank stands outside of quotes. -/
inductive IsUnbroken : List Char → Prop
  | nil : IsUnbroken []
  | plain {c : Char} {cs : List Char} (hquote : c ≠ '"') (hblank : isBlank c = false)
    (h : IsUnbroken cs) : IsUnbroken (c :: cs)
  | quoted {run cs : List Char} (hrun : '"' ∉ run) (h : IsUnbroken cs) :
    IsUnbroken ('"' :: (run ++ '"' :: cs))

/-- The text is one word without quotes and bars. -/
structure IsWord (text : String) : Prop where
  ne_empty : text ≠ ""
  quote : '"' ∉ text.toList
  bar : '|' ∉ text.toList
  blank : ∀ c ∈ text.toList, isBlank c = false

/-- The param can be written: a word for a key, and a value that holds together. -/
structure IsWritable (param : String × String) : Prop where
  key : IsWord param.1
  equals : '=' ∉ param.1.toList
  value : IsUnbroken param.2.toList
  bar : '|' ∉ param.2.toList

/-- A param is written with `=` between key and value. A `:` will do if the cut is clear without
it. -/
inductive WrittenParam : String × String → List Char → Prop
  | equals (key value : String) : WrittenParam (key, value) (key.toList ++ '=' :: value.toList)
  | colon (key value : String) (hkey : ':' ∉ key.toList) (hvalue : '=' ∉ value.toList) :
    WrittenParam (key, value) (key.toList ++ ':' :: value.toList)

/-- The text is one or more separators. -/
structure IsGap (gap : List Char) : Prop where
  ne_nil : gap ≠ []
  separators : ∀ c ∈ gap, isSeparator c = true

/-- Params are written one after the other, each behind a gap. -/
inductive WrittenParams : List (String × String) → List Char → Prop
  | nil : WrittenParams [] []
  | cons {param : String × String} {params : List (String × String)} {gap part rest : List Char}
    (hgap : IsGap gap) (hpart : WrittenParam param part) (hrest : WrittenParams params rest) :
    WrittenParams (param :: params) (gap ++ (part ++ rest))

/-- A pipe is written behind a bar, with blanks around both. A bar with nothing behind it is no
pipe. -/
inductive WrittenPipe : Option String → List Char → Prop
  | none : WrittenPipe none []
  | bare {gap after : List Char} (hgap : IsBlankText gap) (hafter : IsBlankText after) :
    WrittenPipe none (gap ++ '|' :: after)
  | named {pipe : String} {gap lead trail : List Char} (hne : pipe ≠ "")
    (hpipe : trim pipe.toList = pipe.toList) (hgap : IsBlankText gap) (hlead : IsBlankText lead)
    (htrail : IsBlankText trail) :
    WrittenPipe (some pipe) (gap ++ '|' :: (lead ++ (pipe.toList ++ trail)))

/-! ## Unbroken texts -/

theorem isUnbroken_of_forall {cs : List Char} (h : ∀ c ∈ cs, c ≠ '"' ∧ isBlank c = false) :
    IsUnbroken cs := by
  induction cs with
  | nil => exact .nil
  | cons c cs ih =>
    rw [List.forall_mem_cons] at h
    exact .plain h.1.1 h.1.2 (ih h.2)

namespace IsUnbroken

variable {part other : List Char}

theorem append (h : IsUnbroken part) (h' : IsUnbroken other) : IsUnbroken (part ++ other) := by
  induction h with
  | nil => exact h'
  | plain hquote hblank _ ih => exact .plain hquote hblank ih
  | quoted hrun _ ih =>
    rw [List.cons_append, List.append_assoc, List.cons_append]
    exact .quoted hrun ih

theorem not_isBlank_head (h : IsUnbroken part) : ∀ c ∈ part.head?, isBlank c = false := by
  rintro c hc
  cases h with
  | nil => cases hc
  | plain hquote hblank h =>
    cases hc
    exact hblank
  | quoted hrun h =>
    cases hc
    decide

theorem not_isBlank_last (h : IsUnbroken part) : ∀ c ∈ part.getLast?, isBlank c = false := by
  induction h with
  | nil =>
    intro c hc
    cases hc
  | @plain d cs hquote hblank h ih =>
    intro c hc
    cases cs with
    | nil =>
      cases hc
      exact hblank
    | cons e cs => exact ih c hc
  | @quoted run cs hrun h ih =>
    intro c hc
    rw [← List.cons_append, List.getLast?_append_cons] at hc
    cases cs with
    | nil =>
      cases hc
      decide
    | cons e cs => exact ih c hc

end IsUnbroken

theorem isWord_of_all {text : String} (hne : text ≠ "")
    (h : text.toList.all (fun c => c != '"' && c != '|' && !isBlank c) = true) : IsWord text := by
  rw [List.all_eq_true] at h
  have hmem {c : Char} (hc : c ∈ text.toList) : (c ≠ '"' ∧ c ≠ '|') ∧ isBlank c = false := by
    simpa using h c hc
  exact ⟨hne, fun hc => (hmem hc).1.1 rfl, fun hc => (hmem hc).1.2 rfl, fun c hc => (hmem hc).2⟩

theorem IsWord.isUnbroken {text : String} (h : IsWord text) : IsUnbroken text.toList :=
  isUnbroken_of_forall fun c hc => ⟨fun heq => h.quote (heq ▸ hc), h.blank c hc⟩

theorem IsWord.toList_ne_nil {text : String} (h : IsWord text) : text.toList ≠ [] := by
  intro hnil
  exact h.ne_empty (String.toList_injective hnil)

theorem isUnbroken_of_isNumeral {cs : List Char} (h : Number.IsNumeral cs) : IsUnbroken cs := by
  refine isUnbroken_of_forall fun c hc => ⟨?_, h.not_isBlank c hc⟩
  rintro rfl
  exact h.notMem (by decide) (by decide) (by decide) hc

/-! ## Parts -/

/-- In an unbroken text nothing but a quoted run can hold a separator, and each run is closed. -/
theorem IsUnbroken.holdsBehind {part : List Char} (h : IsUnbroken part) {before : List Char}
    (hclosed : ¬ EndsQuoted before) : HoldsBehind before part ∧ ¬ EndsQuoted (before ++ part) := by
  induction h generalizing before with
  | nil =>
    rw [List.append_nil]
    exact ⟨holdsBehind_nil before, hclosed⟩
  | @plain c cs hquote hblank h ih =>
    obtain ⟨hcs, hend⟩ := ih (mt (endsQuoted_concat_of_ne hquote).1 hclosed)
    rw [List.append_assoc] at hend
    refine ⟨holdsBehind_cons_iff.2 ⟨fun hc => ?_, hcs⟩, hend⟩
    rw [isSeparator_of_not_isBlank hblank] at hc
    cases hc
  | @quoted run cs hrun h ih =>
    have hopen : EndsQuoted (before ++ ['"']) := endsQuoted_concat_quote.2 hclosed
    have hholds : HoldsBehind (before ++ ['"']) run := by
      rintro front c back rfl -
      have hfront : '"' ∉ front := fun hmem => hrun (List.mem_append_left _ hmem)
      exact (endsQuoted_append_of_notMem hfront).2 hopen
    have hagain : ¬ EndsQuoted (before ++ ['"'] ++ run ++ ['"']) := fun hends =>
      endsQuoted_concat_quote.1 hends ((endsQuoted_append_of_notMem hrun).2 hopen)
    have hquote : isSeparator '"' = true → EndsQuoted before := fun hc => absurd hc (by decide)
    obtain ⟨hcs, hend⟩ := ih hagain
    refine ⟨holdsBehind_cons_iff.2 ⟨hquote, hholds.append (holdsBehind_cons_iff.2 ⟨?_, hcs⟩)⟩, ?_⟩
    · exact fun hc => absurd hc (by decide)
    · simpa using hend

/-- An unbroken text is taken whole if it ends there or a separator follows. -/
theorem IsUnbroken.takePart_append {part : List Char} (h : IsUnbroken part) {rest : List Char}
    (hrest : ∀ c ∈ rest.head?, isSeparator c = true) :
    takePart false (part ++ rest) = (part, rest) := by
  obtain ⟨hholds, hclosed⟩ := h.holdsBehind not_endsQuoted_nil
  have htake := hholds.takePart_append fun c hc => ⟨hrest c hc, hclosed⟩
  rwa [decide_eq_false not_endsQuoted_nil] at htake

theorem splitParts_append {part rest : List Char} (hpart : IsUnbroken part) (hne : part ≠ [])
    (hrest : ∀ c ∈ rest.head?, isSeparator c = true) :
    splitParts (part ++ rest) = part :: splitParts rest := by
  obtain ⟨hholds, hclosed⟩ := hpart.holdsBehind not_endsQuoted_nil
  exact IsTagPart.splitParts_append ⟨hne, hholds⟩ fun c hc => ⟨hrest c hc, hclosed⟩

theorem isGap_singleton {c : Char} (h : isSeparator c = true) : IsGap [c] :=
  ⟨List.cons_ne_nil c [], List.forall_mem_singleton.2 h⟩

theorem splitParts_gap_append {gap : List Char} (h : ∀ c ∈ gap, isSeparator c = true)
    (rest : List Char) : splitParts (gap ++ rest) = splitParts rest := by
  induction gap with
  | nil => rfl
  | cons c gap ih =>
    rw [List.forall_mem_cons] at h
    rw [List.cons_append, splitParts, if_pos h.1, ih h.2]

/-! ## Params -/

section

variable {param : String × String} {part : List Char} (h : WrittenParam param part)
  (hparam : IsWritable param)

include h hparam

theorem WrittenParam.isUnbroken : IsUnbroken part := by
  cases h with
  | equals key value =>
    exact hparam.key.isUnbroken.append (.plain (by decide) (by decide) hparam.value)
  | colon key value =>
    exact hparam.key.isUnbroken.append (.plain (by decide) (by decide) hparam.value)

theorem WrittenParam.ne_nil : part ≠ [] := by
  cases h with
  | equals key value => exact List.append_ne_nil_of_left_ne_nil hparam.key.toList_ne_nil _
  | colon key value => exact List.append_ne_nil_of_left_ne_nil hparam.key.toList_ne_nil _

theorem WrittenParam.bar_notMem : '|' ∉ part := by
  have hkey := hparam.key.bar
  have hvalue := hparam.bar
  cases h with
  | equals key value => simpa using ⟨hkey, hvalue⟩
  | colon key value => simpa using ⟨hkey, hvalue⟩

theorem WrittenParam.isParam : IsParam part param := by
  have hne := hparam.key.toList_ne_nil
  have hequals := hparam.equals
  cases h with
  | equals key value =>
    have hread := IsParam.equals value.toList hne hequals
    rwa [String.ofList_toList, String.ofList_toList] at hread
  | colon key value hkey hvalue =>
    have hnone : '=' ∉ key.toList ++ ':' :: value.toList := by simpa using ⟨hequals, hvalue⟩
    have hread := IsParam.colon hne hkey hnone
    rwa [String.ofList_toList, String.ofList_toList] at hread

end

namespace WrittenParams

variable {params : List (String × String)} {text : List Char} (h : WrittenParams params text)

include h

theorem isSeparator_head : ∀ c ∈ text.head?, isSeparator c = true := by
  cases h with
  | nil =>
    intro c hc
    cases hc
  | @cons param params gap part rest hgap hpart hrest =>
    intro c hc
    cases gap with
    | nil => exact absurd rfl hgap.ne_nil
    | cons d gap =>
      cases hc
      exact hgap.separators c List.mem_cons_self

variable (hparams : ∀ param ∈ params, IsWritable param)

include hparams

theorem bar_notMem : '|' ∉ text := by
  induction h with
  | nil => exact List.not_mem_nil
  | cons hgap hpart hrest ih =>
    rw [List.forall_mem_cons] at hparams
    rw [List.mem_append, List.mem_append, not_or, not_or]
    exact ⟨fun hbar => absurd (hgap.separators _ hbar) (by decide), hpart.bar_notMem hparams.1,
      ih hparams.2⟩

/-- The last character of the params is that of the last param, since no param is empty. -/
theorem not_isBlank_last : ∀ c ∈ text.getLast?, isBlank c = false := by
  induction h with
  | nil =>
    intro c hc
    cases hc
  | @cons param params gap part rest hgap hpart hrest ih =>
    rw [List.forall_mem_cons] at hparams
    intro c hc
    have hpartNe := hpart.ne_nil hparams.1
    rw [List.getLast?_append_of_ne_nil _ (List.append_ne_nil_of_left_ne_nil hpartNe rest)] at hc
    cases rest with
    | nil =>
      rw [List.append_nil] at hc
      exact (hpart.isUnbroken hparams.1).not_isBlank_last c hc
    | cons d rest =>
      rw [List.getLast?_append_cons] at hc
      exact ih hparams.2 c hc

/-- The params are read from their parts, each into what those before it gave. -/
theorem bindParams_splitParts (bound : Params) :
    bindParams bound (splitParts text) = .ok (bound.insertAll params) := by
  induction h generalizing bound with
  | nil =>
    rw [splitParts]
    rfl
  | @cons param params gap part rest hgap hpart hrest ih =>
    rw [List.forall_mem_cons] at hparams
    rw [splitParts_gap_append hgap.separators, splitParts_append (hpart.isUnbroken hparams.1)
      (hpart.ne_nil hparams.1) hrest.isSeparator_head, bindParams,
      (hpart.isParam hparams.1).parseParam_eq]
    exact ih hparams.2 _

/-- Behind a word the params are parts of their own, and are read as what they are. -/
theorem splitParts_word_append {word : String} (hword : IsWord word) :
    ∃ parts, splitParts (word.toList ++ text) = word.toList :: parts ∧
      parseParams parts = .ok (Table.ofList params) :=
  ⟨_, splitParts_append hword.isUnbroken hword.toList_ne_nil h.isSeparator_head,
    h.bindParams_splitParts hparams Table.empty⟩

theorem hasNoBlankEnds_word_append {word : String} (hword : IsWord word) :
    HasNoBlankEnds (word.toList ++ text) := by
  constructor
  · intro c hc
    rw [List.head?_append_of_ne_nil _ hword.toList_ne_nil] at hc
    exact hword.isUnbroken.not_isBlank_head c hc
  · intro c hc
    cases text with
    | nil =>
      rw [List.append_nil] at hc
      exact hword.isUnbroken.not_isBlank_last c hc
    | cons d rest =>
      rw [List.getLast?_append_cons] at hc
      exact h.not_isBlank_last hparams c hc

end WrittenParams

/-! ## Tags -/

theorem IsBlankText.bar_notMem {gap : List Char} (h : IsBlankText gap) : '|' ∉ gap :=
  fun hbar => absurd (h _ hbar) (by decide)

theorem WrittenPipe.splitPipe_eq {pipe : Option String} {text body : List Char}
    (h : WrittenPipe pipe text) (hbar : '|' ∉ body) (hends : HasNoBlankEnds body) :
    splitPipe (body ++ text) = (body, pipe) := by
  have hcut {gap : List Char} (hgap : IsBlankText gap) (after : List Char) :
      cut? ['|'] (body ++ (gap ++ '|' :: after)) = some (body ++ gap, after) := by
    rw [← List.append_assoc]
    refine Text.cut?_singleton_append after ?_
    rw [List.mem_append, not_or]
    exact ⟨hbar, IsBlankText.bar_notMem hgap⟩
  have hbody {gap : List Char} (hgap : IsBlankText gap) : trim (body ++ gap) = body := by
    rw [Text.trim_append_blank body hgap, Text.trim_eq_self hends]
  unfold splitPipe
  cases h with
  | none => rw [List.append_nil, Text.cut?_singleton_eq_none_iff.2 hbar]
  | bare hgap hafter =>
    have hnone := Text.trim_append_blank [] hafter
    rw [List.nil_append, Text.trim_nil] at hnone
    rw [hcut hgap]
    dsimp only
    rw [hbody hgap, hnone]
    rfl
  | @named pipe gap lead trail hne hpipe hgap hlead htrail =>
    have hnot : pipe.toList.isEmpty = false := by
      rw [List.isEmpty_eq_false_iff]
      exact fun hnil => hne (String.toList_injective hnil)
    rw [hcut hgap]
    dsimp only
    rw [hbody hgap, Text.trim_surrounded hlead htrail, hpipe, hnot, String.ofList_toList]
    rfl

/-- The tag that a written text is read as. -/
theorem parseTag_eq_of_written {name : String} {params : List (String × String)}
    {pipe : Option String} {paramsText pipeText : List Char} (hname : IsWord name)
    (hparams : ∀ param ∈ params, IsWritable param) (hwritten : WrittenParams params paramsText)
    (hpipe : WrittenPipe pipe pipeText) :
    parseTag (name.toList ++ paramsText ++ pipeText) =
      .ok ⟨name, Table.ofList params, pipe⟩ := by
  have hbar : '|' ∉ name.toList ++ paramsText := by
    rw [List.mem_append, not_or]
    exact ⟨hname.bar, hwritten.bar_notMem hparams⟩
  obtain ⟨parts, hparts, hbound⟩ := hwritten.splitParts_word_append hparams hname
  unfold parseTag
  rw [hpipe.splitPipe_eq hbar (hwritten.hasNoBlankEnds_word_append hparams hname)]
  dsimp only
  rw [hparts]
  dsimp only
  rw [hbound, String.ofList_toList]
  rfl

/-- **Written tags.** However a tag is spaced, and whether its params are cut by `=` or by `:`, it
is read as itself: its name, its pipe, and for each key the value that comes last. -/
theorem parseTag_of_written {name : String} {params : List (String × String)}
    {pipe : Option String} {paramsText pipeText : List Char} (hname : IsWord name)
    (hparams : ∀ param ∈ params, IsWritable param) (hwritten : WrittenParams params paramsText)
    (hpipe : WrittenPipe pipe pipeText) :
    ∃ bound : Params, parseTag (name.toList ++ paramsText ++ pipeText) = .ok ⟨name, bound, pipe⟩ ∧
      bound = Table.ofList params ∧ ∀ key, bound.get? key = params.reverse.lookup key :=
  ⟨_, parseTag_eq_of_written hname hparams hwritten hpipe, rfl, Table.get?_ofList params⟩

/-- A quoted value with a space in it, a param with a colon, a key that comes twice, and a pipe with
a bar in its name. -/
theorem parseTag_spacedTag :
    let params := [("k", "\"a b\"x"), ("w", "1"), ("k", "")]
    IsWord "m.date" ∧ (∀ param ∈ params, IsWritable param) ∧
      WrittenParams params "  k=\"a b\"x\tw:1 k=".toList ∧
      WrittenPipe (some "sum|mary") "\n|\t sum|mary ".toList ∧
      ∃ bound : Params,
        parseTag "m.date  k=\"a b\"x\tw:1 k=\n|\t sum|mary ".toList =
          .ok ⟨"m.date", bound, some "sum|mary"⟩ ∧ bound.get? "k" = some "" := by
  intro params
  have hname : IsWord "m.date" := isWord_of_all (by decide +kernel) (by decide +kernel)
  have hparams : ∀ param ∈ params, IsWritable param := by
    have hrun : '"' ∉ "a b".toList := by decide +kernel
    have hquoted : IsUnbroken ('"' :: ("a b".toList ++ ['"', 'x'])) :=
      .quoted hrun (.plain (by decide) (by decide) .nil)
    have hfirst : IsWritable ("k", "\"a b\"x") :=
      ⟨isWord_of_all (by decide) (by decide +kernel), by decide, hquoted, by decide +kernel⟩
    have hsecond : IsWritable ("w", "1") :=
      ⟨isWord_of_all (by decide) (by decide +kernel), by decide,
        .plain (by decide) (by decide) .nil, by decide +kernel⟩
    have hthird : IsWritable ("k", "") :=
      ⟨isWord_of_all (by decide) (by decide +kernel), by decide, .nil, by decide +kernel⟩
    exact List.forall_mem_cons.2 ⟨hfirst, List.forall_mem_cons.2 ⟨hsecond,
      List.forall_mem_singleton.2 hthird⟩⟩
  have hgap : IsBlankText ['\n'] := List.all_eq_true.1 rfl
  have hlead : IsBlankText ['\t', ' '] := List.all_eq_true.1 rfl
  have htrail : IsBlankText [' '] := List.all_eq_true.1 rfl
  have hspaces : IsGap [' ', ' '] := ⟨by decide, by simp [isSeparator]⟩
  have hwritten : WrittenParams params "  k=\"a b\"x\tw:1 k=".toList :=
    .cons hspaces (.equals "k" "\"a b\"x")
      (.cons (isGap_singleton (c := '\t') rfl) (.colon "w" "1" (by decide) (by decide))
        (.cons (isGap_singleton (c := ' ') rfl) (.equals "k" "") .nil))
  have hpipe : WrittenPipe (some "sum|mary") "\n|\t sum|mary ".toList :=
    .named (by decide) (by decide +kernel) hgap hlead htrail
  obtain ⟨bound, hparse, -, hbound⟩ := parseTag_of_written hname hparams hwritten hpipe
  exact ⟨hname, hparams, hwritten, hpipe, bound, hparse, (hbound "k").trans (by decide)⟩

end PromptTemplate
