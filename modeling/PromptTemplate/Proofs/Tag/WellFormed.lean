import Mathlib.Data.List.Infix
import Mathlib.Tactic.SplitIfs
import PromptTemplate.Markup
import PromptTemplate.Proofs.Number.Rounding
import PromptTemplate.Proofs.Outcome
import PromptTemplate.Proofs.Tag.ForHeader
import PromptTemplate.Proofs.Tag.Parts
import PromptTemplate.Proofs.Text.Blank
import PromptTemplate.Proofs.Text.Cut
import PromptTemplate.Tag.ForHeader
/-!
# Well-formed tags and headers

What a tag body is read as has a name and keys that are not empty, and none of its texts holds a
character that would have ended it (`Tag.wellFormed_of_parse`). A for-header has a variable that is
one word, and either two safe bounds or the name of a collection
(`ForHeader.wellFormed_of_parse`).
-/

namespace PromptTemplate

open Text (cut? trim)

/-- The text holds neither a bar nor a closing. -/
structure IsPlain (text : List Char) : Prop where
  bar : '|' ∉ text
  closing : ¬ closing <:+: text

/-- The text can stand before a `=`. -/
structure IsKey (key : String) : Prop where
  ne_empty : key ≠ ""
  equals : '=' ∉ key.toList

/-- The tag has a name, and none of its texts goes beyond its place in a tag body. -/
structure Tag.WellFormed (tag : Tag) : Prop where
  name_ne_empty : tag.name ≠ ""
  name : IsPlain tag.name.toList
  params : ∀ key value, tag.params.get? key = some value →
    IsKey key ∧ IsPlain key.toList ∧ IsPlain value.toList
  pipe : ∀ pipe, tag.pipe = some pipe → pipe ≠ "" ∧ trim pipe.toList = pipe.toList

/-- The params of a loop are those that its items can have: none for a range with safe bounds, keys
and values for a collection with a name. -/
def Iterable.WellFormed (params : Params) : Iterable → Prop
  | range first last => first.natAbs ≤ 2 ^ 53 - 1 ∧ last.natAbs ≤ 2 ^ 53 - 1 ∧ params = Table.empty
  | collection name => name ≠ "" ∧ ¬ ['('] <+: name.toList ∧
    ∀ key value, params.get? key = some value → IsKey key

/-- The variable of the loop is one word, and its items are well formed. -/
structure ForHeader.WellFormed (header : ForHeader) : Prop where
  var_ne_empty : header.var ≠ ""
  var : ' ' ∉ header.var.toList
  iterable : header.iterable.WellFormed header.params

theorem IsPlain.of_infix {text piece : List Char} (h : IsPlain text) (hpiece : piece <:+: text) :
    IsPlain piece :=
  ⟨fun hbar => h.bar (hpiece.subset hbar), fun hclosing => h.closing (hclosing.trans hpiece)⟩

theorem ofList_ne_empty {cs : List Char} (h : cs ≠ []) : String.ofList cs ≠ "" := by
  intro heq
  exact h (by rw [← String.toList_ofList (l := cs), heq]; rfl)

/-! ## Params -/

/-- The key of a param has no `=`, and neither the key nor the value goes beyond the part. -/
theorem isKey_of_parseParam {part : List Char} {key value : String}
    (h : parseParam part = .ok (key, value)) :
    IsKey key ∧ key.toList <:+: part ∧ value.toList <:+: part := by
  have hpieces (c : Char) (key value : List Char) :
      key <:+: key ++ c :: value ∧ value <:+: key ++ c :: value :=
    ⟨(List.prefix_append key _).isInfix,
      ((List.suffix_cons c value).trans (List.suffix_append key _)).isInfix⟩
  cases isParam_of_parseParam h with
  | @equals key value hne hkey =>
    rw [String.toList_ofList, String.toList_ofList]
    refine ⟨⟨ofList_ne_empty hne, ?_⟩, hpieces '=' key value⟩
    rwa [String.toList_ofList]
  | @colon key value hne hkey hequals =>
    rw [String.toList_ofList, String.toList_ofList]
    refine ⟨⟨ofList_ne_empty hne, ?_⟩, hpieces ':' key value⟩
    rw [String.toList_ofList]
    exact fun hmem => hequals (List.mem_append_left _ hmem)

/-- Every param that is bound was bound before or comes from one of the parts. -/
theorem get?_of_bindParams {params bound : Params} {parts : List (List Char)} {key value : String}
    (h : bindParams params parts = .ok bound) (hget : bound.get? key = some value) :
    params.get? key = some value ∨ ∃ part ∈ parts, parseParam part = .ok (key, value) := by
  induction parts generalizing params with
  | nil =>
    cases h
    exact .inl hget
  | cons part parts ih =>
    obtain ⟨⟨key', value'⟩, hpart, hrest⟩ := exists_of_bind_eq_ok h
    rcases ih hrest with hbefore | ⟨other, hother, hparse⟩
    · rw [Table.get?_insert] at hbefore
      split at hbefore
      · next hkey =>
        cases hbefore
        subst hkey
        exact .inr ⟨part, List.mem_cons_self, hpart⟩
      · exact .inl hbefore
    · exact .inr ⟨other, List.mem_cons_of_mem part hother, hparse⟩

theorem exists_part_of_parseParams {parts : List (List Char)} {params : Params}
    {key value : String} (h : parseParams parts = .ok params)
    (hget : params.get? key = some value) :
    ∃ part ∈ parts, parseParam part = .ok (key, value) := by
  rcases get?_of_bindParams h hget with hempty | hpart
  · cases hempty
  · exact hpart

/-! ## Tags -/

theorem splitPipe_fst_isInfix (text : List Char) : (splitPipe text).1 <:+: text := by
  unfold splitPipe
  split
  · exact List.infix_rfl
  · next hcut => exact (Text.trim_isInfix _).trans (Text.before_infix_of_cut? hcut)

theorem bar_notMem_splitPipe_fst (text : List Char) : '|' ∉ (splitPipe text).1 := by
  unfold splitPipe
  split
  · next hcut => exact Text.cut?_singleton_eq_none_iff.1 hcut
  · next before after hcut =>
    exact fun hmem => Text.notMem_of_cut? hcut ((Text.trim_isInfix before).subset hmem)

theorem splitPipe_snd_trimmed {text : List Char} {pipe : String}
    (h : (splitPipe text).2 = some pipe) : pipe ≠ "" ∧ trim pipe.toList = pipe.toList := by
  unfold splitPipe at h
  split at h
  · cases h
  · next before after hcut =>
    dsimp only at h
    split at h
    · cases h
    · next hne =>
      cases h
      rw [String.toList_ofList]
      refine ⟨ofList_ne_empty fun hnil => hne ?_, Text.trim_trim after⟩
      rw [hnil]
      rfl

/-- A tag body without a closing in it gives a well-formed tag. -/
theorem Tag.wellFormed_of_parse {text : List Char} {tag : Tag} (hclosing : ¬ closing <:+: text)
    (h : parseTag text = .ok tag) : tag.WellFormed := by
  have hbody : IsPlain (splitPipe text).1 :=
    ⟨bar_notMem_splitPipe_fst text, fun hc => hclosing (hc.trans (splitPipe_fst_isInfix text))⟩
  unfold parseTag at h
  dsimp only at h
  split at h
  · cases h
  · next name parts hparts =>
    obtain ⟨params, hparams, htag⟩ := exists_of_bind_eq_ok h
    cases htag
    have hpart : ∀ part ∈ name :: parts, part ≠ [] ∧ IsPlain part := by
      intro part hmem
      rw [← hparts] at hmem
      exact ⟨ne_nil_of_mem_splitParts hmem, hbody.of_infix (infix_of_mem_splitParts hmem)⟩
    have hname := hpart name List.mem_cons_self
    refine ⟨ofList_ne_empty hname.1, by rw [String.toList_ofList]; exact hname.2, ?_, ?_⟩
    · intro key value hget
      obtain ⟨part, hmem, hparse⟩ := exists_part_of_parseParams hparams hget
      obtain ⟨hkey, hkeyIn, hvalueIn⟩ := isKey_of_parseParam hparse
      have hplain := (hpart part (List.mem_cons_of_mem name hmem)).2
      exact ⟨hkey, hplain.of_infix hkeyIn, hplain.of_infix hvalueIn⟩
    · exact fun pipe => splitPipe_snd_trimmed

/-! ## Headers -/

theorem natAbs_le_of_parseBound {which : RangeEnd} {text : List Char} {value : Int}
    (h : parseBound which text = .ok value) : value.natAbs ≤ 2 ^ 53 - 1 := by
  unfold parseBound at h
  split at h
  · next hvalue =>
    cases h
    exact Number.natAbs_le_of_signed? hvalue
  · cases h

theorem wellFormed_of_parseRange {text : List Char} {iterable : Iterable}
    (h : parseRange text = .ok iterable) : iterable.WellFormed Table.empty := by
  unfold parseRange at h
  split at h
  · cases h
  · split at h
    · cases h
    · obtain ⟨first, hfirst, h⟩ := exists_of_bind_eq_ok h
      obtain ⟨last, hlast, h⟩ := exists_of_bind_eq_ok h
      cases h
      exact ⟨natAbs_le_of_parseBound hfirst, natAbs_le_of_parseBound hlast, rfl⟩

/-- The first part of a text that begins with neither a parenthesis nor a separator does not begin
with a parenthesis. -/
theorem wellFormed_of_parseItems {header text : List Char} {iterable : Iterable} {params : Params}
    (h : parseItems header (trim text) = .ok (iterable, params)) : iterable.WellFormed params := by
  unfold parseItems at h
  split at h
  · split at h
    · cases h
    · obtain ⟨range, hrange, h⟩ := exists_of_bind_eq_ok h
      cases h
      exact wellFormed_of_parseRange hrange
  · next hnoParen =>
    split at h
    · cases h
    · next name parts hparts =>
      obtain ⟨found, hparams, h⟩ := exists_of_bind_eq_ok h
      cases h
      have hne : name ≠ [] := ne_nil_of_mem_splitParts (hparts ▸ List.mem_cons_self)
      refine ⟨ofList_ne_empty hne, ?_, ?_⟩
      · rw [String.toList_ofList]
        cases htext : trim text with
        | nil =>
          rw [htext, splitParts] at hparts
          cases hparts
        | cons c rest =>
          have hseparator := isSeparator_of_not_isBlank (Text.not_isBlank_of_trim htext)
          rw [htext, splitParts_cons hseparator] at hparts
          cases hparts
          rintro ⟨tail, heq⟩
          cases heq
          exact hnoParen rest htext
      · intro key value hget
        obtain ⟨part, -, hparse⟩ := exists_part_of_parseParams hparams hget
        exact (isKey_of_parseParam hparse).1

/-- The items of a header are well formed, whatever blanks stand around it. -/
theorem ForHeader.iterable_wellFormed_of_parse {text : List Char} {header : ForHeader}
    (h : parseForHeader text = .ok header) : header.iterable.WellFormed header.params := by
  unfold parseForHeader at h
  split at h
  · cases h
  · obtain ⟨⟨iterable, params⟩, hitems, h⟩ := exists_of_bind_eq_ok h
    cases h
    exact wellFormed_of_parseItems hitems

/-- A trimmed text gives a well-formed header. -/
theorem ForHeader.wellFormed_of_parse {text : List Char} {header : ForHeader}
    (h : parseForHeader (trim text) = .ok header) : header.WellFormed := by
  have hiterable := iterable_wellFormed_of_parse h
  unfold parseForHeader at h
  split at h
  · cases h
  · next var items hcut =>
    obtain ⟨⟨iterable, params⟩, hitems, h⟩ := exists_of_bind_eq_ok h
    cases h
    have hheader := cutHeader?_eq_some_iff.1 hcut
    refine ⟨ofList_ne_empty ?_, ?_, hiterable⟩
    · -- Without a variable the trimmed text would begin with a space.
      rintro rfl
      exact absurd (Text.not_isBlank_of_trim hheader.text) (by decide)
    · rw [String.toList_ofList]
      exact hheader.var

end PromptTemplate
