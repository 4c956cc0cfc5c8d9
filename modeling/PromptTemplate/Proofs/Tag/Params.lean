import Mathlib.Data.List.Forall2
import PromptTemplate.Proofs.Outcome
import PromptTemplate.Proofs.Text.Cut
import PromptTemplate.Tag.Parser
/-!
# What params are read from

A part is a param if there is a key before its first `=`, or before its first `:` if it has no `=`
(`IsParam`), and every other part is at fault in one of two ways (`ParamFault`). A list of parts is
read as the table of its params, in which the last of several values for a key counts, or fails at
the first part that is none (`parseParams_eq_iff`).
-/

namespace PromptTemplate

open Text (cut?)

/-- The part is a param with this key and value. -/
inductive IsParam : List Char → String × String → Prop
  | equals {key : List Char} (value : List Char) (hne : key ≠ []) (hkey : '=' ∉ key) :
    IsParam (key ++ '=' :: value) (String.ofList key, String.ofList value)
  | colon {key value : List Char} (hne : key ≠ []) (hkey : ':' ∉ key)
    (hequals : '=' ∉ key ++ ':' :: value) :
    IsParam (key ++ ':' :: value) (String.ofList key, String.ofList value)

/-- What is wrong with a part that is no param: it cannot be cut, or there is no key before the
cut. -/
inductive ParamFault : List Char → TemplateError → Prop
  | separator {part : List Char} (hequals : '=' ∉ part) (hcolon : ':' ∉ part) :
    ParamFault part (.paramWithoutSeparator (String.ofList part))
  | equals (value : List Char) :
    ParamFault ('=' :: value) (.paramWithoutKey (String.ofList ('=' :: value)))
  | colon {value : List Char} (hequals : '=' ∉ value) :
    ParamFault (':' :: value) (.paramWithoutKey (String.ofList (':' :: value)))

/-- What comes of reading parts as params. -/
inductive ParamsRead (parts : List (List Char)) : Except TemplateError Params → Prop
  | ok {params : List (String × String)} (h : List.Forall₂ IsParam parts params) :
    ParamsRead parts (.ok (Table.ofList params))
  /-- A part is at fault and none before it is. -/
  | fault {before after : List (List Char)} {part : List Char} {params : List (String × String)}
    {e : TemplateError} (hparts : parts = before ++ part :: after)
    (hbefore : List.Forall₂ IsParam before params) (hpart : ParamFault part e)
    (hkind : e.kind = .invalidParam) : ParamsRead parts (.error e)

theorem ParamFault.kind {part : List Char} {e : TemplateError} (h : ParamFault part e) :
    e.kind = .invalidParam := by
  cases h <;> rfl

/-! ## One part -/

section

variable {part key value : List Char}

theorem parseParam_of_cut (hne : key ≠ [])
    (hcut : (cut? ['='] part).or (cut? [':'] part) = some (key, value)) :
    parseParam part = .ok (String.ofList key, String.ofList value) := by
  obtain ⟨c, cs, rfl⟩ := List.exists_cons_of_ne_nil hne
  unfold parseParam
  rw [hcut]

theorem parseParam_of_cut_nil (hcut : (cut? ['='] part).or (cut? [':'] part) = some ([], value)) :
    parseParam part = .error (.paramWithoutKey (String.ofList part)) := by
  unfold parseParam
  rw [hcut]

theorem cut_equals (value : List Char) (hkey : '=' ∉ key) :
    (cut? ['='] (key ++ '=' :: value)).or (cut? [':'] (key ++ '=' :: value)) =
      some (key, value) := by
  rw [Text.cut?_singleton_append value hkey]
  rfl

theorem cut_colon (hkey : ':' ∉ key) (hequals : '=' ∉ key ++ ':' :: value) :
    (cut? ['='] (key ++ ':' :: value)).or (cut? [':'] (key ++ ':' :: value)) =
      some (key, value) := by
  rw [Text.cut?_singleton_eq_none_iff.2 hequals, Text.cut?_singleton_append value hkey]
  rfl

end

theorem IsParam.parseParam_eq {part : List Char} {param : String × String}
    (h : IsParam part param) : parseParam part = .ok param := by
  cases h with
  | equals value hne hkey => exact parseParam_of_cut hne (cut_equals value hkey)
  | colon hne hkey hequals => exact parseParam_of_cut hne (cut_colon hkey hequals)

theorem ParamFault.parseParam_eq {part : List Char} {e : TemplateError} (h : ParamFault part e) :
    parseParam part = .error e := by
  cases h with
  | separator hequals hcolon =>
    unfold parseParam
    rw [Text.cut?_singleton_eq_none_iff.2 hequals, Text.cut?_singleton_eq_none_iff.2 hcolon]
    rfl
  | equals value => exact parseParam_of_cut_nil (cut_equals value List.not_mem_nil)
  | colon hequals =>
    have hpart : '=' ∉ ':' :: _ := List.not_mem_cons_of_ne_of_not_mem (by decide) hequals
    exact parseParam_of_cut_nil (cut_colon List.not_mem_nil hpart)

/-- Every part is a param or at fault. -/
theorem isParam_or_paramFault (part : List Char) :
    (∃ param, IsParam part param) ∨ ∃ e, ParamFault part e := by
  cases hequals : cut? ['='] part with
  | some found =>
    obtain ⟨key, value⟩ := found
    have hkey := Text.notMem_of_cut? hequals
    have hpart := Text.eq_append_of_cut? hequals
    rw [List.append_assoc, List.singleton_append] at hpart
    subst hpart
    cases key with
    | nil => exact .inr ⟨_, .equals value⟩
    | cons c cs => exact .inl ⟨_, .equals value (List.cons_ne_nil c cs) hkey⟩
  | none =>
    have hno := Text.cut?_singleton_eq_none_iff.1 hequals
    cases hcolon : cut? [':'] part with
    | none => exact .inr ⟨_, .separator hno (Text.cut?_singleton_eq_none_iff.1 hcolon)⟩
    | some found =>
      obtain ⟨key, value⟩ := found
      have hkey := Text.notMem_of_cut? hcolon
      have hpart := Text.eq_append_of_cut? hcolon
      rw [List.append_assoc, List.singleton_append] at hpart
      subst hpart
      cases key with
      | nil => exact .inr ⟨_, .colon fun hmem => hno (List.mem_cons_of_mem _ hmem)⟩
      | cons c cs => exact .inl ⟨_, .colon (List.cons_ne_nil c cs) hkey hno⟩

theorem isParam_of_parseParam {part : List Char} {param : String × String}
    (h : parseParam part = .ok param) : IsParam part param := by
  rcases isParam_or_paramFault part with ⟨found, hfound⟩ | ⟨e, hfault⟩
  · cases h.symm.trans hfound.parseParam_eq
    exact hfound
  · cases h.symm.trans hfault.parseParam_eq

/-! ## All parts -/

theorem bindParams_of_isParam {before : List (List Char)} {params : List (String × String)}
    (h : List.Forall₂ IsParam before params) (bound : Params) (after : List (List Char)) :
    bindParams bound (before ++ after) = bindParams (bound.insertAll params) after := by
  induction h generalizing bound with
  | nil => rfl
  | cons hpart _ ih =>
    rw [List.cons_append, bindParams, hpart.parseParam_eq]
    exact ih _

theorem ParamsRead.parseParams_eq {parts : List (List Char)} {outcome : Except TemplateError Params}
    (h : ParamsRead parts outcome) : parseParams parts = outcome := by
  cases h with
  | ok hparts =>
    have hbound := bindParams_of_isParam hparts Table.empty []
    rw [List.append_nil] at hbound
    exact hbound
  | fault hparts hbefore hpart =>
    rw [parseParams, hparts, bindParams_of_isParam hbefore, bindParams, hpart.parseParam_eq]
    rfl

theorem exists_paramsRead (parts : List (List Char)) : ∃ outcome, ParamsRead parts outcome := by
  induction parts with
  | nil => exact ⟨_, .ok .nil⟩
  | cons part parts ih =>
    rcases isParam_or_paramFault part with ⟨param, hparam⟩ | ⟨e, hfault⟩
    · obtain ⟨outcome, h | ⟨hparts, hbefore, hpart, hkind⟩⟩ := ih
      · exact ⟨_, .ok (.cons hparam h)⟩
      · exact ⟨_, .fault (congrArg (part :: ·) hparts) (.cons hparam hbefore) hpart hkind⟩
    · exact ⟨_, .fault rfl .nil hfault hfault.kind⟩

theorem parseParams_eq_iff {parts : List (List Char)} {outcome : Except TemplateError Params} :
    parseParams parts = outcome ↔ ParamsRead parts outcome :=
  eq_iff_of_exists (exists_paramsRead parts) (fun _ h => h.parseParams_eq) outcome

end PromptTemplate
