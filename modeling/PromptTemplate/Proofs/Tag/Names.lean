import PromptTemplate.Proofs.Text.Cut
import PromptTemplate.Resolve
/-!
# Names in a tag

A tag can name a loop variable in three places: as its own name, before the first dot of its name,
and, if it shows a date that its params can move, before the first quote of a duration param
(`Tag.names`). A name that is fit for a loop variable is read as one wherever it stands alone
(`IsVarName.ofName_eq`).
-/

namespace PromptTemplate

open Text (cut?)

/-- The part of a text before the first `sep`. -/
def before? (sep : Char) (text : String) : Option String :=
  (cut? [sep] text.toList).map fun cut => String.ofList cut.1

/-- The names before the quotes of the duration params. -/
def offsetVars (params : Params) : List String :=
  (((params.get? "minus").bind (before? '"')).toList ++
    ((params.get? "plus").bind (before? '"')).toList)

/-- The tag shows an instant that its params can move. -/
def Tag.IsDated (tag : Tag) : Prop := tag.name = "date" ∨ tag.name = "datetime"

instance (tag : Tag) : Decidable tag.IsDated := inferInstanceAs (Decidable (_ ∨ _))

/-- The names in a tag that may be those of loop variables. -/
def Tag.names (tag : Tag) : List String :=
  tag.name :: ((before? '.' tag.name).toList ++ if tag.IsDated then offsetVars tag.params else [])

/-- The name can stand for nothing but a loop variable, as a tag and in a param. -/
structure IsVarName (name : String) : Prop where
  dotless : '.' ∉ name.toList
  quoteless : '"' ∉ name.toList
  notProxy : ¬ proxyLead <+: name.toList
  notCustom : ¬ customLead <+: name.toList
  notBuiltin : ∀ tag : Builtin, name ≠ tag.name

/-! ## References -/

theorem prefix_of_dropLead? {lead cs rest : List Char} (h : dropLead? lead cs = some rest) :
    lead <+: cs := by
  unfold dropLead? at h
  split at h
  · next hlead => exact List.isPrefixOf_iff_prefix.1 hlead
  · cases h

theorem Builtin.name_of_ofName? {name : String} {tag : Builtin} (h : ofName? name = some tag) :
    tag.name = name := by
  have hfound := List.find?_some h
  exact of_decide_eq_true hfound

namespace Reference

/-- The dot comes before every other rule. -/
theorem ofName_of_cut? {name : String} {variableName field : List Char}
    (h : cut? ['.'] name.toList = some (variableName, field)) :
    ofName name = .loopField (String.ofList variableName) (String.ofList field) := by
  unfold ofName
  dsimp only
  rw [h]

/-- What a name without a dot refers to, and what that says about the name. -/
theorem ofName_cases {name : String} (h : cut? ['.'] name.toList = none) :
    (∃ secret, ofName name = .proxy secret ∧ proxyLead <+: name.toList) ∨
      (∃ key, ofName name = .custom key ∧ customLead <+: name.toList) ∨
      (∃ tag : Builtin, ofName name = .builtin tag ∧ tag.name = name) ∨
      ofName name = .loopVar name := by
  unfold ofName
  dsimp only
  rw [h]
  cases hproxy : dropLead? proxyLead name.toList with
  | some secret => exact .inl ⟨_, rfl, prefix_of_dropLead? hproxy⟩
  | none =>
    cases hcustom : dropLead? customLead name.toList with
    | some key => exact .inr (.inl ⟨_, rfl, prefix_of_dropLead? hcustom⟩)
    | none =>
      cases hbuiltin : Builtin.ofName? name with
      | some tag => exact .inr (.inr (.inl ⟨tag, rfl, Builtin.name_of_ofName? hbuiltin⟩))
      | none => exact .inr (.inr (.inr rfl))

theorem before?_of_loopField {name variableName field : String}
    (h : ofName name = .loopField variableName field) : before? '.' name = some variableName := by
  cases hcut : cut? ['.'] name.toList with
  | none =>
    rcases ofName_cases hcut with ⟨_, heq, -⟩ | ⟨_, heq, -⟩ | ⟨_, heq, -⟩ | heq <;>
      cases h.symm.trans heq
  | some cut =>
    have heq := h.symm.trans (ofName_of_cut? hcut)
    rw [before?, hcut, (Reference.loopField.inj heq).1]
    rfl

theorem name_of_builtin {name : String} {tag : Builtin} (h : ofName name = .builtin tag) :
    tag.name = name := by
  cases hcut : cut? ['.'] name.toList with
  | none =>
    rcases ofName_cases hcut with ⟨_, heq, -⟩ | ⟨_, heq, -⟩ | ⟨_, heq, hname⟩ | heq <;>
      cases h.symm.trans heq
    exact hname
  | some cut => cases h.symm.trans (ofName_of_cut? hcut)

theorem name_of_loopVar {name variableName : String} (h : ofName name = .loopVar variableName) :
    variableName = name := by
  cases hcut : cut? ['.'] name.toList with
  | none =>
    rcases ofName_cases hcut with ⟨_, heq, -⟩ | ⟨_, heq, -⟩ | ⟨_, heq, -⟩ | heq <;>
      cases h.symm.trans heq
    rfl
  | some cut => cases h.symm.trans (ofName_of_cut? hcut)

/-- A key of the dictionary behind its lead. -/
theorem ofName_custom {key : String} (h : '.' ∉ key.toList) :
    ofName ("custom:" ++ key) = .custom key := by
  have hname : ("custom:" ++ key).toList = customLead ++ key.toList := String.toList_append
  have hcut : cut? ['.'] ("custom:" ++ key).toList = none := by
    rw [Text.cut?_singleton_eq_none_iff, hname, List.mem_append, not_or]
    exact ⟨by decide, h⟩
  have hproxy : dropLead? proxyLead (customLead ++ key.toList) = none := rfl
  have hcustom : dropLead? customLead (customLead ++ key.toList) = some key.toList := by
    rw [dropLead?, if_pos (List.isPrefixOf_iff_prefix.2 (List.prefix_append _ _)),
      List.drop_left]
  unfold ofName
  dsimp only
  rw [hcut, hname, hproxy, hcustom]
  dsimp only
  rw [String.ofList_toList]

end Reference

/-- A name for loop variables alone is read as one. -/
theorem IsVarName.ofName_eq {name : String} (h : IsVarName name) :
    Reference.ofName name = .loopVar name := by
  rcases Reference.ofName_cases (Text.cut?_singleton_eq_none_iff.2 h.dotless) with
    ⟨_, -, hproxy⟩ | ⟨_, -, hcustom⟩ | ⟨tag, -, hname⟩ | heq
  · exact absurd hproxy h.notProxy
  · exact absurd hcustom h.notCustom
  · exact absurd hname.symm (h.notBuiltin tag)
  · exact heq

end PromptTemplate
