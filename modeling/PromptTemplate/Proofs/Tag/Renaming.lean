import PromptTemplate.Proofs.Outcome
import PromptTemplate.Proofs.Tag.Names
/-!
# Renaming a loop variable in a tag

`Tag.rename x y` puts `y` for `x` in each of the three places where a tag can name a loop variable.
The renamed tag means with `y` bound what the tag means with `x` bound, as long as `y` is no name of
the tag (`resolveTag_rename`). The text of an error shows the variable, so errors are compared by
their kind.
-/

namespace PromptTemplate

open Text (cut?)

/-- `y` for `x`, and every other name as it is. -/
def renameVar (x y name : String) : String := if name = x then y else name

/-- The text with the name before its first `sep` renamed; none if there is no `sep`. -/
def renameBefore? (x y : String) (sep : Char) (text : String) : Option String :=
  (cut? [sep] text.toList).map fun cut =>
    renameVar x y (String.ofList cut.1) ++ String.ofList (sep :: cut.2)

/-- A param value with the name before its first quote renamed. -/
def renameValue (x y value : String) : String := (renameBefore? x y '"' value).getD value

/-- The params with one value renamed. -/
def renameParam (x y key : String) (params : Params) : Params :=
  match params.get? key with
  | none => params
  | some value => params.insert key (renameValue x y value)

/-- The tag with `y` for `x` wherever it names a loop variable. -/
def Tag.rename (x y : String) (tag : Tag) : Tag where
  name := (renameBefore? x y '.' tag.name).getD (renameVar x y tag.name)
  params := if tag.IsDated then renameParam x y "plus" (renameParam x y "minus" tag.params)
    else tag.params
  pipe := tag.pipe

/-- What a name refers to with `y` for `x`. -/
def Reference.rename (x y : String) : Reference → Reference
  | loopField variableName field => .loopField (renameVar x y variableName) field
  | loopVar variableName => .loopVar (renameVar x y variableName)
  | reference => reference

/-- The second variables are the first with `y` for `x`. What either has under the other's name is
hidden. -/
structure RenamedVars (x y : String) (vars vars' : LoopVars) : Prop where
  bound : vars.get? x ≠ none
  get?_eq : ∀ name ≠ y, vars'.get? (renameVar x y name) = vars.get? name

section

variable {x y : String}

@[simp] theorem renameVar_self : renameVar x y x = y := if_pos rfl

theorem renameVar_of_ne {name : String} (h : name ≠ x) : renameVar x y name = name := if_neg h

/-! ## Texts -/

section

variable {sep : Char} {text : String} {before after : List Char}
  (hcut : cut? [sep] text.toList = some (before, after))

include hcut

theorem renameBefore?_of_cut? : renameBefore? x y sep text =
    some (renameVar x y (String.ofList before) ++ String.ofList (sep :: after)) := by
  rw [renameBefore?, hcut]
  rfl

/-- The renamed text is cut at the same place. -/
theorem cut?_renamed (hy : sep ∉ y.toList) :
    cut? [sep] (renameVar x y (String.ofList before) ++ String.ofList (sep :: after)).toList =
      some ((renameVar x y (String.ofList before)).toList, after) := by
  rw [String.toList_append, String.toList_ofList]
  refine Text.cut?_singleton_append after ?_
  unfold renameVar
  split
  · exact hy
  · rw [String.toList_ofList]
    exact Text.notMem_of_cut? hcut

theorem append_of_cut? : String.ofList before ++ String.ofList (sep :: after) = text := by
  rw [← String.ofList_append, ← String.ofList_toList (s := text), Text.eq_append_of_cut? hcut,
    List.append_assoc]
  rfl

end

theorem Reference.ofName_rename (hx : IsVarName x) (hy : IsVarName y) (tag : Tag) :
    ofName (tag.rename x y).name = (ofName tag.name).rename x y := by
  show ofName ((renameBefore? x y '.' tag.name).getD (renameVar x y tag.name)) = _
  cases hcut : cut? ['.'] tag.name.toList with
  | some cut =>
    obtain ⟨variableName, field⟩ := cut
    rw [renameBefore?_of_cut? hcut, Option.getD_some, ofName_of_cut? (cut?_renamed hcut hy.dotless),
      ofName_of_cut? hcut, String.ofList_toList]
    rfl
  | none =>
    rw [renameBefore?, hcut, Option.map_none, Option.getD_none]
    by_cases hname : tag.name = x
    · rw [hname, renameVar_self, hx.ofName_eq, hy.ofName_eq, Reference.rename, renameVar_self]
    · rw [renameVar_of_ne hname]
      rcases ofName_cases hcut with ⟨_, heq, -⟩ | ⟨_, heq, -⟩ | ⟨_, heq, -⟩ | heq
      · rw [heq]
        rfl
      · rw [heq]
        rfl
      · rw [heq]
        rfl
      · rw [heq, Reference.rename, renameVar_of_ne hname]

theorem get?_renameParam (key key' : String) (params : Params) :
    (renameParam x y key params).get? key' =
      if key' = key then (params.get? key').map (renameValue x y) else params.get? key' := by
  unfold renameParam
  by_cases hkey : key' = key
  · rw [hkey, if_pos rfl]
    cases hget : params.get? key with
    | none => exact hget
    | some value => exact Table.get?_insert_self _ _ _
  · rw [if_neg hkey]
    cases params.get? key with
    | none => rfl
    | some value => exact Table.get?_insert_of_ne _ _ hkey

/-! ## Variables -/

namespace RenamedVars

/-- Each of the two is bound in its own place. -/
theorem insert_renamed (x y : String) (vars : LoopVars) (item : LoopValue) :
    RenamedVars x y (vars.insert x item) (vars.insert y item) := by
  refine ⟨by simp, fun name hname => ?_⟩
  by_cases hx : name = x
  · rw [hx, renameVar_self, Table.get?_insert_self, Table.get?_insert_self]
  · rw [renameVar_of_ne hx, Table.get?_insert_of_ne _ _ hx, Table.get?_insert_of_ne _ _ hname]

variable {vars vars' : LoopVars} (h : RenamedVars x y vars vars')

include h

theorem insert {name : String} (hx : name ≠ x) (hy : name ≠ y) (item : LoopValue) :
    RenamedVars x y (vars.insert name item) (vars'.insert name item) := by
  refine ⟨?_, fun other hother => ?_⟩
  · rw [Table.get?_insert_of_ne _ _ (Ne.symm hx)]
    exact h.bound
  · by_cases hname : other = name
    · rw [hname, renameVar_of_ne hx, Table.get?_insert_self, Table.get?_insert_self]
    · have hrenamed : renameVar x y other ≠ name := by
        unfold renameVar
        split
        · exact Ne.symm hy
        · exact hname
      rw [Table.get?_insert_of_ne _ _ hrenamed, Table.get?_insert_of_ne _ _ hname,
        h.get?_eq other hother]

/-- Where `x` is bound again in both, they differ in nothing but `y`. -/
theorem get?_insert_eq (item : LoopValue) {name : String} (hy : name ≠ y) :
    (vars.insert x item).get? name = (vars'.insert x item).get? name := by
  by_cases hx : name = x
  · rw [hx, Table.get?_insert_self, Table.get?_insert_self]
  · rw [Table.get?_insert_of_ne _ _ hx, Table.get?_insert_of_ne _ _ hx, ← h.get?_eq name hy,
      renameVar_of_ne hx]

/-! ## Tags -/

open TemplateError (kind)

theorem interpolate_rename (hy : IsVarName y) {value : String}
    (hfresh : before? '"' value ≠ some y) :
    (interpolate (renameValue x y value) vars').mapError kind =
      (interpolate value vars).mapError kind := by
  unfold interpolate renameValue
  cases hcut : cut? ['"'] value.toList with
  | none => rw [renameBefore?, hcut, Option.map_none, Option.getD_none, hcut]
  | some cut =>
    obtain ⟨name, suffix⟩ := cut
    have hname : String.ofList name ≠ y := by
      intro heq
      exact hfresh (by rw [before?, hcut, ← heq]; rfl)
    rw [renameBefore?_of_cut? hcut, Option.getD_some, cut?_renamed hcut hy.quoteless]
    dsimp only
    rw [String.ofList_toList, h.get?_eq _ hname]
    cases hget : vars.get? (String.ofList name) with
    | none =>
      -- A name that nothing binds is not `x`.
      have hne : String.ofList name ≠ x := fun heq => h.bound (heq ▸ hget)
      rw [renameVar_of_ne hne, append_of_cut? hcut]
    | some item => cases item <;> rfl

theorem paramDuration_rename (hy : IsVarName y) {key : String} {params params' : Params}
    (hget : params'.get? key = (params.get? key).map (renameValue x y))
    (hfresh : (params.get? key).bind (before? '"') ≠ some y) :
    (paramDuration key params' vars').mapError kind =
      (paramDuration key params vars).mapError kind := by
  unfold paramDuration
  rw [hget]
  cases hvalue : params.get? key with
  | none => rfl
  | some value =>
    rw [hvalue] at hfresh
    exact mapError_bind_congr (h.interpolate_rename hy hfresh) fun text => rfl

theorem movedInstant_rename (hy : IsVarName y) {params : Params} (hfresh : y ∉ offsetVars params)
    (clock : Clock) :
    (movedInstant (renameParam x y "plus" (renameParam x y "minus" params)) vars' clock).mapError
        kind = (movedInstant params vars clock).mapError kind := by
  unfold offsetVars at hfresh
  rw [List.mem_append, not_or, Option.mem_toList, Option.mem_toList] at hfresh
  have hget (key : String) (hkey : key = "minus" ∨ key = "plus") :
      (renameParam x y "plus" (renameParam x y "minus" params)).get? key =
        (params.get? key).map (renameValue x y) := by
    rcases hkey with rfl | rfl <;> simp [get?_renameParam]
  have hminus := h.paramDuration_rename hy (hget "minus" (.inl rfl)) hfresh.1
  have hplus := h.paramDuration_rename hy (hget "plus" (.inr rfl)) hfresh.2
  exact mapError_bind_congr (mapError_bind_congr hminus fun minus =>
    mapError_bind_congr hplus fun plus => rfl) fun offset => rfl

theorem resolveField_rename {variableName : String} (hfresh : variableName ≠ y) (field : String) :
    (resolveField (renameVar x y variableName) field vars').mapError kind =
      (resolveField variableName field vars).mapError kind := by
  unfold resolveField
  rw [h.get?_eq variableName hfresh]
  cases vars.get? variableName with
  | none => rfl
  | some item => cases item <;> rfl

theorem resolveBuiltin_rename (hy : IsVarName y) {builtin : Builtin} {tag : Tag}
    (hbuiltin : builtin.name = tag.name) (hfresh : y ∉ tag.names) (context : Context)
    (clock : Clock) :
    (resolveBuiltin builtin (tag.rename x y).params (context.withVars vars') clock).mapError kind =
      (resolveBuiltin builtin tag.params (context.withVars vars) clock).mapError kind := by
  have hmoved (hdated : tag.IsDated) : (movedInstant (tag.rename x y).params vars' clock).mapError
      kind = (movedInstant tag.params vars clock).mapError kind := by
    rw [show (tag.rename x y).params = _ from if_pos hdated]
    refine h.movedInstant_rename hy (fun hmem => hfresh ?_) clock
    rw [Tag.names, if_pos hdated]
    exact List.mem_cons_of_mem _ (List.mem_append_right _ hmem)
  cases builtin with
  | date => exact mapError_bind_congr (hmoved (.inl hbuiltin.symm)) fun t => rfl
  | datetime => exact mapError_bind_congr (hmoved (.inr hbuiltin.symm)) fun t => rfl
  | datetimeiso => rfl
  | result => rfl
  | message => rfl
  | sender => rfl
  | memory =>
    -- The offset of a memory is a plain number, and its params stay as they are.
    have hparams : (tag.rename x y).params = tag.params :=
      if_neg (by rw [Tag.IsDated, ← hbuiltin]; decide)
    rw [hparams]
    rfl

/-- The renamed tag means with the renamed variables what the tag means with the others. -/
theorem resolveTag_rename (hx : IsVarName x) (hy : IsVarName y) {tag : Tag}
    (hfresh : y ∉ tag.names) (context : Context) (clock : Clock) :
    (resolveTag (tag.rename x y) (context.withVars vars') clock).mapError kind =
      (resolveTag tag (context.withVars vars) clock).mapError kind := by
  unfold resolveTag
  rw [Reference.ofName_rename hx hy]
  cases href : Reference.ofName tag.name with
  | loopField variableName field =>
    refine h.resolveField_rename (fun heq => hfresh ?_) field
    rw [Tag.names, Reference.before?_of_loopField href, heq]
    exact List.mem_cons_of_mem _ List.mem_cons_self
  | proxy secret => rfl
  | custom key => rfl
  | builtin builtin =>
    exact h.resolveBuiltin_rename hy (Reference.name_of_builtin href) hfresh context clock
  | loopVar variableName =>
    have hname := Reference.name_of_loopVar href
    have hne : variableName ≠ y := by
      intro heq
      exact hfresh (by rw [Tag.names, ← hname, heq]; exact List.mem_cons_self)
    have hget : (context.withVars vars').loopVars.get? (renameVar x y variableName) =
        (context.withVars vars).loopVars.get? variableName := h.get?_eq variableName hne
    dsimp only [Reference.rename]
    rw [hget]
    cases (context.withVars vars).loopVars.get? variableName <;> rfl

end RenamedVars

end

end PromptTemplate
