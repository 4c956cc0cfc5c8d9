import PromptTemplate.Proofs.Markup.Seam
import PromptTemplate.Proofs.Tag.Written
/-!
# Written templates

A template that is written as tags with nothing between them is read as the tokens of their bodies
(`tokenize_of_bodies`), if no body holds a closing. The body may be that of a written tag, the head
of a loop over a collection or over a range, or the end of a loop.
-/

namespace PromptTemplate

open Number (intText)
open Text (trim isBlank HasNoBlankEnds)

/-- The text can stand between an opening and its closing, and it is read as the token. -/
structure Token.IsBody (token : Token) (body : List Char) : Prop where
  closing : ¬ closing <:+: body
  read : Token.ofBody (trim body) = .ok token

/-- Tags with these bodies, one behind the other. -/
def tagsText (bodies : List (List Char)) : List Char :=
  bodies.flatMap fun body => opening ++ body ++ closing

/-- Tags with these bodies and no text between them. -/
def Layout.ofBodies (bodies : List (List Char)) : Layout :=
  ⟨bodies.map fun body => ([], body), [], none⟩

/-! ## Templates -/

theorem Layout.text_ofBodies (bodies : List (List Char)) :
    (ofBodies bodies).text = tagsText bodies := by
  simp [ofBodies, text, tagText, unclosedText, tagsText, List.flatMap_map]

theorem Layout.proper_ofBodies {bodies : List (List Char)}
    (h : ∀ body ∈ bodies, ¬ closing <:+: body) : (ofBodies bodies).Proper := by
  refine ⟨?_, ?_, ?_, by simp [ofBodies]⟩
  · simp [ofBodies, opening]
  · simpa [ofBodies] using h
  · show ¬ opening <:+: []
    decide

theorem Layout.fill_ofBodies {tokens : List Token} {bodies : List (List Char)}
    (h : tokens.length = bodies.length) : (ofBodies bodies).fill tokens = tokens := by
  induction tokens generalizing bodies with
  | nil =>
    cases bodies with
    | nil => rfl
    | cons body bodies => cases h
  | cons token tokens ih =>
    cases bodies with
    | nil => cases h
    | cons body bodies => exact congrArg (token :: ·) (ih (Nat.succ.inj h))

section

variable {tokens : List Token} {bodies : List (List Char)}
  (h : List.Forall₂ Token.IsBody tokens bodies)

include h

theorem forall₂_accepts_of_isBody :
    List.Forall₂ Layout.Accepts (Layout.ofBodies bodies).tags tokens := by
  induction h with
  | nil => exact .nil
  | cons hbody _ ih => exact .cons (Token.ofBody_eq_iff.1 hbody.read) ih

theorem not_closing_of_isBody : ∀ body ∈ bodies, ¬ closing <:+: body := by
  induction h with
  | nil => simp
  | cons hbody _ ih =>
    rw [List.forall_mem_cons]
    exact ⟨hbody.closing, ih⟩

/-- A template of tags is laid out with no text between them. -/
theorem tokenize_of_bodies {template : String} (htext : template.toList = tagsText bodies) :
    tokenize template = .ok tokens := by
  have hproper := Layout.proper_ofBodies (not_closing_of_isBody h)
  have hreads : (Layout.ofBodies bodies).Reads (.ok ((Layout.ofBodies bodies).fill tokens)) :=
    .ok (forall₂_accepts_of_isBody h) rfl
  rw [Layout.fill_ofBodies h.length_eq] at hreads
  rw [tokenize, htext, ← Layout.text_ofBodies, hproper.ofText_text, hreads.tokens_markup]

end

/-! ## Texts without a closing -/

section

variable {first second : List Char}

theorem not_closing_infix_of_notMem (h : '%' ∉ first) : ¬ closing <:+: first := by
  intro hpair
  exact h (hpair.subset List.mem_cons_self)

theorem not_closing_infix_append_of_notMem (h : '%' ∉ first) (h' : ¬ closing <:+: second) :
    ¬ closing <:+: first ++ second := by
  intro hinfix
  rcases pair_infix_append hinfix with hfirst | hsecond | hacross
  · exact not_closing_infix_of_notMem h hfirst
  · exact h' hsecond
  · exact h (hacross.1.subset List.mem_cons_self)

/-- No closing arises around a character that is not one of its own. -/
theorem not_closing_infix_append_cons {c : Char} (hpercent : c ≠ '%') (hbrace : c ≠ '}')
    (h : ¬ closing <:+: first) (h' : ¬ closing <:+: second) :
    ¬ closing <:+: first ++ c :: second := by
  intro hinfix
  rcases pair_infix_append hinfix with hfirst | hsecond | ⟨-, hstart⟩
  · exact h hfirst
  · have hnotMem : '%' ∉ [c] := fun hmem => hpercent (List.mem_singleton.1 hmem).symm
    exact not_closing_infix_append_of_notMem hnotMem h' hsecond
  · rw [List.cons_prefix_cons] at hstart
    exact hbrace hstart.1.symm

end

theorem Token.isBody_spaced {token : Token} {core : List Char} (hclosing : ¬ closing <:+: core)
    (hends : HasNoBlankEnds core) (hread : Token.ofBody core = .ok token) :
    token.IsBody (' ' :: (core ++ [' '])) := by
  have hblank : Text.IsBlankText [' '] := List.forall_mem_singleton.2 (by decide)
  refine ⟨?_, ?_⟩
  · have hbehind := not_closing_infix_append_cons (c := ' ') (by decide) (by decide) hclosing
      (not_closing_infix_of_notMem List.not_mem_nil)
    have hbefore : '%' ∉ [' '] := by decide
    exact not_closing_infix_append_of_notMem hbefore hbehind
  · have htrim := Text.trim_surrounded hblank hblank core
    rw [Text.trim_eq_self hends] at htrim
    exact (congrArg Token.ofBody htrim).trans hread

/-! ## Tags -/

section

variable {params : List (String × String)} {text : List Char} (h : WrittenParams params text)
  (hparams : ∀ param ∈ params, IsWritable param)

include h

/-- The first part of the body is the name, and not a word that begins or ends a loop. -/
theorem Token.ofBody_of_written {name : String} (hname : IsWord name) (hfor : name ≠ "for")
    (hend : name ≠ "endfor") :
    Token.ofBody (name.toList ++ text) = (parseTag (name.toList ++ text)).map .tag := by
  have hpart := hname.isUnbroken.takePart_append h.isSeparator_head
  have hnotEnd : name.toList ++ text ≠ "endfor".toList := by
    intro heq
    rw [heq] at hpart
    exact hend (String.toList_injective (congrArg Prod.fst hpart).symm)
  have hnotFor : ¬ "for ".toList.isPrefixOf (name.toList ++ text) = true := by
    intro hprefix
    obtain ⟨rest, hrest⟩ := List.isPrefixOf_iff_prefix.1 hprefix
    have hword : IsWord "for" := isWord_of_all (by decide) (by decide +kernel)
    have htaken : takePart false ("for".toList ++ ' ' :: rest) = ("for".toList, ' ' :: rest) :=
      hword.isUnbroken.takePart_append (by simp [isSeparator])
    rw [← hrest, show "for ".toList ++ rest = "for".toList ++ ' ' :: rest from rfl, htaken] at hpart
    exact hfor (String.toList_injective (congrArg Prod.fst hpart).symm)
  rw [Token.ofBody, if_neg hnotEnd, if_neg hnotFor]
  cases parseTag (name.toList ++ text) <;> rfl

include hparams

theorem Token.isBody_tag {name : String} (hname : IsWord name) (hfor : name ≠ "for")
    (hend : name ≠ "endfor") (hclosing : ¬ closing <:+: name.toList ++ text) :
    (Token.tag ⟨name, Table.ofList params, none⟩).IsBody
      (' ' :: (name.toList ++ text ++ [' '])) := by
  refine isBody_spaced hclosing (h.hasNoBlankEnds_word_append hparams hname) ?_
  have hread := parseTag_eq_of_written hname hparams h .none
  rw [List.append_nil] at hread
  rw [Token.ofBody_of_written h hname hfor hend, hread]
  rfl

end

/-- The body of a tag without params, between blanks. -/
def wordBody (name : String) : List Char := ' ' :: (name.toList ++ [' '])

theorem Token.isBody_wordBody {name : String} (hname : IsWord name) (hfor : name ≠ "for")
    (hend : name ≠ "endfor") (hpercent : '%' ∉ name.toList) :
    (Token.tag ⟨name, Table.empty, none⟩).IsBody (wordBody name) := by
  have hclosing : ¬ closing <:+: name.toList ++ [] := by
    rw [List.append_nil]
    exact not_closing_infix_of_notMem hpercent
  have hbody := Token.isBody_tag .nil (by simp) hname hfor hend hclosing
  rw [List.append_nil] at hbody
  exact hbody

/-- The body of a tag with one param, between blanks. -/
def paramBody (name key value : String) : List Char :=
  ' ' :: (name.toList ++ ' ' :: (key.toList ++ '=' :: value.toList) ++ [' '])

theorem Token.isBody_paramBody {name key value : String} (hname : IsWord name) (hfor : name ≠ "for")
    (hend : name ≠ "endfor") (hpercent : '%' ∉ name.toList ++ ' ' :: (key.toList ++ ['=']))
    (hparam : IsWritable (key, value)) (hclosing : ¬ closing <:+: value.toList) :
    (Token.tag ⟨name, Table.ofList [(key, value)], none⟩).IsBody (paramBody name key value) := by
  have hwritten : WrittenParams [(key, value)]
      ([' '] ++ ((key.toList ++ '=' :: value.toList) ++ [])) :=
    .cons (isGap_singleton rfl) (.equals key value) .nil
  have hpart : ¬ closing <:+: name.toList ++ ' ' :: (key.toList ++ '=' :: value.toList) := by
    have hall := not_closing_infix_append_of_notMem hpercent hclosing
    simpa using hall
  have hbody := Token.isBody_tag hwritten (List.forall_mem_singleton.2 hparam) hname hfor hend
    (by rw [List.append_nil]; exact hpart)
  rw [List.append_nil] at hbody
  exact hbody

/-! ## Loops -/

theorem Token.isBody_forEnd : Token.forEnd.IsBody " endfor ".toList :=
  ⟨by decide +kernel, by decide +kernel⟩

/-- A loop variable and the items that it runs over. -/
def headerText (var items : List Char) : List Char := var ++ ' ' :: 'i' :: 'n' :: ' ' :: items

/-- The body that begins a loop, between blanks. -/
def forBody (var items : List Char) : List Char :=
  ' ' :: ("for ".toList ++ headerText var items ++ [' '])

section

variable {var items : List Char} {iterable : Iterable} {params : Params}
  (hne : var ≠ []) (hvar : ∀ c ∈ var, isBlank c = false) (hitems : items ≠ [])
  (hends : HasNoBlankEnds items)

include hvar hends

theorem parseForHeader_headerText
    (hread : ∀ header, parseItems header items = .ok (iterable, params)) :
    parseForHeader (headerText var items) = .ok ⟨String.ofList var, iterable, params⟩ := by
  have hspace : ' ' ∉ var := fun hmem => absurd (hvar _ hmem) (by decide)
  have htext : headerText var items = var ++ " in ".toList ++ items := by
    rw [List.append_assoc]
    rfl
  have hheader : IsHeaderText (headerText var items) var items := ⟨htext, hspace⟩
  rw [parseForHeader_of_isHeaderText hheader, Text.trim_eq_self hends, hread]
  rfl

include hne hitems

theorem hasNoBlankEnds_headerText : HasNoBlankEnds (headerText var items) := by
  unfold headerText
  constructor
  · intro c hc
    rw [List.head?_append_of_ne_nil _ hne] at hc
    exact hvar c (List.mem_of_mem_head? hc)
  · intro c hc
    rw [show var ++ ' ' :: 'i' :: 'n' :: ' ' :: items = var ++ " in ".toList ++ items by simp,
      List.getLast?_append_of_ne_nil _ hitems] at hc
    exact hends.last c hc

/-- The head of a loop, with its items behind `in`. -/
theorem Token.isBody_forStart
    (hread : ∀ header, parseItems header items = .ok (iterable, params))
    (hclosing : ¬ closing <:+: headerText var items) :
    (Token.forStart ⟨String.ofList var, iterable, params⟩).IsBody (forBody var items) := by
  have hheader := hasNoBlankEnds_headerText hne hvar hitems hends
  have hcore : HasNoBlankEnds ("for ".toList ++ headerText var items) := by
    constructor
    · intro c hc
      cases hc
      decide
    · intro c hc
      rw [List.getLast?_append_of_ne_nil _ (by simp [headerText])] at hc
      exact hheader.last c hc
  refine isBody_spaced (not_closing_infix_append_of_notMem (by decide) hclosing) hcore ?_
  have hlead : "for ".toList <+: trim ("for ".toList ++ headerText var items) := by
    rw [Text.trim_eq_self hcore]
    exact List.prefix_append _ _
  have hbody := Layout.BodyReads.header hlead
  rw [← Token.ofBody_eq_iff, Text.trim_eq_self hcore, List.drop_left' (by decide),
    Text.trim_eq_self hheader, parseForHeader_headerText hvar hends hread] at hbody
  exact hbody

end

/-! ## Items -/

theorem parseItems_collection {name : String} (hname : IsWord name)
    (hparen : '(' ∉ name.toList.head?) {params : List (String × String)} {text : List Char}
    (h : WrittenParams params text) (hparams : ∀ param ∈ params, IsWritable param)
    (header : List Char) :
    parseItems header (name.toList ++ text) = .ok (.collection name, Table.ofList params) := by
  obtain ⟨parts, hparts, hbound⟩ := h.splitParts_word_append hparams hname
  unfold parseItems
  split
  · next inside heq =>
    rw [← List.head?_append_of_ne_nil _ hname.toList_ne_nil, heq] at hparen
    exact absurd rfl hparen
  · rw [hparts]
    dsimp only
    rw [hbound, String.ofList_toList]
    rfl

/-- A range between these bounds. -/
def rangeText (first last : Int) : List Char :=
  '(' :: ((intText first).toList ++ '.' :: '.' :: ((intText last).toList ++ [')']))

theorem parseBound_intText {n : Int} (h : n.natAbs ≤ Number.maxSafe) (which : RangeEnd) :
    parseBound which (intText n).toList = .ok n := by
  have hends := Text.hasNoBlankEnds_of_forall (Number.isNumeral_intText n).not_isBlank
  rw [parseBound, Text.trim_eq_self hends, Number.signed?_intText h]

section

variable {first last : Int} (hfirst : first.natAbs ≤ Number.maxSafe)
  (hlast : last.natAbs ≤ Number.maxSafe)

include hfirst hlast

/-- There is no dot in the bounds, so the two that are found stand between them. -/
theorem parseRange_intText :
    parseRange ((intText first).toList ++ '.' :: '.' :: (intText last).toList) =
      .ok (.range first last) := by
  have hdot (n : Int) : '.' ∉ (intText n).toList :=
    Number.notMem_intText (by decide) (by decide) (by decide) n
  have hcut := Text.cut?_cons_append ['.'] (intText last).toList (hdot first)
  have hnone : Text.cut? ['.', '.'] (intText last).toList = none :=
    (Text.cut?_eq_none_iff (by decide)).2 fun hpair =>
      hdot last (hpair.subset List.mem_cons_self)
  have hoccurs : Text.occurs ['.', '.'] (intText last).toList = false := by
    rw [Text.occurs, hnone]
    rfl
  rw [List.singleton_append] at hcut
  unfold parseRange
  rw [hcut]
  dsimp only
  rw [hoccurs, parseBound_intText hfirst, parseBound_intText hlast]
  rfl

theorem parseItems_rangeText (header : List Char) :
    parseItems header (rangeText first last) = .ok (.range first last, Table.empty) := by
  have hparen (n : Int) : ')' ∉ (intText n).toList :=
    Number.notMem_intText (by decide) (by decide) (by decide) n
  have hinside : ')' ∉ (intText first).toList ++ '.' :: '.' :: (intText last).toList := by
    simpa using ⟨hparen first, hparen last⟩
  have hcut := Text.cut?_singleton_append [] hinside
  rw [List.append_assoc, List.cons_append, List.cons_append] at hcut
  rw [rangeText, parseItems, hcut]
  dsimp only
  rw [parseRange_intText hfirst hlast]
  rfl

end

end PromptTemplate
