import Mathlib.Data.List.Forall2
import PromptTemplate.Proofs.Markup.Layout
import PromptTemplate.Proofs.Outcome
import PromptTemplate.Tokenizer
/-!
# Reading along a layout

`Layout.Reads` says what comes of a text that is laid out: the error of the leftmost faulty body;
if no body is faulty and an opening is never closed, the error of that; and otherwise the literal
texts and the tokens of the bodies in their order. `tokenize_eq_iff_reads`: reading a template is
reading along its one proper layout.
-/

namespace PromptTemplate

open Text (trim)

namespace Layout

/-- What comes of reading a tag body, by the text between its blanks. -/
inductive BodyReads (body : List Char) : Except TemplateError Token → Prop where
  | forEnd (h : trim body = "endfor".toList) : BodyReads body (.ok .forEnd)
  | header (h : "for ".toList <+: trim body) :
      BodyReads body ((parseForHeader (trim ((trim body).drop 4))).map .forStart)
  | tag (h : trim body ≠ "endfor".toList) (h' : ¬ "for ".toList <+: trim body) :
      BodyReads body ((parseTag (trim body)).map .tag)

/-- The body of the tag is read as the token. -/
def Accepts (tag : List Char × List Char) (token : Token) : Prop := BodyReads tag.2 (.ok token)

/-- The body of the tag is faulty. -/
def Rejects (tag : List Char × List Char) (e : TemplateError) : Prop := BodyReads tag.2 (.error e)

/-- The tokens of a literal text: none if there is no text. -/
def literalTokens (text : List Char) : List Token :=
  if text = [] then [] else [.literal (String.ofList text)]

/-- The literal texts, each body between them replaced by its token. -/
def fill (layout : Layout) (tokens : List Token) : List Token :=
  (layout.tags.zip tokens).flatMap (fun e => literalTokens e.1.1 ++ [e.2]) ++
    literalTokens layout.last

/-- What comes of reading a layout. -/
inductive Reads (layout : Layout) : Except TemplateError (List Token) → Prop where
  /-- A body is faulty and none before it is. -/
  | faulty {before after : List (List Char × List Char)} {tag : List Char × List Char}
      {e : TemplateError} (htags : layout.tags = before ++ tag :: after)
      (hbefore : ∀ t ∈ before, ∃ token, Accepts t token) (he : Rejects tag e) :
      Reads layout (.error e)
  /-- No body is faulty, and a tag is not closed. -/
  | unclosed {tokens : List Token} {rest : List Char}
      (htags : List.Forall₂ Accepts layout.tags tokens) (hrest : layout.unclosed = some rest) :
      Reads layout (.error .unclosedTag)
  /-- No body is faulty, and every tag is closed. -/
  | ok {tokens : List Token} (htags : List.Forall₂ Accepts layout.tags tokens)
      (hrest : layout.unclosed = none) : Reads layout (.ok (layout.fill tokens))

end Layout

open Layout (Accepts Rejects)

/-! ## Bodies -/

theorem Token.ofBody_eq_iff {body : List Char} {outcome : Except TemplateError Token} :
    ofBody (trim body) = outcome ↔ Layout.BodyReads body outcome := by
  constructor
  · rintro rfl
    rw [ofBody]
    split
    · next h => exact .forEnd h
    · next h =>
      split
      · next h' =>
        have := Layout.BodyReads.header (List.isPrefixOf_iff_prefix.1 h')
        cases hread : parseForHeader (trim ((trim body).drop 4)) <;> rwa [hread] at this
      · next h' =>
        have := Layout.BodyReads.tag h fun hp => h' (List.isPrefixOf_iff_prefix.2 hp)
        cases hread : parseTag (trim body) <;> rwa [hread] at this
  · rintro (h | h | ⟨h, h'⟩)
    · rw [ofBody, if_pos h]
    · have hne : trim body ≠ "endfor".toList := by
        intro heq
        rw [heq] at h
        revert h
        decide
      rw [ofBody, if_neg hne, if_pos (List.isPrefixOf_iff_prefix.2 h)]
      cases parseForHeader (trim ((trim body).drop 4)) <;> rfl
    · rw [ofBody, if_neg h, if_neg fun hp => h' (List.isPrefixOf_iff_prefix.1 hp)]
      cases parseTag (trim body) <;> rfl

/-! ## Pieces -/

theorem tokensOfPieces_append (first second : List Piece) :
    tokensOfPieces (first ++ second) =
      (tokensOfPieces first).bind fun tokens => (tokensOfPieces second).map (tokens ++ ·) := by
  induction first with
  | nil =>
    rw [List.nil_append, tokensOfPieces]
    cases tokensOfPieces second <;> rfl
  | cons piece first ih =>
    rw [List.cons_append, tokensOfPieces, tokensOfPieces, ih]
    cases piece.token with
    | error e => rfl
    | ok token =>
      cases tokensOfPieces first with
      | error e => rfl
      | ok tokens => cases tokensOfPieces second <;> rfl

theorem tokensOfPieces_literalPiece (text : List Char) :
    tokensOfPieces (literalPiece text) = .ok (Layout.literalTokens text) := by
  cases text <;> rfl

theorem tokensOfPieces_tagPieces (tag : List Char × List Char) :
    tokensOfPieces (Layout.tagPieces tag) =
      (Token.ofBody (trim tag.2)).map fun token => Layout.literalTokens tag.1 ++ [token] := by
  rw [Layout.tagPieces, tokensOfPieces_append, tokensOfPieces_literalPiece, tokensOfPieces]
  rw [Piece.token]
  cases Token.ofBody (trim tag.2) <;> rfl

theorem tokensOfPieces_of_accepts {tags : List (List Char × List Char)} {tokens : List Token}
    (h : List.Forall₂ Accepts tags tokens) :
    tokensOfPieces (tags.flatMap Layout.tagPieces) =
      .ok ((tags.zip tokens).flatMap fun e => Layout.literalTokens e.1.1 ++ [e.2]) := by
  induction h with
  | nil => rfl
  | @cons tag token tags tokens htag _ ih =>
    rw [List.flatMap_cons, tokensOfPieces_append, tokensOfPieces_tagPieces,
      Token.ofBody_eq_iff.2 htag, ih]
    rfl

/-- The tokens before a faulty body do not matter, and those behind it are not looked at. -/
theorem tokensOfPieces_of_rejects {before after : List (List Char × List Char)}
    {tag : List Char × List Char} {e : TemplateError}
    (hbefore : ∀ t ∈ before, ∃ token, Accepts t token) (he : Rejects tag e) (rest : List Piece) :
    tokensOfPieces ((before ++ tag :: after).flatMap Layout.tagPieces ++ rest) = .error e := by
  induction before with
  | nil =>
    rw [List.nil_append, List.flatMap_cons, List.append_assoc, tokensOfPieces_append,
      tokensOfPieces_tagPieces, Token.ofBody_eq_iff.2 he]
    rfl
  | cons t before ih =>
    rw [List.forall_mem_cons] at hbefore
    obtain ⟨⟨token, ht⟩, hrest⟩ := hbefore
    rw [List.cons_append, List.flatMap_cons, List.append_assoc, tokensOfPieces_append,
      tokensOfPieces_tagPieces, Token.ofBody_eq_iff.2 ht, ih hrest]
    rfl

/-! ## Layouts -/

/-- Either every body is read, or there is a leftmost faulty one. -/
theorem forall_accepts_or_rejects (tags : List (List Char × List Char)) :
    (∃ tokens, List.Forall₂ Accepts tags tokens) ∨
      ∃ before tag after e, tags = before ++ tag :: after ∧
        (∀ t ∈ before, ∃ token, Accepts t token) ∧ Rejects tag e := by
  induction tags with
  | nil => exact .inl ⟨[], .nil⟩
  | cons tag tags ih =>
    cases hbody : Token.ofBody (trim tag.2) with
    | error e => exact .inr ⟨[], tag, tags, e, rfl, by simp, Token.ofBody_eq_iff.1 hbody⟩
    | ok token =>
      have htag : Accepts tag token := Token.ofBody_eq_iff.1 hbody
      rcases ih with ⟨tokens, htokens⟩ | ⟨before, tag', after, e, rfl, hbefore, he⟩
      · exact .inl ⟨token :: tokens, .cons htag htokens⟩
      · refine .inr ⟨tag :: before, tag', after, e, rfl, ?_, he⟩
        rw [List.forall_mem_cons]
        exact ⟨⟨token, htag⟩, hbefore⟩

namespace Layout

theorem Reads.tokens_markup {layout : Layout} {outcome : Except TemplateError (List Token)}
    (h : layout.Reads outcome) : layout.markup.tokens = outcome := by
  cases h with
  | faulty htags hbefore he =>
    rw [Markup.tokens, markup, htags, tokensOfPieces_of_rejects hbefore he]
    rfl
  | unclosed htags hrest =>
    rw [Markup.tokens, markup, tokensOfPieces_append, tokensOfPieces_of_accepts htags,
      tokensOfPieces_literalPiece, hrest]
    rfl
  | ok htags hrest =>
    rw [Markup.tokens, markup, tokensOfPieces_append, tokensOfPieces_of_accepts htags,
      tokensOfPieces_literalPiece, hrest]
    rfl

theorem exists_reads (layout : Layout) : ∃ outcome, layout.Reads outcome := by
  rcases forall_accepts_or_rejects layout.tags with ⟨tokens, htags⟩ | ⟨before, tag, after, e, h⟩
  · cases hrest : layout.unclosed with
    | none => exact ⟨_, .ok htags hrest⟩
    | some rest => exact ⟨_, .unclosed htags hrest⟩
  · exact ⟨_, .faulty h.1 h.2.1 h.2.2⟩

theorem tokens_markup_eq_iff {layout : Layout} {outcome : Except TemplateError (List Token)} :
    layout.markup.tokens = outcome ↔ layout.Reads outcome :=
  eq_iff_of_exists layout.exists_reads (fun _ h => h.tokens_markup) outcome

end Layout

/-- **Reading a template.** A template has exactly one proper layout, and what comes of reading the
template is what comes of reading that layout. -/
theorem tokenize_eq_iff_reads (template : String) :
    ∃ layout : Layout, (layout.Proper ∧ layout.text = template.toList) ∧
      (∀ other : Layout, other.Proper → other.text = template.toList → other = layout) ∧
        ∀ outcome, tokenize template = outcome ↔ layout.Reads outcome := by
  obtain ⟨layout, ⟨hproper, htext⟩, hunique⟩ := Layout.existsUnique_proper template.toList
  refine ⟨layout, ⟨hproper, htext⟩, fun other h h' => hunique other ⟨h, h'⟩, fun outcome => ?_⟩
  rw [tokenize, ← htext, hproper.ofText_text]
  exact Layout.tokens_markup_eq_iff

end PromptTemplate
