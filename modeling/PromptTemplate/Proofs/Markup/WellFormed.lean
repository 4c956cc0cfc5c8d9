import Mathlib.Data.List.Chain
import PromptTemplate.Proofs.Markup.Seam
import PromptTemplate.Proofs.Tag.WellFormed
/-!
# Well-formed templates

Whatever can be read is well formed for those who render it: each token is
(`Token.WellFormed`), and a literal text is one token. `wellFormed_of_tokenize` puts it together
along the layout of the template, from what is known of its bodies.
-/

namespace PromptTemplate

open Layout (literalTokens)
open Text (trim)

/-- A literal text is not empty and opens no tag; tags and headers are well formed. -/
def Token.WellFormed : Token → Prop
  | literal text => text ≠ "" ∧ ¬ opening <:+: text.toList
  | tag t => t.WellFormed
  | forStart header => header.WellFormed
  | forEnd => True

/-- The token is literal text. -/
def Token.isLiteral : Token → Bool
  | literal _ => true
  | _ => false

/-- Literal texts do not stand side by side. -/
def LiteralsApart (tokens : List Token) : Prop :=
  tokens.IsChain fun token next => ¬ (token.isLiteral ∧ next.isLiteral)

/-! ## Bodies -/

/-- A body without a closing in it is read as a well-formed token that is no literal text. -/
theorem Token.wellFormed_of_ofBody {body : List Char} {token : Token}
    (hclosing : ¬ closing <:+: body) (h : ofBody (trim body) = .ok token) :
    token.WellFormed ∧ token.isLiteral = false := by
  have htrim : ¬ closing <:+: trim body := fun hc => hclosing (hc.trans (Text.trim_isInfix body))
  unfold ofBody at h
  split at h
  · cases h
    exact ⟨trivial, rfl⟩
  · split at h
    · obtain ⟨header, hheader, h⟩ := exists_of_bind_eq_ok h
      cases h
      exact ⟨ForHeader.wellFormed_of_parse hheader, rfl⟩
    · obtain ⟨tag, htag, h⟩ := exists_of_bind_eq_ok h
      cases h
      exact ⟨Tag.wellFormed_of_parse htrim htag, rfl⟩

/-! ## Layouts -/

theorem wellFormed_of_mem_literalTokens {text : List Char} (h : ¬ opening <:+: text) :
    ∀ token ∈ literalTokens text, token.WellFormed := by
  intro token hmem
  unfold literalTokens at hmem
  split at hmem
  · cases hmem
  · next hne =>
    rw [List.mem_singleton.1 hmem]
    refine ⟨ofList_ne_empty hne, ?_⟩
    rw [String.toList_ofList]
    exact h

theorem literalsApart_literalTokens (text : List Char) : LiteralsApart (literalTokens text) := by
  unfold literalTokens
  split
  · exact .nil
  · exact .singleton _

/-- Behind a token that is no literal text, a literal text may begin anew. -/
theorem LiteralsApart.literalTokens_append {token : Token} {rest : List Token}
    (h : LiteralsApart rest) (htoken : token.isLiteral = false) (text : List Char) :
    LiteralsApart (literalTokens text ++ token :: rest) := by
  have hcons : LiteralsApart (token :: rest) := by
    refine List.isChain_cons.2 ⟨fun next _ hboth => ?_, h⟩
    rw [htoken] at hboth
    cases hboth.1
  unfold literalTokens
  split
  · exact hcons
  · refine List.isChain_cons.2 ⟨fun next hnext hboth => ?_, hcons⟩
    cases hnext
    rw [htoken] at hboth
    cases hboth.2

/-- The induction is on the tags of the layout, each with the literal text before it. -/
theorem Layout.wellFormed_fill {tags : List (List Char × List Char)}
    {tokens : List Token} {last : List Char} (htokens : List.Forall₂ Accepts tags tokens)
    (hliteral : ∀ tag ∈ tags, ¬ opening <:+: tag.1) (hbody : ∀ tag ∈ tags, ¬ closing <:+: tag.2)
    (hlast : ¬ opening <:+: last) :
    (∀ token ∈ fill ⟨tags, last, none⟩ tokens, token.WellFormed) ∧
      LiteralsApart (fill ⟨tags, last, none⟩ tokens) := by
  induction htokens with
  | nil => exact ⟨wellFormed_of_mem_literalTokens hlast, literalsApart_literalTokens last⟩
  | @cons tag token tags tokens htag _ ih =>
    rw [List.forall_mem_cons] at hliteral hbody
    obtain ⟨hrest, hapart⟩ := ih hliteral.2 hbody.2
    obtain ⟨htoken, hnot⟩ := Token.wellFormed_of_ofBody hbody.1 (Token.ofBody_eq_iff.2 htag)
    have hfill : fill ⟨tag :: tags, last, none⟩ (token :: tokens) =
        literalTokens tag.1 ++ token :: fill ⟨tags, last, none⟩ tokens := by
      simp [fill]
    rw [hfill]
    refine ⟨fun other hmem => ?_, hapart.literalTokens_append hnot tag.1⟩
    rcases List.mem_append.1 hmem with hmem | hmem
    · exact wellFormed_of_mem_literalTokens hliteral.1 other hmem
    · rcases List.mem_cons.1 hmem with rfl | hmem
      · exact htoken
      · exact hrest other hmem

/-- **Well-formed templates.** The tokens of a template are all well formed, and no two literal
texts stand side by side. -/
theorem wellFormed_of_tokenize {template : String} {tokens : List Token}
    (h : tokenize template = .ok tokens) :
    (∀ token ∈ tokens, token.WellFormed) ∧ LiteralsApart tokens := by
  obtain ⟨layout, hproper, -, hread⟩ := exists_layout template
  have hreads := Layout.tokens_markup_eq_iff.1 (hread.symm.trans h)
  cases hreads with
  | ok htags hrest =>
    exact Layout.wellFormed_fill htags hproper.literal hproper.body hproper.last

/-- A template with a brace before a tag, a bar between quotes, and a closing outside of a tag. -/
def mixedTemplate : String :=
  "a\x7b\x7b% m.date k=v w:\"|\" | summary %\x7d\x7b%for i in ( -1..+2 ) %\x7d%\x7d\x7b% endfor %\x7d" ++
    "\x7b% for m in memories limit:3 %\x7d\x7b%endfor%\x7d"

/-- The tokens of the template. -/
def mixedTokens : List Token :=
  [.literal "a\x7b", .tag ⟨"m.date", Table.ofList [("k", "v"), ("w", "\"")], some "\" | summary"⟩,
    .forStart ⟨"i", .range (-1) 2, Table.empty⟩, .literal "%\x7d", .forEnd,
    .forStart ⟨"m", .collection "memories", Table.ofList [("limit", "3")]⟩, .forEnd]

theorem wellFormed_mixedTokens : tokenize mixedTemplate = .ok mixedTokens ∧
    (∀ token ∈ mixedTokens, token.WellFormed) ∧ LiteralsApart mixedTokens := by
  have hread : tokenize mixedTemplate = .ok mixedTokens := by decide +kernel
  exact ⟨hread, wellFormed_of_tokenize hread⟩

end PromptTemplate
