import PromptTemplate.Proofs.Markup.Tokens
/-!
# Templates side by side

A text that is a whole template may be followed by any other, as long as no opening forms out of
the last character of the one and the first of the other (`Apart`). Their layouts then stand side
by side (`Layout.beside`): a tag is never read across the seam, and of the literal texts that meet
there one is made.

`tokenize_append`: the tokens of the whole are those of both texts with the literal tokens at the
seam made one (`Joined`), and a fault of the second text is the fault of the whole.
-/

namespace PromptTemplate

/-- The texts do not make an opening where the second is put behind the first. -/
def Apart (first second : List Char) : Prop := ¬ (['{'] <:+ first ∧ ['%'] <+: second)

theorem pair_infix_append {α : Type} {a b : α} {first second : List α}
    (h : [a, b] <:+: first ++ second) :
    [a, b] <:+: first ∨ [a, b] <:+: second ∨ ([a] <:+ first ∧ [b] <+: second) := by
  rcases List.infix_append_iff.1 h with h | h | ⟨left, right, heq, hleft, hright⟩
  · exact .inl h
  · exact .inr (.inl h)
  · match left, right, heq with
    | [], [_, _], rfl => exact .inr (.inl hright.isInfix)
    | [_], [_], rfl => exact .inr (.inr ⟨hleft, hright⟩)
    | [_, _], [], rfl => exact .inl hleft.isInfix

theorem not_opening_infix_append {first second : List Char} (h : ¬ opening <:+: first)
    (h' : ¬ opening <:+: second) (hseam : Apart first second) :
    ¬ opening <:+: first ++ second := by
  intro hinfix
  rcases pair_infix_append hinfix with hfirst | hsecond | hacross
  · exact h hfirst
  · exact h' hsecond
  · exact hseam hacross

theorem Apart.of_text {first second last head : List Char} (h : Apart first second)
    (hlast : last <:+ first) (hhead : head <+: second) : Apart last head :=
  fun hacross => h ⟨hacross.1.trans hlast, hacross.2.trans hhead⟩

/-! ## Layouts -/

namespace Layout

/-- The second layout behind the first, whose unclosed text is left out: the literal text that ends
the first and the one that begins the second become one. -/
def beside (first second : Layout) : Layout :=
  match second.tags with
  | [] => ⟨first.tags, first.last ++ second.last, second.unclosed⟩
  | tag :: tags =>
    ⟨first.tags ++ (first.last ++ tag.1, tag.2) :: tags, second.last, second.unclosed⟩

variable {first second : Layout}

theorem text_beside (h : first.unclosed = none) :
    (first.beside second).text = first.text ++ second.text := by
  obtain ⟨tags, last, unclosed⟩ := second
  cases tags with
  | nil => simp [beside, text, unclosedText, h]
  | cons tag tags => simp [beside, text, tagText, unclosedText, h]

theorem last_suffix_text (h : first.unclosed = none) : first.last <:+ first.text := by
  rw [text, h, unclosedText, List.append_nil]
  exact List.suffix_append _ _

theorem Proper.beside (h : first.Proper) (h' : second.Proper) (hclosed : first.unclosed = none)
    (hseam : Apart first.text second.text) : (first.beside second).Proper := by
  have hlast := last_suffix_text hclosed
  obtain ⟨tags, last, unclosed⟩ := second
  cases tags with
  | nil =>
    have hhead : last <+: text ⟨[], last, unclosed⟩ := List.prefix_append _ _
    exact ⟨h.literal, h.body,
      not_opening_infix_append h.last h'.last (hseam.of_text hlast hhead), h'.unclosed⟩
  | cons tag tags =>
    have hhead : tag.1 <+: text ⟨tag :: tags, last, unclosed⟩ := by
      refine ⟨opening ++ tag.2 ++ closing ++ text ⟨tags, last, unclosed⟩, ?_⟩
      simp [text, tagText]
    have hliteral := h'.literal
    have hbody := h'.body
    rw [List.forall_mem_cons] at hliteral hbody
    have hmet := not_opening_infix_append h.last hliteral.1 (hseam.of_text hlast hhead)
    refine ⟨?_, ?_, h'.last, h'.unclosed⟩
    · exact List.forall_mem_append.2 ⟨h.literal, List.forall_mem_cons.2 ⟨hmet, hliteral.2⟩⟩
    · exact List.forall_mem_append.2 ⟨h.body, List.forall_mem_cons.2 hbody⟩

/-- A markup starts with a literal text, which may be empty; of two layouts side by side the markups
meet there. -/
theorem exists_markup_beside (first second : Layout) : ∃ head rest,
    second.markup = ⟨literalPiece head ++ rest, second.unclosed⟩ ∧
      (first.beside second).markup =
        ⟨first.tags.flatMap tagPieces ++ (literalPiece (first.last ++ head) ++ rest),
          second.unclosed⟩ := by
  obtain ⟨tags, last, unclosed⟩ := second
  cases tags with
  | nil => exact ⟨last, [], by simp [markup], by simp [beside, markup]⟩
  | cons tag tags =>
    refine ⟨tag.1, .body tag.2 :: (tags.flatMap tagPieces ++ literalPiece last), ?_, ?_⟩
    · simp [markup, tagPieces]
    · simp [beside, markup, tagPieces]

end Layout

/-! ## Tokens -/

open Layout (literalTokens)

/-- The third list is the first two one behind the other, with the literal text that ends the first
and the one that begins the second in one token. Either text may be empty. -/
inductive Joined : List Token → List Token → List Token → Prop
  | mk (before after : List Token) (last head : List Char) :
    Joined (before ++ literalTokens last) (literalTokens head ++ after)
      (before ++ (literalTokens (last ++ head) ++ after))

/-- What comes of a markup that begins with a literal text and goes on. -/
theorem Markup.tokens_literalPiece_append (text : List Char) (rest : List Piece)
    (unclosed : Option (List Char)) :
    tokens ⟨literalPiece text ++ rest, unclosed⟩ =
      (tokens ⟨rest, unclosed⟩).map (literalTokens text ++ ·) := by
  rw [tokens, tokens, tokensOfPieces_append, tokensOfPieces_literalPiece]
  cases tokensOfPieces rest with
  | error e => rfl
  | ok found => cases unclosed <;> rfl

theorem Markup.tokens_append {pieces : List Piece} {before : List Token}
    (h : tokensOfPieces pieces = .ok before) (rest : List Piece) (unclosed : Option (List Char)) :
    tokens ⟨pieces ++ rest, unclosed⟩ = (tokens ⟨rest, unclosed⟩).map (before ++ ·) := by
  rw [tokens, tokens, tokensOfPieces_append, h]
  cases tokensOfPieces rest with
  | error e => rfl
  | ok found => cases unclosed <;> rfl

/-- A layout that is read as tokens has every tag closed, and ends with its last literal text. -/
theorem Layout.exists_of_tokens_markup {layout : Layout} {found : List Token}
    (h : layout.markup.tokens = .ok found) :
    layout.unclosed = none ∧ ∃ before,
      tokensOfPieces (layout.tags.flatMap tagPieces) = .ok before ∧
        found = before ++ literalTokens layout.last := by
  rw [Markup.tokens, markup, tokensOfPieces_append, tokensOfPieces_literalPiece] at h
  cases hbefore : tokensOfPieces (layout.tags.flatMap tagPieces) with
  | error e =>
    rw [hbefore] at h
    cases h
  | ok before =>
    rw [hbefore] at h
    cases hunclosed : layout.unclosed with
    | some rest =>
      rw [hunclosed] at h
      cases h
    | none =>
      rw [hunclosed] at h
      cases h
      exact ⟨rfl, before, rfl, rfl⟩

theorem exists_layout (template : String) : ∃ layout : Layout, layout.Proper ∧
    layout.text = template.toList ∧ tokenize template = layout.markup.tokens := by
  obtain ⟨layout, hproper, htext⟩ := Layout.exists_proper template.toList
  refine ⟨layout, hproper, htext, ?_⟩
  rw [tokenize, ← htext, hproper.ofText_text]

/-- **Templates side by side.** Behind a template that can be read, another is read as if it stood
alone. -/
theorem tokenize_append {a b : String} {first : List Token} (ha : tokenize a = .ok first)
    (hseam : Apart a.toList b.toList) :
    (∃ e, tokenize b = .error e ∧ tokenize (a ++ b) = .error e) ∨
      ∃ second whole, tokenize b = .ok second ∧ tokenize (a ++ b) = .ok whole ∧
        Joined first second whole := by
  obtain ⟨layout, hproper, htext, hread⟩ := exists_layout a
  obtain ⟨layout', hproper', htext', hread'⟩ := exists_layout b
  obtain ⟨hclosed, before, hbefore, rfl⟩ := Layout.exists_of_tokens_markup (hread ▸ ha)
  have hwhole : tokenize (a ++ b) = (layout.beside layout').markup.tokens := by
    have hbeside := hproper.beside hproper' hclosed (by rwa [htext, htext'])
    rw [tokenize, String.toList_append, ← htext, ← htext', ← Layout.text_beside hclosed,
      hbeside.ofText_text]
  obtain ⟨head, rest, hsecond, hmet⟩ := Layout.exists_markup_beside layout layout'
  rw [hmet, Markup.tokens_append hbefore, Markup.tokens_literalPiece_append] at hwhole
  rw [hsecond, Markup.tokens_literalPiece_append] at hread'
  cases hrest : Markup.tokens ⟨rest, layout'.unclosed⟩ with
  | error e =>
    rw [hrest] at hread' hwhole
    exact .inl ⟨e, hread', hwhole⟩
  | ok after =>
    rw [hrest] at hread' hwhole
    exact .inr ⟨_, _, hread', hwhole, .mk before after layout.last head⟩

end PromptTemplate
