import Mathlib.Logic.ExistsUnique
import PromptTemplate.Markup
import PromptTemplate.Proofs.Text.Cut
/-!
# Layouts

A text is laid out as literal texts with tag bodies between them, and maybe an opening that is
never closed. A layout is proper if each literal text ends at the first opening and each body at
the first closing. Every text has exactly one proper layout (`existsUnique_proper`), whatever
delimiters overlap, abut or nest in it, and its markup is the one of the layout
(`Layout.Proper.ofText_text`).
-/

namespace PromptTemplate

/-- Tag bodies, each behind its literal text, the literal text behind the last of them, and the
text behind an opening without a closing. -/
structure Layout where
  tags : List (List Char × List Char)
  last : List Char
  unclosed : Option (List Char)
  deriving Repr, DecidableEq

namespace Layout

/-- The text of a tag and of the literal text before it. -/
def tagText (tag : List Char × List Char) : List Char := tag.1 ++ opening ++ tag.2 ++ closing

/-- The text from an opening without a closing on. -/
def unclosedText : Option (List Char) → List Char
  | none => []
  | some rest => opening ++ rest

/-- The text that is laid out. -/
def text (layout : Layout) : List Char :=
  layout.tags.flatMap tagText ++ layout.last ++ unclosedText layout.unclosed

/-- No opening occurs in a literal text and no closing inside a tag. -/
structure Proper (layout : Layout) : Prop where
  literal : ∀ tag ∈ layout.tags, ¬ opening <:+: tag.1
  body : ∀ tag ∈ layout.tags, ¬ closing <:+: tag.2
  last : ¬ opening <:+: layout.last
  unclosed : ∀ rest, layout.unclosed = some rest → ¬ closing <:+: rest

/-- The pieces of a tag and of the literal text before it. -/
def tagPieces (tag : List Char × List Char) : List Piece := literalPiece tag.1 ++ [.body tag.2]

/-- The markup of a layout. -/
def markup (layout : Layout) : Markup :=
  ⟨layout.tags.flatMap tagPieces ++ literalPiece layout.last, layout.unclosed⟩

end Layout

/-! ## The markup of a text -/

theorem Markup.ofText_of_literal {s : List Char} (h : Text.cut? opening s = none) :
    ofText s = ⟨literalPiece s, none⟩ := by
  rw [ofText]
  split
  · rfl
  · next before inside hs => rw [h] at hs; cases hs

theorem Markup.ofText_of_unclosed {s before inside : List Char}
    (hs : Text.cut? opening s = some (before, inside)) (hi : Text.cut? closing inside = none) :
    ofText s = ⟨literalPiece before, some inside⟩ := by
  rw [ofText]
  split
  · next hnone => rw [hs] at hnone; cases hnone
  · next before' inside' hs' =>
    rw [hs] at hs'
    cases hs'
    split
    · rfl
    · next body after hi' => rw [hi] at hi'; cases hi'

theorem Markup.ofText_of_tag {s before inside body after : List Char}
    (hs : Text.cut? opening s = some (before, inside))
    (hi : Text.cut? closing inside = some (body, after)) :
    ofText s = ⟨literalPiece before ++ .body body :: (ofText after).pieces,
      (ofText after).unclosed⟩ := by
  rw [ofText]
  split
  · next hnone => rw [hs] at hnone; cases hnone
  · next before' inside' hs' =>
    rw [hs] at hs'
    cases hs'
    split
    · next hnone => rw [hi] at hnone; cases hnone
    · next body' after' hi' => rw [hi] at hi'; cases hi'; rfl

namespace Layout

theorem cut?_opening {before : List Char} (h : ¬ opening <:+: before) (after : List Char) :
    Text.cut? opening (before ++ opening ++ after) = some (before, after) :=
  Text.cut?_pair_append (by decide) after h

theorem cut?_closing {before : List Char} (h : ¬ closing <:+: before) (after : List Char) :
    Text.cut? closing (before ++ closing ++ after) = some (before, after) :=
  Text.cut?_pair_append (by decide) after h

/-- A text with a proper layout is taken apart along it. -/
theorem Proper.ofText_text {layout : Layout} (h : layout.Proper) :
    Markup.ofText layout.text = layout.markup := by
  obtain ⟨tags, last, unclosed⟩ := layout
  induction tags with
  | nil =>
    cases unclosed with
    | none =>
      have hlast := (Text.cut?_eq_none_iff (by decide)).2 h.last
      simpa [text, markup, unclosedText] using Markup.ofText_of_literal hlast
    | some rest =>
      have hrest := (Text.cut?_eq_none_iff (by decide)).2 (h.unclosed rest rfl)
      simpa [text, markup, unclosedText] using
        Markup.ofText_of_unclosed (cut?_opening h.last rest) hrest
  | cons tag tags ih =>
    have hrest : Proper ⟨tags, last, unclosed⟩ :=
      ⟨fun t ht => h.literal t (List.mem_cons_of_mem tag ht),
        fun t ht => h.body t (List.mem_cons_of_mem tag ht), h.last, h.unclosed⟩
    have hbody := cut?_closing (h.body tag List.mem_cons_self) (text ⟨tags, last, unclosed⟩)
    have hliteral := cut?_opening (h.literal tag List.mem_cons_self)
      (tag.2 ++ closing ++ text ⟨tags, last, unclosed⟩)
    have htext : text ⟨tag :: tags, last, unclosed⟩ =
        tag.1 ++ opening ++ (tag.2 ++ closing ++ text ⟨tags, last, unclosed⟩) := by
      simp [text, tagText]
    rw [htext, Markup.ofText_of_tag hliteral hbody, ih hrest]
    simp [markup, tagPieces]

/-! ## Existence and uniqueness -/

theorem exists_proper (s : List Char) : ∃ layout : Layout, layout.Proper ∧ layout.text = s := by
  fun_induction Markup.ofText s with
  | case1 s hs =>
    refine ⟨⟨[], s, none⟩, ⟨by simp, by simp, ?_, by simp⟩, by simp [text, unclosedText]⟩
    exact (Text.cut?_eq_none_iff (by decide)).1 hs
  | case2 s before inside hs hi =>
    refine ⟨⟨[], before, some inside⟩, ⟨by simp, by simp, ?_, ?_⟩, ?_⟩
    · exact Text.not_infix_of_cut? (by decide) hs
    · rintro rest ⟨⟩
      exact (Text.cut?_eq_none_iff (by decide)).1 hi
    · rw [Text.eq_append_of_cut? hs]
      simp [text, unclosedText]
  | case3 s before inside hs body after hi rest ih =>
    obtain ⟨⟨tags, last, unclosed⟩, hproper, htext⟩ := ih
    refine ⟨⟨(before, body) :: tags, last, unclosed⟩, ⟨?_, ?_, hproper.last, hproper.unclosed⟩, ?_⟩
    · rw [List.forall_mem_cons]
      exact ⟨Text.not_infix_of_cut? (by decide) hs, hproper.literal⟩
    · rw [List.forall_mem_cons]
      exact ⟨Text.not_infix_of_cut? (by decide) hi, hproper.body⟩
    · rw [Text.eq_append_of_cut? hs, Text.eq_append_of_cut? hi, ← htext]
      simp [text, tagText]

theorem literalPiece_append_body_inj {l l' b b' : List Char} {rest rest' : List Piece}
    (h : literalPiece l ++ .body b :: rest = literalPiece l' ++ .body b' :: rest') :
    (l, b) = (l', b') ∧ rest = rest' := by
  cases l <;> cases l' <;> simp_all [literalPiece]

theorem literalPiece_injective {l l' : List Char} (h : literalPiece l = literalPiece l') :
    l = l' := by
  cases l <;> cases l' <;> simp_all [literalPiece]

theorem literalPiece_ne_append_body (l l' b : List Char) (rest : List Piece) :
    literalPiece l ≠ literalPiece l' ++ .body b :: rest := by
  cases l <;> cases l' <;> simp [literalPiece]

theorem pieces_injective {tags tags' : List (List Char × List Char)} {last last' : List Char}
    (h : tags.flatMap tagPieces ++ literalPiece last =
      tags'.flatMap tagPieces ++ literalPiece last') : tags = tags' ∧ last = last' := by
  have hcons : ∀ (tag : List Char × List Char) (rest : List (List Char × List Char))
      (end_ : List Char), (tag :: rest).flatMap tagPieces ++ literalPiece end_ =
        literalPiece tag.1 ++ .body tag.2 :: (rest.flatMap tagPieces ++ literalPiece end_) := by
    intro tag rest end_
    simp [tagPieces]
  induction tags generalizing tags' with
  | nil =>
    cases tags' with
    | nil => exact ⟨rfl, literalPiece_injective h⟩
    | cons tag' rest' =>
      rw [hcons] at h
      exact absurd h (literalPiece_ne_append_body _ _ _ _)
  | cons tag rest ih =>
    cases tags' with
    | nil =>
      rw [hcons] at h
      exact absurd h.symm (literalPiece_ne_append_body _ _ _ _)
    | cons tag' rest' =>
      rw [hcons, hcons] at h
      obtain ⟨htag, hrest⟩ := literalPiece_append_body_inj h
      obtain ⟨rfl, rfl⟩ := ih hrest
      exact ⟨congrArg (· :: rest) htag, rfl⟩

/-- The pieces tell where the literal texts end, so they determine the layout. -/
theorem markup_injective {layout layout' : Layout} (h : layout.markup = layout'.markup) :
    layout = layout' := by
  obtain ⟨tags, last, unclosed⟩ := layout
  obtain ⟨tags', last', unclosed'⟩ := layout'
  simp only [markup, Markup.mk.injEq] at h
  obtain ⟨rfl, rfl⟩ := pieces_injective h.1
  rw [h.2]

theorem Proper.unique {layout layout' : Layout} (h : layout.Proper) (h' : layout'.Proper)
    (htext : layout.text = layout'.text) : layout = layout' :=
  markup_injective (by rw [← h.ofText_text, htext, h'.ofText_text])

/-- Every text has exactly one proper layout. -/
theorem existsUnique_proper (s : List Char) :
    ∃! layout : Layout, layout.Proper ∧ layout.text = s := by
  obtain ⟨layout, h, htext⟩ := exists_proper s
  refine ⟨layout, ⟨h, htext⟩, ?_⟩
  rintro other ⟨hother, hothertext⟩
  exact hother.unique h (hothertext.trans htext.symm)

end Layout

end PromptTemplate
