import PromptTemplate.Text.Cut
/-!
# Markup

A template is literal text with tag bodies between `{%` and `%}`. `Markup.ofText` takes a text
apart at its first opening, the first closing behind it, and so on: a closing outside a tag and an
opening inside one are ordinary text. A tag that is opened and not closed ends the markup.

`Markup.text` puts the pieces together again, and nothing is lost (`text_ofText`).
-/

namespace PromptTemplate

/-- What opens a tag. -/
def opening : List Char := ['{', '%']

/-- What closes a tag. -/
def closing : List Char := ['%', '}']

/-- A piece of a template: literal text, or the text between an opening and its closing. -/
inductive Piece where
  | literal (text : List Char)
  | body (text : List Char)
  deriving Repr, DecidableEq

/-- A template taken apart: its pieces, and the text behind an opening that is never closed. -/
structure Markup where
  pieces : List Piece
  unclosed : Option (List Char)
  deriving Repr, DecidableEq

/-- The piece of a literal text; none if there is no text. -/
def literalPiece (text : List Char) : List Piece := if text.isEmpty then [] else [.literal text]

/-- The markup of a text. -/
def Markup.ofText (s : List Char) : Markup :=
  match _hs : Text.cut? opening s with
  | none => ⟨literalPiece s, none⟩
  | some (before, inside) =>
    match _hi : Text.cut? closing inside with
    | none => ⟨literalPiece before, some inside⟩
    | some (body, after) =>
      let rest := Markup.ofText after
      ⟨literalPiece before ++ .body body :: rest.pieces, rest.unclosed⟩
termination_by s.length
decreasing_by
  have h₁ := Text.length_lt_of_cut? _hs (by decide)
  have h₂ := Text.length_lt_of_cut? _hi (by decide)
  omega

/-- The text of a piece. -/
def Piece.text : Piece → List Char
  | .literal text => text
  | .body text => opening ++ text ++ closing

/-- The text that a markup was taken from. -/
def Markup.text (m : Markup) : List Char :=
  m.pieces.flatMap Piece.text ++
    match m.unclosed with
    | none => []
    | some rest => opening ++ rest

/-! ## Facts -/

@[simp] theorem flatMap_text_literalPiece (text : List Char) :
    (literalPiece text).flatMap Piece.text = text := by
  unfold literalPiece
  split
  · next h => simp [List.isEmpty_iff.1 h]
  · simp [Piece.text]

theorem Markup.text_ofText (s : List Char) : (Markup.ofText s).text = s := by
  fun_induction Markup.ofText s with
  | case1 s hs => simp [Markup.text]
  | case2 s before inside hs hi =>
    simp [Markup.text, Text.eq_append_of_cut? hs]
  | case3 s before inside hs body after hi rest ih =>
    have h : (rest.pieces.flatMap Piece.text ++
        match rest.unclosed with
        | none => []
        | some r => opening ++ r) = after := ih
    simp only [Markup.text, List.flatMap_append, flatMap_text_literalPiece, List.flatMap_cons,
      Piece.text, List.append_assoc, h]
    rw [Text.eq_append_of_cut? hs, Text.eq_append_of_cut? hi]
    simp

end PromptTemplate
