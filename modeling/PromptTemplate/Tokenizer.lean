import PromptTemplate.Markup
import PromptTemplate.Tag.ForHeader
/-!
# Reading a template

The tokens of a template are those of its markup, piece by piece: literal text stays as it is and
the trimmed body of a tag is `endfor`, a for-header behind `for `, or a tag. The whole template is
read before any of it is rendered; the first faulty body from the left is the error, and a tag
that is never closed is the error only if every body before it can be read.
-/

namespace PromptTemplate

open Text (trim)

/-- The token that a trimmed tag body stands for. -/
def Token.ofBody (body : List Char) : Except TemplateError Token :=
  if body = "endfor".toList then .ok .forEnd
  else if "for ".toList.isPrefixOf body then do
    let header ← parseForHeader (trim (body.drop 4))
    .ok (.forStart header)
  else do
    let tag ← parseTag body
    .ok (.tag tag)

/-- The token of a piece. -/
def Piece.token : Piece → Except TemplateError Token
  | .literal text => .ok (.literal (String.ofList text))
  | .body text => Token.ofBody (trim text)

/-- The tokens of pieces, up to the first faulty one. -/
def tokensOfPieces : List Piece → Except TemplateError (List Token)
  | [] => .ok []
  | piece :: pieces => do
    let token ← piece.token
    let tokens ← tokensOfPieces pieces
    .ok (token :: tokens)

/-- The tokens of a markup. -/
def Markup.tokens (m : Markup) : Except TemplateError (List Token) := do
  let tokens ← tokensOfPieces m.pieces
  if m.unclosed.isSome then .error .unclosedTag else .ok tokens

/-- The tokens of a template. -/
def tokenize (template : String) : Except TemplateError (List Token) :=
  (Markup.ofText template.toList).tokens

end PromptTemplate
