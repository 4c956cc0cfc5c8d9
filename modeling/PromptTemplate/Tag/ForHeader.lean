import PromptTemplate.Tag.Parser
/-!
# Reading a for-header

The text behind `for ` is `<var> in <items>`, with single spaces around `in`. The items are a
range `(<first>..<last>)`, whose bounds are integer texts with blanks around them allowed and
behind whose parenthesis anything may stand, or the name of a collection with params.
-/

namespace PromptTemplate

open Text (cut? trim)

/-- A bound of a range. -/
def parseBound (which : RangeEnd) (text : List Char) : Except TemplateError Int :=
  match Number.signed? (trim text) with
  | some value => .ok value
  | none => .error (.badBound which (String.ofList text))

/-- The two bounds of a range, from the text between its parentheses. -/
def parseRange (text : List Char) : Except TemplateError Iterable :=
  match cut? ['.', '.'] text with
  | none => .error (.malformedRange (String.ofList text))
  | some (first, last) =>
    if Text.occurs ['.', '.'] last then .error (.malformedRange (String.ofList text))
    else do
      let first ← parseBound .start first
      let last ← parseBound .stop last
      .ok (.range first last)

/-- The items of a for-header and its params, from the trimmed text behind `in`. -/
def parseItems (header items : List Char) : Except TemplateError (Iterable × Params) :=
  match items with
  | '(' :: inside =>
    match cut? [')'] inside with
    | none => .error .unclosedRange
    | some (text, _) => do
      let range ← parseRange text
      .ok (range, Table.empty)
  | _ =>
    match splitParts items with
    | [] => .error (.forWithoutCollection (String.ofList header))
    | name :: rest => do
      let params ← parseParams rest
      .ok (.collection (String.ofList name), params)

/-- The text before the first ` in ` that follows the first word, and the text behind it. -/
def cutHeader? (header : List Char) : Option (List Char × List Char) :=
  match cut? [' '] header with
  | none => none
  | some (var, rest) =>
    match cut? [' '] rest with
    | none => none
    | some (keyword, items) => if keyword = ['i', 'n'] then some (var, items) else none

/-- The for-header that a trimmed text stands for. -/
def parseForHeader (header : List Char) : Except TemplateError ForHeader :=
  match cutHeader? header with
  | none => .error (.malformedFor (String.ofList header))
  | some (var, items) => do
    let (iterable, params) ← parseItems header (trim items)
    .ok ⟨String.ofList var, iterable, params⟩

end PromptTemplate
