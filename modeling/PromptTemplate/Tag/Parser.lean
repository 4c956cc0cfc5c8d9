import PromptTemplate.TemplateError
import PromptTemplate.Token
import PromptTemplate.Tag.Parts
import PromptTemplate.Text.Blank
import PromptTemplate.Text.Cut
/-!
# Reading a tag

A tag body is `name key=value … | pipe`. The first bar ends the params; a bar with nothing but
blanks behind it names no pipe. A param is cut at its first `=`, or at its first `:` if it has
none; its key is not empty, its value may be. A later param replaces an earlier one of the same
key.
-/

namespace PromptTemplate

open Text (cut? trim)

/-- A tag body before its bar, and the pipe named behind it. -/
def splitPipe (body : List Char) : List Char × Option String :=
  match cut? ['|'] body with
  | none => (body, none)
  | some (before, after) =>
    let pipe := trim after
    (trim before, if pipe.isEmpty then none else some (String.ofList pipe))

/-- The key and value of one param. -/
def parseParam (part : List Char) : Except TemplateError (String × String) :=
  match (cut? ['='] part).or (cut? [':'] part) with
  | none => .error (.paramWithoutSeparator (String.ofList part))
  | some ([], _) => .error (.paramWithoutKey (String.ofList part))
  | some (key, value) => .ok (String.ofList key, String.ofList value)

/-- Bind the params of the parts in order. -/
def bindParams (params : Params) : List (List Char) → Except TemplateError Params
  | [] => .ok params
  | part :: parts => do
    let (key, value) ← parseParam part
    bindParams (params.insert key value) parts

/-- The params that a list of parts stands for. -/
def parseParams (parts : List (List Char)) : Except TemplateError Params :=
  bindParams Table.empty parts

/-- The tag that a trimmed body stands for. -/
def parseTag (text : List Char) : Except TemplateError Tag :=
  let (body, pipe) := splitPipe text
  match splitParts body with
  | [] => .error .emptyTag
  | name :: rest => do
    let params ← parseParams rest
    .ok ⟨String.ofList name, params, pipe⟩

end PromptTemplate
