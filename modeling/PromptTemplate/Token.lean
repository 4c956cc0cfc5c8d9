import PromptTemplate.Table
/-!
# Tokens

A template is read into a flat list of tokens: literal text, tags, and the two ends of a
for-block. Which end belongs to which start is not recorded here; `PromptTemplate.Block` is about
that.
-/

namespace PromptTemplate

/-- Params by key. -/
abbrev Params := Table String String

/-- A tag: a name, params, and the pipe that its value goes through. -/
structure Tag where
  name : String
  params : Params
  pipe : Option String
  deriving Repr, DecidableEq

/-- What a for-block runs over: the integers from one bound to the other, both included, or a
named collection. -/
inductive Iterable where
  | range (first last : Int)
  | collection (name : String)
  deriving Repr, DecidableEq

/-- The start of a for-block: the loop variable, the items and the params of the loop. -/
structure ForHeader where
  var : String
  iterable : Iterable
  params : Params
  deriving Repr, DecidableEq

/-- A token of a template. -/
inductive Token where
  | literal (text : String)
  | tag (tag : Tag)
  | forStart (header : ForHeader)
  | forEnd
  deriving Repr, DecidableEq

namespace Token

/-- The token is a tag. -/
def isTag : Token → Bool
  | tag _ => true
  | _ => false

/-- The token starts a for-block. -/
def isForStart : Token → Bool
  | forStart _ => true
  | _ => false

end Token

end PromptTemplate
