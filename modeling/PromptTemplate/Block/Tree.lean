import PromptTemplate.Block
/-!
# Block trees

A balanced token list is a sequence of blocks: literal text, tags, and for-blocks that hold blocks
themselves. `Block.ofTokens?` reads the tree off a token list and `Block.tokens` writes it down
again; a list that is not balanced has no tree.
-/

namespace PromptTemplate

/-- A block of a template. -/
inductive Block where
  | literal (text : String)
  | tag (tag : Tag)
  | loop (header : ForHeader) (body : List Block)
  deriving Repr

namespace Block

/-- The blocks of a token list; `none` if its starts and ends do not match. -/
def ofTokens? : List Token → Option (List Block)
  | [] => some []
  | .literal text :: rest => (ofTokens? rest).map (.literal text :: ·)
  | .tag t :: rest => (ofTokens? rest).map (.tag t :: ·)
  | .forEnd :: _ => none
  | .forStart header :: rest =>
    match _h : cutBody? rest with
    | none => none
    | some (body, after) => do
      let inner ← ofTokens? body
      let blocks ← ofTokens? after
      some (.loop header inner :: blocks)
termination_by tokens => tokens.length
decreasing_by
  all_goals simp only [List.length_cons]
  · omega
  · omega
  · have := length_of_cutBody? _h
    omega
  · have := length_of_cutBody? _h
    omega

mutual

/-- The tokens of a block. -/
def tokens : Block → List Token
  | literal text => [.literal text]
  | tag t => [.tag t]
  | loop header body => .forStart header :: (tokensAll body ++ [.forEnd])

/-- The tokens of a sequence of blocks. -/
def tokensAll : List Block → List Token
  | [] => []
  | block :: blocks => tokens block ++ tokensAll blocks

end

end Block

end PromptTemplate
