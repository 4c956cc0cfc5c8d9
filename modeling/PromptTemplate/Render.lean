import PromptTemplate.Block
import PromptTemplate.Logged
import PromptTemplate.LoopItems
import PromptTemplate.Pipes
import PromptTemplate.Resolve
import PromptTemplate.Tokenizer
/-!
# Rendering

The text of a token list is put together from left to right: literal text as it is, the text of a
tag after its pipe, and for a for-block the text of its body once for each item. The first error
ends the run and no text comes of it.

A for-block works on its own copy of the loop variables. Each item is bound in what the item
before it left behind; when the block is done the copy is dropped, so nothing reaches the tokens
behind the block, and a block that binds a name again hides the outer binding only for its own
body.

Every for-block that is entered logs one entry before its first item.
-/

namespace PromptTemplate

/-- What a render needs besides the tokens and the context. -/
structure Engine where
  pipes : Pipes
  clock : Clock

/-- The text of a tag after its pipe. -/
def renderTag (engine : Engine) (context : Context) (tag : Tag) : Logged Utf16 := do
  let text ← Logged.ofExcept ((resolveTag tag context engine.clock).mapError .template)
  match tag.pipe with
  | none => pure text
  | some name => Logged.ofExcept (engine.pipes.apply name text)

/-- How a loop's items are shown in the log. -/
def Iterable.text : Iterable → String
  | range first last => "(" ++ Number.intText first ++ ".." ++ Number.intText last ++ ")"
  | collection name => name

/-- The entry that a for-block logs when it is entered. -/
def loopEntry (header : ForHeader) (items : LoopItems) : LogEntry :=
  ⟨.debug, "Executing for loop",
    [("variable", .string header.var), ("iterable", .string header.iterable.text),
      ("iterations", .ofInt (items.reportedCount header))]⟩

/-- The texts of a body for each item, put together; every item is bound in the variables that the
one before it left. -/
def renderItems (var : String) (body : LoopVars → Logged Utf16) (vars : LoopVars)
    (items : LoopItems) : Logged Utf16 :=
  match _h : items.next? with
  | none => pure ("" : Utf16)
  | some (item, rest) => do
    let vars := vars.insert var item
    let text ← body vars
    let others ← renderItems var body vars rest
    pure (text ++ others)
termination_by items.size
decreasing_by
  have := LoopItems.size_of_next? _h
  omega

/-- The text of a token list. -/
def renderTokens (engine : Engine) (context : Context) (tokens : List Token) : Logged Utf16 :=
  match tokens with
  | [] => pure ("" : Utf16)
  | .literal text :: rest => do
    let others ← renderTokens engine context rest
    pure ((text : Utf16) ++ others)
  | .tag tag :: rest => do
    let text ← renderTag engine context tag
    let others ← renderTokens engine context rest
    pure (text ++ others)
  | .forEnd :: _ => Logged.fail (.template .strayEndFor)
  | .forStart header :: rest =>
    match _h : collectBody rest with
    | .error e => Logged.fail (.template e)
    | .ok found => do
      let items ← Logged.ofExcept ((LoopItems.ofHeader header context).mapError .template)
      Logged.entry (loopEntry header items)
      let text ← renderItems header.var
        (fun vars => renderTokens engine (context.withVars vars) found.body) context.loopVars items
      -- The walk goes on behind the start, its body and the end.
      let others ← renderTokens engine context
        ((Token.forStart header :: rest).drop (found.endIndex + 2))
      pure (text ++ others)
termination_by tokens.length
decreasing_by
  · simp only [List.length_cons]
    omega
  · simp only [List.length_cons]
    omega
  · have := length_of_collectBody _h
    simp only [List.length_cons]
    omega
  · simp only [List.length_drop, List.length_cons]
    omega

/-- The entry that a render logs when its template has been read. -/
def tokenizedEntry (template : String) (tokens : List Token) : LogEntry :=
  ⟨.debug, "Template tokenized",
    [("tokens", .ofNat tokens.length), ("chars", .ofNat (Utf16.ofString template).size)]⟩

/-- The text of a template. -/
def render (engine : Engine) (context : Context) (template : String) : Logged Utf16 := do
  let tokens ← Logged.ofExcept ((tokenize template).mapError .template)
  Logged.entry (tokenizedEntry template tokens)
  renderTokens engine context tokens

/-- The text of a template, or the template error that kept it from coming about, as values. A
failure that is no template error stays a failure. -/
def tryRender (engine : Engine) (context : Context) (template : String) :
    Except Failure (Except TemplateError Utf16) :=
  match (render engine context template).result with
  | .ok text => .ok (.ok text)
  | .error (.template e) => .ok (.error e)
  | .error failure => .error failure

end PromptTemplate
