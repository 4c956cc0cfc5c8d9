import PromptTemplate.Dictionary.File
import PromptTemplate.JobData
import PromptTemplate.Render
import PromptTemplate.Secret.File
import PromptTemplate.Template.Loader
/-!
# Previews

A preview is what a job would see: the text of one template, rendered with the dictionary, secrets
and job data that files hold, and some counts. The template is read first, then the dictionary,
the secrets and the job data, and the first of them that fails ends the run.
-/

namespace PromptTemplate

/-- What is to be rendered, and the files to render it with. A text that is given itself counts
before the name of a template. -/
structure RenderRequest where
  template : Option String := none
  templateDir : String
  inline : Option String := none
  dictionaryPath : String
  secretsPath : String
  contextPath : Option String := none
  deriving Repr, DecidableEq

/-- A rendered template with counts. Characters are counted in sixteen-bit units. -/
structure Preview where
  templateName : String
  rendered : Utf16
  tagCount : Nat
  loopCount : Nat
  memoryCount : Nat
  dictionarySections : List Utf16
  secretNames : List Utf16
  lineCount : Nat
  charCount : Nat
  deriving Repr, DecidableEq

namespace RenderRequest

/-- The name of a template that is given as text. -/
def inlineName : String := "(inline)"

/-- Every path that the request may read, seen from the directory at `cwd`. -/
def paths (request : RenderRequest) (cwd : Place) : List String :=
  let directory := Path.absolute (Path.resolve cwd request.templateDir)
  [directory, request.dictionaryPath, request.secretsPath] ++ request.contextPath.toList ++
    request.template.toList.map (Path.join directory)

/-- The name and the tokens of the requested template. -/
def source (request : RenderRequest) (disk : Disk) : Except Failure (String × List Token) :=
  match request.inline, request.template with
  | some text, _ => do
    let tokens ← (tokenize text).mapError .template
    .ok (inlineName, tokens)
  | none, some filename => do
    let loader ← Loader.ofDirectory disk request.templateDir
    let template ← (loader.load disk filename).1
    .ok (template.name, template.tokens)
  | none, none => .error .noTemplate

/-- The job data of a request; nothing if no file is named. -/
def jobData (request : RenderRequest) (disk : Disk) : Except Failure JobData :=
  match request.contextPath with
  | none => .ok {}
  | some path => JobData.load disk path

/-- The entry that is logged when everything has been read. -/
def readEntry (name : String) (dictionary : Dictionary) (secrets : Secrets) (job : JobData) :
    LogEntry :=
  ⟨.debug, "Rendering template",
    [("template", .string name), ("dictionarySections", .ofNat dictionary.sections.size),
      ("secrets", .ofNat secrets.size), ("memories", .ofNat job.memories.length)]⟩

/-- The render context of what has been read. -/
def context (dictionary : Dictionary) (secrets : Secrets) (job : JobData) : Context where
  dictionary := dictionary
  secrets := secrets
  result := job.result
  message := job.message
  sender := job.sender
  memories := job.memories

/-- Carry out a request. -/
def preview (request : RenderRequest) (disk : Disk) (clock : Clock) : Logged Preview := do
  let (name, tokens) ← Logged.ofExcept (request.source disk)
  let dictionary ← Logged.ofExcept (Dictionary.load disk request.dictionaryPath)
  let secrets ← Secrets.load disk request.secretsPath
  let job ← Logged.ofExcept (request.jobData disk)
  Logged.entry (readEntry name dictionary secrets job)
  let rendered ← renderTokens ⟨Pipes.default, clock⟩ (context dictionary secrets job) tokens
  pure
    { templateName := name
      rendered := rendered
      tagCount := tokens.countP Token.isTag
      loopCount := tokens.countP Token.isForStart
      memoryCount := job.memories.length
      dictionarySections := dictionary.sectionNames
      secretNames := secrets.names
      lineCount := rendered.lineCount
      charCount := rendered.size }

end RenderRequest

end PromptTemplate
