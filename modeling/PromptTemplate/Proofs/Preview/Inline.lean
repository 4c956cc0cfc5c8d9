import PromptTemplate.Proofs.Preview.Failures
import PromptTemplate.Proofs.Text.Utf8
/-!
# Texts and files

A text that a request gives itself is previewed as the same text in a file. The loader finds, reads
and decodes the file, and then has the tokens of the text (`RenderRequest.source_of_file`). Behind
that only the name of the template differs: it stands in the preview and in one entry of the log
(`RenderRequest.preview_inline`).
-/

namespace PromptTemplate

/-- The preview under another name of its template. -/
def Preview.withName (name : String) (preview : Preview) : Preview :=
  { preview with templateName := name }

namespace RenderRequest

/-! ## Runs that differ in a name -/

/-- Two logs are the same, but for the name of the template in the entry about what was read. -/
inductive LogsAlike (name name' : String) : List LogEntry → List LogEntry → Prop
  | same (log : List LogEntry) : LogsAlike name name' log log
  | named (before after : List LogEntry) (dictionary : Dictionary) (secrets : Secrets)
    (job : JobData) :
    LogsAlike name name' (before ++ readEntry name dictionary secrets job :: after)
      (before ++ readEntry name' dictionary secrets job :: after)

/-- Two runs fail in the same way or give the same preview, each with its own name of the template,
which is also all that their logs differ in. -/
structure RunsAlike (name name' : String) (run run' : Logged Preview) : Prop where
  log : LogsAlike name name' run.log run'.log
  left : run.result = run'.result.map (Preview.withName name)
  right : run'.result = run.result.map (Preview.withName name')

variable {name name' : String}

theorem LogsAlike.append_left {log log' : List LogEntry} (h : LogsAlike name name' log log')
    (before : List LogEntry) : LogsAlike name name' (before ++ log) (before ++ log') := by
  cases h with
  | same log => exact .same _
  | named inner after dictionary secrets job =>
    rw [← List.append_assoc, ← List.append_assoc]
    exact .named _ after dictionary secrets job

theorem RunsAlike.bind {α : Type} (run : Logged α) {next next' : α → Logged Preview}
    (h : ∀ value, RunsAlike name name' (next value) (next' value)) :
    RunsAlike name name' (run >>= next) (run >>= next') := by
  obtain ⟨log, result⟩ := run
  cases result with
  | error failure => exact ⟨.same log, rfl, rfl⟩
  | ok value => exact ⟨(h value).log.append_left log, (h value).left, (h value).right⟩

/-! ## Behind the source -/

section

variable (request : RenderRequest) (disk : Disk) (clock : Clock)

/-- The preview of tokens, when everything else has been read. -/
def previewRead (name : String) (tokens : List Token) (dictionary : Dictionary)
    (secrets : Secrets) (job : JobData) : Logged Preview := do
  let rendered ← renderTokens ⟨Pipes.default, clock⟩ (context dictionary secrets job) tokens
  pure
    { templateName := name
      rendered := rendered
      tagCount := tokens.countP Token.isTag
      loopCount := tokens.countP Token.isForStart
      memoryCount := job.memories.length
      dictionarySections := dictionary.sectionNames
      secretNames := secrets.names
      lineCount := rendered.lineCount
      charCount := rendered.size }

/-- The preview of a source: the other files are read, and the tokens are rendered. -/
def previewSource (source : String × List Token) : Logged Preview := do
  let dictionary ← Logged.ofExcept (Dictionary.load disk request.dictionaryPath)
  let secrets ← Secrets.load disk request.secretsPath
  let job ← Logged.ofExcept (request.jobData disk)
  Logged.entry (readEntry source.1 dictionary secrets job)
  previewRead clock source.1 source.2 dictionary secrets job

theorem preview_eq : request.preview disk clock =
    Logged.ofExcept (request.source disk) >>= request.previewSource disk clock := rfl

theorem runsAlike_entry (tokens : List Token) (dictionary : Dictionary) (secrets : Secrets)
    (job : JobData) :
    RunsAlike name name'
      (Logged.entry (readEntry name dictionary secrets job) >>= fun _ =>
        previewRead clock name tokens dictionary secrets job)
      (Logged.entry (readEntry name' dictionary secrets job) >>= fun _ =>
        previewRead clock name' tokens dictionary secrets job) := by
  unfold previewRead
  generalize renderTokens ⟨Pipes.default, clock⟩ (context dictionary secrets job) tokens = run
  obtain ⟨log, result⟩ := run
  cases result with
  | error failure => exact ⟨.named [] log dictionary secrets job, rfl, rfl⟩
  | ok rendered => exact ⟨.named [] (log ++ []) dictionary secrets job, rfl, rfl⟩

theorem runsAlike_previewSource (tokens : List Token) :
    RunsAlike name name' (request.previewSource disk clock (name, tokens))
      (request.previewSource disk clock (name', tokens)) :=
  .bind _ fun dictionary => .bind _ fun secrets => .bind _ fun job =>
    runsAlike_entry clock tokens dictionary secrets job

end

/-! ## Sources -/

/-- The template of a file with the octets of a text has the tokens of the text. -/
theorem source_of_file {request : RenderRequest} {disk : Disk} {text filename : String}
    {place : Place} {mode : Nat} (hroot : disk.pathExists (request.templateRoot disk) = true)
    (hextension : Template.hasExtension filename = true)
    (hfile : disk.find (Path.join (request.templateRoot disk) filename) =
      .ok (place, .file (Text.encode text) mode)) :
    { request with template := some filename, inline := none }.source disk = (do
      let tokens ← (tokenize text).mapError Failure.template
      .ok (Path.stem filename, tokens)) := by
  have hexists : disk.pathExists (Path.join (request.templateRoot disk) filename) = true := by
    rw [Disk.pathExists, hfile]
    rfl
  have htext : disk.readText (Path.join (request.templateRoot disk) filename) = .ok text := by
    rw [Disk.readText, Disk.read, hfile]
    exact congrArg Except.ok (Text.decode_encode text)
  have hloader : Loader.ofDirectory disk request.templateDir =
      .ok ⟨request.templateRoot disk, Table.empty⟩ := if_pos hroot
  show (do
    let loader ← Loader.ofDirectory disk request.templateDir
    let template ← (loader.load disk filename).1
    .ok (template.name, template.tokens)) = _
  rw [hloader]
  show (do
    let template ← (Loader.load ⟨request.templateRoot disk, Table.empty⟩ disk filename).1
    .ok (template.name, template.tokens)) = _
  rw [Loader.load_of_not_kept disk (Table.get?_empty filename), Loader.read,
    Template.read_of_pathExists hexists hextension, htext]
  show (do
    let template ← (Template.ofText filename text).mapError Failure.template
    .ok (template.name, template.tokens)) = _
  rw [Template.ofText]
  cases tokenize text <;> rfl

theorem source_of_inline (request : RenderRequest) (disk : Disk) (text : String) :
    { request with inline := some text }.source disk = (do
      let tokens ← (tokenize text).mapError Failure.template
      .ok (inlineName, tokens)) := rfl

/-- **Texts and files.** A file in the directory of templates that is called like a template and
holds the octets of a text is previewed as the text itself is. -/
theorem preview_inline {request : RenderRequest} {disk : Disk} {text filename : String}
    {place : Place} {mode : Nat} (hroot : disk.pathExists (request.templateRoot disk) = true)
    (hextension : Template.hasExtension filename = true)
    (hfile : disk.find (Path.join (request.templateRoot disk) filename) =
      .ok (place, .file (Text.encode text) mode)) (clock : Clock) :
    RunsAlike inlineName (Path.stem filename)
      ({ request with inline := some text }.preview disk clock)
      ({ request with template := some filename, inline := none }.preview disk clock) := by
  rw [preview_eq, preview_eq, source_of_file hroot hextension hfile, source_of_inline]
  cases tokenize text with
  | error e => exact ⟨.same [], rfl, rfl⟩
  | ok tokens => exact runsAlike_previewSource request disk clock tokens

/-- A byte-order mark and a wide character, once in a file and once in the request. -/
theorem preview_inline_markedText :
    let text := "\uFEFF😀\x7b% result %\x7d"
    let disk := namedDisk (.file (Text.encode text) 0o644)
    disk.pathExists (namedRequest.templateRoot disk) = true ∧
      Template.hasExtension "t.md" = true ∧
      disk.find (Path.join (namedRequest.templateRoot disk) "t.md") =
        .ok (["t.md"], .file (Text.encode text) 0o644) ∧
      RunsAlike inlineName "t"
        ({ namedRequest with inline := some text }.preview disk ⟨0, Zone.utc⟩)
        (namedRequest.preview disk ⟨0, Zone.utc⟩) := by
  intro text disk
  have hroot : disk.pathExists (namedRequest.templateRoot disk) = true := by decide +kernel
  have hextension : Template.hasExtension "t.md" = true := by decide +kernel
  have hfile : disk.find (Path.join (namedRequest.templateRoot disk) "t.md") =
      .ok (["t.md"], .file (Text.encode text) 0o644) := eq_ok_of_toOption (by decide +kernel)
  have hstem : Path.stem "t.md" = "t" := by decide +kernel
  have h := preview_inline hroot hextension hfile ⟨0, Zone.utc⟩
  rw [hstem] at h
  exact ⟨hroot, hextension, hfile, h⟩

end RenderRequest

end PromptTemplate
