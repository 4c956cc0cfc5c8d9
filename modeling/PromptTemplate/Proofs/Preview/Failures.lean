import PromptTemplate.Preview
import PromptTemplate.Proofs.Disk.Directory
import PromptTemplate.Proofs.Render.BlockErrors
import PromptTemplate.Proofs.Template.Read
/-!
# What a preview fails with

A preview reads up to four files, and each reader first asks whether there is anything at its
path. What a file holds and what is missing is told of in three ways: by a template error, a load
error or the issues of a configuration file. Only a directory passes the question and then cannot
be read: where one stands at a path that comes to be read, the failure is that of the read itself,
and this is the only failure of any other kind (`RenderRequest.preview_isReported_iff`).
-/

namespace PromptTemplate

/-- The failure is about a template, the loading of one, or a configuration file. -/
inductive Failure.IsReported : Failure → Prop
  | template (e : TemplateError) : IsReported (.template e)
  | load (e : LoadError) : IsReported (.load e)
  | config (e : FileIssues) : IsReported (.config e)

open Failure (IsReported)

/-- Under the condition the outcome is the failed read of a directory; otherwise every failure is
a reported one. -/
structure TripsIf {α : Type} (condition : Prop) (outcome : Except Failure α) : Prop where
  trips : condition → outcome = .error (.file .directoryRead)
  reports : ¬ condition → FailsOnly IsReported outcome

section

variable {α β : Type} {condition condition' : Prop}

theorem TripsIf.of_failsOnly {outcome : Except Failure α} (h : FailsOnly IsReported outcome) :
    TripsIf False outcome :=
  ⟨False.elim, fun _ => h⟩

theorem TripsIf.of_iff {outcome : Except Failure α} (h : TripsIf condition outcome)
    (hiff : condition ↔ condition') : TripsIf condition' outcome :=
  ⟨fun hc => h.trips (hiff.2 hc), fun hnot => h.reports fun hc => hnot (hiff.1 hc)⟩

/-- The second computation is reached only if the first gives a value. -/
theorem TripsIf.bind {outcome : Except Failure α} {next : α → Except Failure β}
    (h : TripsIf condition outcome) (hnext : ∀ value, TripsIf condition' (next value)) :
    TripsIf (condition ∨ (∃ value, outcome = .ok value) ∧ condition') (outcome >>= next) := by
  cases outcome with
  | error failure =>
    refine ⟨?_, fun hnot => failsOnly_error (h.reports (fun hc => hnot (.inl hc)) failure rfl)⟩
    rintro (hcondition | ⟨⟨value, hvalue⟩, -⟩)
    · exact congrArg (· >>= next) (h.trips hcondition)
    · cases hvalue
  | ok value =>
    refine ⟨?_, fun hnot => (hnext value).reports fun hc => hnot (.inr ⟨⟨value, rfl⟩, hc⟩)⟩
    rintro (hcondition | ⟨-, hcondition⟩)
    · cases h.trips hcondition
    · exact (hnext value).trips hcondition

theorem TripsIf.bind_reports {outcome : Except Failure α} {next : α → Except Failure β}
    (h : TripsIf condition outcome) (hnext : ∀ value, FailsOnly IsReported (next value)) :
    TripsIf condition (outcome >>= next) where
  trips hcondition := congrArg (· >>= next) (h.trips hcondition)
  reports hnot := (h.reports hnot).bind hnext

end

/-! ## Configuration files -/

section

variable (disk : Disk) (path : String)

theorem Disk.tripsIf_readJson : TripsIf (disk.IsDirectory path) (disk.readJson path) where
  trips h := h.readJson
  reports h := by
    unfold readJson
    split
    · next hexists =>
      obtain ⟨text, htext⟩ := exists_readText hexists h
      rw [htext]
      dsimp only
      split
      · exact failsOnly_ok _
      · exact failsOnly_error (.config _)
    · exact failsOnly_ok none

theorem Dictionary.tripsIf_load :
    TripsIf (disk.IsDirectory path) (Dictionary.load disk path) := by
  refine (disk.tripsIf_readJson path).bind_reports fun data => ?_
  cases data with
  | none => exact failsOnly_ok _
  | some data => exact (failsOnly_mapError .config).bind fun _ => failsOnly_ok _

theorem JobData.tripsIf_load : TripsIf (disk.IsDirectory path) (JobData.load disk path) := by
  refine (disk.tripsIf_readJson path).bind_reports fun data => ?_
  cases data with
  | none => exact failsOnly_error (.config _)
  | some data => exact failsOnly_mapError .config

theorem Secrets.failsOnly_ofMembers (secrets : Secrets) (members : List (Utf16 × Json)) :
    FailsOnly IsReported (ofMembers path secrets members).result := by
  fun_induction ofMembers path secrets members with
  | case1 secrets => exact failsOnly_ok _
  | case2 secrets name fields rest ih =>
    exact Logged.failsOnly_bind (failsOnly_mapError .config) ih
  | case3 secrets name value rest hvalue ih =>
    exact Logged.failsOnly_bind (failsOnly_ok _) fun _ => ih

theorem Secrets.failsOnly_warnIfShared : FailsOnly IsReported (warnIfShared disk path).result := by
  unfold warnIfShared
  split
  · exact failsOnly_ok _
  · split
    · exact failsOnly_ok _
    · exact failsOnly_ok _

theorem Secrets.tripsIf_load :
    TripsIf (disk.IsDirectory path) (Secrets.load disk path).result := by
  unfold load
  rw [Logged.result_bind]
  refine (disk.tripsIf_readJson path).bind_reports fun data => ?_
  cases data with
  | none => exact failsOnly_ok _
  | some data =>
    refine Logged.failsOnly_bind (failsOnly_warnIfShared disk path) fun _ => ?_
    refine Logged.failsOnly_bind (failsOnly_mapError .config) fun members => ?_
    exact failsOnly_ofMembers path _ members

end

/-! ## Templates -/

theorem Template.tripsIf_read (disk : Disk) (path filename : String) :
    TripsIf (hasExtension filename = true ∧ disk.IsDirectory path) (read disk path filename) where
  trips := by
    rintro ⟨hextension, h⟩
    rw [read_of_pathExists h.pathExists hextension, h.readText]
    rfl
  reports h := by
    cases hexists : disk.pathExists path with
    | false =>
      rw [read_of_not_pathExists hexists]
      exact failsOnly_error (.load _)
    | true =>
      cases hextension : hasExtension filename with
      | false =>
        rw [read_of_not_hasExtension hexists hextension]
        exact failsOnly_error (.load _)
      | true =>
        obtain ⟨text, htext⟩ := Disk.exists_readText hexists fun hdir => h ⟨hextension, hdir⟩
        rw [read_of_pathExists hexists hextension, htext]
        show FailsOnly IsReported ((ofText filename text).mapError Failure.template)
        exact failsOnly_mapError .template

/-- A loader that keeps nothing reads the template. -/
theorem Loader.tripsIf_load (disk : Disk) (directory filename : String) :
    TripsIf
      (Template.hasExtension filename = true ∧ disk.IsDirectory (Path.join directory filename))
      (load ⟨directory, Table.empty⟩ disk filename).1 := by
  rw [load_of_not_kept disk (Table.get?_empty filename)]
  exact Template.tripsIf_read disk (Path.join directory filename) filename

/-! ## Rendering -/

theorem failsOnly_renderTokens (clock : Clock) (context : Context) (tokens : List Token) :
    FailsOnly IsReported (renderTokens ⟨Pipes.default, clock⟩ context tokens).result := by
  have hengine : Engine.FailsWithin ⟨Pipes.default, clock⟩ IsReported :=
    ⟨fun e _ => .template e, fun name pipe hpipe => Pipes.default_failsOnly hpipe IsReported⟩
  exact hengine.renderTokens (.template _) (.template _) context tokens

/-! ## Requests -/

namespace RenderRequest

/-- The path of the directory of templates. -/
def templateRoot (request : RenderRequest) (disk : Disk) : String :=
  Path.absolute (Path.resolve disk.cwd request.templateDir)

/-- The request names a template, with the extension of one, and has no text of its own, and there
is a directory at the place of the template's file. -/
structure NamesDirectory (request : RenderRequest) (disk : Disk) (filename : String) : Prop where
  inline : request.inline = none
  template : request.template = some filename
  root : disk.pathExists (request.templateRoot disk) = true
  extension : Template.hasExtension filename = true
  directory : disk.IsDirectory (Path.join (request.templateRoot disk) filename)

/-- There is a directory where the request comes to read a file: what it reads before that is read
without a fault. -/
inductive ReadsDirectory (request : RenderRequest) (disk : Disk) : Prop
  | template (filename : String) (hnames : request.NamesDirectory disk filename)
  | dictionary (hsource : ∃ source, request.source disk = .ok source)
      (hdirectory : disk.IsDirectory request.dictionaryPath)
  | secrets (hsource : ∃ source, request.source disk = .ok source)
      (hdictionary : ∃ dictionary, Dictionary.load disk request.dictionaryPath = .ok dictionary)
      (hdirectory : disk.IsDirectory request.secretsPath)
  | jobData (path : String) (hsource : ∃ source, request.source disk = .ok source)
      (hdictionary : ∃ dictionary, Dictionary.load disk request.dictionaryPath = .ok dictionary)
      (hsecrets : ∃ secrets, (Secrets.load disk request.secretsPath).result = .ok secrets)
      (hpath : request.contextPath = some path) (hdirectory : disk.IsDirectory path)

section

variable {request : RenderRequest} (disk : Disk)

theorem readsDirectory_iff : request.ReadsDirectory disk ↔
    (∃ filename, request.NamesDirectory disk filename) ∨
      (∃ source, request.source disk = .ok source) ∧
        (disk.IsDirectory request.dictionaryPath ∨
          (∃ dictionary, Dictionary.load disk request.dictionaryPath = .ok dictionary) ∧
            (disk.IsDirectory request.secretsPath ∨
              (∃ secrets, (Secrets.load disk request.secretsPath).result = .ok secrets) ∧
                ∃ path, request.contextPath = some path ∧ disk.IsDirectory path)) := by
  constructor
  · rintro (⟨filename, hnames⟩ | ⟨hsource, hdir⟩ | ⟨hsource, hdict, hdir⟩ |
      ⟨path, hsource, hdict, hsecrets, hpath, hdir⟩)
    · exact .inl ⟨filename, hnames⟩
    · exact .inr ⟨hsource, .inl hdir⟩
    · exact .inr ⟨hsource, .inr ⟨hdict, .inl hdir⟩⟩
    · exact .inr ⟨hsource, .inr ⟨hdict, .inr ⟨hsecrets, path, hpath, hdir⟩⟩⟩
  · rintro (⟨filename, hnames⟩ | ⟨hsource, hdir | ⟨hdict, hdir | ⟨hsecrets, path, hpath, hdir⟩⟩⟩)
    · exact .template filename hnames
    · exact .dictionary hsource hdir
    · exact .secrets hsource hdict hdir
    · exact .jobData path hsource hdict hsecrets hpath hdir

theorem tripsIf_source_of_inline {text : String} (hinline : request.inline = some text) :
    TripsIf (∃ filename, request.NamesDirectory disk filename) (request.source disk) := by
  refine TripsIf.of_iff (.of_failsOnly ?_) ⟨False.elim, fun ⟨filename, hnames⟩ => ?_⟩
  · unfold source
    rw [hinline]
    exact (failsOnly_mapError .template).bind fun _ => failsOnly_ok _
  · rw [hnames.inline] at hinline
    cases hinline

theorem tripsIf_source_of_template {filename : String} (hinline : request.inline = none)
    (htemplate : request.template = some filename) :
    TripsIf (∃ filename, request.NamesDirectory disk filename) (request.source disk) := by
  have hnames {other : String} (h : request.NamesDirectory disk other) : other = filename :=
    Option.some.inj (h.template.symm.trans htemplate)
  unfold source
  rw [hinline, htemplate]
  dsimp only
  unfold Loader.ofDirectory
  dsimp only
  rw [← templateRoot]
  split
  · next hroot =>
    -- The loader was just made and keeps nothing, so the template is read.
    have hloaded := (Loader.tripsIf_load disk (request.templateRoot disk) filename).bind_reports
      fun template => failsOnly_ok (template.name, template.tokens)
    refine hloaded.of_iff ⟨fun h => ⟨filename, hinline, htemplate, hroot, h.1, h.2⟩, ?_⟩
    rintro ⟨other, h⟩
    cases hnames h
    exact ⟨h.extension, h.directory⟩
  · next hroot =>
    refine TripsIf.of_iff (.of_failsOnly (failsOnly_error (.load _))) ⟨False.elim, ?_⟩
    rintro ⟨other, h⟩
    exact hroot h.root

theorem tripsIf_source (h : request.inline ≠ none ∨ request.template ≠ none) :
    TripsIf (∃ filename, request.NamesDirectory disk filename) (request.source disk) := by
  cases hinline : request.inline with
  | some text => exact tripsIf_source_of_inline disk hinline
  | none =>
    cases htemplate : request.template with
    | some filename => exact tripsIf_source_of_template disk hinline htemplate
    | none => exact (h.elim (· hinline) (· htemplate)).elim

theorem tripsIf_jobData :
    TripsIf (∃ path, request.contextPath = some path ∧ disk.IsDirectory path)
      (request.jobData disk) := by
  unfold jobData
  cases hpath : request.contextPath with
  | none => exact TripsIf.of_iff (.of_failsOnly (failsOnly_ok _)) (by simp)
  | some path => exact (JobData.tripsIf_load disk path).of_iff (by simp)

/-- The four readings follow one another, and rendering reads nothing. -/
theorem tripsIf_preview (h : request.inline ≠ none ∨ request.template ≠ none) (clock : Clock) :
    TripsIf (request.ReadsDirectory disk) (request.preview disk clock).result := by
  refine TripsIf.of_iff ?_ (readsDirectory_iff disk).symm
  unfold preview
  rw [Logged.result_bind]
  refine (tripsIf_source disk h).bind ?_
  rintro ⟨name, tokens⟩
  dsimp only
  rw [Logged.result_bind]
  refine (Dictionary.tripsIf_load disk request.dictionaryPath).bind fun dictionary => ?_
  rw [Logged.result_bind]
  refine (Secrets.tripsIf_load disk request.secretsPath).bind fun secrets => ?_
  rw [Logged.result_bind]
  refine (tripsIf_jobData disk).bind_reports fun job => ?_
  -- Behind the job data nothing more is read.
  refine Logged.failsOnly_bind (failsOnly_ok _) fun _ => ?_
  exact Logged.failsOnly_bind (failsOnly_renderTokens clock _ tokens) fun _ => failsOnly_ok _

/-- **Failures of a preview.** A request that has a text or names a template fails only with
template errors, load errors and the issues of configuration files, unless it comes to read a
directory. Then it fails with the failure of that read. -/
theorem preview_isReported_iff (h : request.inline ≠ none ∨ request.template ≠ none)
    (clock : Clock) :
    ((∀ failure, (request.preview disk clock).result = .error failure → failure.IsReported) ↔
        ¬ request.ReadsDirectory disk) ∧
      (request.ReadsDirectory disk →
        (request.preview disk clock).result = .error (.file .directoryRead)) := by
  have htrips := tripsIf_preview disk h clock
  refine ⟨⟨fun hreported hreads => ?_, htrips.reports⟩, htrips.trips⟩
  cases hreported _ (htrips.trips hreads)

end

/-- A text, with a directory for its dictionary. -/
def folderRequest : RenderRequest where
  templateDir := "."
  inline := some "x"
  dictionaryPath := "d"
  secretsPath := "s.json"

/-- A disk that holds one directory. -/
def folderDisk : Disk := ⟨Table.ofList [(["d"], .directory)], []⟩

/-- The read of the directory is told of as it comes, and not as a fault of a configuration file. -/
theorem not_isReported_preview_folderRequest : folderRequest.inline ≠ none ∧
    (folderRequest.preview folderDisk ⟨0, Zone.utc⟩).result = .error (.file .directoryRead) ∧
      ¬ (Failure.file .directoryRead).IsReported := by
  have hsource : folderRequest.source folderDisk = .ok (inlineName, [.literal "x"]) :=
    eq_ok_of_toOption (by decide +kernel)
  have hreads : folderRequest.ReadsDirectory folderDisk :=
    .dictionary ⟨_, hsource⟩ (by decide +kernel)
  have hinline : folderRequest.inline ≠ none := by decide
  refine ⟨hinline, (tripsIf_preview folderDisk (.inl hinline) _).trips hreads, ?_⟩
  rintro ⟨⟩

/-- The name of a template, which is asked for in the working directory. -/
def namedRequest : RenderRequest where
  templateDir := "."
  template := some "t.md"
  dictionaryPath := "d.json"
  secretsPath := "s.json"

/-- A disk that holds one thing, which is called like a template. -/
def namedDisk (entry : DiskEntry) : Disk := ⟨Table.ofList [(["t.md"], entry)], []⟩

/-- A directory that is called like a template is read and fails; with an empty file of that name
nothing else can fail than what is reported. -/
theorem preview_isReported_iff_namedRequest :
    (namedRequest.inline ≠ none ∨ namedRequest.template ≠ none) ∧
      (namedRequest.preview (namedDisk .directory) ⟨0, Zone.utc⟩).result =
        .error (.file .directoryRead) ∧
      ∀ failure, (namedRequest.preview (namedDisk (.file [] 0o644)) ⟨0, Zone.utc⟩).result =
        .error failure → failure.IsReported := by
  have hnamed : namedRequest.inline ≠ none ∨ namedRequest.template ≠ none := .inr (by decide)
  refine ⟨hnamed, (preview_isReported_iff _ hnamed _).2 ?_,
    (preview_isReported_iff _ hnamed _).1.2 ?_⟩
  · exact .template "t.md" ⟨rfl, rfl, by decide +kernel, by decide +kernel, by decide +kernel⟩
  · rintro (⟨filename, hnames⟩ | ⟨-, hdir⟩ | ⟨-, -, hdir⟩ | ⟨path, -, -, -, hpath, -⟩)
    · cases hnames.template
      exact absurd hnames.directory (by decide +kernel)
    · exact absurd hdir (by decide +kernel)
    · exact absurd hdir (by decide +kernel)
    · cases hpath

end RenderRequest

end PromptTemplate
