import PromptTemplate.Proofs.Render.BlockErrors
import PromptTemplate.Proofs.Template.Session
/-!
# Errors of reading and errors of rendering

The kinds of error fall in two phases. Reading a template gives only errors about its text
(`failsOnly_tokenize`), and rendering its tokens gives only errors of the other kinds, as long as no
pipe fails (`Engine.failsOnly_renderTokens`). A template that a loader gives has been read without
fault, so whatever it is rendered with, no error about its text comes of it (`errors_by_phase`).
-/

namespace PromptTemplate

/-! ## Reading -/

/-- The error is about the text of a template. -/
def TemplateError.IsSyntax (e : TemplateError) : Prop := e.kind.isSyntax = true

open TemplateError (IsSyntax)

theorem failsOnly_parseParam (part : List Char) : FailsOnly IsSyntax (parseParam part) := by
  unfold parseParam
  split
  · exact failsOnly_error rfl
  · exact failsOnly_error rfl
  · exact failsOnly_ok _

theorem failsOnly_bindParams (params : Params) (parts : List (List Char)) :
    FailsOnly IsSyntax (bindParams params parts) := by
  induction parts generalizing params with
  | nil => exact failsOnly_ok params
  | cons part parts ih =>
    exact (failsOnly_parseParam part).bind fun param => ih (params.insert param.1 param.2)

theorem failsOnly_parseTag (text : List Char) : FailsOnly IsSyntax (parseTag text) := by
  unfold parseTag
  dsimp only
  split
  · exact failsOnly_error rfl
  · exact (failsOnly_bindParams Table.empty _).bind fun _ => failsOnly_ok _

theorem failsOnly_parseBound (which : RangeEnd) (text : List Char) :
    FailsOnly IsSyntax (parseBound which text) := by
  unfold parseBound
  split
  · exact failsOnly_ok _
  · exact failsOnly_error rfl

theorem failsOnly_parseRange (text : List Char) : FailsOnly IsSyntax (parseRange text) := by
  unfold parseRange
  split
  · exact failsOnly_error rfl
  · split
    · exact failsOnly_error rfl
    · exact (failsOnly_parseBound .start _).bind fun _ =>
        (failsOnly_parseBound .stop _).bind fun _ => failsOnly_ok _

theorem failsOnly_parseItems (header items : List Char) :
    FailsOnly IsSyntax (parseItems header items) := by
  unfold parseItems
  split
  · split
    · exact failsOnly_error rfl
    · exact (failsOnly_parseRange _).bind fun _ => failsOnly_ok _
  · split
    · exact failsOnly_error rfl
    · exact (failsOnly_bindParams Table.empty _).bind fun _ => failsOnly_ok _

theorem failsOnly_parseForHeader (header : List Char) :
    FailsOnly IsSyntax (parseForHeader header) := by
  unfold parseForHeader
  split
  · exact failsOnly_error rfl
  · exact (failsOnly_parseItems header _).bind fun _ => failsOnly_ok _

theorem Token.failsOnly_ofBody (body : List Char) : FailsOnly IsSyntax (ofBody body) := by
  unfold ofBody
  split
  · exact failsOnly_ok _
  · split
    · exact (failsOnly_parseForHeader _).bind fun _ => failsOnly_ok _
    · exact (failsOnly_parseTag body).bind fun _ => failsOnly_ok _

theorem Piece.failsOnly_token (piece : Piece) : FailsOnly IsSyntax piece.token := by
  cases piece with
  | literal text => exact failsOnly_ok _
  | body text => exact Token.failsOnly_ofBody (Text.trim text)

theorem failsOnly_tokensOfPieces (pieces : List Piece) :
    FailsOnly IsSyntax (tokensOfPieces pieces) := by
  induction pieces with
  | nil => exact failsOnly_ok []
  | cons piece pieces ih =>
    exact piece.failsOnly_token.bind fun _ => ih.bind fun _ => failsOnly_ok _

/-- A template cannot be read only because of its text. -/
theorem failsOnly_tokenize (template : String) : FailsOnly IsSyntax (tokenize template) := by
  unfold tokenize Markup.tokens
  refine (failsOnly_tokensOfPieces _).bind fun tokens => ?_
  split
  · exact failsOnly_error rfl
  · exact failsOnly_ok tokens

/-! ## Rendering -/

/-- Every pipe gives a text for every text. -/
def Pipes.NeverFail (pipes : Pipes) : Prop :=
  ∀ name pipe, pipes.get? name = some pipe → ∀ input, ∃ text, pipe input = .ok text

/-- The failure is a template error, and one that is not about the text of a template. -/
def Failure.IsRenderError (failure : Failure) : Prop :=
  ∃ e, failure = .template e ∧ e.kind.isSyntax = false

open Failure (IsRenderError)

theorem Pipes.default_neverFail : Pipes.default.NeverFail := by
  intro name pipe hpipe input
  rw [Pipes.get?_default] at hpipe
  split at hpipe
  · cases hpipe
    exact ⟨_, rfl⟩
  · cases hpipe

section

variable {engine : Engine} (h : engine.pipes.NeverFail)

include h

theorem Engine.failsWithin_isRenderError : engine.FailsWithin IsRenderError where
  lookup e he := ⟨e, rfl, he.1⟩
  pipe name pipe hpipe input failure hfailure := by
    obtain ⟨text, htext⟩ := h name pipe hpipe input
    rw [htext] at hfailure
    cases hfailure

/-- Whatever stands in a token list, and wherever it comes from. -/
theorem Engine.failsOnly_renderTokens (context : Context) (tokens : List Token) :
    FailsOnly IsRenderError (renderTokens engine context tokens).result :=
  (failsWithin_isRenderError h).renderTokens ⟨_, rfl, rfl⟩ ⟨_, rfl, rfl⟩ context tokens

/-- A template that can be read is rendered as its tokens are. -/
theorem Engine.failsOnly_render {template : String} {tokens : List Token}
    (htokens : tokenize template = .ok tokens) (context : Context) :
    FailsOnly IsRenderError (render engine context template).result := by
  unfold render
  rw [htokens]
  refine Logged.failsOnly_bind (failsOnly_ok tokens) fun tokens => ?_
  exact Logged.failsOnly_bind (failsOnly_ok _) fun _ => failsOnly_renderTokens h context tokens

theorem Engine.exists_render_error (context : Context) (template : String) {failure : Failure}
    (hfailure : (render engine context template).result = .error failure) :
    ∃ e, failure = .template e := by
  cases htokens : tokenize template with
  | error e =>
    unfold render at hfailure
    rw [htokens] at hfailure
    cases hfailure
    exact ⟨e, rfl⟩
  | ok tokens =>
    obtain ⟨e, rfl, -⟩ := failsOnly_render h htokens context failure hfailure
    exact ⟨e, rfl⟩

end

/-! ## Loaded templates -/

/-- What a loader gives at any time of a run has the tokens of its own text. -/
theorem Loader.Coherent.tokenize_of_load {directory : String} {loader : Loader}
    {made : List Loading} (h : Coherent directory loader made) {disk : Disk} {filename : String}
    {template : Template} (hload : (loader.load disk filename).1 = .ok template) :
    tokenize template.source = .ok template.tokens := by
  cases hfound : loader.cache.get? filename with
  | some kept =>
    rw [load_of_kept disk hfound] at hload
    cases hload
    obtain ⟨l, -, hread⟩ := h.read filename template hfound
    exact (Template.source_of_read hread).2
  | none =>
    rw [load_of_not_kept disk hfound] at hload
    exact (Template.source_of_read hload).2

/-- **Phases.** A template cannot be read only because of its text. With pipes that do not fail,
rendering tokens gives no error but template errors of the other kinds; so a template that a loader
gives, at any time of a run, is never again found to be faulty in its text, neither by its tokens
nor by its source, and trying to render a text gives a text or a template error. -/
theorem errors_by_phase :
    (∀ template, FailsOnly IsSyntax (tokenize template)) ∧
      ∀ engine : Engine, engine.pipes.NeverFail →
        (∀ context tokens, FailsOnly IsRenderError (renderTokens engine context tokens).result) ∧
        (∀ (disk : Disk) (directory : String) (loader : Loader) (events : List LoaderEvent),
          Loader.ofDirectory disk directory = .ok loader →
            let s := (Session.start loader disk).run events
            ∀ filename template, (s.loader.load s.disk filename).1 = .ok template → ∀ context,
              FailsOnly IsRenderError (renderTokens engine context template.tokens).result ∧
                FailsOnly IsRenderError (render engine context template.source).result) ∧
        ∀ context template, ∃ outcome, tryRender engine context template = .ok outcome := by
  refine ⟨failsOnly_tokenize, fun engine h => ⟨?_, ?_, ?_⟩⟩
  · exact Engine.failsOnly_renderTokens h
  · intro disk directory loader events hloader s filename template hload context
    have hstart : loader.Coherent loader.directory [] := by
      rw [Loader.eq_forget_of_ofDirectory hloader]
      exact loader.coherent_forget
    have hrun : s.loader.Coherent loader.directory s.made := Session.coherent_run hstart events
    exact ⟨Engine.failsOnly_renderTokens h context template.tokens,
      Engine.failsOnly_render h (hrun.tokenize_of_load hload) context⟩
  · intro context template
    unfold tryRender
    cases hresult : (render engine context template).result with
    | ok text => exact ⟨_, rfl⟩
    | error failure =>
      obtain ⟨e, rfl⟩ := Engine.exists_render_error h context template hresult
      exact ⟨_, rfl⟩

/-- A note with a tag that nothing is known of. -/
def strangeText : String := "\x7b% x %\x7d"

/-- The template of the note. -/
def strangeTemplate : Template := ⟨"a", strangeText, [.tag ⟨"x", Table.empty, none⟩]⟩

/-- The engine with the built-in pipes. -/
def plainEngine : Engine := ⟨Pipes.default, ⟨0, Zone.utc⟩⟩

open Session (noteDisk noteLoader) in
/-- The note is loaded, and only rendering it shows what is wrong with it. -/
theorem errors_by_phase_strangeText :
    plainEngine.pipes.NeverFail ∧
      Loader.ofDirectory (noteDisk strangeText) "t" = .ok noteLoader ∧
      (let s := (Session.start noteLoader (noteDisk strangeText)).run [.loadAll, .forget]
      (s.loader.load s.disk "a.md").1 = .ok strangeTemplate ∧
        FailsOnly IsRenderError (renderTokens plainEngine {} strangeTemplate.tokens).result) ∧
      (renderTokens plainEngine {} strangeTemplate.tokens).result =
        .error (.template (.unknownTag "x")) ∧
      ∃ outcome, tryRender plainEngine {} strangeText = .ok outcome := by
  have hloader : Loader.ofDirectory (noteDisk strangeText) "t" = .ok noteLoader := by
    have hpath : Path.absolute (Path.resolve (noteDisk strangeText).cwd "t") = "/t" := by
      decide +kernel
    exact Loader.ofDirectory_eq_ok_iff.2 ⟨by decide +kernel, by rw [hpath, noteLoader]⟩
  obtain ⟨-, hengine⟩ := errors_by_phase
  obtain ⟨-, hloaded, htried⟩ := hengine plainEngine Pipes.default_neverFail
  refine ⟨Pipes.default_neverFail, hloader, ?_, ?_, htried _ _⟩
  · intro s
    have hload : (s.loader.load s.disk "a.md").1 = .ok strangeTemplate :=
      eq_ok_of_toOption (by decide +kernel)
    exact ⟨hload, (hloaded _ _ _ [.loadAll, .forget] hloader "a.md" _ hload {}).1⟩
  · rw [strangeTemplate, renderTokens_tag]
    rfl

end PromptTemplate
