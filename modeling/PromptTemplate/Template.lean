import PromptTemplate.Failure
import PromptTemplate.Tokenizer
import PromptTemplate.Text.LowerCase
/-!
# Templates in files

A template file is a regular file whose name ends in `.md` or `.txt`, in whatever case. Its name as
a template is the last name of its path without that extension.
-/

namespace PromptTemplate

/-- A template that was read: its name, its text, and the tokens of the text. -/
structure Template where
  name : String
  source : String
  tokens : List Token
  deriving Repr, DecidableEq

namespace Template

/-- The extensions of template files. -/
def extensions : List (List Char) := [['.', 'm', 'd'], ['.', 't', 'x', 't']]

/-- The extension of a path in lower case. -/
def extensionOf (path : String) : List Char := Text.lower (Path.extension path)

/-- The path ends in the extension of a template file. -/
def hasExtension (path : String) : Bool := extensions.contains (extensionOf path)

/-- The template of a text that stands at a path. -/
def ofText (path source : String) : Except TemplateError Template := do
  .ok ⟨Path.stem path, source, ← tokenize source⟩

/-- The template in the file at `path`, which is called `filename` within the directory of
templates. -/
def read (disk : Disk) (path filename : String) : Except Failure Template := do
  if !disk.pathExists path then throw (.load ⟨path, .notFound⟩)
  if !hasExtension filename then
    throw (.load ⟨path, .unsupportedExtension (String.ofList (extensionOf filename))⟩)
  let source ← (disk.readText path).mapError .file
  (ofText filename source).mapError .template

/-- A regular file stands at `path`, and `filename` ends in the extension of a template file. -/
def isFile (disk : Disk) (path filename : String) : Except FileError Bool := do
  let found ← disk.stat path
  .ok (found.isFile && hasExtension filename)

/-- The names of the template files in a directory, in ascending order of their units; none if
there is no such directory. -/
def list (disk : Disk) (directory : String) : Except Failure (List String) := do
  let path := Path.absolute (Path.resolve disk.cwd directory)
  if !disk.pathExists path then return []
  let children ← (disk.list path).mapError .file
  let files ← ((children.map Prod.fst).filterM fun filename =>
    isFile disk (Path.join path filename) filename).mapError .file
  return Utf16.sortStrings files

/-! ## Facts -/

theorem tokens_of_ofText {path source : String} {t : Template} (h : ofText path source = .ok t) :
    t.source = source ∧ tokenize source = .ok t.tokens := by
  unfold ofText at h
  cases hs : tokenize source with
  | error e => simp [hs, bind, Except.bind] at h
  | ok tokens =>
    simp only [hs, bind, Except.bind, Except.ok.injEq] at h
    subst h
    exact ⟨rfl, rfl⟩

end Template

end PromptTemplate
