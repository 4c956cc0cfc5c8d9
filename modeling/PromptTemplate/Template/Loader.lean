import PromptTemplate.Template
/-!
# Loading templates

A loader reads templates from one directory and keeps what it has read under the name that it was
asked for. A template that is kept is given again whatever has become of its file since, until the
loader forgets everything. A name that cannot be loaded leaves no trace.
-/

namespace PromptTemplate

/-- A directory of templates, and those that have been read since the loader last forgot. -/
structure Loader where
  directory : String
  cache : Table String Template

namespace Loader

/-- The loader of a directory, which has to exist. -/
def ofDirectory (disk : Disk) (directory : String) : Except Failure Loader :=
  let path := Path.absolute (Path.resolve disk.cwd directory)
  if disk.pathExists path then .ok ⟨path, Table.empty⟩ else .error (.load ⟨path, .noDirectory⟩)

/-- Read a template from the disk, whatever is kept. -/
def read (loader : Loader) (disk : Disk) (filename : String) : Except Failure Template :=
  Template.read disk (Path.join loader.directory filename) filename

/-- Keep a template under a name. -/
def keep (loader : Loader) (filename : String) (template : Template) : Loader :=
  { loader with cache := loader.cache.insert filename template }

/-- The template that is kept under a name, or else the one that is read and from then on kept. -/
def load (loader : Loader) (disk : Disk) (filename : String) : Except Failure Template × Loader :=
  match loader.cache.get? filename with
  | some template => (.ok template, loader)
  | none =>
    match loader.read disk filename with
    | .ok template => (.ok template, loader.keep filename template)
    | .error failure => (.error failure, loader)

/-- Load templates by name until one cannot be loaded. What was loaded before it stays kept. -/
def loadEach (loader : Loader) (disk : Disk) :
    List String → Except Failure (List (String × Template)) × Loader
  | [] => (.ok [], loader)
  | filename :: rest =>
    match loader.load disk filename with
    | (.error failure, loader) => (.error failure, loader)
    | (.ok template, loader) =>
      let (others, loader) := loader.loadEach disk rest
      (others.map ((filename, template) :: ·), loader)

/-- Load every template in the directory. -/
def loadAll (loader : Loader) (disk : Disk) :
    Except Failure (List (String × Template)) × Loader :=
  match Template.list disk loader.directory with
  | .error failure => (.error failure, loader)
  | .ok filenames => loader.loadEach disk filenames

/-- Forget every template. -/
def forget (loader : Loader) : Loader := { loader with cache := Table.empty }

/-! ## Facts -/

theorem load_of_kept {loader : Loader} {filename : String} {template : Template} (disk : Disk)
    (h : loader.cache.get? filename = some template) :
    loader.load disk filename = (.ok template, loader) := by
  simp [load, h]

theorem load_of_not_kept {loader : Loader} {filename : String} (disk : Disk)
    (h : loader.cache.get? filename = none) :
    (loader.load disk filename).1 = loader.read disk filename := by
  unfold load
  rw [h]
  cases loader.read disk filename <;> rfl

theorem load_error {loader : Loader} {disk : Disk} {filename : String} {failure : Failure}
    (h : (loader.load disk filename).1 = .error failure) :
    (loader.load disk filename).2 = loader := by
  unfold load at h ⊢
  cases hc : loader.cache.get? filename with
  | some template => simp [hc] at h
  | none =>
    cases hr : loader.read disk filename with
    | ok template => simp [hc, hr] at h
    | error failure => simp

@[simp] theorem get?_forget (loader : Loader) (filename : String) :
    loader.forget.cache.get? filename = none := rfl

end Loader

end PromptTemplate
