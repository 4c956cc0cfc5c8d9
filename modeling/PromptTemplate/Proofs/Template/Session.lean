import Mathlib.Data.List.Induction
import PromptTemplate.Proofs.Template.Read
import PromptTemplate.Template.Loader
/-!
# Runs of a loader

A loader is used while the files under it are written and taken away. A session is the loader and
the disk at one time, with every load that was made since the loader last forgot (`made`); a load
of every template makes one load for each file, up to the first that fails. What a loader keeps and
what was made always agree (`Loader.Coherent`): each load keeps them so, and forgetting ends both.

`Session.load_run`: at any time of a run, a load gives the template of the first load of that name
that succeeded since the loader last forgot, or else what reading the file gives now.
-/

namespace PromptTemplate

/-- A load of a template by name: the disk that it was made on, and what came of it. -/
structure Loading where
  filename : String
  disk : Disk
  outcome : Except Failure Template

/-- The template of the first load of a name that succeeded. -/
def firstLoaded? (made : List Loading) (filename : String) : Option Template :=
  made.findSome? fun l => if l.filename = filename then l.outcome.toOption else none

theorem firstLoaded?_append (made made' : List Loading) (filename : String) :
    firstLoaded? (made ++ made') filename =
      (firstLoaded? made filename).or (firstLoaded? made' filename) :=
  List.findSome?_append

theorem firstLoaded?_singleton (l : Loading) (filename : String) :
    firstLoaded? [l] filename = if l.filename = filename then l.outcome.toOption else none := by
  unfold firstLoaded?
  rw [List.findSome?_cons, List.findSome?_nil]
  split <;> simp_all

namespace Loader

/-! ## Loads -/

/-- The loads that are made when files are loaded one after the other: those up to the first that
fails. -/
def loadings (loader : Loader) (disk : Disk) : List String → List Loading
  | [] => []
  | filename :: rest =>
    match loader.load disk filename with
    | (.error failure, _) => [⟨filename, disk, .error failure⟩]
    | (.ok template, loader) => ⟨filename, disk, .ok template⟩ :: loader.loadings disk rest

/-- The loads that are made when every template in the directory is loaded. -/
def allLoadings (loader : Loader) (disk : Disk) : List Loading :=
  match Template.list disk loader.directory with
  | .error _ => []
  | .ok filenames => loader.loadings disk filenames

theorem get?_keep (loader : Loader) (filename filename' : String) (template : Template) :
    (loader.keep filename template).cache.get? filename' =
      if filename' = filename then some template else loader.cache.get? filename' :=
  Table.get?_insert _ _ _ _

theorem load_cases (loader : Loader) (disk : Disk) (filename : String) :
    (∃ template, loader.cache.get? filename = some template ∧
      loader.load disk filename = (.ok template, loader)) ∨
    (loader.cache.get? filename = none ∧
      ((∃ template, loader.read disk filename = .ok template ∧
        loader.load disk filename = (.ok template, loader.keep filename template)) ∨
      ∃ failure, loader.load disk filename = (.error failure, loader))) := by
  unfold load
  cases loader.cache.get? filename with
  | some template => exact .inl ⟨template, rfl, rfl⟩
  | none =>
    cases loader.read disk filename with
    | ok template => exact .inr ⟨rfl, .inl ⟨template, rfl, rfl⟩⟩
    | error failure => exact .inr ⟨rfl, .inr ⟨failure, rfl⟩⟩

theorem disk_of_mem_loadings {loader : Loader} {disk : Disk} {filenames : List String} {l : Loading}
    (hl : l ∈ loader.loadings disk filenames) : l.disk = disk := by
  induction filenames generalizing loader with
  | nil => exact absurd hl List.not_mem_nil
  | cons filename rest ih =>
    unfold loadings at hl
    split at hl
    · rw [List.mem_singleton] at hl
      rw [hl]
    · rcases List.mem_cons.1 hl with rfl | hl
      · rfl
      · exact ih hl

theorem disk_of_mem_allLoadings {loader : Loader} {disk : Disk} {l : Loading}
    (hl : l ∈ loader.allLoadings disk) : l.disk = disk := by
  unfold allLoadings at hl
  split at hl
  · exact absurd hl List.not_mem_nil
  · exact disk_of_mem_loadings hl

/-! ## Coherence -/

/-- The loader keeps exactly the first successful load of each name among those that were made, each
of which was a reading of the file at the time. -/
structure Coherent (directory : String) (loader : Loader) (made : List Loading) : Prop where
  directory_eq : loader.directory = directory
  kept : ∀ filename, loader.cache.get? filename = firstLoaded? made filename
  /-- No load gave anything but what is kept. -/
  outcome : ∀ l ∈ made, ∀ template, l.outcome = .ok template →
    loader.cache.get? l.filename = some template
  read : ∀ filename template, loader.cache.get? filename = some template → ∃ l ∈ made,
    Template.read l.disk (Path.join directory filename) filename = .ok template

theorem coherent_forget (loader : Loader) : Coherent loader.directory loader.forget [] where
  directory_eq := rfl
  kept _ := rfl
  outcome := by simp
  read := by simp

theorem ofDirectory_eq_ok_iff {disk : Disk} {directory : String} {loader : Loader} :
    ofDirectory disk directory = .ok loader ↔
      disk.pathExists (Path.absolute (Path.resolve disk.cwd directory)) = true ∧
        loader = ⟨Path.absolute (Path.resolve disk.cwd directory), Table.empty⟩ := by
  unfold ofDirectory
  dsimp only
  split
  · next hexists => simp [hexists, eq_comm]
  · next hexists => simp [hexists]

/-- A new loader keeps nothing. -/
theorem eq_forget_of_ofDirectory {disk : Disk} {directory : String} {loader : Loader}
    (h : ofDirectory disk directory = .ok loader) : loader = loader.forget := by
  obtain ⟨-, rfl⟩ := ofDirectory_eq_ok_iff.1 h
  rfl

namespace Coherent

variable {directory : String} {loader : Loader} {made : List Loading}

/-- A load that gives what is kept already, or fails, changes nothing. -/
theorem append_of_kept (h : Coherent directory loader made) (l : Loading)
    (hkept : ∀ template, l.outcome = .ok template → loader.cache.get? l.filename = some template) :
    Coherent directory loader (made ++ [l]) where
  directory_eq := h.directory_eq
  kept filename := by
    rw [firstLoaded?_append, firstLoaded?_singleton, ← h.kept]
    cases hfound : loader.cache.get? filename with
    | some template => rfl
    | none =>
      split
      · next hname =>
        subst hname
        cases houtcome : l.outcome with
        | error failure => rfl
        | ok template =>
          rw [hkept template houtcome] at hfound
          cases hfound
      · rfl
  outcome := by
    intro l' hl' template houtcome
    rcases List.mem_append.1 hl' with hl' | hl'
    · exact h.outcome l' hl' template houtcome
    · rw [List.mem_singleton] at hl'
      subst hl'
      exact hkept template houtcome
  read filename template hfound := by
    obtain ⟨l', hl', hread⟩ := h.read filename template hfound
    exact ⟨l', List.mem_append_left _ hl', hread⟩

/-- A name that was not kept is from now on, with the template that was read. -/
theorem append_of_read (h : Coherent directory loader made) {disk : Disk} {filename : String}
    {template : Template} (hfound : loader.cache.get? filename = none)
    (hread : loader.read disk filename = .ok template) :
    Coherent directory (loader.keep filename template)
      (made ++ [⟨filename, disk, .ok template⟩]) where
  directory_eq := h.directory_eq
  kept filename' := by
    rw [get?_keep, firstLoaded?_append, firstLoaded?_singleton, ← h.kept]
    by_cases hname : filename' = filename
    · subst hname
      rw [if_pos rfl, if_pos rfl, hfound]
      rfl
    · rw [if_neg hname, if_neg (Ne.symm hname), Option.or_none]
  outcome := by
    intro l hl template' houtcome
    rw [get?_keep]
    rcases List.mem_append.1 hl with hl | hl
    · have hkept := h.outcome l hl template' houtcome
      have hname : l.filename ≠ filename := by
        rintro rfl
        rw [hfound] at hkept
        cases hkept
      rw [if_neg hname, hkept]
    · rw [List.mem_singleton] at hl
      subst hl
      cases houtcome
      rw [if_pos rfl]
  read filename' template' hfound' := by
    rw [get?_keep] at hfound'
    split at hfound'
    · next hname =>
      subst hname
      cases hfound'
      refine ⟨_, List.mem_append_right _ List.mem_cons_self, ?_⟩
      rw [← h.directory_eq]
      exact hread
    · obtain ⟨l, hl, hread'⟩ := h.read filename' template' hfound'
      exact ⟨l, List.mem_append_left _ hl, hread'⟩

theorem load (h : Coherent directory loader made) (disk : Disk) (filename : String) :
    Coherent directory (loader.load disk filename).2
      (made ++ [⟨filename, disk, (loader.load disk filename).1⟩]) := by
  rcases loader.load_cases disk filename with ⟨template, hfound, hload⟩ |
    ⟨hfound, ⟨template, hread, hload⟩ | ⟨failure, hload⟩⟩
  · rw [hload]
    refine h.append_of_kept _ fun template' houtcome => ?_
    cases houtcome
    exact hfound
  · rw [hload]
    exact h.append_of_read hfound hread
  · rw [hload]
    exact h.append_of_kept _ fun template' houtcome => nomatch houtcome

theorem loadEach (h : Coherent directory loader made) (disk : Disk) (filenames : List String) :
    Coherent directory (loader.loadEach disk filenames).2
      (made ++ loader.loadings disk filenames) := by
  induction filenames generalizing loader made with
  | nil =>
    rw [Loader.loadings, List.append_nil]
    exact h
  | cons filename rest ih =>
    have hnext := h.load disk filename
    unfold Loader.loadEach Loader.loadings
    cases hload : loader.load disk filename with
    | mk outcome next =>
      rw [hload] at hnext
      cases outcome with
      | error failure => exact hnext
      | ok template =>
        have hrest := ih hnext
        rw [List.append_assoc] at hrest
        exact hrest

theorem loadAll (h : Coherent directory loader made) (disk : Disk) :
    Coherent directory (loader.loadAll disk).2 (made ++ loader.allLoadings disk) := by
  unfold Loader.loadAll Loader.allLoadings
  cases Template.list disk loader.directory with
  | error failure =>
    rw [List.append_nil]
    exact h
  | ok filenames => exact h.loadEach disk filenames

end Coherent

end Loader

/-! ## Sessions -/

/-- What happens to a loader and to the disk under it. -/
inductive LoaderEvent where
  | load (filename : String)
  | loadAll
  | forget
  /-- Files are written and taken away. -/
  | change (disk : Disk)

/-- A loader and the disk at one time, and the loads that were made since the loader last forgot. -/
structure Session where
  loader : Loader
  disk : Disk
  made : List Loading

namespace Session

/-- The session of a new loader. -/
def start (loader : Loader) (disk : Disk) : Session := ⟨loader, disk, []⟩

/-- The session when something has happened. -/
def step (s : Session) : LoaderEvent → Session
  | .load filename =>
    ⟨(s.loader.load s.disk filename).2, s.disk,
      s.made ++ [⟨filename, s.disk, (s.loader.load s.disk filename).1⟩]⟩
  | .loadAll => ⟨(s.loader.loadAll s.disk).2, s.disk, s.made ++ s.loader.allLoadings s.disk⟩
  | .forget => ⟨s.loader.forget, s.disk, []⟩
  | .change disk => { s with disk := disk }

/-- The session when some things have happened one after the other. -/
def run (s : Session) (events : List LoaderEvent) : Session := events.foldl step s

theorem run_concat (s : Session) (events : List LoaderEvent) (event : LoaderEvent) :
    s.run (events ++ [event]) = (s.run events).step event := by
  unfold run
  rw [List.foldl_append, List.foldl_cons, List.foldl_nil]

variable {directory : String} {s : Session}

theorem coherent_step (h : s.loader.Coherent directory s.made) (event : LoaderEvent) :
    (s.step event).loader.Coherent directory (s.step event).made := by
  cases event with
  | load filename => exact h.load s.disk filename
  | loadAll => exact h.loadAll s.disk
  | forget =>
    rw [← h.directory_eq]
    exact s.loader.coherent_forget
  | change disk => exact h

theorem coherent_run (h : s.loader.Coherent directory s.made) (events : List LoaderEvent) :
    (s.run events).loader.Coherent directory (s.run events).made := by
  induction events generalizing s with
  | nil => exact h
  | cons event events ih => exact ih (coherent_step h event)

theorem mem_made_step {event : LoaderEvent} {l : Loading} (hl : l ∈ (s.step event).made) :
    event ≠ .forget ∧ (l ∈ s.made ∨ l.disk = s.disk) := by
  cases event with
  | load filename =>
    refine ⟨nofun, ?_⟩
    rcases List.mem_append.1 hl with hl | hl
    · exact .inl hl
    · rw [List.mem_singleton] at hl
      rw [hl]
      exact .inr rfl
  | loadAll =>
    refine ⟨nofun, ?_⟩
    rcases List.mem_append.1 hl with hl | hl
    · exact .inl hl
    · exact .inr (Loader.disk_of_mem_allLoadings hl)
  | forget => exact absurd hl List.not_mem_nil
  | change disk => exact ⟨nofun, .inl hl⟩

/-- Every load that counts was made on the disk of some time since the loader last forgot. -/
theorem exists_of_mem_made_run (hs : s.made = []) {events : List LoaderEvent} {l : Loading}
    (hl : l ∈ (s.run events).made) :
    ∃ before after, events = before ++ after ∧ LoaderEvent.forget ∉ after ∧
      l.disk = (s.run before).disk := by
  induction events using List.reverseRecOn with
  | nil =>
    rw [run, List.foldl_nil, hs] at hl
    exact absurd hl List.not_mem_nil
  | append_singleton events event ih =>
    rw [run_concat] at hl
    obtain ⟨hevent, hl | hdisk⟩ := mem_made_step hl
    · obtain ⟨before, after, rfl, hafter, hdisk⟩ := ih hl
      refine ⟨before, after ++ [event], List.append_assoc _ _ _, ?_, hdisk⟩
      simp [hafter, Ne.symm hevent]
    · refine ⟨events, [event], rfl, ?_, hdisk⟩
      simp [Ne.symm hevent]

/-- **Coherence.** Whatever is loaded, forgotten, written and taken away, a load gives the template
of the first load of its name that succeeded since the loader last forgot, and what reading the file
gives now if there was none. A load that fails leaves the loader as it is. Every load that succeeded
gave the template of the first, and a template that is kept is the reading of its own text, which
stood in its file at some time since the loader last forgot. -/
theorem load_run {disk : Disk} {loader : Loader}
    (h : Loader.ofDirectory disk directory = .ok loader) (events : List LoaderEvent) :
    let s := (start loader disk).run events
    (∀ filename, (s.loader.load s.disk filename).1 =
      match firstLoaded? s.made filename with
      | some template => .ok template
      | none => (s.loader.forget.load s.disk filename).1) ∧
    (∀ filename failure, (s.loader.load s.disk filename).1 = .error failure →
      (s.loader.load s.disk filename).2 = s.loader) ∧
    (∀ l ∈ s.made, ∀ template, l.outcome = .ok template →
      firstLoaded? s.made l.filename = some template) ∧
    ∀ filename template, s.loader.cache.get? filename = some template →
      tokenize template.source = .ok template.tokens ∧
        ∃ before after, events = before ++ after ∧ LoaderEvent.forget ∉ after ∧
          ((start loader disk).run before).disk.readText (Path.join loader.directory filename) =
            .ok template.source := by
  intro s
  have hstart : loader.Coherent loader.directory [] := by
    rw [Loader.eq_forget_of_ofDirectory h]
    exact loader.coherent_forget
  have hrun : s.loader.Coherent loader.directory s.made := coherent_run hstart events
  refine ⟨fun filename => ?_, fun filename failure => Loader.load_error, ?_, ?_⟩
  · rw [← hrun.kept]
    cases hfound : s.loader.cache.get? filename with
    | some template => rw [Loader.load_of_kept s.disk hfound]
    | none =>
      rw [Loader.load_of_not_kept s.disk hfound,
        Loader.load_of_not_kept s.disk (s.loader.get?_forget filename)]
      rfl
  · intro l hl template houtcome
    rw [← hrun.kept]
    exact hrun.outcome l hl template houtcome
  · intro filename template hfound
    obtain ⟨l, hl, hread⟩ := hrun.read filename template hfound
    obtain ⟨before, after, hevents, hafter, hdisk⟩ := exists_of_mem_made_run rfl hl
    obtain ⟨hsource, htokens⟩ := Template.source_of_read hread
    rw [hdisk] at hsource
    exact ⟨htokens, before, after, hevents, hafter, hsource⟩

/-- The disk with the file `a.md` in the directory `t` and nothing else. -/
def noteDisk (text : String) : Disk :=
  (Disk.put ⟨Table.empty, []⟩ ["t"] .directory).put ["t", "a.md"] (.file (Text.encode text) 0o600)

/-- The loader of the directory `t`. -/
def noteLoader : Loader := ⟨"/t", Table.empty⟩

/-- The note is loaded, written anew with a text that is no template, and loaded again with every
other: it is still the old one, until the loader forgets it. -/
theorem load_run_noteDisk :
    Loader.ofDirectory (noteDisk "a") "t" = .ok noteLoader ∧
      (let s := (start noteLoader (noteDisk "a")).run
        [.load "a.md", .change (noteDisk "\x7b%"), .loadAll]
      (s.loader.load s.disk "a.md").1.toOption = some ⟨"a", "a", [.literal "a"]⟩ ∧
        (s.loader.forget.load s.disk "a.md").1.toOption = none) := by
  have hloader : Loader.ofDirectory (noteDisk "a") "t" = .ok noteLoader := by
    have hexists : (noteDisk "a").pathExists "/t" = true := by decide +kernel
    have hpath : Path.absolute (Path.resolve (noteDisk "a").cwd "t") = "/t" := by decide +kernel
    unfold Loader.ofDirectory
    dsimp only
    rw [hpath, if_pos hexists]
    rfl
  refine ⟨hloader, ?_⟩
  intro s
  refine ⟨?_, by decide +kernel⟩
  rw [(load_run hloader [.load "a.md", .change (noteDisk "\x7b%"), .loadAll]).1 "a.md"]
  decide +kernel

end Session

end PromptTemplate
