import PromptTemplate.Proofs.Disk.Directory
import PromptTemplate.Proofs.Disk.Entries
import PromptTemplate.Proofs.Disk.File
import PromptTemplate.Proofs.Render.ErrorKinds
import PromptTemplate.Proofs.Template.Session
import PromptTemplate.Proofs.Text.Order
/-!
# Listing and loading

Listing a directory looks at what stands at each of its names; loading looks whether anything is
there, then at the extension, and then reads. Both come to the same: an entry is listed exactly if
it can be loaded or fails as a template only, and what is listed is loaded in that order, up to the
first file that is no template (`loadAll_of_holds`).

Listing looks at every entry, a template or not, by the path of the directory with the name behind
it. That path can be too long although the directory holds the file. Then nothing is listed at all
(`exists_list_iff`).
-/

namespace PromptTemplate

open PromptTemplate.Path (IsPart absolute)

/-- The failure is a template error. -/
def Failure.IsTemplate (failure : Failure) : Prop := ∃ e, failure = .template e

theorem Failure.not_isTemplate_load (e : LoadError) : ¬ (Failure.load e).IsTemplate := by
  rintro ⟨e', h⟩
  cases h

theorem Failure.not_isTemplate_file (e : FileError) : ¬ (Failure.file e).IsTemplate := by
  rintro ⟨e', h⟩
  cases h

/-- What looking at a path that is too long fails with. -/
def FileError.tooLong (path : String) : FileError := ⟨.nameTooLong, "stat", some path⟩

namespace Template

/-! ## Files -/

/-- The entry is a file that may be a template. -/
def mayBe (e : String × DiskEntry) : Bool := e.2.isFile && hasExtension e.1

/-- The name of an entry and the text in it. -/
def textOf (e : String × DiskEntry) : String × String :=
  match e.2 with
  | .file octets _ => (e.1, Text.decode octets)
  | .directory => (e.1, "")

/-- The files among the entries that may be templates, with their texts, in ascending order of
their names. -/
def files (entries : List (String × DiskEntry)) : List (String × String) :=
  ((entries.filter mayBe).map textOf).mergeSort fun a b =>
    (Utf16.ofString a.1).le (Utf16.ofString b.1)

/-- What loading a file gives. -/
def ofFile (file : String × String) : Except Failure (String × Template) :=
  ((ofText file.1 file.2).mapError .template).map (file.1, ·)

@[simp] theorem textOf_fst (e : String × DiskEntry) : (textOf e).1 = e.1 := by
  obtain ⟨name, entry⟩ := e
  cases entry <;> rfl

theorem mayBe_iff {e : String × DiskEntry} :
    mayBe e = true ↔ hasExtension e.1 = true ∧ ∃ octets mode, e.2 = .file octets mode := by
  obtain ⟨name, entry⟩ := e
  unfold mayBe
  cases entry <;> simp [DiskEntry.isFile]

theorem map_fst_files (entries : List (String × DiskEntry)) :
    (files entries).map Prod.fst = Utf16.sortStrings ((entries.filter mayBe).map Prod.fst) := by
  have hfst : ((entries.filter mayBe).map textOf).map Prod.fst =
      (entries.filter mayBe).map Prod.fst := by
    rw [List.map_map]
    exact List.map_congr_left fun e _ => textOf_fst e
  unfold files Utf16.sortStrings
  rw [← hfst]
  exact List.map_mergeSort fun _ _ _ _ => rfl

theorem mem_files_iff {entries : List (String × DiskEntry)} {name text : String} :
    (name, text) ∈ files entries ↔ hasExtension name = true ∧
      ∃ octets mode, (name, .file octets mode) ∈ entries ∧ text = Text.decode octets := by
  unfold files
  rw [List.mem_mergeSort, List.mem_map]
  simp only [List.mem_filter, mayBe_iff]
  constructor
  · rintro ⟨⟨name, entry⟩, ⟨hmem, hextension, octets, mode, rfl⟩, heq⟩
    cases heq
    exact ⟨hextension, octets, mode, hmem, rfl⟩
  · rintro ⟨hextension, octets, mode, hmem, rfl⟩
    exact ⟨_, ⟨hmem, hextension, octets, mode, rfl⟩, rfl⟩

theorem mem_map_fst_files_iff {entries : List (String × DiskEntry)} {name : String} :
    name ∈ (files entries).map Prod.fst ↔ hasExtension name = true ∧
      ∃ octets mode, (name, .file octets mode) ∈ entries := by
  constructor
  · intro hmem
    obtain ⟨⟨_, text⟩, hfile, rfl⟩ := List.mem_map.1 hmem
    obtain ⟨hextension, octets, mode, hentry, -⟩ := mem_files_iff.1 hfile
    exact ⟨hextension, octets, mode, hentry⟩
  · rintro ⟨hextension, octets, mode, hmem⟩
    exact List.mem_map_of_mem (mem_files_iff.2 ⟨hextension, octets, mode, hmem, rfl⟩)

theorem ofFile_of_tokenize {file : String × String} {tokens : List Token}
    (h : tokenize file.2 = .ok tokens) :
    ofFile file = .ok (file.1, ⟨Path.stem file.1, file.2, tokens⟩) := by
  unfold ofFile ofText
  rw [h]
  rfl

theorem ofFile_of_tokenize_error {file : String × String} {e : TemplateError}
    (h : tokenize file.2 = .error e) : ofFile file = .error (.template e) := by
  unfold ofFile ofText
  rw [h]
  rfl

end Template

/-! ## Entries -/

namespace Disk.Holds

open Template (mayBe hasExtension files)

variable {disk : Disk} {ns : List String} {entries : List (String × DiskEntry)}

theorem pathExists {directory : String} (h : disk.Holds directory entries) :
    disk.pathExists directory = true := by
  obtain ⟨place, hfind, -⟩ := exists_find_of_list h.listed
  exact LeadsTo.pathExists ⟨_, hfind⟩

theorem nodup {directory : String} (h : disk.Holds directory entries) :
    (entries.map Prod.fst).Nodup := by
  obtain ⟨place, -, rfl⟩ := exists_find_of_list h.listed
  exact disk.nodup_children place

theorem pairwise_files {directory : String} (h : disk.Holds directory entries) :
    (files entries).Pairwise fun a b =>
      (Utf16.ofString a.1).units < (Utf16.ofString b.1).units := by
  have hnodup : ((entries.filter mayBe).map Prod.fst).Nodup :=
    h.nodup.sublist (List.filter_sublist.map _)
  have hsorted := Utf16.pairwise_sortStrings hnodup
  rwa [← Template.map_fst_files, List.pairwise_map] at hsorted

/-- What is listed is what looking at the entries one by one selects. -/
theorem list_eq_filterM (h : disk.Holds (absolute ns) entries) {directory : String}
    (hdirectory : Path.resolve disk.cwd directory = ns) :
    Template.list disk directory =
      (((entries.map Prod.fst).filterM fun name =>
        Template.isFile disk (Path.join (absolute ns) name) name).mapError .file).map
          Utf16.sortStrings := by
  unfold Template.list
  dsimp only
  rw [hdirectory, h.pathExists, h.listed]
  rfl

section

variable (hns : ∀ n ∈ ns, IsPart n) (h : disk.Holds (absolute ns) entries)

include hns h

/-- Looking at an entry tells what it is unless its path is too long. -/
theorem isFile_eq {e : String × DiskEntry} (hmem : e ∈ entries) :
    Template.isFile disk (Path.join (absolute ns) e.1) e.1 =
      if Path.isTooLong (Path.join (absolute ns) e.1) then
        .error (.tooLong (Path.join (absolute ns) e.1))
      else .ok (mayBe e) := by
  obtain ⟨place, hfind, rfl⟩ := exists_find_of_list h.listed
  have hname := h.named.of_mem_children hmem
  unfold Template.isFile stat
  cases hlong : Path.isTooLong (Path.join (absolute ns) e.1) with
  | true =>
    rw [find_join_of_isTooLong hns hfind hname hlong]
    rfl
  | false =>
    rw [find_join hns hfind hname hmem hlong]
    rfl

section

variable {name : String} (hshort : Path.isTooLong (Path.join (absolute ns) name) = false)

include hshort

theorem exists_find {entry : DiskEntry} (hmem : (name, entry) ∈ entries) :
    ∃ place, disk.find (Path.join (absolute ns) name) = .ok (place, entry) := by
  obtain ⟨place, hfind, rfl⟩ := exists_find_of_list h.listed
  exact ⟨_, find_join hns hfind (h.named.of_mem_children hmem) hmem hshort⟩

/-- An entry that may be a template is read, and nothing but its text can be at fault. -/
theorem read_of_file {octets : List UInt8} {mode : Nat}
    (hmem : (name, .file octets mode) ∈ entries) (hextension : hasExtension name = true) :
    Template.read disk (Path.join (absolute ns) name) name =
      (Template.ofText name (Text.decode octets)).mapError .template := by
  obtain ⟨place, hfind⟩ := exists_find hns h hshort hmem
  rw [Template.read_of_pathExists (LeadsTo.pathExists ⟨_, hfind⟩) hextension,
    readText_of_find hfind]
  rfl

/-- Any other entry fails to be read in some other way. -/
theorem exists_read_error {entry : DiskEntry} (hmem : (name, entry) ∈ entries)
    (hno : mayBe (name, entry) = false) :
    ∃ failure, Template.read disk (Path.join (absolute ns) name) name = .error failure ∧
      ¬ failure.IsTemplate := by
  obtain ⟨place, hfind⟩ := exists_find hns h hshort hmem
  have hexists : disk.pathExists (Path.join (absolute ns) name) = true :=
    LeadsTo.pathExists ⟨_, hfind⟩
  cases hextension : hasExtension name with
  | false =>
    exact ⟨_, Template.read_of_not_hasExtension hexists hextension, Failure.not_isTemplate_load _⟩
  | true =>
    cases entry with
    | file octets mode =>
      have hmay : mayBe (name, .file octets mode) = true :=
        Template.mayBe_iff.2 ⟨hextension, octets, mode, rfl⟩
      rw [hmay] at hno
      cases hno
    | directory =>
      refine ⟨_, ?_, Failure.not_isTemplate_file .directoryRead⟩
      rw [Template.read_of_pathExists hexists hextension, IsDirectory.readText ⟨place, hfind⟩]
      rfl

/-- Listing and loading agree on an entry. -/
theorem mem_files_iff_read {entry : DiskEntry} (hmem : (name, entry) ∈ entries) :
    name ∈ (files entries).map Prod.fst ↔
      FailsOnly Failure.IsTemplate (Template.read disk (Path.join (absolute ns) name) name) := by
  rw [Template.mem_map_fst_files_iff]
  constructor
  · rintro ⟨hextension, octets, mode, hfile⟩
    rw [read_of_file hns h hshort hfile hextension]
    exact failsOnly_mapError fun error => ⟨error, rfl⟩
  · intro honly
    cases hmay : mayBe (name, entry) with
    | false =>
      obtain ⟨failure, hread, hno⟩ := exists_read_error hns h hshort hmem hmay
      exact absurd (honly failure hread) hno
    | true =>
      obtain ⟨hextension, octets, mode, rfl⟩ := Template.mayBe_iff.1 hmay
      exact ⟨hextension, octets, mode, hmem⟩

end

section

variable {directory : String} (hdirectory : Path.resolve disk.cwd directory = ns)

include hdirectory

theorem list_eq
    (hshort : ∀ e ∈ entries, Path.isTooLong (Path.join (absolute ns) e.1) = false) :
    Template.list disk directory = .ok ((files entries).map Prod.fst) := by
  have hfilter : ((entries.map Prod.fst).filterM fun name =>
      Template.isFile disk (Path.join (absolute ns) name) name) =
        .ok ((entries.filter mayBe).map Prod.fst) := by
    refine filterM_map_eq_ok fun e hmem => ?_
    rw [isFile_eq hns h hmem, hshort e hmem]
    rfl
  rw [list_eq_filterM h hdirectory, hfilter, Template.map_fst_files]
  rfl

/-- The first entry whose path is too long keeps the whole directory from being listed. -/
theorem list_eq_error {before after : List (String × DiskEntry)} {e : String × DiskEntry}
    (hentries : entries = before ++ e :: after)
    (hshort : ∀ x ∈ before, Path.isTooLong (Path.join (absolute ns) x.1) = false)
    (hlong : Path.isTooLong (Path.join (absolute ns) e.1) = true) :
    Template.list disk directory = .error (.file (.tooLong (Path.join (absolute ns) e.1))) := by
  have hfilter : ((entries.map Prod.fst).filterM fun name =>
      Template.isFile disk (Path.join (absolute ns) name) name) =
        .error (.tooLong (Path.join (absolute ns) e.1)) := by
    rw [hentries, List.map_append, List.map_cons]
    refine filterM_append_eq_error (fun name hname => ?_) ?_
    · obtain ⟨x, hx, rfl⟩ := List.mem_map.1 hname
      refine ⟨mayBe x, ?_⟩
      rw [isFile_eq hns h (hentries ▸ List.mem_append_left _ hx), hshort x hx]
      rfl
    · have hmem : e ∈ entries := hentries ▸ List.mem_append_right _ List.mem_cons_self
      rw [isFile_eq hns h hmem, if_pos hlong]
  rw [list_eq_filterM h hdirectory, hfilter]
  rfl

/-- A directory can be listed exactly if the path of each entry is short enough. -/
theorem exists_list_iff :
    (∃ names, Template.list disk directory = .ok names) ↔
      ∀ e ∈ entries, Path.isTooLong (Path.join (absolute ns) e.1) = false := by
  constructor
  · rintro ⟨names, hlist⟩
    cases hfirst : entries.find? fun e => Path.isTooLong (Path.join (absolute ns) e.1) with
    | none => exact fun e hmem => Bool.eq_false_iff.2 (List.find?_eq_none.1 hfirst e hmem)
    | some e =>
      obtain ⟨hlong, before, after, hentries, hbefore⟩ := List.find?_eq_some_iff_append.1 hfirst
      have hshort : ∀ x ∈ before, Path.isTooLong (Path.join (absolute ns) x.1) = false :=
        fun x hx => by simpa using hbefore x hx
      rw [list_eq_error hns h hdirectory hentries hshort hlong] at hlist
      cases hlist
  · exact fun hshort => ⟨_, list_eq hns h hdirectory hshort⟩

end

end

end Disk.Holds

/-! ## Loading -/

theorem Loader.loadAll_of_list_error {loader : Loader} {disk : Disk} {failure : Failure}
    (h : Template.list disk loader.directory = .error failure) :
    (loader.loadAll disk).1 = .error failure := by
  unfold loadAll
  rw [h]

open Template (ofFile) in
/-- Files that are not kept yet are loaded as they are read. -/
theorem Loader.loadEach_of_fresh {loader : Loader} {disk : Disk} {files : List (String × String)}
    (hread : ∀ file ∈ files, loader.read disk file.1 =
      (Template.ofText file.1 file.2).mapError .template)
    (hnodup : (files.map Prod.fst).Nodup)
    (hfresh : ∀ file ∈ files, loader.cache.get? file.1 = none) :
    (loader.loadEach disk (files.map Prod.fst)).1 = files.mapM ofFile := by
  induction files generalizing loader with
  | nil => rfl
  | cons file files ih =>
    rw [List.forall_mem_cons] at hread hfresh
    rw [List.map_cons, List.nodup_cons] at hnodup
    rw [List.map_cons, loadEach, load, hfresh.1, hread.1, List.mapM_cons, ofFile]
    cases htemplate : (Template.ofText file.1 file.2).mapError Failure.template with
    | error failure => rfl
    | ok template =>
      have hrest : ∀ other ∈ files,
          (loader.keep file.1 template).cache.get? other.1 = none := by
        intro other hother
        rw [get?_keep, if_neg, hfresh.2 other hother]
        rintro heq
        exact hnodup.1 (heq ▸ List.mem_map_of_mem hother)
      have hothers : ((loader.keep file.1 template).loadEach disk (files.map Prod.fst)).1 =
          files.mapM ofFile := ih hread.2 hnodup.2 hrest
      dsimp only
      rw [hothers]
      rfl

open Template (files ofFile)

theorem Template.failsOnly_ofFile (file : String × String) :
    FailsOnly Failure.IsTemplate (ofFile file) := by
  cases htokens : tokenize file.2 with
  | error e =>
    rw [ofFile_of_tokenize_error htokens]
    exact failsOnly_error ⟨e, rfl⟩
  | ok tokens =>
    rw [ofFile_of_tokenize htokens]
    exact failsOnly_ok _

/-- A new loader of a directory loads the files in it that may be templates, one by one. -/
theorem Disk.Holds.loadAll_eq {disk : Disk} {ns : List String}
    {entries : List (String × DiskEntry)} (hns : ∀ n ∈ ns, IsPart n)
    (h : disk.Holds (absolute ns) entries)
    (hshort : ∀ e ∈ entries, Path.isTooLong (Path.join (absolute ns) e.1) = false) :
    (Loader.loadAll ⟨absolute ns, Table.empty⟩ disk).1 = (files entries).mapM ofFile := by
  have hread : ∀ file ∈ files entries, Loader.read ⟨absolute ns, Table.empty⟩ disk file.1 =
      (Template.ofText file.1 file.2).mapError .template := by
    intro file hfile
    obtain ⟨hextension, octets, mode, hmem, htext⟩ := Template.mem_files_iff.1 hfile
    rw [htext]
    exact h.read_of_file hns (hshort _ hmem) hmem hextension
  have hnodup : ((files entries).map Prod.fst).Nodup :=
    Utf16.nodup_of_pairwise (List.pairwise_map.2 h.pairwise_files)
  unfold Loader.loadAll
  rw [h.list_eq hns (Path.resolve_absolute hns disk.cwd) hshort]
  exact Loader.loadEach_of_fresh hread hnodup fun _ _ => rfl

/-- Two files with an extension, one of them written with a wide character, and two names that are
no template, one of a directory and one without an extension. -/
def mixedEntries : List (String × DiskEntry) :=
  [("x.md", .directory), ("ﬀ.MD", .file (Text.encode "\x7b%") 0o644), (".md", .file [] 0o644),
    ("𝒜.txt", .file (Text.encode "a") 0o644)]

/-- The disk with those in a directory. -/
def mixedDisk : Disk := Disk.holding ["t"] mixedEntries

/-- A letter so many times. -/
def letters (count : Nat) (letter : Char) : String := String.ofList (List.replicate count letter)

theorem isName_letters {count : Nat} {letter : Char} (hcount : count ≠ 0)
    (hdot : letter ≠ '.') (hslash : letter ≠ '/') (hnul : letter ≠ '\x00')
    (hshort : Path.isTooLongName (letters count letter) = false) :
    Path.IsName (letters count letter) := by
  have hmem {c : Char} (hc : letter ≠ c) : c ∉ (letters count letter).toList := by
    rw [letters, String.toList_ofList]
    exact fun h => hc (List.eq_of_mem_replicate h).symm
  have hne {name : String} (hname : '.' ∈ name.toList) : letters count letter ≠ name :=
    fun heq => hmem hdot (heq ▸ hname)
  exact
    { nonempty := fun heq => by simpa [letters, hcount] using congrArg String.toList heq
      dot := hne (by decide)
      dots := hne (by decide)
      slash := hmem hslash
      nul := hmem hnul
      short := hshort }

theorem size_absolute_replicate (count : Nat) (name : String) :
    (absolute (List.replicate (count + 1) name)).utf8ByteSize =
      (count + 1) * (name.utf8ByteSize + 1) := by
  induction count with
  | zero =>
    rw [Nat.zero_add, Nat.one_mul, List.replicate_one]
    exact Path.size_absolute_singleton name
  | succ count ih =>
    rw [List.replicate_succ', Path.size_absolute_concat (by simp), ih, ← Nat.succ_mul]

/-- Fifteen directories with a name of the greatest length, one in the other. -/
def deepPlace : Place := List.replicate 15 (letters 255 'd')

/-- A template, and a file that is none, with whose name the path of that place is too long. -/
def deepEntries : List (String × DiskEntry) :=
  [("a.md", .file (Text.encode "a") 0o600), (letters 255 'n', .file (Text.encode "n") 0o600)]

/-- The disk with those at that place. -/
def deepDisk : Disk := Disk.holding deepPlace deepEntries

theorem isName_letters_n : Path.IsName (letters 255 'n') :=
  isName_letters (by decide) (by decide) (by decide) (by decide) (by decide +kernel)

theorem isName_of_mem_deepPlace : ∀ n ∈ deepPlace, Path.IsName n := by
  intro n hn
  rw [List.eq_of_mem_replicate hn]
  exact isName_letters (by decide) (by decide) (by decide) (by decide) (by decide +kernel)

theorem isPart_of_mem_deepPlace : ∀ n ∈ deepPlace, IsPart n :=
  fun n hn => (isName_of_mem_deepPlace n hn).toIsPart

theorem size_deepPlace : (absolute deepPlace).utf8ByteSize = 3840 := by
  have hletters : (letters 255 'd').utf8ByteSize = 255 := by decide +kernel
  rw [deepPlace, size_absolute_replicate, hletters]

/-- Behind the path of that place there is room for a name of 254 octets. -/
theorem isTooLong_join_deepPlace {name : String} (hname : IsPart name) :
    Path.isTooLong (Path.join (absolute deepPlace) name) = decide (255 ≤ name.utf8ByteSize) := by
  rw [Path.join_absolute isPart_of_mem_deepPlace hname, Path.isTooLong,
    Path.size_absolute_concat (by simp [deepPlace]), size_deepPlace]
  exact decide_eq_decide.2 (by omega)

theorem holds_deepDisk : deepDisk.Holds (absolute deepPlace) deepEntries := by
  have hshort : Path.isTooLong (absolute deepPlace) = false := by
    rw [Path.isTooLong, size_deepPlace]
    decide
  exact Disk.holds_holding (by decide +kernel) isName_of_mem_deepPlace
    (List.forall_mem_cons.2 ⟨by decide +kernel, List.forall_mem_singleton.2 isName_letters_n⟩) hshort

end PromptTemplate
