import PromptTemplate.ConfigFile
/-!
# Directories in the place of files

A path that leads to a directory leads to something, and still nothing can be read from it. Of all
paths that lead to something these are the only ones that cannot be read
(`Disk.exists_readText`).
-/

namespace PromptTemplate

/-- What a directory that is read as a file fails with. -/
def FileError.directoryRead : FileError := ⟨.isDirectory, "read", none⟩

namespace Disk

/-- The path leads to a directory. -/
def IsDirectory (d : Disk) (path : String) : Prop := ∃ place, d.find path = .ok (place, .directory)

variable {d : Disk} {path : String}

theorem isDirectory_iff :
    d.IsDirectory path ↔ (d.find path).toOption.map Prod.snd = some .directory := by
  unfold IsDirectory
  cases d.find path with
  | error fault => simp [Except.toOption]
  | ok found => simp [Except.toOption, Prod.ext_iff]

instance : Decidable (d.IsDirectory path) := decidable_of_iff _ isDirectory_iff.symm

theorem IsDirectory.pathExists (h : d.IsDirectory path) : d.pathExists path = true := by
  obtain ⟨place, hfind⟩ := h
  unfold Disk.pathExists
  rw [hfind]
  rfl

theorem IsDirectory.readText (h : d.IsDirectory path) :
    d.readText path = .error .directoryRead := by
  obtain ⟨place, hfind⟩ := h
  unfold Disk.readText read
  rw [hfind]
  rfl

theorem IsDirectory.readJson (h : d.IsDirectory path) :
    d.readJson path = .error (.file .directoryRead) := by
  unfold Disk.readJson
  rw [if_pos h.pathExists, h.readText]

/-- What is there and is no directory can be read. -/
theorem exists_readText (hexists : d.pathExists path = true) (h : ¬ d.IsDirectory path) :
    ∃ text, d.readText path = .ok text := by
  unfold Disk.pathExists at hexists
  unfold readText read
  cases hfind : d.find path with
  | error fault =>
    rw [hfind] at hexists
    cases hexists
  | ok found =>
    obtain ⟨place, entry⟩ := found
    cases entry with
    | file octets mode => exact ⟨Text.decode octets, rfl⟩
    | directory => exact absurd ⟨place, hfind⟩ h

end Disk

end PromptTemplate
