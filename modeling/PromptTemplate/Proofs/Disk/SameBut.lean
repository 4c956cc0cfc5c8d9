import PromptTemplate.Proofs.Disk.File
/-!
# Disks that differ in one file

Two disks may be the same but for what one file holds. A path is followed by what kind of thing
stands at each place, so it leads to the same place on both (`find_cases`), and only reading the
one file itself can tell them apart (`readJson_cases`).
-/

namespace PromptTemplate.Disk

/-- The disks are the same but for the octets of the file at one place, which has the same mode on
both. -/
structure SameBut (place : Place) (octets octets' : List UInt8) (d d' : Disk) : Prop where
  cwd : d.cwd = d'.cwd
  elsewhere : ∀ other, other ≠ place → d.at? other = d'.at? other
  file : ∃ mode, d.at? place = some (.file octets mode) ∧ d'.at? place = some (.file octets' mode)

/-- A file that is put with one of two contents. -/
theorem sameBut_put (d : Disk) {place : Place} (hplace : place ≠ []) (octets octets' : List UInt8)
    (mode : Nat) :
    SameBut place octets octets' (d.put place (.file octets mode))
      (d.put place (.file octets' mode)) where
  cwd := rfl
  elsewhere := by
    intro other hother
    by_cases hroot : other = []
    · rw [hroot, at?_root, at?_root]
    · rw [at?_put _ _ _ _ hroot, at?_put _ _ _ _ hroot, if_neg hother, if_neg hother]
  file := by
    refine ⟨mode, ?_, ?_⟩
    · rw [at?_put _ _ _ _ hplace, if_pos rfl]
    · rw [at?_put _ _ _ _ hplace, if_pos rfl]

namespace SameBut

variable {place : Place} {octets octets' : List UInt8} {d d' : Disk}
  (h : SameBut place octets octets' d d')

include h

theorem at?_cases (other : Place) :
    (other ≠ place ∧ d.at? other = d'.at? other) ∨
      (other = place ∧ ∃ mode, d.at? other = some (.file octets mode) ∧
        d'.at? other = some (.file octets' mode)) := by
  by_cases hother : other = place
  · subst hother
    exact .inr ⟨rfl, h.file⟩
  · exact .inl ⟨hother, h.elsewhere other hother⟩

/-- Names lead to the same place: what a file holds does not matter on the way. -/
theorem follow_eq (start : Place) (names : List String) :
    d.follow start names = d'.follow start names := by
  induction names generalizing start with
  | nil => rfl
  | cons name names ih =>
    rw [follow, follow]
    rcases h.at?_cases start with ⟨-, heq⟩ | ⟨-, mode, hfile, hfile'⟩
    · rw [heq]
      simp only [ih]
    · rw [hfile, hfile']

/-- A path that does not lead to the place finds the same on both disks, and one that does finds
the file. -/
theorem find_cases (path : String) :
    (¬ d.LeadsTo path place ∧ d.find path = d'.find path) ∨
      ∃ mode, d.find path = .ok (place, .file octets mode) ∧
        d'.find path = .ok (place, .file octets' mode) := by
  unfold LeadsTo find startOf
  rw [← h.cwd]
  simp only [← h.follow_eq]
  cases pathFault? path with
  | some fault => exact .inl ⟨(fun ⟨_, hfault⟩ => nomatch hfault), rfl⟩
  | none =>
    cases d.follow (if Path.isAbsolute path then [] else d.cwd) (Path.names path) with
    | error fault => exact .inl ⟨(fun ⟨_, hfault⟩ => nomatch hfault), rfl⟩
    | ok found =>
      simp only [bind, Except.bind]
      rcases h.at?_cases found with ⟨hne, heq⟩ | ⟨rfl, mode, hfile, hfile'⟩
      · left
        rw [← heq]
        refine ⟨?_, rfl⟩
        rintro ⟨entry, hentry⟩
        cases hat : d.at? found with
        | none => rw [hat] at hentry; cases hentry
        | some there => rw [hat] at hentry; cases hentry; exact hne rfl
      · right
        rw [hfile, hfile']
        exact ⟨mode, rfl, rfl⟩

theorem pathExists_eq (path : String) : d.pathExists path = d'.pathExists path := by
  unfold pathExists
  rcases h.find_cases path with ⟨-, heq⟩ | ⟨mode, hfind, hfind'⟩
  · rw [heq]
  · rw [hfind, hfind']
    rfl

theorem mode?_eq (path : String) : d.mode? path = d'.mode? path := by
  unfold mode?
  rcases h.find_cases path with ⟨-, heq⟩ | ⟨mode, hfind, hfind'⟩
  · rw [heq]
  · rw [hfind, hfind']

theorem readText_eq {path : String} (hleads : ¬ d.LeadsTo path place) :
    d.readText path = d'.readText path := by
  rcases h.find_cases path with ⟨-, heq⟩ | ⟨mode, hfind, -⟩
  · unfold readText read
    rw [heq]
  · exact absurd ⟨_, hfind⟩ hleads

theorem readJson_eq {path : String} (hleads : ¬ d.LeadsTo path place) :
    d.readJson path = d'.readJson path := by
  unfold readJson
  rw [h.pathExists_eq, h.readText_eq hleads]

/-- If the file holds JSON on both disks, reading a path as JSON gives the same on both or the
values that the file holds. -/
theorem readJson_cases {value value' : Json} (hvalue : Json.parse? (Text.decode octets) = some value)
    (hvalue' : Json.parse? (Text.decode octets') = some value') (path : String) :
    d.readJson path = d'.readJson path ∨
      (d.readJson path = .ok (some value) ∧ d'.readJson path = .ok (some value')) := by
  rcases h.find_cases path with ⟨hleads, -⟩ | ⟨mode, hfind, hfind'⟩
  · exact .inl (h.readJson_eq hleads)
  · exact .inr ⟨readJson_of_find hfind hvalue, readJson_of_find hfind' hvalue'⟩

end SameBut

end PromptTemplate.Disk
