import Mathlib.Data.List.Nodup
import PromptTemplate.Disk
import PromptTemplate.Proofs.Disk.Path
import PromptTemplate.Proofs.Table
/-!
# The entries of a directory

A directory lists what stands right below it, each under a name of its own (`nodup_children`). The
path of the directory with one of these names behind it leads to what is listed under the name, as
long as it is no longer than a path may be (`find_join`); a longer one leads nowhere
(`find_join_of_isTooLong`). Whatever entries have distinct names can be what a directory holds
(`holds_holding`).
-/

namespace PromptTemplate

open PromptTemplate.Path (IsPart absolute)

/-- A name that something in a directory can have. -/
structure Path.IsName (name : String) : Prop extends IsPart name where
  nul : '\x00' ∉ name.toList
  short : isTooLongName name = false

instance (name : String) : Decidable (Path.IsName name) :=
  decidable_of_iff (IsPart name ∧ '\x00' ∉ name.toList ∧ Path.isTooLongName name = false)
    ⟨fun h => ⟨h.1, h.2.1, h.2.2⟩, fun h => ⟨h.toIsPart, h.nul, h.short⟩⟩

namespace Disk

/-- Everything on the disk is called by names, and so are the directories down to the working
directory. -/
structure HasNames (d : Disk) : Prop where
  contents : ∀ place ∈ d.contents.keys, ∀ name ∈ place, Path.IsName name
  cwd : ∀ name ∈ d.cwd, Path.IsName name

variable {d : Disk}

/-! ## Entries -/

theorem nameIn?_eq_some_iff {directory place : Place} {name : String} :
    nameIn? directory place = some name ↔ place = directory ++ [name] := by
  unfold nameIn?
  constructor
  · intro h
    split at h
    · cases h
    · next last hlast =>
      split at h
      · next hdirectory =>
        cases h
        rw [← hdirectory]
        exact (List.dropLast_append_getLast? _ hlast).symm
      · cases h
  · rintro rfl
    simp

theorem mem_children_iff {directory : Place} {name : String} {entry : DiskEntry} :
    (name, entry) ∈ d.children directory ↔
      d.contents.get? (directory ++ [name]) = some entry := by
  unfold children
  rw [Table.get?_eq_some_iff, List.mem_filterMap]
  simp only [Option.map_eq_some_iff, nameIn?_eq_some_iff, Prod.mk.injEq]
  constructor
  · rintro ⟨⟨place, entry⟩, hmem, other, rfl, rfl, rfl⟩
    exact hmem
  · intro hmem
    exact ⟨_, hmem, name, rfl, rfl, rfl⟩

theorem HasNames.of_mem_children (h : d.HasNames) {directory : Place} {name : String}
    {entry : DiskEntry} (hmem : (name, entry) ∈ d.children directory) : Path.IsName name := by
  rw [mem_children_iff, Table.get?_eq_some_iff] at hmem
  exact h.contents _ (List.mem_map_of_mem hmem) name (List.mem_append_right _ List.mem_cons_self)

theorem nodup_children (d : Disk) (directory : Place) :
    ((d.children directory).map Prod.fst).Nodup := by
  have hnames : (d.children directory).map Prod.fst =
      d.contents.keys.filterMap (nameIn? directory) := by
    unfold children Table.keys
    rw [List.map_filterMap, List.filterMap_map]
    refine List.filterMap_congr fun e _ => ?_
    rw [Option.map_map]
    exact Option.map_id'
  rw [hnames]
  refine d.contents.keys_nodup.filterMap fun place other name hplace hother => ?_
  rw [Option.mem_def, nameIn?_eq_some_iff] at hplace hother
  rw [hplace, hother]

theorem exists_find_of_list {path : String} {entries : List (String × DiskEntry)}
    (h : d.list path = .ok entries) :
    ∃ place, d.find path = .ok (place, .directory) ∧ entries = d.children place := by
  unfold list at h
  split at h
  · cases h
  · cases h
  · next place hfind =>
    cases h
    exact ⟨place, hfind, rfl⟩

/-! ## Paths of entries -/

theorem follow_append (d : Disk) (place : Place) (names more : List String) :
    d.follow place (names ++ more) = d.follow place names >>= fun found => d.follow found more := by
  induction names generalizing place with
  | nil => rfl
  | cons name names ih =>
    rw [List.cons_append, follow, follow]
    cases d.at? place with
    | none => rfl
    | some entry =>
      cases entry with
      | file octets mode => rfl
      | directory =>
        dsimp only
        simp only [ih]
        split
        · rfl
        · split
          · rfl
          · split <;> rfl

variable {ns : List String}

theorem follow_names_absolute (d : Disk) (h : ∀ n ∈ ns, IsPart n) :
    d.follow [] (Path.names (absolute ns)) = d.follow [] ns := by
  have hempty (names : List String) : d.follow [] ("" :: names) = d.follow [] names := by
    rw [follow, at?_root, if_pos (.inl rfl)]
  rw [Path.names_absolute, hempty]
  cases ns with
  | nil => exact hempty []
  | cons name ns =>
    rw [Path.names_joinNames (List.cons_ne_nil _ _) fun n hn => (h n hn).slash]

/-- A path leads to something if nothing is wrong with it and its names lead there. -/
theorem find_eq_ok_iff {path : String} {place : Place} {entry : DiskEntry} :
    d.find path = .ok (place, entry) ↔ pathFault? path = none ∧
      d.follow (d.startOf path) (Path.names path) = .ok place ∧ d.at? place = some entry := by
  unfold find
  cases pathFault? path with
  | some fault => simp
  | none =>
    cases d.follow (d.startOf path) (Path.names path) with
    | error fault => simp [bind, Except.bind]
    | ok found =>
      simp only [bind, Except.bind, Except.ok.injEq, true_and]
      constructor
      · intro hat
        split at hat
        · cases hat
        · next there =>
          cases hat
          exact ⟨rfl, there⟩
      · rintro ⟨rfl, there⟩
        rw [there]

theorem find_absolute_eq_ok_iff {place : Place} {entry : DiskEntry} (h : ∀ n ∈ ns, IsPart n) :
    d.find (absolute ns) = .ok (place, entry) ↔
      pathFault? (absolute ns) = none ∧ d.follow [] ns = .ok place ∧ d.at? place = some entry := by
  rw [find_eq_ok_iff, startOf, if_pos (Path.isAbsolute_absolute ns), follow_names_absolute d h]

/-- A name behind the path of a directory is at fault only if the path becomes too long. -/
theorem pathFault?_absolute_concat {name : String} (h : pathFault? (absolute ns) = none)
    (hname : Path.IsName name) : pathFault? (absolute (ns ++ [name])) =
      if Path.isTooLong (absolute (ns ++ [name])) then some .nameTooLong else none := by
  have hnul : '\x00' ∉ (absolute ns).toList := by
    intro hnul
    rw [pathFault?, if_pos hnul] at h
    cases h
  have hnul' : '\x00' ∉ (absolute (ns ++ [name])).toList := by
    rw [Path.mem_absolute_iff (by decide)] at hnul ⊢
    rintro ⟨n, hmem, hn⟩
    rcases List.mem_append.1 hmem with hmem | hmem
    · exact hnul ⟨n, hmem, hn⟩
    · rw [List.mem_singleton.1 hmem] at hn
      exact hname.nul hn
  rw [pathFault?, if_neg hnul', if_neg (Path.absolute_ne_empty _)]

theorem follow_cons {place : Place} {name : String} (hat : d.at? place = some .directory)
    (hname : Path.IsName name) (names : List String) :
    d.follow place (name :: names) = d.follow (place ++ [name]) names := by
  rw [follow, hat]
  dsimp only
  rw [if_neg (not_or.2 ⟨hname.nonempty, hname.dot⟩), if_neg hname.dots, hname.short]
  rfl

section

variable {place : Place} {name : String} (h : ∀ n ∈ ns, IsPart n)
  (hfind : d.find (absolute ns) = .ok (place, .directory)) (hname : Path.IsName name)

include h hfind hname

/-- The path of an entry of a directory leads to it. -/
theorem find_join {entry : DiskEntry} (hmem : (name, entry) ∈ d.children place)
    (hshort : Path.isTooLong (Path.join (absolute ns) name) = false) :
    d.find (Path.join (absolute ns) name) = .ok (place ++ [name], entry) := by
  obtain ⟨hfault, hfollow, hat⟩ := (find_absolute_eq_ok_iff h).1 hfind
  rw [Path.join_absolute h hname.toIsPart] at hshort ⊢
  have hpart : ∀ n ∈ ns ++ [name], IsPart n :=
    List.forall_mem_append.2 ⟨h, List.forall_mem_singleton.2 hname.toIsPart⟩
  have hentry : d.at? (place ++ [name]) = some entry := by
    rw [at?, if_neg (by simp)]
    exact mem_children_iff.1 hmem
  refine (find_absolute_eq_ok_iff hpart).2 ⟨?_, ?_, hentry⟩
  · rw [pathFault?_absolute_concat hfault hname, hshort]
    rfl
  · rw [follow_append, hfollow]
    exact follow_cons hat hname []

/-- A path that is too long leads nowhere, whatever the directory holds. -/
theorem find_join_of_isTooLong (hlong : Path.isTooLong (Path.join (absolute ns) name) = true) :
    d.find (Path.join (absolute ns) name) = .error .nameTooLong := by
  obtain ⟨hfault, -, -⟩ := (find_absolute_eq_ok_iff h).1 hfind
  rw [Path.join_absolute h hname.toIsPart] at hlong ⊢
  rw [find, pathFault?_absolute_concat hfault hname, if_pos hlong]

end

theorem follow_of_directories {place : Place} {names : List String}
    (hnames : ∀ n ∈ names, Path.IsName n)
    (h : ∀ before, before <+: place ++ names → d.at? before = some .directory) :
    d.follow place names = .ok (place ++ names) := by
  induction names generalizing place with
  | nil => rw [follow, List.append_nil]
  | cons name names ih =>
    rw [List.forall_mem_cons] at hnames
    have hplace : place <+: place ++ name :: names := List.prefix_append _ _
    rw [follow_cons (h place hplace) hnames.1, List.append_cons place name names]
    exact ih hnames.2 (List.append_cons place name names ▸ h)

/-! ## A directory with given entries -/

/-- The directory at the path holds the entries. -/
structure Holds (d : Disk) (directory : String) (entries : List (String × DiskEntry)) : Prop where
  named : d.HasNames
  listed : d.list directory = .ok entries

/-- A directory with its entries, and the directories on the way to it. -/
def nest (directory : Place) (entries : List (String × DiskEntry)) : List (Place × DiskEntry) :=
  ((List.range directory.length).map fun n => (directory.take (n + 1), .directory)) ++
    entries.map fun e => (directory ++ [e.1], e.2)

/-- The disk with that directory alone. -/
def holding (directory : Place) (entries : List (String × DiskEntry)) : Disk :=
  ⟨Table.ofList (nest directory entries), []⟩

theorem hasNames_holding {directory : Place} {entries : List (String × DiskEntry)}
    (hnames : ∀ n ∈ directory, Path.IsName n) (hentryNames : ∀ e ∈ entries, Path.IsName e.1) :
    (holding directory entries).HasNames := by
  refine ⟨fun place hplace name hname => ?_, List.forall_mem_nil _⟩
  rw [holding, Table.mem_keys_ofList, nest, List.map_append, List.mem_append, List.map_map,
    List.map_map] at hplace
  rcases hplace with hplace | hplace
  · obtain ⟨n, -, rfl⟩ := List.mem_map.1 hplace
    exact hnames name (List.mem_of_mem_take hname)
  · obtain ⟨e, he, rfl⟩ := List.mem_map.1 hplace
    rcases List.mem_append.1 hname with hname | hname
    · exact hnames name hname
    · rw [List.mem_singleton.1 hname]
      exact hentryNames e he

section

variable {directory : Place} {entries : List (String × DiskEntry)}
  (hentries : (entries.map Prod.fst).Nodup)

include hentries

theorem nodup_nest : ((nest directory entries).map Prod.fst).Nodup := by
  have hways : ((List.range directory.length).map fun n => directory.take (n + 1)).Nodup := by
    refine List.Nodup.map_on (fun m hm n hn heq => ?_) List.nodup_range
    have hlength := congrArg List.length heq
    rw [List.mem_range] at hm hn
    rw [List.length_take, List.length_take] at hlength
    omega
  have hnames : ((entries.map Prod.fst).map fun name => directory ++ [name]).Nodup :=
    hentries.map fun name name' heq => List.singleton_injective (List.append_cancel_left heq)
  rw [nest, List.map_append, List.map_map, List.map_map]
  rw [List.map_map] at hnames
  refine List.nodup_append.2 ⟨hways, hnames, ?_⟩
  intro place hplace place' hplace' heq
  obtain ⟨n, -, rfl⟩ := List.mem_map.1 hplace
  obtain ⟨e, -, rfl⟩ := List.mem_map.1 hplace'
  have hlength := congrArg List.length heq
  simp only [Function.comp_apply, List.length_take, List.length_append, List.length_singleton]
    at hlength
  omega

theorem at?_holding {place : Place} (h : place <+: directory) :
    (holding directory entries).at? place = some .directory := by
  by_cases hroot : place = []
  · rw [hroot, at?_root]
  have hpos : 0 < place.length := List.length_pos_iff.2 hroot
  have hle := h.length_le
  rw [at?, if_neg hroot, holding, Table.get?_eq_some_iff,
    Table.entries_ofList (nodup_nest hentries)]
  refine List.mem_append_left _ (List.mem_map.2 ⟨place.length - 1, ?_, ?_⟩)
  · exact List.mem_range.2 (by omega)
  · rw [Nat.sub_add_cancel hpos, ← List.prefix_iff_eq_take.1 h]

theorem children_holding : (holding directory entries).children directory = entries := by
  have hways : (((List.range directory.length).map fun n =>
      (directory.take (n + 1), DiskEntry.directory)).filterMap fun e =>
        (nameIn? directory e.1).map fun name => (name, e.2)) = [] := by
    refine List.filterMap_eq_nil_iff.2 fun e he => ?_
    obtain ⟨n, -, rfl⟩ := List.mem_map.1 he
    rw [Option.map_eq_none_iff, Option.eq_none_iff_forall_ne_some]
    intro name hname
    have hlength := congrArg List.length (nameIn?_eq_some_iff.1 hname)
    rw [List.length_take, List.length_append, List.length_singleton] at hlength
    omega
  have hname (name : String) : nameIn? directory (directory ++ [name]) = some name :=
    nameIn?_eq_some_iff.2 rfl
  rw [children, holding, Table.entries_ofList (nodup_nest hentries), nest, List.filterMap_append,
    hways, List.nil_append, List.filterMap_map]
  simp only [Function.comp_def, hname, Option.map_some]
  exact List.filterMap_some

/-- Entries with distinct names can be what a directory holds. -/
theorem holds_holding (hnames : ∀ n ∈ directory, Path.IsName n)
    (hentryNames : ∀ e ∈ entries, Path.IsName e.1)
    (hshort : Path.isTooLong (absolute directory) = false) :
    (holding directory entries).Holds (absolute directory) entries := by
  have hfault : pathFault? (absolute directory) = none := by
    have hnul : '\x00' ∉ (absolute directory).toList := by
      rw [Path.mem_absolute_iff (by decide)]
      rintro ⟨n, hmem, hn⟩
      exact (hnames n hmem).nul hn
    rw [pathFault?, if_neg hnul, if_neg (Path.absolute_ne_empty _), hshort]
    rfl
  have hfollow : (holding directory entries).follow [] directory = .ok directory :=
    follow_of_directories hnames fun _ => at?_holding hentries
  have hfind : (holding directory entries).find (absolute directory) =
      .ok (directory, .directory) :=
    (find_absolute_eq_ok_iff fun n hn => (hnames n hn).toIsPart).2
      ⟨hfault, hfollow, at?_holding hentries List.prefix_rfl⟩
  refine ⟨hasNames_holding hnames hentryNames, ?_⟩
  rw [list, hfind]
  exact congrArg Except.ok (children_holding hentries)

end

end Disk

end PromptTemplate
