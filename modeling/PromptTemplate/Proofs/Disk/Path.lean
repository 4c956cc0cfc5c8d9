import PromptTemplate.Disk.Path
import PromptTemplate.Proofs.Text.Cut
/-!
# Paths that are made of names

Names that no path is shortened by make a path, and the names of that path are the same names again
(`Path.names_absolute`). A path that was resolved is made of such names, so one more name behind it
leads to the same path whether it is joined to the text or to the names (`Path.join_absolute`). Each
name makes the path longer by its own octets and a slash (`Path.size_absolute_concat`).
-/

namespace PromptTemplate.Path

open Text (splitAt)

/-- A name that stays where a path is shortened, and that is no path of several names. -/
structure IsPart (name : String) : Prop where
  nonempty : name ≠ ""
  dot : name ≠ "."
  dots : name ≠ ".."
  slash : '/' ∉ name.toList

instance (name : String) : Decidable (IsPart name) :=
  decidable_of_iff (name ≠ "" ∧ name ≠ "." ∧ name ≠ ".." ∧ '/' ∉ name.toList)
    ⟨fun h => ⟨h.1, h.2.1, h.2.2.1, h.2.2.2⟩, fun h => ⟨h.nonempty, h.dot, h.dots, h.slash⟩⟩

/-! ## The names of a path -/

theorem names_append_slash (a b : String) : names (a ++ "/" ++ b) = names a ++ names b := by
  unfold names
  rw [String.toList_append, String.toList_append, List.append_assoc, ← List.map_append,
    ← Text.splitAt_append]
  rfl

theorem names_of_notMem {name : String} (h : '/' ∉ name.toList) : names name = [name] := by
  unfold names
  rw [Text.splitAt_of_notMem h, List.map_singleton, String.ofList_toList]

theorem notMem_of_mem_names {path name : String} (h : name ∈ names path) : '/' ∉ name.toList := by
  obtain ⟨piece, hpiece, rfl⟩ := List.mem_map.1 h
  rw [String.toList_ofList]
  exact Text.notMem_of_mem_splitAt hpiece

theorem joinNames_cons_cons (name next : String) (rest : List String) :
    joinNames (name :: next :: rest) = name ++ "/" ++ joinNames (next :: rest) :=
  String.intercalate_cons_cons

theorem joinNames_concat {ns : List String} (hne : ns ≠ []) (name : String) :
    joinNames (ns ++ [name]) = joinNames ns ++ "/" ++ name := by
  rw [joinNames, String.intercalate_append_of_ne_nil hne (List.cons_ne_nil _ _),
    String.intercalate_singleton]
  rfl

theorem names_joinNames {ns : List String} (hne : ns ≠ []) (h : ∀ n ∈ ns, '/' ∉ n.toList) :
    names (joinNames ns) = ns := by
  induction ns with
  | nil => exact absurd rfl hne
  | cons name ns ih =>
    rw [List.forall_mem_cons] at h
    cases ns with
    | nil => exact names_of_notMem h.1
    | cons next rest =>
      rw [joinNames_cons_cons, names_append_slash, names_of_notMem h.1, ih (by simp) h.2]
      rfl

theorem mem_joinNames_iff {ns : List String} {c : Char} (hc : c ≠ '/') :
    c ∈ (joinNames ns).toList ↔ ∃ n ∈ ns, c ∈ n.toList := by
  induction ns with
  | nil => simp [joinNames]
  | cons name ns ih =>
    cases ns with
    | nil => simp [joinNames]
    | cons next rest =>
      rw [joinNames_cons_cons, String.toList_append, String.toList_append, List.mem_append,
        List.mem_append, ih, List.exists_mem_cons_iff, or_assoc]
      simp [hc]

theorem mem_absolute_iff {ns : List String} {c : Char} (hc : c ≠ '/') :
    c ∈ (absolute ns).toList ↔ ∃ n ∈ ns, c ∈ n.toList := by
  rw [absolute, String.toList_append, List.mem_append, mem_joinNames_iff hc]
  simp [hc]

theorem size_absolute_singleton (name : String) :
    (absolute [name]).utf8ByteSize = name.utf8ByteSize + 1 := by
  rw [absolute, joinNames, String.intercalate_singleton, String.utf8ByteSize_append, Nat.add_comm]
  rfl

/-- One more name takes its own octets and a slash. -/
theorem size_absolute_concat {ns : List String} (hne : ns ≠ []) (name : String) :
    (absolute (ns ++ [name])).utf8ByteSize =
      (absolute ns).utf8ByteSize + (name.utf8ByteSize + 1) := by
  have hslash : "/".utf8ByteSize = 1 := by decide
  rw [absolute, absolute, joinNames_concat hne, String.utf8ByteSize_append,
    String.utf8ByteSize_append, String.utf8ByteSize_append, String.utf8ByteSize_append, hslash]
  omega

/-- In front of the first slash of an absolute path there is nothing. -/
theorem names_absolute (ns : List String) : names (absolute ns) = "" :: names (joinNames ns) :=
  names_append_slash "" (joinNames ns)

theorem isAbsolute_slash_append (path : String) : isAbsolute ("/" ++ path) = true := by
  rw [isAbsolute, String.toList_append]
  rfl

theorem isAbsolute_absolute (ns : List String) : isAbsolute (absolute ns) = true :=
  isAbsolute_slash_append (joinNames ns)

theorem absolute_ne_empty (ns : List String) : absolute ns ≠ "" := by
  simp [absolute]

theorem endsWithSlash_append (path : String) {name : String} (hne : name ≠ "")
    (h : '/' ∉ name.toList) : endsWithSlash (path ++ name) = false := by
  rw [endsWithSlash, Bool.eq_false_iff]
  intro hends
  have hsuffix := List.isSuffixOf_iff_suffix.1 hends
  have hnil : name.toList ≠ [] := fun hnil => hne (String.toList_eq_nil_iff.1 hnil)
  have hlast := hsuffix.getLast (List.cons_ne_nil _ _)
  rw [List.getLast_singleton] at hlast
  simp only [String.toList_append] at hlast
  rw [List.getLast_append_of_ne_nil _ hnil] at hlast
  exact h (hlast ▸ List.getLast_mem hnil)

/-! ## Shortening -/

theorem foldl_push_of_isPart (above : Bool) {ns : List String} (h : ∀ n ∈ ns, IsPart n)
    (stack : List String) : ns.foldl (push above) stack = ns.reverse ++ stack := by
  induction ns generalizing stack with
  | nil => rfl
  | cons name ns ih =>
    rw [List.forall_mem_cons] at h
    have hpush : push above stack name = name :: stack := by
      unfold push
      rw [if_neg (not_or.2 ⟨h.1.nonempty, h.1.dot⟩), if_neg h.1.dots]
    rw [List.foldl_cons, hpush, ih h.2, List.reverse_cons, List.append_assoc]
    rfl

theorem isPart_of_mem_push {stack : List String} {name : String} (h : ∀ n ∈ stack, IsPart n)
    (hname : '/' ∉ name.toList) : ∀ n ∈ push false stack name, IsPart n := by
  unfold push
  split
  · exact h
  · next hstay =>
    rw [not_or] at hstay
    split
    · cases stack with
      | nil => exact List.forall_mem_nil _
      | cons top rest =>
        rw [List.forall_mem_cons] at h
        dsimp only
        rw [if_neg h.1.dots]
        exact h.2
    · next hdots => exact List.forall_mem_cons.2 ⟨⟨hstay.1, hstay.2, hdots, hname⟩, h⟩

theorem isPart_of_mem_foldl_push {ns stack : List String} (hns : ∀ n ∈ ns, '/' ∉ n.toList)
    (hstack : ∀ n ∈ stack, IsPart n) : ∀ n ∈ ns.foldl (push false) stack, IsPart n := by
  induction ns generalizing stack with
  | nil => exact hstack
  | cons name ns ih =>
    rw [List.forall_mem_cons] at hns
    exact ih hns.2 (isPart_of_mem_push hstack hns.1)

/-- What is left of names from the root leads downwards only. -/
theorem isPart_of_mem_reduce {ns : List String} (h : ∀ n ∈ ns, '/' ∉ n.toList) {name : String}
    (hmem : name ∈ reduce false ns) : IsPart name :=
  isPart_of_mem_foldl_push h (List.forall_mem_nil _) name (List.mem_reverse.1 hmem)

theorem isPart_of_mem_resolve {cwd : List String} (h : ∀ n ∈ cwd, '/' ∉ n.toList) {path : String}
    {name : String} (hmem : name ∈ resolve cwd path) : IsPart name := by
  refine isPart_of_mem_reduce (fun n hn => ?_) hmem
  split at hn
  · exact notMem_of_mem_names hn
  · rcases List.mem_append.1 hn with hn | hn
    · exact h n hn
    · exact notMem_of_mem_names hn

/-! ## One more name -/

section

variable {ns : List String} (h : ∀ n ∈ ns, IsPart n)

include h

theorem joinNames_concat_ne_empty {name : String} (hname : IsPart name) :
    joinNames (ns ++ [name]) ≠ "" := by
  intro hempty
  have hslash : ∀ n ∈ ns ++ [name], '/' ∉ n.toList :=
    List.forall_mem_append.2 ⟨fun n hn => (h n hn).slash, List.forall_mem_singleton.2 hname.slash⟩
  have hnames := names_joinNames (by simp) hslash
  rw [hempty, names_of_notMem (by simp)] at hnames
  have hmem : name ∈ ns ++ [name] := List.mem_append_right _ List.mem_cons_self
  rw [← hnames, List.mem_singleton] at hmem
  exact hname.nonempty hmem

theorem reduce_names_absolute_append {more : List String} (hmore : ∀ n ∈ more, IsPart n) :
    reduce false (names (absolute ns) ++ more) = ns ++ more := by
  have hstack : (names (absolute ns)).foldl (push false) [] = ns.reverse := by
    rw [names_absolute, List.foldl_cons]
    cases ns with
    | nil => rfl
    | cons name ns =>
      rw [names_joinNames (List.cons_ne_nil _ _) fun n hn => (h n hn).slash,
        foldl_push_of_isPart false h, push, if_pos (.inl rfl), List.append_nil]
  rw [reduce, List.foldl_append, hstack, foldl_push_of_isPart false hmore, List.reverse_append,
    List.reverse_reverse, List.reverse_reverse]

/-- A name is joined to a path as it is put behind the names of the path. -/
theorem join_absolute {name : String} (hname : IsPart name) :
    join (absolute ns) name = absolute (ns ++ [name]) := by
  have hnames : names (absolute ns ++ "/" ++ name) = names (absolute ns) ++ [name] := by
    rw [names_append_slash, names_of_notMem hname.slash]
  have hreduce : reduce false (names (absolute ns ++ "/" ++ name)) = ns ++ [name] := by
    rw [hnames, reduce_names_absolute_append h (List.forall_mem_singleton.2 hname)]
  have habsolute : isAbsolute (absolute ns ++ "/" ++ name) = true := by
    rw [absolute, String.append_assoc, String.append_assoc]
    exact isAbsolute_slash_append _
  have hends := endsWithSlash_append (absolute ns ++ "/") hname.nonempty hname.slash
  rw [join, if_neg (absolute_ne_empty ns), if_neg hname.nonempty, normalize, if_neg (by simp)]
  simp only [habsolute, hends, Bool.not_true, hreduce]
  rw [if_neg (joinNames_concat_ne_empty h hname)]
  exact String.append_empty

theorem resolve_absolute (cwd : List String) : resolve cwd (absolute ns) = ns := by
  have hreduce := reduce_names_absolute_append h (List.forall_mem_nil _)
  rw [List.append_nil, List.append_nil] at hreduce
  rw [resolve, if_pos (isAbsolute_absolute ns), hreduce]

end

end PromptTemplate.Path
