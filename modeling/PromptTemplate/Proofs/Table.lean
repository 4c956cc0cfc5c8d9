import PromptTemplate.Table
/-!
# Entries with distinct keys

Where no key comes twice, what is found under a key is the one value that stands beside it, in
whatever order the entries are (`findEntry_perm`). A list of such entries is the table that it
makes (`Table.entries_ofList`), and the entries of any table come from the pairs that it was made
of (`Table.mem_of_mem_entries_ofList`).
-/

namespace PromptTemplate

variable {κ α β : Type} [DecidableEq κ]

theorem findEntry_eq_some_iff {k : κ} {v : α} {entries : List (κ × α)}
    (h : (entries.map Prod.fst).Nodup) : findEntry k entries = some v ↔ (k, v) ∈ entries := by
  induction entries with
  | nil => simp [findEntry]
  | cons e rest ih =>
    obtain ⟨k', v'⟩ := e
    rw [List.map_cons, List.nodup_cons] at h
    rw [List.mem_cons, Prod.mk.injEq]
    by_cases hk : k' = k
    · have hrest : (k, v) ∉ rest := by
        rw [← hk]
        exact fun hmem => h.1 (List.mem_map.2 ⟨_, hmem, rfl⟩)
      simp [findEntry, hk, hrest, eq_comm]
    · rw [findEntry, if_neg hk, ih h.2]
      simp [Ne.symm hk]

theorem findEntry_perm {k : κ} {entries entries' : List (κ × α)} (hperm : entries.Perm entries')
    (h : (entries.map Prod.fst).Nodup) : findEntry k entries = findEntry k entries' := by
  have h' : (entries'.map Prod.fst).Nodup := (hperm.map Prod.fst).nodup_iff.1 h
  refine Option.ext fun v => ?_
  rw [findEntry_eq_some_iff h, findEntry_eq_some_iff h', hperm.mem_iff]

theorem bindEntry_of_notMem {k : κ} {entries : List (κ × α)} (h : k ∉ entries.map Prod.fst)
    (v : α) : bindEntry k v entries = entries ++ [(k, v)] := by
  induction entries with
  | nil => rfl
  | cons e rest ih =>
    rw [List.map_cons, List.mem_cons, not_or] at h
    rw [bindEntry, if_neg (Ne.symm h.1), ih h.2]
    rfl

namespace Table

theorem insertAll_append (t : Table κ α) (pairs more : List (κ × α)) :
    t.insertAll (pairs ++ more) = (t.insertAll pairs).insertAll more := List.foldl_append

theorem entries_insertAll (t : Table κ α) {pairs : List (κ × α)}
    (h : ((t.entries ++ pairs).map Prod.fst).Nodup) :
    (t.insertAll pairs).entries = t.entries ++ pairs := by
  induction pairs generalizing t with
  | nil => exact (List.append_nil _).symm
  | cons pair pairs ih =>
    have hfresh : pair.1 ∉ t.entries.map Prod.fst := by
      rw [List.map_append, List.map_cons, List.nodup_append] at h
      exact fun hmem => h.2.2 _ hmem _ List.mem_cons_self rfl
    have hentries : (t.insert pair.1 pair.2).entries = t.entries ++ [pair] :=
      bindEntry_of_notMem hfresh pair.2
    have hassoc : t.entries ++ [pair] ++ pairs = t.entries ++ pair :: pairs :=
      List.append_assoc t.entries [pair] pairs
    rw [insertAll_cons, ih _ (by rwa [hentries, hassoc]), hentries, hassoc]

theorem entries_ofList {pairs : List (κ × α)} (h : (pairs.map Prod.fst).Nodup) :
    (ofList pairs).entries = pairs := entries_insertAll empty h

theorem get?_eq_some_iff (t : Table κ α) {k : κ} {v : α} :
    t.get? k = some v ↔ (k, v) ∈ t.entries := findEntry_eq_some_iff t.nodup

theorem mem_of_mem_entries_ofList {pairs : List (κ × α)} {e : κ × α}
    (h : e ∈ (ofList pairs).entries) : e ∈ pairs := by
  have hget := (get?_eq_some_iff (ofList pairs)).2 h
  rw [get?_ofList, List.lookup_eq_some_iff] at hget
  obtain ⟨before, after, hpairs, -⟩ := hget
  rw [← List.mem_reverse, hpairs]
  exact List.mem_append_right before List.mem_cons_self

theorem mem_keys_ofList {pairs : List (κ × α)} {k : κ} :
    k ∈ (ofList pairs).keys ↔ k ∈ pairs.map Prod.fst := by
  rw [← Decidable.not_iff_not, ← get?_eq_none_iff, get?_ofList, List.lookup_eq_none_iff]
  simp only [List.mem_reverse, List.mem_map, not_exists, not_and, bne_iff_ne]
  exact ⟨fun h e he heq => h e he heq.symm, fun h e he heq => h e he heq.symm⟩

theorem map_insertAll (f : α → β) (t : Table κ α) (pairs : List (κ × α)) :
    (t.insertAll pairs).map f = (t.map f).insertAll (pairs.map fun e => (e.1, f e.2)) := by
  induction pairs generalizing t with
  | nil => rfl
  | cons pair pairs ih => rw [insertAll_cons, ih, map_insert, List.map_cons, insertAll_cons]

theorem map_ofList (f : α → β) (pairs : List (κ × α)) :
    (ofList pairs).map f = ofList (pairs.map fun e => (e.1, f e.2)) := map_insertAll f empty pairs

end Table

end PromptTemplate
