import PromptTemplate.ConfigFile
import PromptTemplate.Proofs.Table
/-!
# Objects in order

The order of an object is a matter of its names alone, so it is found once and for all
(`orderMembers_orderMembers`) and stays where values are replaced (`orderMembers_map`). Every object
that is read from a text is in order, however deep it stands (`isOrdered_of_parse?`).
-/

namespace PromptTemplate.Json

variable {α β : Type}

/-! ## The order of members -/

theorem orderMembers_perm (members : List (Utf16 × α)) : (orderMembers members).Perm members := by
  have hothers : (fun m : Utf16 × α => (indexKey? m.1).isNone) =
      fun m => !(indexKey? m.1).isSome := by
    funext m
    cases indexKey? m.1 <;> rfl
  unfold orderMembers
  rw [hothers]
  exact ((List.mergeSort_perm _ _).append_right _).trans (List.filter_append_perm _ members)

theorem nodup_orderMembers {members : List (Utf16 × α)} (h : (members.map Prod.fst).Nodup) :
    ((orderMembers members).map Prod.fst).Nodup :=
  ((orderMembers_perm members).map Prod.fst).nodup_iff.2 h

theorem orderMembers_map (f : α → β) (members : List (Utf16 × α)) :
    orderMembers (members.map fun m => (m.1, f m.2)) =
      (orderMembers members).map fun m => (m.1, f m.2) := by
  unfold orderMembers
  rw [List.filter_map, List.filter_map, List.map_append]
  refine congrArg (· ++ _) (List.map_mergeSort ?_).symm
  exact fun _ _ _ _ => rfl

theorem pairwise_sortIndices (indices : List (Utf16 × α)) :
    (indices.mergeSort fun a b => decide (indexKey a.1 ≤ indexKey b.1)).Pairwise
      fun a b => decide (indexKey a.1 ≤ indexKey b.1) = true := by
  refine List.pairwise_mergeSort (fun a b c hab hbc => ?_) (fun a b => ?_) indices
  · simp only [decide_eq_true_eq] at hab hbc ⊢
    exact Nat.le_trans hab hbc
  · simp only [Bool.or_eq_true, decide_eq_true_eq]
    exact Nat.le_total _ _

/-- Array indices in ascending order and other names behind them stay as they are. -/
theorem orderMembers_append {indices others : List (Utf16 × α)}
    (hsorted : indices.Pairwise fun a b => indexKey a.1 ≤ indexKey b.1)
    (hsome : ∀ m ∈ indices, indexKey? m.1 ≠ none) (hnone : ∀ m ∈ others, indexKey? m.1 = none) :
    orderMembers (indices ++ others) = indices ++ others := by
  have hindex : (indices ++ others).filter (fun m => (indexKey? m.1).isSome) = indices := by
    rw [List.filter_append,
      List.filter_eq_self.2 fun m hm => Option.isSome_iff_ne_none.2 (hsome m hm),
      List.filter_eq_nil_iff.2 fun m hm => by simp [hnone m hm], List.append_nil]
  have hother : (indices ++ others).filter (fun m => (indexKey? m.1).isNone) = others := by
    rw [List.filter_append,
      List.filter_eq_nil_iff.2 fun m hm hn => hsome m hm (Option.isNone_iff_eq_none.1 hn),
      List.filter_eq_self.2 fun m hm => Option.isNone_iff_eq_none.2 (hnone m hm), List.nil_append]
  rw [orderMembers, hindex, hother,
    List.mergeSort_of_pairwise (hsorted.imp fun h => decide_eq_true h)]

theorem orderMembers_orderMembers (members : List (Utf16 × α)) :
    orderMembers (orderMembers members) = orderMembers members := by
  refine orderMembers_append ((pairwise_sortIndices _).imp of_decide_eq_true) ?_ ?_
  · intro m hm
    rw [List.mem_mergeSort, List.mem_filter] at hm
    exact Option.isSome_iff_ne_none.1 hm.2
  · intro m hm
    exact Option.isNone_iff_eq_none.1 (List.mem_filter.1 hm).2

/-! ## Values in order -/

/-- All objects of a value, however deep, have distinct names and their members in order. -/
inductive IsOrdered : Json → Prop where
  | null : IsOrdered .null
  | bool (value : Bool) : IsOrdered (.bool value)
  | number (value : Number.Decimal) : IsOrdered (.number value)
  | string (value : Utf16) : IsOrdered (.string value)
  | array {items : List Json} (hitems : ∀ item ∈ items, item.IsOrdered) : IsOrdered (.array items)
  | object {members : List (Utf16 × Json)} (nodup : (members.map Prod.fst).Nodup)
      (order : orderMembers members = members) (hmembers : ∀ m ∈ members, m.2.IsOrdered) :
      IsOrdered (.object members)

theorem isOrdered_ofMembers {pairs : List (Utf16 × Json)} (h : ∀ m ∈ pairs, m.2.IsOrdered) :
    (ofMembers pairs).IsOrdered :=
  .object (nodup_orderMembers (Table.ofList pairs).nodup) (orderMembers_orderMembers _)
    fun m hm => h m (Table.mem_of_mem_entries_ofList ((mem_orderMembers m _).1 hm))

/-- An object in order is what its members make. -/
theorem IsOrdered.ofMembers_eq {members : List (Utf16 × Json)}
    (h : (Json.object members).IsOrdered) : ofMembers members = Json.object members := by
  cases h with
  | object nodup order _ => rw [ofMembers, Table.entries_ofList nodup, order]

/-! ## Reading -/

/-- What is read with so many steps is in order. -/
structure ReadsOrdered (fuel : Nat) : Prop where
  value : ∀ {cs : List Char} {read : Json × List Char}, value? fuel cs = some read →
    read.1.IsOrdered
  items : ∀ {cs : List Char} {read : List Json × List Char}, items? fuel cs = some read →
    ∀ item ∈ read.1, item.IsOrdered
  members : ∀ {cs : List Char} {read : List (Utf16 × Json) × List Char},
    members? fuel cs = some read → ∀ m ∈ read.1, m.2.IsOrdered

theorem isOrdered_of_word? {word cs : List Char} {value : Json} {read : Json × List Char}
    (h : word? word value cs = some read) (hvalue : value.IsOrdered) : read.1.IsOrdered := by
  unfold word? at h
  split at h
  · cases h
    exact hvalue
  · cases h

theorem readsOrdered (fuel : Nat) : ReadsOrdered fuel := by
  induction fuel with
  | zero => exact ⟨nofun, nofun, nofun⟩
  | succ fuel ih =>
    refine ⟨fun {cs read} h => ?_, fun {cs read} h => ?_, fun {cs read} h => ?_⟩
    · rw [value?] at h
      split at h
      · cases h
      · obtain ⟨r, -, rfl⟩ := Option.map_eq_some_iff.1 h
        exact .string _
      · split at h
        · cases h
          exact .array nofun
        · obtain ⟨r, hr, rfl⟩ := Option.map_eq_some_iff.1 h
          exact .array (ih.items hr)
      · split at h
        · cases h
          exact .object List.nodup_nil (by simp [orderMembers]) nofun
        · obtain ⟨r, hr, rfl⟩ := Option.map_eq_some_iff.1 h
          exact isOrdered_ofMembers (ih.members hr)
      · exact isOrdered_of_word? h (.bool true)
      · exact isOrdered_of_word? h (.bool false)
      · exact isOrdered_of_word? h .null
      · obtain ⟨r, -, rfl⟩ := Option.map_eq_some_iff.1 h
        exact .number _
    · rw [items?] at h
      obtain ⟨⟨first, rest⟩, hfirst, h⟩ := Option.bind_eq_some_iff.1 h
      have hitem := ih.value hfirst
      dsimp only at h
      split at h
      · cases h
        exact List.forall_mem_singleton.2 hitem
      · obtain ⟨others, hothers, h⟩ := Option.bind_eq_some_iff.1 h
        cases h
        exact List.forall_mem_cons.2 ⟨hitem, ih.items hothers⟩
      · cases h
    · rw [members?] at h
      split at h
      · obtain ⟨⟨name, rest⟩, -, h⟩ := Option.bind_eq_some_iff.1 h
        dsimp only at h
        split at h
        · obtain ⟨⟨first, rest⟩, hfirst, h⟩ := Option.bind_eq_some_iff.1 h
          have hmember := ih.value hfirst
          dsimp only at h
          split at h
          · cases h
            exact List.forall_mem_singleton.2 hmember
          · obtain ⟨others, hothers, h⟩ := Option.bind_eq_some_iff.1 h
            cases h
            exact List.forall_mem_cons.2 ⟨hmember, ih.members hothers⟩
          · cases h
        · cases h
      · cases h

/-- The value of a text has all its objects in order. -/
theorem isOrdered_of_parse? {text : String} {value : Json} (h : parse? text = some value) :
    value.IsOrdered := by
  unfold parse? at h
  split at h
  · next found rest hread =>
    split at h
    · cases h
      exact (readsOrdered _).value hread
    · cases h
  · cases h

end PromptTemplate.Json

namespace PromptTemplate

theorem Disk.isOrdered_of_readJson {disk : Disk} {path : String} {value : Json}
    (h : disk.readJson path = .ok (some value)) : value.IsOrdered := by
  unfold readJson at h
  split at h
  · split at h
    · cases h
    · split at h
      · next found hparse =>
        cases h
        exact Json.isOrdered_of_parse? hparse
      · cases h
  · cases h

end PromptTemplate
