/-!
# Tables

A table binds each key at most once and remembers the order in which keys came. Binding a key
again replaces its value and keeps its place. That no key is bound twice is part of the type, so
every table that a program can build has it.

The view of a table is `get?`; `get?_insert`, `get?_erase` and `get?_empty` say what each operation
does to it, and `keys` is the list of bound keys in order.
-/

namespace PromptTemplate

/-- Bind `k` to `v`: in place if `k` is bound, at the end otherwise. -/
def bindEntry {κ α : Type} [DecidableEq κ] (k : κ) (v : α) : List (κ × α) → List (κ × α)
  | [] => [(k, v)]
  | (k', v') :: rest => if k' = k then (k, v) :: rest else (k', v') :: bindEntry k v rest

/-- The first value bound to `k`. -/
def findEntry {κ α : Type} [DecidableEq κ] (k : κ) : List (κ × α) → Option α
  | [] => none
  | (k', v') :: rest => if k' = k then some v' else findEntry k rest

section entries

variable {κ α : Type} [DecidableEq κ]

theorem mem_keys_bindEntry {k k' : κ} {v : α} {entries : List (κ × α)} :
    k' ∈ (bindEntry k v entries).map Prod.fst ↔ k' = k ∨ k' ∈ entries.map Prod.fst := by
  induction entries with
  | nil => simp [bindEntry]
  | cons e rest ih =>
    obtain ⟨k₀, v₀⟩ := e
    by_cases h : k₀ = k
    · simp [bindEntry, h]
    · simp only [bindEntry, h, if_false, List.map_cons, List.mem_cons, ih]
      constructor <;> rintro (h | h | h) <;> simp [h]

theorem nodup_keys_bindEntry {k : κ} {v : α} {entries : List (κ × α)}
    (h : (entries.map Prod.fst).Nodup) : ((bindEntry k v entries).map Prod.fst).Nodup := by
  induction entries with
  | nil => simp [bindEntry]
  | cons e rest ih =>
    obtain ⟨k₀, v₀⟩ := e
    simp only [List.map_cons, List.nodup_cons] at h
    by_cases hk : k₀ = k
    · simp only [bindEntry, hk, if_true, List.map_cons, List.nodup_cons]
      exact ⟨hk ▸ h.1, h.2⟩
    · simp only [bindEntry, hk, if_false, List.map_cons, List.nodup_cons]
      refine ⟨fun hm => ?_, ih h.2⟩
      rcases mem_keys_bindEntry.1 hm with h' | h'
      · exact hk h'
      · exact h.1 h'

theorem findEntry_bindEntry (k k' : κ) (v : α) (entries : List (κ × α)) :
    findEntry k' (bindEntry k v entries) = if k' = k then some v else findEntry k' entries := by
  induction entries with
  | nil => grind [bindEntry, findEntry]
  | cons e rest ih => grind [bindEntry, findEntry]

theorem bindEntry_bindEntry (k : κ) (v w : α) (entries : List (κ × α)) :
    bindEntry k w (bindEntry k v entries) = bindEntry k w entries := by
  induction entries with
  | nil => simp [bindEntry]
  | cons e rest ih =>
    by_cases hk : e.1 = k
    · simp [bindEntry, hk]
    · simp [bindEntry, hk, ih]

theorem bindEntry_map {β : Type} (f : α → β) (k : κ) (v : α) (entries : List (κ × α)) :
    (bindEntry k v entries).map (fun e => (e.1, f e.2)) =
      bindEntry k (f v) (entries.map fun e => (e.1, f e.2)) := by
  induction entries with
  | nil => rfl
  | cons e rest ih =>
    by_cases hk : e.1 = k
    · simp [bindEntry, hk]
    · simp [bindEntry, hk, ih]

theorem findEntry_map {β : Type} (f : α → β) (k : κ) (entries : List (κ × α)) :
    findEntry k (entries.map fun e => (e.1, f e.2)) = (findEntry k entries).map f := by
  induction entries with
  | nil => rfl
  | cons e rest ih =>
    by_cases hk : e.1 = k
    · simp [findEntry, hk]
    · simp [findEntry, hk, ih]

theorem findEntry_eq_none_iff (k : κ) (entries : List (κ × α)) :
    findEntry k entries = none ↔ k ∉ entries.map Prod.fst := by
  induction entries with
  | nil => simp [findEntry]
  | cons e rest ih => grind [findEntry]

theorem findEntry_filter_ne (k k' : κ) (entries : List (κ × α)) :
    findEntry k' (entries.filter fun e => e.1 ≠ k) =
      if k' = k then none else findEntry k' entries := by
  induction entries with
  | nil => simp [findEntry]
  | cons e rest ih => grind [findEntry]

end entries

/-- An insertion-ordered table of values by key. -/
structure Table (κ α : Type) where
  entries : List (κ × α)
  nodup : (entries.map Prod.fst).Nodup

namespace Table

variable {κ α β : Type}

/-- The table without entries. -/
def empty : Table κ α := ⟨[], by simp⟩

instance : Inhabited (Table κ α) := ⟨empty⟩

instance [DecidableEq κ] [DecidableEq α] : DecidableEq (Table κ α) := fun a b =>
  decidable_of_iff (a.entries = b.entries) (by cases a; cases b; simp)

instance [Repr κ] [Repr α] : Repr (Table κ α) := ⟨fun t n => reprPrec t.entries n⟩

/-- The bound keys in order. -/
def keys (t : Table κ α) : List κ := t.entries.map Prod.fst

theorem keys_nodup (t : Table κ α) : t.keys.Nodup := t.nodup

/-- How many keys are bound. -/
def size (t : Table κ α) : Nat := t.entries.length

/-- The same keys with changed values. -/
def map (f : α → β) (t : Table κ α) : Table κ β :=
  ⟨t.entries.map fun e => (e.1, f e.2), by
    have h : (t.entries.map fun e => (e.1, f e.2)).map Prod.fst = t.entries.map Prod.fst := by
      simp [List.map_map, Function.comp_def]
    rw [h]
    exact t.nodup⟩

variable [DecidableEq κ]

/-- The value bound to a key. -/
def get? (t : Table κ α) (k : κ) : Option α := findEntry k t.entries

/-- The key is bound. -/
def contains (t : Table κ α) (k : κ) : Bool := (t.get? k).isSome

/-- Bind a key. -/
def insert (t : Table κ α) (k : κ) (v : α) : Table κ α :=
  ⟨bindEntry k v t.entries, nodup_keys_bindEntry t.nodup⟩

/-- Unbind a key. -/
def erase (t : Table κ α) (k : κ) : Table κ α :=
  ⟨t.entries.filter fun e => e.1 ≠ k, t.nodup.sublist (List.filter_sublist.map _)⟩

/-- Bind the keys of `pairs` in order; a later pair replaces an earlier one. -/
def insertAll (t : Table κ α) (pairs : List (κ × α)) : Table κ α :=
  pairs.foldl (fun t e => t.insert e.1 e.2) t

/-- The table of a list of pairs. -/
def ofList (pairs : List (κ × α)) : Table κ α := empty.insertAll pairs

/-! ## Facts -/

@[simp] theorem get?_empty (k : κ) : (empty : Table κ α).get? k = none := rfl

theorem get?_insert (t : Table κ α) (k k' : κ) (v : α) :
    (t.insert k v).get? k' = if k' = k then some v else t.get? k' :=
  findEntry_bindEntry k k' v t.entries

@[simp] theorem get?_insert_self (t : Table κ α) (k : κ) (v : α) :
    (t.insert k v).get? k = some v := by simp [get?_insert]

theorem get?_insert_of_ne (t : Table κ α) {k k' : κ} (v : α) (h : k' ≠ k) :
    (t.insert k v).get? k' = t.get? k' := by simp [get?_insert, h]

theorem get?_erase (t : Table κ α) (k k' : κ) :
    (t.erase k).get? k' = if k' = k then none else t.get? k' :=
  findEntry_filter_ne k k' t.entries

theorem get?_eq_none_iff (t : Table κ α) (k : κ) : t.get? k = none ↔ k ∉ t.keys :=
  findEntry_eq_none_iff k t.entries

theorem insert_insert (t : Table κ α) (k : κ) (v w : α) :
    (t.insert k v).insert k w = t.insert k w := by
  unfold insert
  simp only [bindEntry_bindEntry]

theorem insertAll_cons (t : Table κ α) (pair : κ × α) (pairs : List (κ × α)) :
    t.insertAll (pair :: pairs) = (t.insert pair.1 pair.2).insertAll pairs := rfl

/-- The last of several pairs with one key counts. -/
theorem get?_insertAll (t : Table κ α) (pairs : List (κ × α)) (k : κ) :
    (t.insertAll pairs).get? k = (pairs.reverse.lookup k).or (t.get? k) := by
  induction pairs generalizing t with
  | nil => rfl
  | cons pair pairs ih =>
    obtain ⟨key, value⟩ := pair
    have hlast : ([(key, value)].lookup k).or (t.get? k) = (t.insert key value).get? k := by
      rw [get?_insert, List.lookup_cons]
      by_cases h : k = key
      · simp [h]
      · simp [h, beq_eq_false_iff_ne.2 h]
    rw [insertAll_cons, ih, List.reverse_cons, List.lookup_append, Option.or_assoc, hlast]

theorem get?_ofList (pairs : List (κ × α)) (k : κ) :
    (ofList pairs).get? k = pairs.reverse.lookup k := by
  rw [ofList, get?_insertAll, get?_empty, Option.or_none]

theorem get?_map (f : α → β) (t : Table κ α) (k : κ) : (t.map f).get? k = (t.get? k).map f :=
  findEntry_map f k t.entries

theorem map_insert (f : α → β) (t : Table κ α) (k : κ) (v : α) :
    (t.insert k v).map f = (t.map f).insert k (f v) := by
  unfold insert map
  simp only [bindEntry_map]

omit [DecidableEq κ] in
@[simp] theorem keys_map (f : α → β) (t : Table κ α) : (t.map f).keys = t.keys := by
  simp [map, keys, Function.comp_def]

omit [DecidableEq κ] in
@[simp] theorem size_map (f : α → β) (t : Table κ α) : (t.map f).size = t.size := by
  simp [map, size]

end Table

end PromptTemplate
