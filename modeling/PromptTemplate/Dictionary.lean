import PromptTemplate.Table
import PromptTemplate.Text.Utf16
/-!
# Dictionaries

A dictionary holds texts by section and key. Of a name that is given twice, the last counts.
-/

namespace PromptTemplate

/-- Texts by section and key. -/
structure Dictionary where
  sections : Table Utf16 (Table Utf16 Utf16)
  deriving Repr, DecidableEq

namespace Dictionary

/-- The dictionary without sections. -/
def empty : Dictionary := ⟨Table.empty⟩

/-- The text at a section and key. -/
def get? (d : Dictionary) (name key : Utf16) : Option Utf16 :=
  (d.sections.get? name).bind (·.get? key)

/-- Set the text at a section and key; the section is made if need be. -/
def set (d : Dictionary) (name key value : Utf16) : Dictionary :=
  ⟨d.sections.insert name (((d.sections.get? name).getD Table.empty).insert key value)⟩

/-- The section exists, with or without keys. -/
def hasSection (d : Dictionary) (name : Utf16) : Bool := d.sections.contains name

/-- The dictionary of sections and their entries; of repeated names the last counts. -/
def ofEntries (entries : List (Utf16 × List (Utf16 × Utf16))) : Dictionary :=
  ⟨Table.ofList (entries.map fun e => (e.1, Table.ofList e.2))⟩

/-- The sections in ascending order. -/
def sectionNames (d : Dictionary) : List Utf16 := Utf16.sort d.sections.keys

/-! ## Facts -/

@[simp] theorem get?_empty (name key : Utf16) : empty.get? name key = none := rfl

theorem get?_set (d : Dictionary) (name key value name' key' : Utf16) :
    (d.set name key value).get? name' key' =
      if name' = name ∧ key' = key then some value else d.get? name' key' := by
  unfold get? set
  by_cases hn : name' = name
  · subst hn
    by_cases hk : key' = key
    · simp [hk]
    · cases h : d.sections.get? name' <;> simp [Table.get?_insert, hk]
  · simp [Table.get?_insert, hn]

end Dictionary

end PromptTemplate
