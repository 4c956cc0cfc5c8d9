import PromptTemplate.ConfigFile
import PromptTemplate.Dictionary
/-!
# Dictionary files

A dictionary file is an object of sections, each an object of texts. A file that is not there is a
dictionary without sections.
-/

namespace PromptTemplate.Dictionary

/-- The wording for a section that is no object. -/
def sectionFault : String := "dictionary sections must be objects"

/-- The wording for a value that is no text. -/
def valueFault : String := "dictionary values must be strings"

/-- One section: its keys and texts. -/
def checkSection (value : Json) : Checked (List (Utf16 × Utf16)) :=
  checkObjectOr (fun _ => ⟨[], sectionFault, "invalid_type"⟩)
    (checkMembers (checkTextOr valueFault)) value

/-- The sections of a dictionary. -/
def check (value : Json) : Checked (List (Utf16 × List (Utf16 × Utf16))) :=
  checkObject (checkMembers checkSection) value

/-- The dictionary in the file at a path. -/
def load (disk : Disk) (path : String) : Except Failure Dictionary := do
  match ← disk.readJson path with
  | none => .ok empty
  | some data => .ok (ofEntries (← (validate check path [] data).mapError .config))

end PromptTemplate.Dictionary
