import PromptTemplate.ConfigFile
import PromptTemplate.Proofs.Text.Utf8
/-!
# Reading a file

A path that leads to a file reads as what stands in the file. The octets of a text are that text
again, so a file that was made from a JSON text reads as its value (`Disk.readJson_of_text`).
-/

namespace PromptTemplate.Disk

/-- The path leads to the place. -/
def LeadsTo (d : Disk) (path : String) (place : Place) : Prop :=
  ∃ entry, d.find path = .ok (place, entry)

theorem LeadsTo.pathExists {d : Disk} {path : String} {place : Place} (h : d.LeadsTo path place) :
    d.pathExists path = true := by
  obtain ⟨entry, hfind⟩ := h
  unfold Disk.pathExists
  rw [hfind]
  rfl

theorem readText_of_find {d : Disk} {path : String} {place : Place} {octets : List UInt8}
    {mode : Nat} (hfind : d.find path = .ok (place, .file octets mode)) :
    d.readText path = .ok (Text.decode octets) := by
  unfold readText read
  rw [hfind]
  rfl

theorem readJson_of_find {d : Disk} {path : String} {place : Place} {octets : List UInt8}
    {mode : Nat} {value : Json} (hfind : d.find path = .ok (place, .file octets mode))
    (hvalue : Json.parse? (Text.decode octets) = some value) :
    d.readJson path = .ok (some value) := by
  have hexists : d.pathExists path = true := LeadsTo.pathExists ⟨_, hfind⟩
  unfold readJson
  rw [if_pos hexists, readText_of_find hfind]
  dsimp only
  rw [hvalue]

theorem readJson_of_text {d : Disk} {path text : String} {place : Place} {mode : Nat} {value : Json}
    (hfind : d.find path = .ok (place, .file (Text.encode text) mode))
    (hvalue : Json.parse? text = some value) : d.readJson path = .ok (some value) :=
  readJson_of_find hfind (by rwa [Text.decode_encode])

/-- A disk that holds one file with the text. -/
def ofText (text : String) : Disk :=
  ⟨Table.ofList [(["d.json"], .file (Text.encode text) 0o644)], []⟩

theorem readJson_ofText {text : String} {value : Json} (h : Json.parse? text = some value) :
    (ofText text).readJson "d.json" = .ok (some value) := by
  have hfind : (ofText text).find "d.json" = .ok (["d.json"], .file (Text.encode text) 0o644) := rfl
  exact readJson_of_text hfind h

end PromptTemplate.Disk
