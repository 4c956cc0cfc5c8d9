import PromptTemplate.Proofs.Outcome
import PromptTemplate.Template
/-!
# Reading a template file

The three ways of reading a template file: nothing is there, the extension is not that of a
template, or the file is read and its text with it.
-/

namespace PromptTemplate.Template

variable {disk : Disk} {path filename : String}

theorem read_of_not_pathExists (h : disk.pathExists path = false) (filename : String) :
    read disk path filename = .error (.load ⟨path, .notFound⟩) := by
  unfold read
  rw [h]
  rfl

theorem read_of_not_hasExtension (h : disk.pathExists path = true)
    (hextension : hasExtension filename = false) :
    read disk path filename = .error
      (.load ⟨path, .unsupportedExtension (String.ofList (extensionOf filename))⟩) := by
  unfold read
  rw [h, hextension]
  rfl

theorem read_of_pathExists (h : disk.pathExists path = true)
    (hextension : hasExtension filename = true) :
    read disk path filename = (do
      let source ← (disk.readText path).mapError Failure.file
      (ofText filename source).mapError .template) := by
  unfold read
  rw [h, hextension]
  rfl

/-- A template that was read has the text that stands in its file. -/
theorem source_of_read {t : Template} (h : read disk path filename = .ok t) :
    disk.readText path = .ok t.source ∧ tokenize t.source = .ok t.tokens := by
  cases hexists : disk.pathExists path with
  | false =>
    rw [read_of_not_pathExists hexists] at h
    cases h
  | true =>
    cases hextension : hasExtension filename with
    | false =>
      rw [read_of_not_hasExtension hexists hextension] at h
      cases h
    | true =>
      rw [read_of_pathExists hexists hextension] at h
      obtain ⟨source, hsource, htemplate⟩ := exists_of_bind_eq_ok h
      obtain ⟨rfl, htokens⟩ := tokens_of_ofText (eq_ok_of_mapError htemplate)
      exact ⟨eq_ok_of_mapError hsource, htokens⟩

end PromptTemplate.Template
