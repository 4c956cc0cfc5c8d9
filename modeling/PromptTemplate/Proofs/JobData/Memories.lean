import PromptTemplate.JobData
import PromptTemplate.Proofs.Number.Digits
import PromptTemplate.Proofs.Outcome
import PromptTemplate.Proofs.Text.Utf16
import PromptTemplate.Proofs.Validation.Result
/-!
# The two forms of a memory

An item of job data is a memory if it is written in either of two forms, its own or that of a stored
run (`Memory.checkEither_eq_ok_iff`). A memory's own form has the date as such, which is checked
against the form of a date. Of a stored run the date is a cut of its creation time.
-/

namespace PromptTemplate

/-! ## Dates -/

/-- Four digits, two and two, with dashes between. -/
def IsDateText (cs : List Char) : Prop :=
  ∃ year month day : List Char, cs = year ++ '-' :: (month ++ '-' :: day) ∧ year.length = 4 ∧
    month.length = 2 ∧ day.length = 2 ∧ ∀ c ∈ year ++ month ++ day, c.isDigit = true

/-- The text is a date and nothing else. -/
def Utf16.IsDate (t : Utf16) : Prop := ∃ cs, IsDateText cs ∧ t = ofChars cs

theorem isDateForm_iff (cs : List Char) : isDateForm cs = true ↔ IsDateText cs := by
  constructor
  · intro h
    unfold isDateForm at h
    split at h
    · next y y' y'' y''' m m' d d' =>
      rw [List.all_eq_true] at h
      exact ⟨[y, y', y'', y'''], [m, m'], [d, d'], rfl, rfl, rfl, rfl,
        fun c hc => (Number.isSome_digit?_iff c).1 (h c hc)⟩
    · cases h
  · rintro ⟨year, month, day, rfl, hyear, hmonth, hday, hdigits⟩
    match year, month, day, hyear, hmonth, hday, hdigits with
    | [y, y', y'', y'''], [m, m'], [d, d'], _, _, _, hdigits =>
      show [y, y', y'', y''', m, m', d, d'].all (fun c => (Number.digit? c).isSome) = true
      rw [List.all_eq_true]
      exact fun c hc => (Number.isSome_digit?_iff c).2 (hdigits c hc)

theorem IsDateText.replacement_not_mem {cs : List Char} (h : IsDateText cs) :
    Text.replacement ∉ cs := by
  obtain ⟨year, month, day, rfl, -, -, -, hdigits⟩ := h
  have hdash : Text.replacement ≠ '-' := by decide
  have hdigit : Text.replacement ∉ year ++ month ++ day := fun hmem =>
    absurd (hdigits _ hmem) (by decide)
  simp only [List.mem_append, List.mem_cons, not_or] at hdigit ⊢
  exact ⟨hdigit.1.1, hdash, hdigit.1.2, hdash, hdigit.2⟩

/-- The form of a date can be told from how a text is shown. -/
theorem isDateForm_text_iff (t : Utf16) : isDateForm t.text.toList = true ↔ t.IsDate := by
  rw [isDateForm_iff]
  constructor
  · intro h
    exact ⟨t.text.toList, h, (Utf16.toList_text_eq_iff h.replacement_not_mem).1 rfl⟩
  · rintro ⟨cs, hcs, ht⟩
    rwa [(Utf16.toList_text_eq_iff hcs.replacement_not_mem).2 ht]

instance (t : Utf16) : Decidable t.IsDate := decidable_of_iff _ (isDateForm_text_iff t)

/-! ## The two forms of a memory -/

/-- The text that an object has under a name. -/
def Json.textAt? (value : Json) (name : String) : Option Utf16 :=
  match value with
  | .object members =>
    match findEntry (name : Utf16) members with
    | some (.string text) => some text
    | _ => none
  | _ => none

theorem Json.textAt?_eq_some_iff {value : Json} {name : String} {text : Utf16} :
    value.textAt? name = some text ↔
      ∃ members, value = .object members ∧
        findEntry (name : Utf16) members = some (.string text) := by
  unfold textAt?
  split
  · next members =>
    split
    · next found hfound => simp [hfound]
    · next hnone => simpa using fun hfound => hnone text hfound
  · next hobject => simpa using fun members hvalue => absurd hvalue (hobject members)

theorem textMember_eq_ok_iff {check : Json → Checked Utf16} {P : Utf16 → Prop}
    (hcheck : ∀ value text, (check value).result = .ok text ↔ value = .string text ∧ P text)
    {name : String} {members : List (Utf16 × Json)} {text : Utf16} :
    (requiredMember check name members).result = .ok text ↔
      (Json.object members).textAt? name = some text ∧ P text := by
  simp [requiredMember_eq_ok_iff, Json.textAt?_eq_some_iff, hcheck]

theorem plainTextMember_eq_ok_iff {name : String} {members : List (Utf16 × Json)} {text : Utf16} :
    (requiredMember checkText name members).result = .ok text ↔
      (Json.object members).textAt? name = some text := by
  simp [requiredMember_eq_ok_iff, Json.textAt?_eq_some_iff, checkText_eq_ok_iff]

theorem checkDate_eq_ok_iff (value : Json) (text : Utf16) :
    (checkDate value).result = .ok text ↔ value = .string text ∧ text.IsDate := by
  cases value with
  | string found =>
    unfold checkDate
    rw [Checked.result_ite_addIssue_eq_ok_iff, isDateForm_text_iff, Json.string.injEq]
    exact ⟨fun h => ⟨h.1, h.1 ▸ h.2⟩, fun h => ⟨h.1, h.1 ▸ h.2⟩⟩
  | _ => simp [checkDate, checkText_eq_ok_iff]

theorem checkCreation_eq_ok_iff (value : Json) (text : Utf16) :
    (checkCreation value).result = .ok text ↔ value = .string text ∧ dateUnits ≤ text.size := by
  cases value with
  | string found =>
    unfold checkCreation
    rw [Checked.result_ite_addIssue_eq_ok_iff, Json.string.injEq]
    exact ⟨fun h => ⟨h.1, h.1 ▸ h.2⟩, fun h => ⟨h.1, h.1 ▸ h.2⟩⟩
  | _ => simp [checkCreation, checkText_eq_ok_iff]

theorem settled_checkDate (value : Json) : (checkDate value).Settled := by
  unfold checkDate
  split
  · split
    · exact Checked.settled_ok _
    · exact Checked.settled_addIssue _ _
  · exact settled_checkText _

theorem settled_checkCreation (value : Json) : (checkCreation value).Settled := by
  unfold checkCreation
  split
  · split
    · exact Checked.settled_ok _
    · exact Checked.settled_addIssue _ _
  · exact settled_checkText _

namespace Memory

/-- The value is the memory in its own form. -/
structure IsOwnForm (value : Json) (memory : Memory) : Prop where
  date : value.textAt? "date" = some memory.date
  isDate : memory.date.IsDate
  datetime : value.textAt? "datetime" = some memory.datetime
  result : value.textAt? "result" = some memory.result

/-- The value is a stored run with a creation time that is long enough for a date. -/
structure IsRunForm (value : Json) (run created : Utf16) : Prop where
  result : value.textAt? "result" = some run
  createdAt : value.textAt? "createdAt" = some created
  long : dateUnits ≤ created.size

theorem check_eq_ok_iff {value : Json} {memory : Memory} :
    (check value).result = .ok memory ↔ IsOwnForm value memory := by
  unfold check
  simp only [checkObject_eq_ok_iff, Checked.result_seq_eq_ok_iff, Checked.result_map_eq_ok_iff,
    textMember_eq_ok_iff checkDate_eq_ok_iff, plainTextMember_eq_ok_iff]
  constructor
  · rintro ⟨members, rfl, _, result, ⟨_, datetime, ⟨date, hdate, rfl⟩, hdatetime, rfl⟩, hresult,
      rfl⟩
    exact ⟨hdate.1, hdate.2, hdatetime, hresult⟩
  · intro h
    obtain ⟨members, rfl, -⟩ := Json.textAt?_eq_some_iff.1 h.date
    exact ⟨members, rfl, _, _, ⟨_, _, ⟨_, ⟨h.date, h.isDate⟩, rfl⟩, h.datetime, rfl⟩, h.result, rfl⟩

theorem checkRun_eq_ok_iff {value : Json} {memory : Memory} :
    (checkRun value).result = .ok memory ↔
      ∃ run created, IsRunForm value run created ∧ memory = ofRun run created := by
  unfold checkRun
  simp only [Checked.result_strict_eq_ok_iff, checkObject_eq_ok_iff, Checked.result_seq_eq_ok_iff,
    Checked.result_map_eq_ok_iff, textMember_eq_ok_iff checkCreation_eq_ok_iff,
    plainTextMember_eq_ok_iff]
  constructor
  · rintro ⟨members, rfl, _, created, ⟨run, hrun, rfl⟩, hcreated, rfl⟩
    exact ⟨run, created, ⟨hrun, hcreated.1, hcreated.2⟩, rfl⟩
  · rintro ⟨run, created, h, rfl⟩
    obtain ⟨members, rfl, -⟩ := Json.textAt?_eq_some_iff.1 h.result
    exact ⟨members, rfl, _, created, ⟨run, h.result, rfl⟩, ⟨h.createdAt, h.long⟩, rfl⟩

theorem settled_check (value : Json) : (check value).Settled := by
  refine settled_checkObject (fun members => ?_) value
  have htext (name : String) := settled_requiredMember settled_checkText name members
  have hdate := settled_requiredMember settled_checkDate "date" members
  exact ((hdate.map _).seq (htext "datetime")).seq (htext "result")

theorem settled_checkRun (value : Json) : (checkRun value).Settled := by
  refine (settled_checkObject (fun members => ?_) value).strict
  have hresult := settled_requiredMember settled_checkText "result" members
  exact (hresult.map _).seq (settled_requiredMember settled_checkCreation "createdAt" members)

theorem settled_checkEither (value : Json) : (checkEither value).Settled :=
  (settled_check value).orElse (settled_checkRun value) _

/-- An item counts as a stored run only if it is no memory in its own form. -/
theorem checkEither_eq_ok_iff {value : Json} {memory : Memory} :
    (checkEither value).result = .ok memory ↔ IsOwnForm value memory ∨
      (∀ other, ¬ IsOwnForm value other) ∧
        ∃ run created, IsRunForm value run created ∧ memory = ofRun run created := by
  rw [checkEither, (settled_check value).result_orElse_eq_ok_iff, check_eq_ok_iff,
    checkRun_eq_ok_iff]
  simp only [Ne, check_eq_ok_iff]

end Memory

end PromptTemplate
