import PromptTemplate.Proofs.Dictionary.Lookup
import PromptTemplate.Proofs.Secret.Alike
/-!
# Loading secrets

A secrets file is read entry by entry. An object whose fields are texts, where they are there, is a
secret; what is no object is passed over with a log entry. Entries of these two kinds only add to
the log and to the secrets (`Secrets.ofMembers_append`), and the first entry of any other kind ends
the loading with its own faults, so that nothing is loaded at all (`Secrets.load_eq_of_members`).
-/

namespace PromptTemplate

open Json (orderMembers)

/-! ## The fields of a secret -/

namespace Secret

/-- The fields of a secret, in the order in which they are checked. -/
def fieldNames : List String := ["key", "header", "match"]

/-- Every field that is there is a text. -/
def HasTexts (fields : List (Utf16 × Json)) : Prop :=
  ∀ field ∈ fieldNames, IsTextOrAbsent field fields

/-- The fault of a field that is there and is no text. -/
def fieldFaults (fields : List (Utf16 × Json)) (field : String) : List Issue :=
  match findEntry (field : Utf16) fields with
  | none => []
  | some (.string _) => []
  | some value => [⟨[.name field], "Expected string, received " ++ value.typeName, "invalid_type"⟩]

/-- The faults of the fields of an entry, field by field. -/
def faults (name : Utf16) (fields : List (Utf16 × Json)) : List Issue :=
  (fieldNames.flatMap (fieldFaults fields)).map (Issue.under [.name name])

/-- The text of a field, or the text that stands for it where it is missing. -/
def fieldText (default : Utf16) (field : String) (fields : List (Utf16 × Json)) : Utf16 :=
  match findEntry (field : Utf16) fields with
  | some (.string text) => text
  | _ => default

/-- The secret of fields, any others left aside. -/
def ofFields (fields : List (Utf16 × Json)) : Secret where
  key := fieldText "" "key" fields
  header := fieldText "bearer" "header" fields
  matchUrl := fieldText "" "match" fields

variable {fields : List (Utf16 × Json)}

theorem fieldFaults_eq_nil_iff {field : String} :
    fieldFaults fields field = [] ↔ IsTextOrAbsent field fields := by
  unfold fieldFaults IsTextOrAbsent
  cases findEntry (field : Utf16) fields with
  | none => simp
  | some value => cases value <;> simp

theorem faults_eq_nil_iff (name : Utf16) : faults name fields = [] ↔ HasTexts fields := by
  unfold faults HasTexts
  rw [List.map_eq_nil_iff, List.flatMap_eq_nil_iff]
  simp only [fieldFaults_eq_nil_iff]

instance : DecidablePred HasTexts := fun _ => decidable_of_iff _ (faults_eq_nil_iff "")

theorem issues_defaultMember (default : Utf16) (field : String) :
    (defaultMember checkText default field fields).issues = fieldFaults fields field := by
  unfold fieldFaults defaultMember optionalMember
  cases findEntry (field : Utf16) fields with
  | none => rfl
  | some value => cases value <;> rfl

theorem result_defaultMember (default : Utf16) {field : String} (h : IsTextOrAbsent field fields) :
    (defaultMember checkText default field fields).result =
      .ok (fieldText default field fields) := by
  rw [defaultMember_eq_ok_iff]
  unfold fieldText
  cases hfind : findEntry (field : Utf16) fields with
  | none => rfl
  | some value =>
    obtain ⟨text, rfl⟩ := h value hfind
    rfl

theorem issues_check_object :
    (check (.object fields)).issues = fieldNames.flatMap (fieldFaults fields) := by
  show (Secret.mk <$> defaultMember checkText _ "key" fields
    <*> defaultMember checkText _ "header" fields
    <*> defaultMember checkText _ "match" fields).issues = _
  simp only [Checked.issues_seq, Checked.issues_map, issues_defaultMember, fieldNames,
    List.flatMap_cons, List.flatMap_nil, List.append_nil, List.append_assoc]

theorem result_check_object (h : HasTexts fields) :
    (check (.object fields)).result = .ok (ofFields fields) := by
  have htext {field : String} (hfield : field ∈ fieldNames) (default : Utf16) :=
    result_defaultMember default (h field hfield)
  refine checkObject_eq_ok_iff.2 ⟨fields, rfl, ?_⟩
  refine Checked.result_seq_eq_ok_iff.2 ⟨_, _, ?_, htext (by decide) _, rfl⟩
  refine Checked.result_seq_eq_ok_iff.2 ⟨_, _, ?_, htext (by decide) _, rfl⟩
  exact Checked.result_map_eq_ok_iff.2 ⟨_, htext (by decide) _, rfl⟩

theorem validate_check_of_hasTexts (h : HasTexts fields) (path : String) (name : Utf16) :
    validate check path [.name name] (.object fields) = .ok (ofFields fields) :=
  validate_eq_ok_iff.2 (result_check_object h)

theorem validate_check_of_not_hasTexts (h : ¬ HasTexts fields) (path : String) (name : Utf16) :
    validate check path [.name name] (.object fields) =
      .error { path, issues := faults name fields } := by
  have hissues : (check (.object fields)).issues ≠ [] := by
    rw [issues_check_object]
    intro hnil
    refine h ((faults_eq_nil_iff name).1 ?_)
    rw [faults, hnil, List.map_nil]
  rw [validate_eq_error fun value hvalue => hissues (Checked.result_eq_ok_iff.1 hvalue).1,
    issues_check_object]
  rfl

end Secret

/-! ## The mode of the file -/

/-- The file at a path that holds a JSON value has a mode. -/
theorem Disk.exists_mode?_of_readJson {disk : Disk} {path : String} {data : Json}
    (h : disk.readJson path = .ok (some data)) : ∃ mode, disk.mode? path = some mode := by
  unfold readJson pathExists readText read at h
  unfold mode?
  cases hfind : disk.find path with
  | error fault =>
    rw [hfind] at h
    cases h
  | ok found =>
    obtain ⟨place, entry⟩ := found
    rw [hfind] at h
    cases entry with
    | file octets mode => exact ⟨mode, rfl⟩
    | directory => cases h

theorem Logged.bind_mk_ok {α β : Type} (log : List LogEntry) (value : α) (next : α → Logged β) :
    bind ⟨log, .ok value⟩ next = ⟨log ++ (next value).log, (next value).result⟩ := rfl

namespace Secrets

/-- The group or others may use the file in some way: one of the six lowest bits is set. -/
def IsShared (mode : Nat) : Prop := ∃ bit < 6, mode.testBit bit = true

instance (mode : Nat) : Decidable (IsShared mode) :=
  inferInstanceAs (Decidable (∃ bit < 6, mode.testBit bit = true))

theorem and_sharedBits_eq_zero_iff (mode : Nat) : mode &&& sharedBits = 0 ↔ ¬ IsShared mode := by
  have hbit (bit : Nat) : (mode &&& sharedBits).testBit bit =
      (mode.testBit bit && decide (bit < 6)) := by
    rw [Nat.testBit_and, show sharedBits = 2 ^ 6 - 1 from rfl, Nat.testBit_two_pow_sub_one]
  unfold IsShared
  constructor
  · rintro hzero ⟨bit, hlt, hset⟩
    have := hbit bit
    rw [hzero, Nat.zero_testBit, hset, decide_eq_true hlt] at this
    cases this
  · intro hnone
    refine Nat.eq_of_testBit_eq fun bit => ?_
    rw [hbit, Nat.zero_testBit, Bool.and_eq_false_iff, decide_eq_false_iff_not]
    by_cases hlt : bit < 6
    · exact .inl (Bool.eq_false_iff.2 fun hset => hnone ⟨bit, hlt, hset⟩)
    · exact .inr hlt

/-- The warning about a file that the group or others may use. -/
def warnings (path : String) (mode : Nat) : List LogEntry :=
  if IsShared mode then [modeEntry path (mode &&& rightsBits)] else []

theorem warnIfShared_eq {disk : Disk} {path : String} {mode : Nat}
    (h : disk.mode? path = some mode) : warnIfShared disk path = ⟨warnings path mode, .ok ()⟩ := by
  unfold warnIfShared warnings
  rw [h]
  dsimp only
  by_cases hshared : IsShared mode
  · rw [if_neg (by rwa [and_sharedBits_eq_zero_iff, not_not]), if_pos hshared]
    rfl
  · rw [if_pos ((and_sharedBits_eq_zero_iff mode).2 hshared), if_neg hshared]
    rfl

/-! ## Entries -/

/-- The entry is no object, or an object whose fields are texts where they are there. -/
def IsSound (m : Utf16 × Json) : Prop := ∀ fields, m.2 = .object fields → Secret.HasTexts fields

instance : DecidablePred IsSound
  | (_, .object fields) => decidable_of_iff (Secret.HasTexts fields) (by simp [IsSound])
  | (_, .null) | (_, .bool _) | (_, .number _) | (_, .string _) | (_, .array _) => .isTrue nofun

/-- The secrets of the entries that are objects, under their names. -/
def ofObjects (members : List (Utf16 × Json)) : List (Utf16 × Secret) :=
  members.filterMap fun m =>
    match m.2 with
    | .object fields => some (m.1, Secret.ofFields fields)
    | _ => none

/-- The names of the entries that are no objects. -/
def skippedNames (members : List (Utf16 × Json)) : List Utf16 :=
  members.filterMap fun m =>
    match m.2 with
    | .object _ => none
    | _ => some m.1

/-- What is logged for the entries that are no objects. -/
def skips (members : List (Utf16 × Json)) : List LogEntry := (skippedNames members).map skippedEntry

variable {path : String} {secrets : Secrets} {name : Utf16}

/-- A sound entry is added or passed over. -/
theorem addMember_of_isSound {value : Json} (h : IsSound (name, value)) (path : String)
    (secrets : Secrets) :
    addMember path secrets name value =
      ⟨skips [(name, value)], .ok (secrets.insertAll (ofObjects [(name, value)]))⟩ := by
  cases value with
  | object fields =>
    unfold addMember
    dsimp only
    rw [Secret.validate_check_of_hasTexts (h fields rfl)]
    rfl
  | _ => rfl

/-- Any other entry fails with its faults. -/
theorem addMember_of_not_hasTexts {fields : List (Utf16 × Json)} (h : ¬ Secret.HasTexts fields)
    (path : String) (secrets : Secrets) (name : Utf16) :
    addMember path secrets name (.object fields) =
      .fail (.config { path, issues := Secret.faults name fields }) := by
  unfold addMember
  dsimp only
  rw [Secret.validate_check_of_not_hasTexts h]
  rfl

theorem ofObjects_cons (m : Utf16 × Json) (members : List (Utf16 × Json)) :
    ofObjects (m :: members) = ofObjects [m] ++ ofObjects members :=
  List.filterMap_append (l := [m])

theorem skips_cons (m : Utf16 × Json) (members : List (Utf16 × Json)) :
    skips (m :: members) = skips [m] ++ skips members := by
  unfold skips skippedNames
  rw [← List.map_append, ← List.filterMap_append, List.singleton_append]

/-- Sound entries add to the log and to the secrets, and loading goes on behind them. -/
theorem ofMembers_append {before : List (Utf16 × Json)} (h : ∀ m ∈ before, IsSound m)
    (path : String) (secrets : Secrets) (after : List (Utf16 × Json)) :
    ofMembers path secrets (before ++ after) =
      Logged.bind ⟨skips before, .ok (secrets.insertAll (ofObjects before))⟩
        fun secrets => ofMembers path secrets after := by
  induction before generalizing secrets with
  | nil => rfl
  | cons m before ih =>
    obtain ⟨name, value⟩ := m
    rw [List.forall_mem_cons] at h
    rw [List.cons_append, ofMembers_cons, addMember_of_isSound h.1, Logged.bind_eq,
      Logged.bind_mk_ok, ih h.2, ofObjects_cons (name, value) before,
      skips_cons (name, value) before, Table.insertAll_append, Logged.bind_mk_ok,
      Logged.bind_mk_ok, List.append_assoc]

/-! ## The file -/

section

variable {disk : Disk} {members : List (Utf16 × Json)} {mode : Nat}
  (hread : disk.readJson path = .ok (some (.object members)))
  (hlost : lostName ∉ members.map Prod.fst) (hmode : disk.mode? path = some mode)

include hread hlost hmode

theorem load_eq_bind :
    load disk path = Logged.bind ⟨warnings path mode, .ok ()⟩
      fun _ => ofMembers path Table.empty members := by
  have hall : members.filter (fun m => m.1 ≠ lostName) = members :=
    List.filter_eq_self.2 fun m hm =>
      decide_eq_true fun hname => hlost (List.mem_map.2 ⟨m, hm, hname⟩)
  rw [load_of_readJson hread, warnIfShared_eq hmode]
  exact congrArg (fun kept => Logged.bind _ fun _ => ofMembers path Table.empty kept) hall

/-- The first entry that is not sound is all that comes of the file. -/
theorem load_of_fault {before after : List (Utf16 × Json)} {name : Utf16}
    {fields : List (Utf16 × Json)} (hmembers : members = before ++ (name, .object fields) :: after)
    (hbefore : ∀ m ∈ before, IsSound m) (hfields : ¬ Secret.HasTexts fields) :
    load disk path = ⟨warnings path mode ++ skips before,
      .error (.config { path, issues := Secret.faults name fields })⟩ := by
  have hfails (secrets : Secrets) : ofMembers path secrets ((name, .object fields) :: after) =
      .fail (.config { path, issues := Secret.faults name fields }) := by
    rw [ofMembers_cons, addMember_of_not_hasTexts hfields]
    rfl
  rw [load_eq_bind hread hlost hmode, hmembers, ofMembers_append hbefore, Logged.bind_mk_ok,
    Logged.bind_mk_ok, hfails, Logged.fail, List.append_nil]

/-- Where every entry is sound there is a secret for each object. -/
theorem load_of_isSound (hmembers : ∀ m ∈ members, IsSound m) :
    load disk path = ⟨warnings path mode ++ skips members,
      .ok (Table.ofList (ofObjects members))⟩ := by
  have happend := ofMembers_append hmembers path Table.empty []
  rw [List.append_nil] at happend
  rw [load_eq_bind hread hlost hmode, happend, Logged.bind_mk_ok, Logged.bind_mk_ok, ofMembers,
    Logged.pure_eq_ok, Logged.ok, List.append_nil]
  rfl

end

theorem names_ofObjects_sublist (members : List (Utf16 × Json)) :
    ((ofObjects members).map Prod.fst).Sublist (members.map Prod.fst) := by
  induction members with
  | nil => exact List.Sublist.slnil
  | cons m members ih =>
    obtain ⟨name, value⟩ := m
    cases value with
    | object fields => exact ih.cons_cons name
    | _ => exact ih.cons name

/-- The entries are sound, or one of those that are not is the first. -/
theorem forall_isSound_or_exists_first (members : List (Utf16 × Json)) :
    (∀ m ∈ members, IsSound m) ∨
      ∃ before name fields after, members = before ++ (name, .object fields) :: after ∧
        (∀ m ∈ before, IsSound m) ∧ ¬ Secret.HasTexts fields := by
  induction members with
  | nil => exact .inl (List.forall_mem_nil _)
  | cons m members ih =>
    by_cases hm : IsSound m
    · rcases ih with hall | ⟨before, name, fields, after, rfl, hbefore, hfields⟩
      · exact .inl (List.forall_mem_cons.2 ⟨hm, hall⟩)
      · exact .inr ⟨m :: before, name, fields, after, rfl, List.forall_mem_cons.2 ⟨hm, hbefore⟩,
          hfields⟩
    · obtain ⟨name, value⟩ := m
      simp only [IsSound, not_forall] at hm
      obtain ⟨fields, rfl, hfields⟩ := hm
      exact .inr ⟨[], name, fields, members, rfl, List.forall_mem_nil _, hfields⟩

/-- A file with a secret, two entries that are none, and two secrets with faults. -/
def faultyText : String :=
  "\x7b\"b\":\x7b\"key\":\"k\",\"x\":1\x7d,\"a\":5,\"2\":[]," ++
    "\"c\":\x7b\"match\":1,\"key\":null\x7d,\"d\":\x7b\"header\":2\x7d\x7d"

/-- The members of the file. -/
def faultyMembers : List (Utf16 × Json) :=
  [("2", .array []), ("b", .object [("key", .string "k"), ("x", .ofNat 1)]), ("a", .ofNat 5),
    ("c", .object [("match", .ofNat 1), ("key", .null)]), ("d", .object [("header", .ofNat 2)])]

/-- A file with a secret and an entry that is none. -/
def soundText : String := "\x7b\"s\":\x7b\"match\":\"u\"\x7d,\"n\":null\x7d"

/-- The members of the file. -/
def soundMembers : List (Utf16 × Json) := [("s", .object [("match", .string "u")]), ("n", .null)]

end Secrets

end PromptTemplate
