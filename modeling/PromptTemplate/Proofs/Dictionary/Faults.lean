import Mathlib.Data.List.Nodup
import PromptTemplate.Dictionary.File
import PromptTemplate.Proofs.Json.Members
import PromptTemplate.Proofs.Validation.Result
/-!
# The faults of a dictionary file

A dictionary is an object of objects of texts. A value that is none has a list of faults
(`Dictionary.faults`): it is no object at all, or some of its sections are none, or there are values
in its sections that are no texts. Checking it reports these faults, each once and in the order of
the objects, and no others (`Dictionary.validate_eq_faults`).
-/

namespace PromptTemplate

/-- An object of texts. -/
def Json.IsSection (value : Json) : Prop :=
  ∃ entries, value = .object entries ∧ ∀ e ∈ entries, ∃ text, e.2 = .string text

/-- An object of objects of texts. -/
def Json.IsDictionary (value : Json) : Prop :=
  ∃ sections, value = .object sections ∧ ∀ s ∈ sections, s.2.IsSection

namespace Dictionary

open Json (orderMembers)

/-! ## Faults -/

/-- What can be wrong with a dictionary. -/
inductive Fault where
  | notObject (found : String)
  | atSection (name : Utf16)
  | atKey (name key : Utf16)
  deriving Repr, DecidableEq

namespace Fault

/-- Where the fault is. -/
def path : Fault → List PathStep
  | notObject _ => []
  | atSection name => [.name name]
  | atKey name key => [.name name, .name key]

/-- The wording for the fault. -/
def message : Fault → String
  | notObject found => "Expected object, received " ++ found
  | atSection _ => sectionFault
  | atKey _ _ => valueFault

/-- The issue that reports the fault. -/
def issue (fault : Fault) : Issue := ⟨fault.path, fault.message, "invalid_type"⟩

/-- The value has the fault. -/
inductive IsIn : Fault → Json → Prop
  | notObject {value : Json} (h : ∀ sections, value ≠ .object sections) :
    IsIn (.notObject value.typeName) value
  | atSection {sections : List (Utf16 × Json)} {name : Utf16} {value : Json}
    (hmem : (name, value) ∈ sections) (h : ∀ entries, value ≠ .object entries) :
    IsIn (.atSection name) (.object sections)
  | atKey {sections entries : List (Utf16 × Json)} {name key : Utf16} {value : Json}
    (hmem : (name, .object entries) ∈ sections) (hentry : (key, value) ∈ entries)
    (h : ∀ text, value ≠ .string text) : IsIn (.atKey name key) (.object sections)

end Fault

/-- The faults of a value at a key. -/
def valueFaults (name key : Utf16) : Json → List Fault
  | .string _ => []
  | _ => [.atKey name key]

/-- The faults of a section, key by key. -/
def sectionFaults (name : Utf16) : Json → List Fault
  | .object entries => (orderMembers entries).flatMap fun e => valueFaults name e.1 e.2
  | _ => [.atSection name]

/-- The faults of a dictionary, section by section. -/
def faults : Json → List Fault
  | .object sections => (orderMembers sections).flatMap fun s => sectionFaults s.1 s.2
  | value => [.notObject value.typeName]

theorem mem_valueFaults_iff {name key : Utf16} {value : Json} {fault : Fault} :
    fault ∈ valueFaults name key value ↔
      fault = .atKey name key ∧ ∀ text, value ≠ .string text := by
  cases value <;> simp [valueFaults]

theorem mem_sectionFaults_object_iff {name : Utf16} {entries : List (Utf16 × Json)}
    {fault : Fault} :
    fault ∈ sectionFaults name (.object entries) ↔
      ∃ e ∈ entries, fault = .atKey name e.1 ∧ ∀ text, e.2 ≠ .string text := by
  simp only [sectionFaults, List.mem_flatMap, Json.mem_orderMembers, mem_valueFaults_iff]

theorem sectionFaults_of_ne_object (name : Utf16) {value : Json}
    (h : ∀ entries, value ≠ .object entries) : sectionFaults name value = [.atSection name] := by
  cases value with
  | object entries => exact absurd rfl (h entries)
  | _ => rfl

theorem faults_of_ne_object {value : Json} (h : ∀ sections, value ≠ .object sections) :
    faults value = [.notObject value.typeName] := by
  cases value with
  | object sections => exact absurd rfl (h sections)
  | _ => rfl

/-- The faults are all there are. -/
theorem mem_faults_iff {value : Json} {fault : Fault} :
    fault ∈ faults value ↔ fault.IsIn value := by
  constructor
  · intro hmem
    by_cases hobject : ∃ sections, value = .object sections
    · obtain ⟨sections, rfl⟩ := hobject
      simp only [faults, List.mem_flatMap, Json.mem_orderMembers] at hmem
      obtain ⟨⟨name, value⟩, hsection, hmem⟩ := hmem
      by_cases hentries : ∃ entries, value = .object entries
      · obtain ⟨entries, rfl⟩ := hentries
        obtain ⟨⟨key, value⟩, hentry, rfl, hvalue⟩ := mem_sectionFaults_object_iff.1 hmem
        exact .atKey hsection hentry hvalue
      · rw [not_exists] at hentries
        rw [sectionFaults_of_ne_object name hentries, List.mem_singleton] at hmem
        subst hmem
        exact .atSection hsection hentries
    · rw [not_exists] at hobject
      rw [faults_of_ne_object hobject, List.mem_singleton] at hmem
      subst hmem
      exact .notObject hobject
  · intro hin
    cases hin with
    | notObject h =>
      rw [faults_of_ne_object h]
      exact List.mem_singleton_self _
    | atSection hmem h =>
      refine List.mem_flatMap.2 ⟨_, (Json.mem_orderMembers _ _).2 hmem, ?_⟩
      rw [sectionFaults_of_ne_object _ h]
      exact List.mem_singleton_self _
    | atKey hmem hentry h =>
      exact List.mem_flatMap.2 ⟨_, (Json.mem_orderMembers _ _).2 hmem,
        mem_sectionFaults_object_iff.2 ⟨_, hentry, rfl, h⟩⟩

theorem faults_eq_nil_iff {value : Json} : faults value = [] ↔ value.IsDictionary := by
  rw [List.eq_nil_iff_forall_not_mem]
  simp only [mem_faults_iff]
  constructor
  · intro hnone
    by_cases hobject : ∃ sections, value = .object sections
    · obtain ⟨sections, rfl⟩ := hobject
      refine ⟨sections, rfl, fun s hs => ?_⟩
      by_cases hentries : ∃ entries, s.2 = .object entries
      · obtain ⟨entries, hs'⟩ := hentries
        refine ⟨entries, hs', fun e he => ?_⟩
        by_contra hvalue
        rw [not_exists] at hvalue
        have hsection : (s.1, Json.object entries) ∈ sections := by rwa [← hs']
        exact hnone _ (.atKey hsection he hvalue)
      · rw [not_exists] at hentries
        exact absurd (.atSection hs hentries) (hnone _)
    · rw [not_exists] at hobject
      exact absurd (.notObject hobject) (hnone _)
  · rintro ⟨sections, rfl, hsections⟩ fault hin
    cases hin with
    | notObject h => exact h sections rfl
    | atSection hmem h =>
      obtain ⟨entries, hentries, -⟩ := hsections _ hmem
      exact h entries hentries
    | atKey hmem hentry h =>
      obtain ⟨entries, hentries, htexts⟩ := hsections _ hmem
      cases hentries
      obtain ⟨text, htext⟩ := htexts _ hentry
      exact h text htext

/-! ## No fault twice -/

theorem nodup_path_sectionFaults (name : Utf16) {value : Json} (h : value.IsOrdered) :
    ((sectionFaults name value).map Fault.path).Nodup := by
  cases h with
  | @object entries nodup _ _ =>
    have hkeys : (orderMembers entries).Pairwise fun e e' => e.1 ≠ e'.1 :=
      List.pairwise_map.1 (Json.nodup_orderMembers nodup)
    rw [sectionFaults, List.map_flatMap, List.nodup_flatMap]
    refine ⟨fun e _ => ?_, hkeys.imp fun {e e'} hne => ?_⟩
    · cases e.2 <;> simp [valueFaults]
    · intro path hpath hpath'
      obtain ⟨fault, hfault, rfl⟩ := List.mem_map.1 hpath
      obtain ⟨fault', hfault', heq⟩ := List.mem_map.1 hpath'
      obtain ⟨rfl, -⟩ := mem_valueFaults_iff.1 hfault
      obtain ⟨rfl, -⟩ := mem_valueFaults_iff.1 hfault'
      simp [Fault.path, hne.symm] at heq
  | _ => exact List.nodup_singleton _

theorem head?_path_of_mem_sectionFaults {name : Utf16} {value : Json} {fault : Fault}
    (h : fault ∈ sectionFaults name value) : fault.path.head? = some (.name name) := by
  by_cases hentries : ∃ entries, value = .object entries
  · obtain ⟨entries, rfl⟩ := hentries
    obtain ⟨e, -, rfl, -⟩ := mem_sectionFaults_object_iff.1 h
    rfl
  · rw [not_exists] at hentries
    rw [sectionFaults_of_ne_object name hentries, List.mem_singleton] at h
    subst h
    rfl

theorem nodup_path_faults {value : Json} (h : value.IsOrdered) :
    ((faults value).map Fault.path).Nodup := by
  cases h with
  | @object sections nodup _ hsections =>
    have hnames : (orderMembers sections).Pairwise fun s s' => s.1 ≠ s'.1 :=
      List.pairwise_map.1 (Json.nodup_orderMembers nodup)
    rw [faults, List.map_flatMap, List.nodup_flatMap]
    refine ⟨fun s hs => ?_, hnames.imp fun {s s'} hne => ?_⟩
    · exact nodup_path_sectionFaults s.1 (hsections s ((Json.mem_orderMembers s _).1 hs))
    · intro path hpath hpath'
      obtain ⟨fault, hfault, rfl⟩ := List.mem_map.1 hpath
      obtain ⟨fault', hfault', heq⟩ := List.mem_map.1 hpath'
      have hhead := head?_path_of_mem_sectionFaults hfault
      rw [← heq, head?_path_of_mem_sectionFaults hfault'] at hhead
      simp [hne.symm] at hhead
  | _ => exact List.nodup_singleton _

/-! ## Checking -/

theorem settled_checkSection (value : Json) : (checkSection value).Settled :=
  settled_checkObjectOr (settled_checkMembers (settled_checkTextOr valueFault)) _ value

theorem settled_check (value : Json) : (check value).Settled :=
  settled_checkObject (settled_checkMembers settled_checkSection) value

theorem issues_checkSection (name : Utf16) {value : Json} (h : value.IsOrdered) :
    (checkSection value).issues.map (Issue.under [.name name]) =
      (sectionFaults name value).map Fault.issue := by
  cases h with
  | @object entries _ order _ =>
    have hvalue (e : Utf16 × Json) : ((checkTextOr valueFault e.2).issues.map
        (Issue.under [.name e.1])).map (Issue.under [.name name]) =
          (valueFaults name e.1 e.2).map Fault.issue := by
      cases e.2 <;> rfl
    show (checkMembers (checkTextOr valueFault) entries).issues.map _ = _
    rw [issues_checkMembers, sectionFaults, order, List.map_flatMap, List.map_flatMap]
    simp only [hvalue]
  | _ => rfl

theorem issues_check {value : Json} (h : value.IsOrdered) :
    (check value).issues = (faults value).map Fault.issue := by
  cases h with
  | @object sections _ order hsections =>
    show (checkMembers checkSection sections).issues = _
    rw [issues_checkMembers, faults, order, List.map_flatMap]
    exact List.flatMap_congr fun s hs => issues_checkSection s.1 (hsections s hs)
  | _ => rfl

theorem exists_validate_iff (path : String) (outer : List PathStep) {value : Json}
    (h : value.IsOrdered) :
    (∃ entries, validate check path outer value = .ok entries) ↔ value.IsDictionary := by
  simp only [validate_eq_ok_iff, ← (settled_check value).issues_eq_nil_iff, issues_check h,
    List.map_eq_nil_iff, faults_eq_nil_iff]

/-- **Faults of a dictionary.** A value of objects in order checks exactly if it is a dictionary. If
it is none, all its faults are reported and nothing else, each once, where it is and in the order of
the objects. -/
theorem validate_eq_faults (path : String) (outer : List PathStep) {value : Json}
    (h : value.IsOrdered) :
    ((∃ entries, validate check path outer value = .ok entries) ↔ value.IsDictionary) ∧
      (¬ value.IsDictionary → validate check path outer value =
        .error { path, issues := (faults value).map fun fault =>
          ⟨outer ++ fault.path, fault.message, "invalid_type"⟩ }) ∧
      (∀ fault, fault ∈ faults value ↔ fault.IsIn value) ∧
      ((faults value).map Fault.path).Nodup := by
  have hok := exists_validate_iff path outer h
  refine ⟨hok, fun hno => ?_, fun _ => mem_faults_iff, nodup_path_faults h⟩
  rw [← hok, not_exists] at hno
  rw [validate_eq_error fun entries hentries => hno entries (validate_eq_ok_iff.2 hentries),
    issues_check h, List.map_map]
  rfl

/-- A section with two faults. -/
def faultyEntries : List (Utf16 × Json) := [("2", .bool true), ("10", .null), ("k", .string "v")]

/-- A section that is no object, and one with two faults. -/
def faultySections : List (Utf16 × Json) := [("7", .array []), ("b", .object faultyEntries)]

theorem validate_faultySections :
    (Json.object faultySections).IsOrdered ∧ ¬ (Json.object faultySections).IsDictionary ∧
      validate check "d.json" [.name "x"] (.object faultySections) = .error {
        path := "d.json"
        issues := [⟨[.name "x", .name "7"], sectionFault, "invalid_type"⟩,
          ⟨[.name "x", .name "b", .name "2"], valueFault, "invalid_type"⟩,
          ⟨[.name "x", .name "b", .name "10"], valueFault, "invalid_type"⟩] } := by
  have hentries : orderMembers faultyEntries = faultyEntries := by
    show orderMembers ([_, _] ++ [_]) = [_, _] ++ [_]
    exact Json.orderMembers_append (by decide +kernel) (by decide +kernel) (by decide +kernel)
  have hsections : orderMembers faultySections = faultySections := by
    show orderMembers ([_] ++ [_]) = [_] ++ [_]
    exact Json.orderMembers_append (List.pairwise_singleton _ _) (by decide +kernel)
      (by decide +kernel)
  have hordered : (Json.object faultySections).IsOrdered := by
    refine .object (by decide +kernel) hsections ?_
    refine List.forall_mem_cons.2 ⟨.array nofun, List.forall_mem_singleton.2 ?_⟩
    refine .object (by decide +kernel) hentries ?_
    exact List.forall_mem_cons.2 ⟨.bool true, List.forall_mem_cons.2 ⟨.null,
      List.forall_mem_singleton.2 (.string _)⟩⟩
  have hfaults : faults (.object faultySections) =
      [.atSection "7", .atKey "b" "2", .atKey "b" "10"] := by
    rw [faults, hsections]
    show [Fault.atSection "7"] ++ (sectionFaults "b" (.object faultyEntries) ++ []) = _
    rw [sectionFaults, hentries]
    rfl
  have hno : ¬ (Json.object faultySections).IsDictionary := by
    rw [← faults_eq_nil_iff, hfaults]
    exact List.cons_ne_nil _ _
  refine ⟨hordered, hno, ?_⟩
  rw [(validate_eq_faults "d.json" [.name "x"] hordered).2.1 hno, hfaults]
  rfl

end Dictionary

end PromptTemplate
