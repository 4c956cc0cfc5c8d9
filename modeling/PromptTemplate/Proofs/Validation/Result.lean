import Mathlib.Data.List.Forall2
import PromptTemplate.Validation
/-!
# What a check accepts

A check accepts a value when it gives a result for it, and with which result is a matter of its
parts: both sides of a pair, every item of an array, each member of an object, one of two readings.
For the second reading to count the first one must have found a fault, so that a first reading
without a fault has to have a value (`Checked.Settled`); every check of this library has. So what a
settled check does not accept it refuses with at least one issue (`Checked.Settled.exists_issue`).
-/

namespace PromptTemplate

namespace Checked

variable {α β : Type}

theorem result_eq_ok_iff {c : Checked α} {value : α} :
    c.result = .ok value ↔ c.issues = [] ∧ c.value = some value := by
  obtain ⟨issues, found⟩ := c
  cases issues with
  | nil => cases found <;> simp [result]
  | cons issue issues => simp [result]

theorem result_eq_error {c : Checked α} (h : ∀ value, c.result ≠ .ok value) :
    c.result = .error c.issues := by
  obtain ⟨issues, found⟩ := c
  cases issues with
  | nil =>
    cases found with
    | none => rfl
    | some value => exact absurd rfl (h value)
  | cons issue issues => rfl

@[simp] theorem result_fail_ne_ok (issue : Issue) (value : α) :
    (fail issue).result ≠ .ok value := by
  intro h
  cases h

@[simp] theorem result_addIssue_ne_ok (c : Checked α) (issue : Issue) (value : α) :
    (c.addIssue issue).result ≠ .ok value := by
  rw [Ne, result_eq_ok_iff]
  simp [addIssue]

/-- A value that is kept with an issue unless a condition holds. -/
theorem result_ite_addIssue_eq_ok_iff {condition : Prop} [Decidable condition] {found value : α}
    {issue : Issue} :
    (if condition then ok found else (ok found).addIssue issue).result = .ok value ↔
      found = value ∧ condition := by
  split
  · next h => simp [h]
  · next h => simp [h]

theorem result_map_eq_ok_iff {f : α → β} {c : Checked α} {value : β} :
    (f <$> c).result = .ok value ↔ ∃ inner, c.result = .ok inner ∧ f inner = value := by
  simp only [result_eq_ok_iff, issues_map, value_map, Option.map_eq_some_iff, and_assoc,
    exists_and_left]

theorem result_seq_eq_ok_iff {f : Checked (α → β)} {c : Checked α} {value : β} :
    (f <*> c).result = .ok value ↔
      ∃ g inner, f.result = .ok g ∧ c.result = .ok inner ∧ g inner = value := by
  simp only [result_eq_ok_iff, issues_seq, value_seq, List.append_eq_nil_iff,
    Option.bind_eq_some_iff, Option.map_eq_some_iff]
  constructor
  · rintro ⟨⟨hf, hc⟩, g, hg, inner, hinner, heq⟩
    exact ⟨g, inner, ⟨hf, hg⟩, ⟨hc, hinner⟩, heq⟩
  · rintro ⟨g, inner, ⟨hf, hg⟩, ⟨hc, hinner⟩, heq⟩
    exact ⟨⟨hf, hc⟩, g, hg, inner, hinner, heq⟩

@[simp] theorem result_under_eq_ok_iff {step : PathStep} {c : Checked α} {value : α} :
    (c.under step).result = .ok value ↔ c.result = .ok value := by
  simp [result_eq_ok_iff, under]

@[simp] theorem result_strict_eq_ok_iff {c : Checked α} {value : α} :
    c.strict.result = .ok value ↔ c.result = .ok value := by
  unfold strict
  split
  · rfl
  · next hissues =>
    rw [List.isEmpty_iff] at hissues
    simp [result_eq_ok_iff, hissues]

theorem result_all_eq_ok_iff {cs : List (Checked α)} {values : List α} :
    (all cs).result = .ok values ↔
      List.Forall₂ (fun c value => c.result = .ok value) cs values := by
  induction cs generalizing values with
  | nil =>
    rw [all, result_ok, List.forall₂_nil_left_iff, Except.ok.injEq, eq_comm]
  | cons c cs ih =>
    rw [all, result_seq_eq_ok_iff]
    simp only [result_map_eq_ok_iff, ih]
    constructor
    · rintro ⟨_, rest, ⟨value, hvalue, rfl⟩, hrest, rfl⟩
      exact .cons hvalue hrest
    · rintro (_ | ⟨hvalue, hrest⟩)
      exact ⟨_, _, ⟨_, hvalue, rfl⟩, hrest, rfl⟩

/-! ## Settled checks -/

/-- There is a value or a fault. -/
def Settled (c : Checked α) : Prop := c.issues = [] → ∃ value, c.value = some value

theorem settled_ok (value : α) : (ok value).Settled := fun _ => ⟨value, rfl⟩

theorem settled_fail (issue : Issue) : (fail issue : Checked α).Settled := by
  intro h
  cases h

theorem settled_addIssue (c : Checked α) (issue : Issue) : (c.addIssue issue).Settled := by
  intro h
  simp [addIssue] at h

theorem Settled.map {c : Checked α} (h : c.Settled) (f : α → β) : (f <$> c).Settled := by
  intro hissues
  obtain ⟨value, hvalue⟩ := h hissues
  exact ⟨f value, by rw [value_map, hvalue, Option.map_some]⟩

theorem Settled.seq {f : Checked (α → β)} {c : Checked α} (hf : f.Settled) (hc : c.Settled) :
    (f <*> c).Settled := by
  intro hissues
  rw [issues_seq, List.append_eq_nil_iff] at hissues
  obtain ⟨g, hg⟩ := hf hissues.1
  obtain ⟨value, hvalue⟩ := hc hissues.2
  exact ⟨g value, by rw [value_seq, hg, hvalue]; rfl⟩

theorem Settled.under {c : Checked α} (h : c.Settled) (step : PathStep) :
    (c.under step).Settled := by
  intro hissues
  exact h (List.map_eq_nil_iff.1 hissues)

theorem Settled.all {cs : List (Checked α)} (h : ∀ c ∈ cs, c.Settled) :
    (Checked.all cs).Settled := by
  induction cs with
  | nil => exact settled_ok []
  | cons c cs ih =>
    rw [List.forall_mem_cons] at h
    exact (h.1.map _).seq (ih h.2)

theorem Settled.orElse {first second : Checked α} (hfirst : first.Settled)
    (hsecond : second.Settled) (neither : Issue) : (first.orElse second neither).Settled := by
  unfold Checked.orElse
  split
  · exact hfirst
  · split
    · exact hsecond
    · split
      · exact hfirst
      · exact settled_fail neither

theorem Settled.strict {c : Checked α} (h : c.Settled) : c.strict.Settled := by
  unfold Checked.strict
  split
  · exact h
  · next hissues => exact fun hnil => absurd (List.isEmpty_iff.2 hnil) hissues

theorem Settled.issues_eq_nil_iff {c : Checked α} (h : c.Settled) :
    c.issues = [] ↔ ∃ value, c.result = .ok value := by
  simp only [result_eq_ok_iff, exists_and_left]
  exact ⟨fun hissues => ⟨hissues, h hissues⟩, And.left⟩

theorem Settled.exists_issue {c : Checked α} (h : c.Settled) (hno : ∀ value, c.result ≠ .ok value) :
    ∃ issue rest, c.issues = issue :: rest := by
  refine List.exists_cons_of_ne_nil fun hnil => ?_
  obtain ⟨value, hvalue⟩ := h.issues_eq_nil_iff.1 hnil
  exact hno value hvalue

/-- The second reading counts where the first does not go. -/
theorem Settled.result_orElse_eq_ok_iff {first second : Checked α} (h : first.Settled)
    {neither : Issue} {value : α} :
    (first.orElse second neither).result = .ok value ↔ first.result = .ok value ∨
      (∀ other, first.result ≠ .ok other) ∧ second.result = .ok value := by
  have hnone : first.issues ≠ [] ↔ ∀ other, first.result ≠ .ok other := by
    rw [Ne, h.issues_eq_nil_iff, not_exists]
  unfold Checked.orElse
  by_cases hfirst : first.issues = []
  · obtain ⟨found, hfound⟩ := h.issues_eq_nil_iff.1 hfirst
    rw [if_pos (List.isEmpty_iff.2 hfirst)]
    simp [hfound]
  · have hother := hnone.1 hfirst
    rw [if_neg (by rwa [List.isEmpty_iff])]
    by_cases hsecond : second.issues = []
    · rw [if_pos (List.isEmpty_iff.2 hsecond)]
      simp [hother]
    · have hno : second.result ≠ .ok value := by
        rw [Ne, result_eq_ok_iff]
        exact fun hboth => hsecond hboth.1
      rw [if_neg (by rwa [List.isEmpty_iff])]
      split <;> simp [hother, hno]

end Checked

/-! ## Checks -/

section

variable {α : Type} {check : Json → Checked α}

theorem checkText_eq_ok_iff {value : Json} {text : Utf16} :
    (checkText value).result = .ok text ↔ value = .string text := by
  cases value <;> simp [checkText]

theorem checkObjectOr_eq_ok_iff {issue : Json → Issue}
    {members : List (Utf16 × Json) → Checked α} {value : Json} {result : α} :
    (checkObjectOr issue members value).result = .ok result ↔
      ∃ ms, value = .object ms ∧ (members ms).result = .ok result := by
  cases value <;> simp [checkObjectOr]

theorem checkObject_eq_ok_iff {members : List (Utf16 × Json) → Checked α} {value : Json}
    {result : α} :
    (checkObject members value).result = .ok result ↔
      ∃ ms, value = .object ms ∧ (members ms).result = .ok result := checkObjectOr_eq_ok_iff

theorem requiredMember_eq_ok_iff {name : String} {members : List (Utf16 × Json)} {result : α} :
    (requiredMember check name members).result = .ok result ↔
      ∃ value, findEntry (name : Utf16) members = some value ∧
        (check value).result = .ok result := by
  unfold requiredMember
  rw [Checked.result_under_eq_ok_iff]
  cases findEntry (name : Utf16) members <;> simp

theorem optionalMember_eq_ok_iff {name : String} {members : List (Utf16 × Json)}
    {result : Option α} :
    (optionalMember check name members).result = .ok result ↔
      match findEntry (name : Utf16) members with
      | none => result = none
      | some value => ∃ found, (check value).result = .ok found ∧ some found = result := by
  unfold optionalMember
  cases findEntry (name : Utf16) members with
  | none => simp [eq_comm]
  | some value =>
    show ((some <$> check value).under (.name name)).result = .ok result ↔ _
    rw [Checked.result_under_eq_ok_iff, Checked.result_map_eq_ok_iff]

/-- There is a text under the name, or nothing at all. -/
def IsTextOrAbsent (name : Utf16) (fields : List (Utf16 × Json)) : Prop :=
  ∀ value, findEntry name fields = some value → ∃ text, value = .string text

theorem defaultMember_eq_ok_iff {default : α} {name : String} {members : List (Utf16 × Json)}
    {result : α} :
    (defaultMember check default name members).result = .ok result ↔
      match findEntry (name : Utf16) members with
      | none => result = default
      | some value => (check value).result = .ok result := by
  show ((fun found => found.getD default) <$> optionalMember check name members).result = _ ↔ _
  simp only [Checked.result_map_eq_ok_iff, optionalMember_eq_ok_iff]
  cases findEntry (name : Utf16) members <;> simp [eq_comm]

/-- Only known members are let through. -/
theorem refuseUnknown_eq_ok_iff {known : List String} {members : List (Utf16 × Json)}
    {c : Checked α} {result : α} :
    (refuseUnknown known members c).result = .ok result ↔
      c.result = .ok result ∧ ∀ m ∈ members, m.1 ∈ known.map Utf16.ofString := by
  have hnil : ((members.map Prod.fst).filter fun n => !(known.map Utf16.ofString).contains n) = [] ↔
      ∀ m ∈ members, m.1 ∈ known.map Utf16.ofString := by
    simp [List.filter_eq_nil_iff]
  unfold refuseUnknown
  split
  · next hknown => exact ⟨fun h => ⟨h, hnil.1 hknown⟩, And.left⟩
  · next hunknown =>
    have hno : ¬ ∀ m ∈ members, m.1 ∈ known.map Utf16.ofString := fun h => hunknown (hnil.2 h)
    exact ⟨fun h => absurd h (Checked.result_addIssue_ne_ok _ _ _), fun h => absurd h.2 hno⟩

/-- The places of the items have no part in what is accepted. -/
theorem forall₂_mapIdx_under_iff (step : Nat → PathStep) {items : List Json} {results : List α} :
    List.Forall₂ (fun c result => Checked.result c = .ok result)
        (items.mapIdx fun i v => (check v).under (step i)) results ↔
      List.Forall₂ (fun item result => (check item).result = .ok result) items results := by
  induction items generalizing step results with
  | nil => rw [List.mapIdx_nil, List.forall₂_nil_left_iff, List.forall₂_nil_left_iff]
  | cons item items ih =>
    rw [List.mapIdx_cons, List.forall₂_cons_left_iff, List.forall₂_cons_left_iff]
    simp only [Checked.result_under_eq_ok_iff, ih fun i => step (i + 1)]

theorem checkArray_eq_ok_iff {value : Json} {results : List α} :
    (checkArray check value).result = .ok results ↔ ∃ items, value = .array items ∧
      List.Forall₂ (fun item result => (check item).result = .ok result) items results := by
  cases value <;>
    simp [checkArray, Checked.result_all_eq_ok_iff, forall₂_mapIdx_under_iff (.index ↑·)]

/-- Under every name the value checks; what stands under `__proto__` is then left out. -/
theorem checkMembers_eq_ok_iff {members : List (Utf16 × Json)} {entries : List (Utf16 × α)} :
    (checkMembers check members).result = .ok entries ↔
      ∃ found, List.Forall₂ (fun m e => e.1 = m.1 ∧ (check m.2).result = .ok e.2) members found ∧
        found.filter (fun e => e.1 ≠ ("__proto__" : Utf16)) = entries := by
  have hmember (m : Utf16 × Json) (e : Utf16 × α) :
      (((check m.2).map fun v => (m.1, v)).under (.name m.1)).result = .ok e ↔
        e.1 = m.1 ∧ (check m.2).result = .ok e.2 := by
    show (((fun v => (m.1, v)) <$> check m.2).under (.name m.1)).result = .ok e ↔ _
    rw [Checked.result_under_eq_ok_iff, Checked.result_map_eq_ok_iff]
    constructor
    · rintro ⟨value, hvalue, rfl⟩
      exact ⟨rfl, hvalue⟩
    · rintro ⟨hname, hvalue⟩
      exact ⟨e.2, hvalue, Prod.ext hname.symm rfl⟩
  show ((fun kept => kept.filter fun e => e.1 ≠ ("__proto__" : Utf16)) <$>
    Checked.all (members.map fun m =>
      ((check m.2).map fun v => (m.1, v)).under (.name m.1))).result = .ok entries ↔ _
  rw [Checked.result_map_eq_ok_iff]
  simp only [Checked.result_all_eq_ok_iff, List.forall₂_map_left_iff, hmember]

theorem issues_checkMembers (members : List (Utf16 × Json)) :
    (checkMembers check members).issues =
      members.flatMap fun m => (check m.2).issues.map (Issue.under [.name m.1]) := by
  show (Checked.all (members.map fun m =>
    ((check m.2).map fun v => (m.1, v)).under (.name m.1))).issues = _
  rw [Checked.issues_all, List.flatMap_map]
  rfl

/-! ## Settled checks -/

theorem settled_checkText (value : Json) : (checkText value).Settled := by
  cases value <;> first | exact Checked.settled_ok _ | exact Checked.settled_fail _

theorem settled_checkTextOr (message : String) (value : Json) :
    (checkTextOr message value).Settled := by
  cases value <;> first | exact Checked.settled_ok _ | exact Checked.settled_fail _

theorem settled_checkObjectOr {members : List (Utf16 × Json) → Checked α}
    (h : ∀ ms, (members ms).Settled) (issue : Json → Issue) (value : Json) :
    (checkObjectOr issue members value).Settled := by
  cases value <;> first | exact h _ | exact Checked.settled_fail _

theorem settled_checkObject {members : List (Utf16 × Json) → Checked α}
    (h : ∀ ms, (members ms).Settled) (value : Json) : (checkObject members value).Settled :=
  settled_checkObjectOr h _ value

theorem settled_requiredMember (h : ∀ value, (check value).Settled) (name : String)
    (members : List (Utf16 × Json)) : (requiredMember check name members).Settled := by
  refine Checked.Settled.under ?_ _
  cases findEntry (name : Utf16) members with
  | none => exact Checked.settled_fail _
  | some value => exact h value

theorem settled_optionalMember (h : ∀ value, (check value).Settled) (name : String)
    (members : List (Utf16 × Json)) : (optionalMember check name members).Settled := by
  unfold optionalMember
  cases findEntry (name : Utf16) members with
  | none => exact Checked.settled_ok none
  | some value => exact ((h value).map some).under _

theorem settled_defaultMember (h : ∀ value, (check value).Settled) (default : α) (name : String)
    (members : List (Utf16 × Json)) : (defaultMember check default name members).Settled :=
  (settled_optionalMember h name members).map _

theorem settled_checkArray (h : ∀ value, (check value).Settled) (value : Json) :
    (checkArray check value).Settled := by
  cases value with
  | array items =>
    refine Checked.Settled.all fun c hc => ?_
    obtain ⟨i, hi, rfl⟩ := List.mem_mapIdx.1 hc
    exact (h _).under _
  | _ => exact Checked.settled_fail _

theorem settled_checkMembers (h : ∀ value, (check value).Settled)
    (members : List (Utf16 × Json)) : (checkMembers check members).Settled := by
  refine Checked.Settled.map (Checked.Settled.all fun c hc => ?_) _
  obtain ⟨m, -, rfl⟩ := List.mem_map.1 hc
  exact ((h m.2).map _).under _

theorem settled_refuseUnknown {known : List String} {members : List (Utf16 × Json)} {c : Checked α}
    (h : c.Settled) : (refuseUnknown known members c).Settled := by
  unfold refuseUnknown
  split
  · exact h
  · exact Checked.settled_addIssue _ _

/-! ## Data of files -/

variable {path : String} {outer : List PathStep} {data : Json}

theorem validate_eq_ok_iff {value : α} :
    validate check path outer data = .ok value ↔ (check data).result = .ok value := by
  unfold validate
  cases (check data).result <;> simp

theorem validate_eq_error (h : ∀ value, (check data).result ≠ .ok value) :
    validate check path outer data =
      .error { path, issues := (check data).issues.map (Issue.under outer) } := by
  rw [validate, Checked.result_eq_error h]

end

end PromptTemplate
