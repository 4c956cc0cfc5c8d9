import PromptTemplate.Json
/-!
# Checking JSON values

A check looks at a value and finds issues, each with the path to the value it is about. It goes on
after an issue where it can, so one run reports every fault. A check that only found a text of the
wrong form still has a value to go on with; one that found a value of the wrong type has none. The
value counts only if there is no issue at all (`Checked.result`).
-/

namespace PromptTemplate

/-- A step of a path into a value: a member's name or an item's index. -/
inductive PathStep where
  | name (name : Utf16)
  | index (index : Int)
  deriving Repr, DecidableEq

/-- The text of a step. -/
def PathStep.text : PathStep → String
  | name n => n.text
  | index i => Number.intText i

/-- A fault of a value: where it is, the wording and a code. -/
structure Issue where
  path : List PathStep
  message : String
  code : String
  deriving Repr, DecidableEq

/-- The issue as seen from a place further out. -/
def Issue.under (outer : List PathStep) (issue : Issue) : Issue :=
  { issue with path := outer ++ issue.path }

/-- A value that was checked: the issues that were found, and the value if there is one to go on
with. -/
structure Checked (α : Type) where
  issues : List Issue
  value : Option α
  deriving Repr

namespace Checked

variable {α β : Type}

/-- A value without fault. -/
def ok (value : α) : Checked α := ⟨[], some value⟩

/-- No value, for one reason. -/
def fail (issue : Issue) : Checked α := ⟨[issue], none⟩

/-- The same value made into another. -/
def map (f : α → β) (c : Checked α) : Checked β := ⟨c.issues, c.value.map f⟩

/-- A function and its argument, each checked; the issues of both count. -/
def ap (f : Checked (α → β)) (c : Checked α) : Checked β :=
  ⟨f.issues ++ c.issues, f.value.bind fun g => c.value.map g⟩

instance : Applicative Checked where
  pure := ok
  map := map
  seq f c := ap f (c ())

/-- The same value with one more issue behind the others. -/
def addIssue (c : Checked α) (issue : Issue) : Checked α := ⟨c.issues ++ [issue], c.value⟩

/-- The value as seen from a place one step further out. -/
def under (step : PathStep) (c : Checked α) : Checked α :=
  ⟨c.issues.map (Issue.under [step]), c.value⟩

/-- Values without fault as a list; the issues of all count. -/
def all : List (Checked α) → Checked (List α)
  | [] => ok []
  | c :: cs => (· :: ·) <$> c <*> all cs

/-- The same, with the value given up if there is any issue. -/
def strict (c : Checked α) : Checked α := if c.issues.isEmpty then c else ⟨c.issues, none⟩

/-- The first of two readings of a value that has no issue. If both have issues, those of the first
count as long as it has a value to go on with; otherwise there is but the one issue given. -/
def orElse (first second : Checked α) (neither : Issue) : Checked α :=
  if first.issues.isEmpty then first
  else if second.issues.isEmpty then second
  else if first.value.isSome then first
  else fail neither

/-- The value, if no issue was found. -/
def result (c : Checked α) : Except (List Issue) α :=
  match c.issues, c.value with
  | [], some value => .ok value
  | issues, _ => .error issues

/-! ## Facts -/

@[simp] theorem result_ok (value : α) : (ok value).result = .ok value := rfl

@[simp] theorem issues_ok (value : α) : (ok value).issues = [] := rfl

@[simp] theorem issues_pure (value : α) : (pure value : Checked α).issues = [] := rfl

@[simp] theorem issues_map (f : α → β) (c : Checked α) : (f <$> c).issues = c.issues := rfl

@[simp] theorem issues_seq (f : Checked (α → β)) (c : Checked α) :
    (f <*> c).issues = f.issues ++ c.issues := rfl

@[simp] theorem value_map (f : α → β) (c : Checked α) : (f <$> c).value = c.value.map f := rfl

@[simp] theorem value_seq (f : Checked (α → β)) (c : Checked α) :
    (f <*> c).value = f.value.bind fun g => c.value.map g := rfl

theorem result_map (f : α → β) (c : Checked α) : (f <$> c).result = f <$> c.result := by
  obtain ⟨issues, value⟩ := c
  cases issues with
  | nil => cases value <;> rfl
  | cons issue issues => rfl

@[simp] theorem issues_all (cs : List (Checked α)) : (all cs).issues = cs.flatMap issues := by
  induction cs with
  | nil => rfl
  | cons c cs ih => simp [all, ih]

end Checked

/-! ## Checks -/

/-- The issue of a value of the wrong type. -/
def wrongType (want : String) (value : Json) : Issue :=
  ⟨[], "Expected " ++ want ++ ", received " ++ value.typeName, "invalid_type"⟩

/-- The issue of a member that is missing. -/
def missing : Issue := ⟨[], "Required", "invalid_type"⟩

/-- A text. -/
def checkText (value : Json) : Checked Utf16 :=
  match value with
  | .string s => .ok s
  | value => .fail (wrongType "string" value)

/-- A text; the wording for any other value is given. -/
def checkTextOr (message : String) (value : Json) : Checked Utf16 :=
  match value with
  | .string s => .ok s
  | _ => .fail ⟨[], message, "invalid_type"⟩

/-- An array whose items are checked one by one. -/
def checkArray {α : Type} (item : Json → Checked α) (value : Json) : Checked (List α) :=
  match value with
  | .array items => .all (items.mapIdx fun i v => (item v).under (.index i))
  | value => .fail (wrongType "array" value)

/-- The members of an object; the issue for any other value is given. -/
def checkObjectOr {α : Type} (issue : Json → Issue)
    (members : List (Utf16 × Json) → Checked α) (value : Json) : Checked α :=
  match value with
  | .object ms => members ms
  | value => .fail (issue value)

/-- The members of an object. -/
def checkObject {α : Type} (members : List (Utf16 × Json) → Checked α) (value : Json) :
    Checked α :=
  checkObjectOr (wrongType "object") members value

/-- The values of members under any names, each checked in order. A member that is called
`__proto__` is checked and then left out, since no value can be kept under that name. -/
def checkMembers {α : Type} (member : Json → Checked α) (members : List (Utf16 × Json)) :
    Checked (List (Utf16 × α)) :=
  (Checked.all (members.map fun m => ((member m.2).map fun v => (m.1, v)).under (.name m.1))).map
    fun kept => kept.filter fun m => m.1 ≠ ("__proto__" : Utf16)

/-- A member that has to be there. -/
def requiredMember {α : Type} (check : Json → Checked α) (name : String)
    (members : List (Utf16 × Json)) : Checked α :=
  Checked.under (.name name) <|
    match findEntry (name : Utf16) members with
    | some value => check value
    | none => .fail missing

/-- A member that may be missing. -/
def optionalMember {α : Type} (check : Json → Checked α) (name : String)
    (members : List (Utf16 × Json)) : Checked (Option α) :=
  match findEntry (name : Utf16) members with
  | some value => ((check value).map some).under (.name name)
  | none => .ok none

/-- A member that stands for `default` where it is missing. -/
def defaultMember {α : Type} (check : Json → Checked α) (default : α) (name : String)
    (members : List (Utf16 × Json)) : Checked α :=
  (optionalMember check name members).map (·.getD default)

/-- The issue of members that are not known. -/
def unknownMembers (names : List Utf16) : Issue :=
  ⟨[], "Unrecognized key(s) in object: " ++
    ", ".intercalate (names.map fun n => "'" ++ n.text ++ "'"), "unrecognized_keys"⟩

/-- Refuse members that are not among `known`, behind the issues of the others. -/
def refuseUnknown {α : Type} (known : List String) (members : List (Utf16 × Json))
    (c : Checked α) : Checked α :=
  match (members.map Prod.fst).filter fun n => !(known.map Utf16.ofString).contains n with
  | [] => c
  | names => c.addIssue (unknownMembers names)

/-! ## Files that do not check -/

/-- A configuration file that cannot be used: its path, what is wrong with it, and a heading of
its own if the usual one does not fit. -/
structure FileIssues where
  path : String
  issues : List Issue
  heading : Option String := none
  deriving Repr, DecidableEq

namespace FileIssues

/-- One line about the file. -/
def message (f : FileIssues) : String :=
  f.heading.getD ("Invalid configuration file " ++ f.path ++ ": " ++
    Number.natText f.issues.length ++ " error(s)")

/-- The line of an issue. -/
def issueLine (issue : Issue) : String :=
  let path :=
    if issue.path.isEmpty then "(root)" else ".".intercalate (issue.path.map PathStep.text)
  "  - " ++ path ++ ": " ++ issue.message

/-- The file and its issues, a line for each. -/
def format (f : FileIssues) : String :=
  "\n".intercalate ((f.path ++ " failed validation:") :: f.issues.map issueLine)

end FileIssues

/-- The value of a check, for data of a file; the paths of its issues start with `outer`. -/
def validate {α : Type} (check : Json → Checked α) (path : String) (outer : List PathStep)
    (data : Json) : Except FileIssues α :=
  match (check data).result with
  | .ok value => .ok value
  | .error issues => .error { path, issues := issues.map (Issue.under outer) }

end PromptTemplate
