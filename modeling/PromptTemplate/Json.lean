import PromptTemplate.Number.Decimal
import PromptTemplate.Table
import PromptTemplate.Text.Utf16
/-!
# JSON values

A JSON value. Strings and the names of members are texts in sixteen-bit units. The members of an
object have distinct names and a fixed order: names that are array indices first, in ascending
order, then the others in the order in which they were first written (`Json.ofMembers`). Of a name
that is written twice the last value counts.
-/

namespace PromptTemplate

/-- A JSON value. -/
inductive Json where
  | null
  | bool (value : Bool)
  | number (value : Number.Decimal)
  | string (value : Utf16)
  | array (items : List Json)
  | object (members : List (Utf16 × Json))
  deriving Repr, BEq, Inhabited

namespace Json

/-- What an array index is below: `2 ^ 32 - 1`. -/
def indexEnd : Nat := 4294967295

/-- An array index: a number below `indexEnd`, written without leading zeros. -/
def indexKey? (name : Utf16) : Option Nat :=
  match Number.digits? name.text.toList with
  | none => none
  | some n => if name = Number.natText n ∧ n < indexEnd then some n else none

/-- The value of an array index, and zero for other names. -/
def indexKey (name : Utf16) : Nat := (indexKey? name).getD 0

/-- Members with distinct names in the order of an object. -/
def orderMembers {α : Type} (members : List (Utf16 × α)) : List (Utf16 × α) :=
  (members.filter fun m => (indexKey? m.1).isSome).mergeSort
      (fun a b => decide (indexKey a.1 ≤ indexKey b.1)) ++
    members.filter fun m => (indexKey? m.1).isNone

/-- The object with the members written in `pairs`. -/
def ofMembers (pairs : List (Utf16 × Json)) : Json :=
  object (orderMembers (Table.ofList pairs).entries)

/-- An integer as a JSON number. -/
def ofInt (z : Int) : Json := number (.ofInt z)

/-- A natural number as a JSON number. -/
def ofNat (n : Nat) : Json := number (.ofNat n)

/-- The word for a value's type. -/
def typeName : Json → String
  | null => "null"
  | bool _ => "boolean"
  | number _ => "number"
  | string _ => "string"
  | array _ => "array"
  | object _ => "object"

/-! ## Equality -/

mutual

/-- Whether two values are the same. -/
def decEq : (a b : Json) → Decidable (a = b)
  | null, null => isTrue rfl
  | bool x, bool y => decidable_of_iff (x = y) (by simp)
  | number x, number y => decidable_of_iff (x = y) (by simp)
  | string x, string y => decidable_of_iff (x = y) (by simp)
  | array xs, array ys =>
    have := decEqItems xs ys
    decidable_of_iff (xs = ys) (by simp)
  | object ms, object ns =>
    have := decEqMembers ms ns
    decidable_of_iff (ms = ns) (by simp)
  | null, bool _ | null, number _ | null, string _ | null, array _ | null, object _ => isFalse nofun
  | bool _, null | bool _, number _ | bool _, string _ | bool _, array _ | bool _, object _ =>
    isFalse nofun
  | number _, null | number _, bool _ | number _, string _ | number _, array _
  | number _, object _ => isFalse nofun
  | string _, null | string _, bool _ | string _, number _ | string _, array _
  | string _, object _ => isFalse nofun
  | array _, null | array _, bool _ | array _, number _ | array _, string _ | array _, object _ =>
    isFalse nofun
  | object _, null | object _, bool _ | object _, number _ | object _, string _
  | object _, array _ => isFalse nofun

/-- Whether two lists of items are the same. -/
def decEqItems : (xs ys : List Json) → Decidable (xs = ys)
  | [], [] => isTrue rfl
  | x :: xs, y :: ys =>
    have := decEq x y
    have := decEqItems xs ys
    decidable_of_iff (x = y ∧ xs = ys) (by simp)
  | [], _ :: _ | _ :: _, [] => isFalse nofun

/-- Whether two lists of members are the same. -/
def decEqMembers : (ms ns : List (Utf16 × Json)) → Decidable (ms = ns)
  | [], [] => isTrue rfl
  | (name, x) :: ms, (name', y) :: ns =>
    have := decEq x y
    have := decEqMembers ms ns
    decidable_of_iff (name = name' ∧ x = y ∧ ms = ns) (by simp [and_assoc])
  | [], _ :: _ | _ :: _, [] => isFalse nofun

end

instance : DecidableEq Json := decEq

/-! ## Facts -/

example : (orderMembers [(("b" : Utf16), 0), ("10", 1), ("01", 2), ("9", 3)]).map (·.1.text) =
    ["9", "10", "b", "01"] := by cbv

theorem mem_orderMembers {α : Type} (m : Utf16 × α) (members : List (Utf16 × α)) :
    m ∈ orderMembers members ↔ m ∈ members := by
  simp only [orderMembers, List.mem_append, List.mem_mergeSort, List.mem_filter]
  cases h : indexKey? m.1 <;> simp

end Json

end PromptTemplate
