import PromptTemplate.Context
import PromptTemplate.Number.Rounding
import PromptTemplate.TemplateError
import PromptTemplate.Token
/-!
# Items of a loop

A for-block runs over its items one after the other: the integers of a range, which are made as
they are needed, or the memories. `LoopItems.toList` is what the items are, and `size` how many.

The count that a loop reports is the number of items, worked out with rounded numbers.
-/

namespace PromptTemplate

/-- The items of a loop: `count` integers from `next` on, or values. -/
inductive LoopItems where
  | range (next : Int) (count : Nat)
  | values (values : List LoopValue)
  deriving Repr, DecidableEq

namespace LoopItems

/-- How many items there are. -/
def size : LoopItems → Nat
  | range _ count => count
  | values vs => vs.length

/-- The first item and those behind it. -/
def next? : LoopItems → Option (LoopValue × LoopItems)
  | range _ 0 => none
  | range n (count + 1) => some (.index n, range (n + 1) count)
  | values [] => none
  | values (v :: vs) => some (v, values vs)

theorem size_of_next? {items rest : LoopItems} {v : LoopValue} (h : items.next? = some (v, rest)) :
    items.size = rest.size + 1 := by
  cases items with
  | range n count =>
    cases count with
    | zero => simp [next?] at h
    | succ count =>
      simp only [next?, Option.some.injEq, Prod.mk.injEq] at h
      rw [← h.2]
      rfl
  | values vs =>
    cases vs with
    | nil => simp [next?] at h
    | cons w vs =>
      simp only [next?, Option.some.injEq, Prod.mk.injEq] at h
      rw [← h.2]
      rfl

/-- The integers from `n` on. -/
def rangeList (n : Int) : Nat → List LoopValue
  | 0 => []
  | count + 1 => .index n :: rangeList (n + 1) count

/-- The items in order. -/
def toList : LoopItems → List LoopValue
  | range n count => rangeList n count
  | values vs => vs

/-- The first `k` items, without making any other. -/
def take (k : Nat) : LoopItems → List LoopValue
  | range n count => rangeList n (min k count)
  | values vs => vs.take k

/-- The items of a header: of a range every integer from the first bound to the last, of the
memories as many as `limit` allows. A `limit` that is no safe natural number allows all. -/
def ofHeader (header : ForHeader) (context : Context) : Except TemplateError LoopItems :=
  match header.iterable with
  | .range first last => .ok (range first (last - first + 1).toNat)
  | .collection name =>
    if name = "memories" then
      let all := context.memories.map LoopValue.memory
      let limit := (header.params.get? "limit").bind fun text => Number.unsigned? text.toList
      .ok (values (match limit with
        | some n => all.take n
        | none => all))
    else .error (.unknownCollection name)

/-- The number of items that a loop reports. -/
def reportedCount (header : ForHeader) (items : LoopItems) : Int :=
  match header.iterable with
  | .range first last => max 0 (Number.round (Number.round (last - first) + 1))
  | .collection _ => items.size

end LoopItems

end PromptTemplate
