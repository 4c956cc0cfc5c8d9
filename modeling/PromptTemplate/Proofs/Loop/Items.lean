import PromptTemplate.LoopItems
import PromptTemplate.Proofs.Loop.Counting
import PromptTemplate.Proofs.Number.IntegerText
import PromptTemplate.Proofs.Tag.WellFormed
/-!
# What a loop runs over

A range gives the integers between its bounds, which a count in rounded numbers passes one by one,
and the memories are cut off behind the number that `limit` denotes. A `limit` beyond the safe
integers is not read at all, which is all the same: no list is that long
(`LoopItems.limited_of_isNaturalText`). The count that a loop reports is how many items there are,
but for a range of more than `2 ^ 53` integers, where it is off by two at most
(`LoopItems.ofHeader_of_parse`).
-/

namespace PromptTemplate

namespace LoopItems

open Number (IsNaturalText CountsUp)

theorem size_eq_length_toList (items : LoopItems) : items.size = items.toList.length := by
  cases items with
  | values vs => rfl
  | range n count =>
    rw [size, toList]
    induction count generalizing n with
    | zero => rfl
    | succ count ih => rw [rangeList, List.length_cons, ← ih]

/-! ## Ranges -/

theorem rangeList_eq_map (n : Int) (count : Nat) :
    rangeList n count = (Int.range n (n + count)).map .index := by
  induction count generalizing n with
  | zero =>
    rw [Number.range_of_le (by omega)]
    rfl
  | succ count ih =>
    rw [rangeList, ih, Number.range_of_lt (n := n + (count + 1 : Nat)) (by omega), List.map_cons,
      show n + 1 + (count : Int) = n + (count + 1 : Nat) by omega]

theorem toList_range (first last : Int) :
    (range first (last - first + 1).toNat).toList =
      (Int.range first (last + 1)).map .index := by
  rw [toList, rangeList_eq_map]
  by_cases h : first ≤ last + 1
  · rw [show first + ((last - first + 1).toNat : Int) = last + 1 by omega]
  · rw [Number.range_of_le (by omega), Number.range_of_le (by omega)]

/-! ## Memories -/

/-- The number that the `limit` of a loop is read as. -/
def limit? (params : Params) : Option Nat :=
  (params.get? "limit").bind fun text => Number.unsigned? text.toList

/-- The memories that a loop with these params runs over. -/
def limited (params : Params) (memories : List Memory) : List Memory :=
  match limit? params with
  | some n => memories.take n
  | none => memories

theorem ofHeader_memories {header : ForHeader} (h : header.iterable = .collection "memories")
    (context : Context) :
    ofHeader header context =
      .ok (values ((limited header.params context.memories).map .memory)) := by
  have hlimited : (limited header.params context.memories).map LoopValue.memory =
      match limit? header.params with
      | some n => (context.memories.map LoopValue.memory).take n
      | none => context.memories.map LoopValue.memory := by
    unfold limited
    cases limit? header.params with
    | none => rfl
    | some n => exact List.map_take
  rw [hlimited, ofHeader, h]
  rfl

section

variable {params : Params} {memories : List Memory}

/-- A limit that is not safe is not read; but no list of memories is that long. -/
theorem limited_of_isNaturalText {text : String} {n : Nat} (hget : params.get? "limit" = some text)
    (hlimit : IsNaturalText text.toList n) (hlength : memories.length ≤ Number.maxSafe) :
    limited params memories = memories.take n := by
  have hread : limit? params = Number.unsigned? text.toList := by
    rw [limit?, hget]
    rfl
  unfold limited
  rw [hread]
  cases hvalue : Number.unsigned? text.toList with
  | some m =>
    have hm := (Number.unsigned?_eq_some_iff.1 hvalue).1
    rw [hm.unique hlimit]
  | none =>
    have hbeyond : ¬ n ≤ Number.maxSafe := by
      intro hsafe
      rw [Number.unsigned?_eq_some_iff.2 ⟨hlimit, hsafe⟩] at hvalue
      cases hvalue
    have hlong : memories.length ≤ n := by omega
    exact (List.take_of_length_le hlong).symm

theorem limited_of_not_isNaturalText
    (h : ∀ text n, params.get? "limit" = some text → ¬ IsNaturalText text.toList n) :
    limited params memories = memories := by
  have hread : limit? params = none := by
    rw [limit?, Option.bind_eq_none_iff]
    intro text hget
    cases hvalue : Number.unsigned? text.toList with
    | none => rfl
    | some n => exact absurd (Number.unsigned?_eq_some_iff.1 hvalue).1 (h text n hget)
  unfold limited
  rw [hread]

end

/-! ## Headers -/

/-- **The items of a loop.** A range gives the safe integers from its first bound to its last, in
order and once each, which are those that a count in rounded numbers passes. The memories are cut
off behind as many as `limit` denotes and are all there if it denotes no number. The count that is
reported is how many items there are; beyond `2 ^ 53` it is off by two at most. -/
theorem ofHeader_of_parse {text : List Char} {header : ForHeader}
    (hread : parseForHeader text = .ok header) (context : Context) :
    (∀ first last, header.iterable = .range first last →
      ∃ items, ofHeader header context = .ok items ∧
        (∃ ns : List Int, items.toList = ns.map .index ∧ ns.Pairwise (· < ·) ∧
          (∀ n, n ∈ ns ↔ first ≤ n ∧ n ≤ last) ∧ (∀ n ∈ ns, Number.isSafe n = true) ∧
          ∀ ns', CountsUp last first ns' ↔ ns' = ns) ∧
        (items.toList.length ≤ 2 ^ 53 → items.reportedCount header = items.toList.length) ∧
        (items.reportedCount header - items.toList.length).natAbs ≤ 2) ∧
    (header.iterable = .collection "memories" → context.memories.length ≤ 2 ^ 32 - 1 →
      ∃ items, ofHeader header context = .ok items ∧
        (∀ limit n, header.params.get? "limit" = some limit → IsNaturalText limit.toList n →
          items.toList = (context.memories.take n).map .memory) ∧
        ((∀ limit n, header.params.get? "limit" = some limit → ¬ IsNaturalText limit.toList n) →
          items.toList = context.memories.map .memory) ∧
        items.reportedCount header = items.toList.length) := by
  refine ⟨fun first last hrange => ?_, fun hmemories hlength => ?_⟩
  · have hwell := ForHeader.iterable_wellFormed_of_parse hread
    rw [hrange] at hwell
    have hfirst : first.natAbs ≤ Number.maxSafe := hwell.1
    have hlast : last.natAbs ≤ Number.maxSafe := hwell.2.1
    have hitems : ofHeader header context = .ok (range first (last - first + 1).toNat) := by
      rw [ofHeader, hrange]
    have hcount : reportedCount header (range first (last - first + 1).toNat) =
        max 0 (Number.round (Number.round (last - first) + 1)) := by
      rw [reportedCount, hrange]
    refine ⟨_, hitems, ⟨_, toList_range first last, Number.pairwise_range _ _, fun n => ?_,
      fun n hn => ?_, fun ns' => Number.countsUp_iff hfirst hlast⟩, ?_, ?_⟩
    · rw [Int.mem_range_iff]
      omega
    · rw [Int.mem_range_iff] at hn
      rw [Number.isSafe, decide_eq_true_iff]
      omega
    · rw [← size_eq_length_toList, hcount]
      exact Number.max_round_eq_toNat
    · rw [← size_eq_length_toList, hcount]
      refine Number.natAbs_max_round_sub_toNat_le ?_
      unfold Number.maxSafe Number.significandEnd at hfirst hlast
      unfold Number.significandEnd
      omega
  · have hsafe : context.memories.length ≤ Number.maxSafe := hlength.trans (by decide)
    refine ⟨_, ofHeader_memories hmemories context, fun limit n hget hlimit => ?_, fun hnone => ?_,
      ?_⟩
    · exact congrArg (List.map LoopValue.memory) (limited_of_isNaturalText hget hlimit hsafe)
    · exact congrArg (List.map LoopValue.memory) (limited_of_not_isNaturalText hnone)
    · rw [← size_eq_length_toList, reportedCount, hmemories]

/-- A loop up to the greatest safe integer, and one over the memories with a limit that is not
safe. -/
theorem ofHeader_greatHeaders :
    let edge : ForHeader := ⟨"i", .range 9007199254740990 9007199254740991, Table.empty⟩
    let long : ForHeader :=
      ⟨"m", .collection "memories", Table.ofList [("limit", "+09007199254740993")]⟩
    let memory : Memory := ⟨"2025-01-15", "2025-01-15 14:30", "r"⟩
    let context : Context := { memories := [memory] }
    (parseForHeader "i in ( 9007199254740990 ..+9007199254740991)".toList = .ok edge ∧
      ∃ items, ofHeader edge context = .ok items ∧
        CountsUp 9007199254740991 9007199254740990 [9007199254740990, 9007199254740991] ∧
        items.toList = [.index 9007199254740990, .index 9007199254740991] ∧
        items.reportedCount edge = 2) ∧
    parseForHeader "m in memories limit:+09007199254740993".toList = .ok long ∧
      IsNaturalText "+09007199254740993".toList 9007199254740993 ∧
      ∃ items, ofHeader long context = .ok items ∧ items.toList = [.memory memory] ∧
        items.reportedCount long = 1 := by
  intro edge long memory context
  have hedge : parseForHeader "i in ( 9007199254740990 ..+9007199254740991)".toList = .ok edge := by
    decide +kernel
  have hlong : parseForHeader "m in memories limit:+09007199254740993".toList = .ok long := by
    decide +kernel
  have hlimit : IsNaturalText "+09007199254740993".toList 9007199254740993 :=
    .plus (Number.digits?_eq_some_iff.1 (by decide +kernel))
  obtain ⟨items, hitems, ⟨ns, hns, -, -, -, hcounts⟩, hcount, -⟩ :=
    (ofHeader_of_parse hedge context).1 _ _ rfl
  have hsteps := (hcounts _).1 (Number.countsUp_range (by decide) (by decide))
  have hrange : Int.range 9007199254740990 (9007199254740991 + 1) =
      [9007199254740990, 9007199254740991] := by decide
  rw [hrange] at hsteps
  subst hsteps
  obtain ⟨found, hfound, hcut, -, hfoundCount⟩ :=
    (ofHeader_of_parse hlong context).2 rfl (by decide)
  have hall := hcut _ _ rfl hlimit
  refine ⟨⟨hedge, items, hitems, (hcounts _).2 rfl, hns, ?_⟩, hlong, hlimit, found, hfound, ?_, ?_⟩
  · rw [hcount (by rw [hns]; decide), hns]
    rfl
  · rw [hall]
    rfl
  · rw [hfoundCount, hall]
    rfl

end LoopItems

end PromptTemplate
