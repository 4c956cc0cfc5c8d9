import PromptTemplate.Proofs.Number.IntegerText
import PromptTemplate.Proofs.Text.Cut
import PromptTemplate.Proofs.Time.Offset
/-!
# Loop indices in durations

A duration param that begins with the name of a loop index and a quote is read as the text with the
number of the index in their place, up to the quotes at its end (`interpolate_index`). So a date tag
with such params comes to what it comes to with the texts written out (`resolveTag_of_spells`). A
name that nothing binds is no name, and the param is read as it is written
(`paramDuration_of_unbound`).
-/

namespace PromptTemplate

open Number (intText)

/-- A param value with a loop variable in it, the text behind the number, and quotes at the end. -/
def quotedValue (v s : String) (quotes : Nat) : String :=
  v ++ "\"" ++ s ++ String.ofList (List.replicate quotes '"')

/-- The second param is the first, or it spells out the number of the loop index that stands in the
first. -/
inductive Spells (vars : LoopVars) : Option String → Option String → Prop
  | same (value : Option String) : Spells vars value value
  | index {v s : String} {n : Int} (quotes : Nat) (hv : '"' ∉ v.toList) (hs : '"' ∉ s.toList)
    (hbound : vars.get? v = some (.index n)) :
    Spells vars (some (quotedValue v s quotes)) (some (intText n ++ s))

/-! ## Values -/

theorem toList_quotedValue (v s : String) (quotes : Nat) :
    (quotedValue v s quotes).toList =
      v.toList ++ '"' :: (s.toList ++ List.replicate quotes '"') := by
  simp [quotedValue]

theorem dropEndQuotes_append {cs : List Char} (h : '"' ∉ cs) (quotes : Nat) :
    dropEndQuotes (cs ++ List.replicate quotes '"') = cs := by
  have hquotes : ∀ c ∈ List.replicate quotes '"', (c == '"') = true := by
    intro c hc
    rw [List.eq_of_mem_replicate hc]
    rfl
  have hrest : cs.reverse.dropWhile (· == '"') = cs.reverse := by
    cases hcs : cs.reverse with
    | nil => rfl
    | cons c rest =>
      have hmem : c ∈ cs := List.mem_reverse.1 (hcs ▸ List.mem_cons_self)
      have hc : (c == '"') = false := beq_eq_false_iff_ne.2 fun heq => h (heq ▸ hmem)
      rw [List.dropWhile_cons, hc]
      rfl
  rw [dropEndQuotes, List.reverse_append, List.reverse_replicate,
    List.dropWhile_append_of_pos hquotes, hrest, List.reverse_reverse]

theorem interpolate_of_quote_notMem {value : String} (h : '"' ∉ value.toList) (vars : LoopVars) :
    interpolate value vars = .ok value := by
  rw [interpolate, Text.cut?_singleton_eq_none_iff.2 h]

section

variable {v : String} (hv : '"' ∉ v.toList) {vars : LoopVars}

include hv

theorem interpolate_index {s : String} {n : Int} (hs : '"' ∉ s.toList)
    (hbound : vars.get? v = some (.index n)) (quotes : Nat) :
    interpolate (quotedValue v s quotes) vars = .ok (intText n ++ s) := by
  have hcut : Text.cut? ['"'] (quotedValue v s quotes).toList =
      some (v.toList, s.toList ++ List.replicate quotes '"') := by
    rw [toList_quotedValue]
    exact Text.cut?_singleton_append _ hv
  rw [interpolate, hcut]
  dsimp only
  rw [String.ofList_toList, hbound]
  dsimp only
  rw [dropEndQuotes_append hs, String.ofList_toList]

theorem interpolate_unbound (hbound : vars.get? v = none) (rest : String) :
    interpolate (v ++ "\"" ++ rest) vars = .ok (v ++ "\"" ++ rest) := by
  have hcut : Text.cut? ['"'] (v ++ "\"" ++ rest).toList = some (v.toList, rest.toList) := by
    rw [String.toList_append, String.toList_append, List.append_assoc]
    exact Text.cut?_singleton_append _ hv
  rw [interpolate, hcut]
  dsimp only
  rw [String.ofList_toList, hbound]

end

/-! ## Params -/

theorem quote_notMem_intText_append {s : String} (hs : '"' ∉ s.toList) (n : Int) :
    '"' ∉ (intText n ++ s).toList := by
  rw [String.toList_append, List.mem_append, not_or]
  exact ⟨Number.notMem_intText (by decide) (by decide) (by decide) n, hs⟩

section

variable {key : String} {params : Params} {vars : LoopVars}

theorem paramDuration_of_interpolate {value text : String} (hget : params.get? key = some value)
    (htext : interpolate value vars = .ok text) :
    paramDuration key params vars = parseDuration text.toList := by
  rw [paramDuration, hget]
  dsimp only
  rw [htext]
  rfl

theorem paramDuration_of_unbound {v rest : String} (hv : '"' ∉ v.toList)
    (hbound : vars.get? v = none) (hget : params.get? key = some (v ++ "\"" ++ rest)) :
    paramDuration key params vars = parseDuration (v ++ "\"" ++ rest).toList :=
  paramDuration_of_interpolate hget (interpolate_unbound hv hbound rest)

theorem Spells.paramDuration_eq {params' : Params}
    (h : Spells vars (params.get? key) (params'.get? key)) :
    paramDuration key params vars = paramDuration key params' vars := by
  generalize hvalue : params.get? key = value at h
  generalize hvalue' : params'.get? key = value' at h
  cases h with
  | same => rw [paramDuration, paramDuration, hvalue, hvalue']
  | @index v s n quotes hv hs hbound =>
    have hspelled := interpolate_of_quote_notMem (quote_notMem_intText_append hs n) vars
    rw [paramDuration_of_interpolate hvalue (interpolate_index hv hs hbound quotes),
      paramDuration_of_interpolate hvalue' hspelled]

end

/-! ## Tags -/

/-- A date tag is told by its two durations. -/
theorem resolveTag_congr {tag tag' : Tag} {format : Zone → Instant → String}
    (htag : tag.Writes format) (htag' : tag'.Writes format) {context context' : Context}
    (hminus : paramDuration "minus" tag.params context.loopVars =
      paramDuration "minus" tag'.params context'.loopVars)
    (hplus : paramDuration "plus" tag.params context.loopVars =
      paramDuration "plus" tag'.params context'.loopVars) (clock : Clock) :
    resolveTag tag context clock = resolveTag tag' context' clock := by
  have hoffset : dateOffset tag.params context.loopVars =
      dateOffset tag'.params context'.loopVars := by
    unfold dateOffset
    rw [hminus, hplus]
  rw [htag.resolveTag_eq, htag'.resolveTag_eq, movedInstant, movedInstant, hoffset]

theorem resolveTag_of_spells {tag tag' : Tag} {format : Zone → Instant → String}
    (htag : tag.Writes format) (htag' : tag'.Writes format) {context : Context}
    (hminus : Spells context.loopVars (tag.params.get? "minus") (tag'.params.get? "minus"))
    (hplus : Spells context.loopVars (tag.params.get? "plus") (tag'.params.get? "plus"))
    (clock : Clock) : resolveTag tag context clock = resolveTag tag' context clock :=
  resolveTag_congr htag htag' hminus.paramDuration_eq hplus.paramDuration_eq clock

end PromptTemplate
