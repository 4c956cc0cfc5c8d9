import PromptTemplate.Proofs.Loop.Items
import PromptTemplate.Proofs.Render.Written
/-!
# Memories by loop and by tag

The loop takes the memories from the newest on and counts none of them; the tag counts back from
`1`, which is the newest, and `0` is another word for it. They show the same: a loop with a limit
shows what the tags up to that limit show, one behind the other, and a tag that leads behind the
oldest memory fails (`result_render_memoriesTemplate`).
-/

namespace PromptTemplate

open Number (IsNaturalText IsNumeral natText)

/-- A template that shows the newest memory. -/
def newestTemplate : String := "\x7b% memory %\x7d"

/-- A template that shows the memory so far back. -/
def memoryTemplate (minus : String) : String := "\x7b% memory minus=" ++ minus ++ " %\x7d"

/-- A template that shows the memories up to a limit, each by this tag. -/
def memoriesTemplate (limit shown : String) : String :=
  "\x7b% for m in memories limit:" ++ limit ++ " %\x7d\x7b% " ++ shown ++ " %\x7d\x7b% endfor %\x7d"

theorem isWritable_of_isNumeral {key value : String} (hkey : IsWord key)
    (hequals : '=' ∉ key.toList) (hvalue : IsNumeral value.toList) : IsWritable (key, value) :=
  ⟨hkey, hequals, isUnbroken_of_isNumeral hvalue,
    hvalue.notMem (by decide) (by decide) (by decide)⟩

/-! ## The tag -/

/-- What a memory tag comes to that leads so far behind the newest memory. -/
def memoryOutcome (context : Context) (offset : Nat) : Except TemplateError Utf16 :=
  match context.memories[offset]? with
  | some memory => .ok memory.result
  | none => .error (.memoryOutOfRange offset context.memories.length)

section

variable {context : Context} {offset : Nat}

theorem memoryOutcome_of_getElem? {memory : Memory} (h : context.memories[offset]? = some memory) :
    memoryOutcome context offset = .ok memory.result := by
  rw [memoryOutcome, h]

theorem memoryOutcome_of_length_le (h : context.memories.length ≤ offset) :
    memoryOutcome context offset = .error (.memoryOutOfRange offset context.memories.length) := by
  rw [memoryOutcome, List.getElem?_eq_none h]

end

theorem resolveTag_memory {params : Params} {offset : Nat} (h : memoryOffset params = .ok offset)
    (context : Context) (clock : Clock) :
    resolveTag ⟨"memory", params, none⟩ context clock = memoryOutcome context offset := by
  have hname : Reference.ofName "memory" = .builtin .memory := by decide
  unfold resolveTag
  rw [hname]
  dsimp only [resolveBuiltin]
  rw [resolveMemory, h, memoryOutcome]
  show (match context.memories[offset]? with
    | some memory => Except.ok memory
    | none => .error _) >>= _ = _
  cases context.memories[offset]? <;> rfl

theorem memoryOffset_of_isNaturalText {minus : String} {k : Nat} (h : IsNaturalText minus.toList k)
    (hsafe : k ≤ Number.maxSafe) :
    memoryOffset (Table.ofList [("minus", minus)]) = .ok (k - 1) := by
  have hget : (Table.ofList [("minus", minus)]).get? "minus" = some minus := rfl
  rw [memoryOffset, hget]
  dsimp only
  rw [Number.unsigned?_eq_some_iff.2 ⟨h, hsafe⟩]

theorem result_render_newestTemplate (engine : Engine) (context : Context) :
    (render engine context newestTemplate).result =
      (memoryOutcome context 0).mapError .template := by
  have hname : IsWord "memory" := isWord_of_all (by decide) (by decide +kernel)
  have hbody := Token.isBody_wordBody hname (by decide) (by decide) (by decide)
  have htext : newestTemplate.toList = tagsText [wordBody "memory"] := by decide +kernel
  rw [result_render_tag hbody rfl htext, resolveTag_memory rfl]

theorem result_render_memoryTemplate {minus : String} {k : Nat} (h : IsNaturalText minus.toList k)
    (hsafe : k ≤ Number.maxSafe) (engine : Engine) (context : Context) :
    (render engine context (memoryTemplate minus)).result =
      (memoryOutcome context (k - 1)).mapError .template := by
  have hname : IsWord "memory" := isWord_of_all (by decide) (by decide +kernel)
  have hkey : IsWord "minus" := isWord_of_all (by decide) (by decide +kernel)
  have hpercent : '%' ∉ minus.toList := h.isNumeral.notMem (by decide) (by decide) (by decide)
  have hbody := Token.isBody_paramBody hname (by decide) (by decide) (by decide)
    (isWritable_of_isNumeral hkey (by decide) h.isNumeral) (not_closing_infix_of_notMem hpercent)
  have htext : (memoryTemplate minus).toList = tagsText [paramBody "memory" "minus" minus] := by
    unfold memoryTemplate tagsText paramBody opening closing
    simp
  rw [result_render_tag hbody rfl htext,
    resolveTag_memory (memoryOffset_of_isNaturalText h hsafe)]

/-! ## The loop -/

/-- The tag shows a memory that the loop variable is bound to. -/
def ShowsMemory (shown : String) : Prop := shown = "m" ∨ shown = "m.result"

theorem ShowsMemory.isBody {shown : String} (h : ShowsMemory shown) :
    (Token.tag ⟨shown, Table.empty, none⟩).IsBody (wordBody shown) := by
  rcases h with rfl | rfl
  · have hword : IsWord "m" := isWord_of_all (by decide) (by decide +kernel)
    exact Token.isBody_wordBody hword (by decide) (by decide) (by decide)
  · have hword : IsWord "m.result" := isWord_of_all (by decide) (by decide +kernel)
    exact Token.isBody_wordBody hword (by decide) (by decide) (by decide)

theorem ShowsMemory.resolveTag_eq {shown : String} (h : ShowsMemory shown) (context : Context)
    (memory : Memory) (clock : Clock) :
    resolveTag ⟨shown, Table.empty, none⟩
        (context.withVars (context.loopVars.insert "m" (.memory memory))) clock =
      .ok memory.result := by
  have hbound : (context.withVars (context.loopVars.insert "m"
      (.memory memory))).loopVars.get? "m" = some (.memory memory) := Table.get?_insert_self _ _ _
  unfold resolveTag
  rcases h with rfl | rfl
  · have hname : Reference.ofName "m" = .loopVar "m" := by decide
    rw [hname]
    dsimp only
    rw [hbound]
    rfl
  · have hname : Reference.ofName "m.result" = .loopField "m" "result" := by decide
    rw [hname]
    dsimp only [resolveField]
    rw [hbound]
    rfl

/-- The head of the loop. -/
def memoriesHeader (limit : String) : ForHeader :=
  ⟨"m", .collection "memories", Table.ofList [("limit", limit)]⟩

/-- The items of the loop as they are written. -/
def memoriesText (limit : String) : List Char :=
  "memories".toList ++ ([' '] ++ ("limit".toList ++ ':' :: limit.toList ++ []))

theorem isBody_memoriesHeader {limit : String} (h : IsNumeral limit.toList) :
    (Token.forStart (memoriesHeader limit)).IsBody (forBody ['m'] (memoriesText limit)) := by
  have hword : IsWord "memories" := isWord_of_all (by decide) (by decide +kernel)
  have hwritten : WrittenParams [("limit", limit)]
      ([' '] ++ ("limit".toList ++ ':' :: limit.toList ++ [])) :=
    .cons (isGap_singleton rfl)
      (.colon "limit" limit (by decide) (h.notMem (by decide) (by decide) (by decide))) .nil
  have hparams : ∀ param ∈ [("limit", limit)], IsWritable param :=
    List.forall_mem_singleton.2 (isWritable_of_isNumeral
      (isWord_of_all (by decide) (by decide +kernel)) (by decide) h)
  have hclosing : ¬ closing <:+: headerText ['m'] (memoriesText limit) := by
    refine not_closing_infix_of_notMem ?_
    unfold headerText memoriesText
    simpa using h.notMem (c := '%') (by decide) (by decide) (by decide)
  exact Token.isBody_forStart (by decide) (List.forall_mem_singleton.2 (by decide))
    (List.append_ne_nil_of_left_ne_nil (by decide) _)
    (hwritten.hasNoBlankEnds_word_append hparams hword)
    (parseItems_collection hword (by decide) hwritten hparams) hclosing

theorem result_render_memoriesTemplate_eq_concat {limit shown : String} {n : Nat}
    (hlimit : IsNaturalText limit.toList n) (hshown : ShowsMemory shown) (engine : Engine)
    {context : Context} (hlength : context.memories.length ≤ Number.maxSafe) :
    (render engine context (memoriesTemplate limit shown)).result =
      (Logged.concat ((context.memories.take n).map fun memory =>
        Logged.ofExcept (.ok memory.result))).result := by
  have htext : (memoriesTemplate limit shown).toList = tagsText
      [forBody ['m'] (memoriesText limit), wordBody shown, " endfor ".toList] := by
    unfold memoriesTemplate tagsText forBody headerText memoriesText wordBody opening closing
    simp
  have hitems : LoopItems.ofHeader (memoriesHeader limit) context =
      .ok (.values ((context.memories.take n).map .memory)) := by
    rw [LoopItems.ofHeader_memories rfl, LoopItems.limited_of_isNaturalText rfl hlimit hlength]
  rw [result_render_loop hshown.isBody rfl htext (isBody_memoriesHeader hlimit.isNumeral) hitems,
    LoopItems.toList, List.map_map]
  refine Logged.result_concat_congr ?_
  rw [List.map_map, List.map_map]
  refine List.map_congr_left fun memory _ => ?_
  exact congrArg (Except.mapError Failure.template)
    (hshown.resolveTag_eq context memory engine.clock)

/-- **Memories by loop and by tag.** A loop with a limit of `n` shows what the tags that lead back
by `1` up to `n` show one by one, as far as there are memories. No `minus` and a `minus` of `0` are
a `minus` of `1`, and a tag that leads behind the last memory fails with the offset from the newest
and the number of memories. -/
theorem result_render_memoriesTemplate (engine : Engine) (context : Context) :
    let memories := context.memories
    let outcome template := (render engine context template).result
    (∀ limit n shown, memories.length ≤ Number.maxSafe → IsNaturalText limit.toList n →
      ShowsMemory shown →
      outcome (memoriesTemplate limit shown) =
        (Logged.concat ((List.range' 1 (min n memories.length)).map fun k =>
          render engine context (memoryTemplate (natText k)))).result) ∧
    (∀ minus k, IsNaturalText minus.toList k → k ≤ Number.maxSafe →
      (∀ memory, memories[max k 1 - 1]? = some memory →
        outcome (memoryTemplate minus) = .ok memory.result) ∧
      (memories.length < k ∨ memories.length = 0 →
        outcome (memoryTemplate minus) =
          .error (.template (.memoryOutOfRange (max k 1 - 1 : Nat) memories.length)))) ∧
    outcome newestTemplate = outcome (memoryTemplate "1") ∧
      outcome (memoryTemplate "0") = outcome (memoryTemplate "1") := by
  intro memories outcome
  have hback {minus : String} {k : Nat} (h : IsNaturalText minus.toList k)
      (hsafe : k ≤ Number.maxSafe) :
      outcome (memoryTemplate minus) = (memoryOutcome context (k - 1)).mapError .template :=
    result_render_memoryTemplate h hsafe engine context
  have hzeroText : IsNaturalText "0".toList 0 := .plain (Number.digits?_eq_some_iff.1 rfl)
  have honeText : IsNaturalText "1".toList 1 := .plain (Number.digits?_eq_some_iff.1 rfl)
  have hzero := hback hzeroText (Nat.zero_le _)
  have hone := hback honeText (by decide)
  refine ⟨fun limit n shown hlength hlimit hshown => ?_, fun minus k hminus hsafe => ?_, ?_, ?_⟩
  · show (render engine context (memoriesTemplate limit shown)).result = _
    rw [result_render_memoriesTemplate_eq_concat hlimit hshown engine hlength]
    refine Logged.result_concat_congr (List.ext_getElem (by simp [memories]) fun i hi hi' => ?_)
    simp only [List.length_map, List.length_range'] at hi'
    simp only [List.getElem_map, List.getElem_take, List.getElem_range', Nat.one_mul]
    -- The item at `i` is the memory that the tag with `1 + i` leads back to.
    have hmemory : memories[1 + i - 1]? = some memories[i] := by
      rw [Nat.add_sub_cancel_left]
      exact List.getElem?_eq_getElem (by omega)
    have htag := hback (Number.isNaturalText_natText (1 + i)) (by omega)
    rw [memoryOutcome_of_getElem? hmemory] at htag
    exact htag.symm
  · have hoffset : max k 1 - 1 = k - 1 := by omega
    rw [hoffset, hback hminus hsafe]
    constructor
    · intro memory hmemory
      rw [memoryOutcome_of_getElem? hmemory]
      rfl
    · intro hbeyond
      rw [memoryOutcome_of_length_le (show memories.length ≤ k - 1 by omega)]
      rfl
  · exact (result_render_newestTemplate engine context).trans hone.symm
  · exact hzero.trans hone.symm

/-- Two memories, a limit behind the last of them and one before it, and a tag that leads
further. -/
theorem result_render_twoMemories :
    let engine : Engine := ⟨Pipes.default, ⟨0, Zone.utc⟩⟩
    let memory (text : String) : Memory := ⟨"2025-01-15", "2025-01-15 14:30", text⟩
    let context : Context := { memories := [memory "a", memory "b"] }
    let outcome template := (render engine context template).result
    context.memories.length ≤ Number.maxSafe ∧ IsNaturalText "+01".toList 1 ∧
      IsNaturalText "7".toList 7 ∧ ShowsMemory "m" ∧ ShowsMemory "m.result" ∧
      outcome (memoriesTemplate "+01" "m.result") =
        (Logged.concat ((List.range' 1 (min 1 2)).map fun k =>
          render engine context (memoryTemplate (natText k)))).result ∧
      outcome (memoriesTemplate "7" "m") =
        (Logged.concat ((List.range' 1 (min 7 2)).map fun k =>
          render engine context (memoryTemplate (natText k)))).result ∧
      outcome (memoryTemplate "7") = .error (.template (.memoryOutOfRange 6 2)) ∧
      outcome newestTemplate = .ok ("a" : Utf16) := by
  intro engine memory context outcome
  have hlength : context.memories.length ≤ Number.maxSafe := by decide
  have hone : IsNaturalText "+01".toList 1 := .plus (Number.digits?_eq_some_iff.1 rfl)
  have hseven : IsNaturalText "7".toList 7 := .plain (Number.digits?_eq_some_iff.1 rfl)
  have hfirst : IsNaturalText "1".toList 1 := .plain (Number.digits?_eq_some_iff.1 rfl)
  obtain ⟨hloop, htag, hnewest, -⟩ := result_render_memoriesTemplate engine context
  refine ⟨hlength, hone, hseven, .inl rfl, .inr rfl,
    hloop "+01" 1 "m.result" hlength hone (.inr rfl), hloop "7" 7 "m" hlength hseven (.inl rfl),
    (htag "7" 7 hseven (by decide)).2 (.inl (by decide)), ?_⟩
  exact hnewest.trans ((htag "1" 1 hfirst (by decide)).1 (memory "a") rfl)

end PromptTemplate
