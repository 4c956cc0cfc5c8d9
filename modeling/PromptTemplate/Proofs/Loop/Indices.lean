import PromptTemplate.Proofs.Loop.Items
import PromptTemplate.Proofs.Render.Written
import PromptTemplate.Proofs.Tag.Names
import PromptTemplate.Proofs.Time.DaysAgo
/-!
# Loops over dates

A loop between safe bounds whose date tag is moved by the loop variable comes to what the same tags
come to that have the numbers written out, one behind the other, and fails as the first of them that
fails (`result_render_movedDatesTemplate`): putting a loop index into a param is putting its text
there (`interpolation_spells`).
-/

namespace PromptTemplate

open Number (intText)
open Text (isBlank)

/-- A text without quotes, bars and blanks that closes no tag. -/
structure IsSnippet (text : String) : Prop where
  quote : '"' ∉ text.toList
  bar : '|' ∉ text.toList
  blank : ∀ c ∈ text.toList, isBlank c = false
  delimiter : ¬ closing <:+: text.toList

/-- The text can stand as the value of a param. -/
structure IsWritableValue (value : String) : Prop where
  unbroken : IsUnbroken value.toList
  bar : '|' ∉ value.toList
  delimiter : ¬ closing <:+: value.toList

/-- A template that shows the date moved back by a duration. -/
def movedDateTemplate (minus : String) : String := "\x7b% date minus=" ++ minus ++ " %\x7d"

/-- A template that shows the dates moved back by the numbers of a range, each with the text `s`
behind it. -/
def movedDatesTemplate (v s : String) (first last : Int) : String :=
  "\x7b% for " ++ v ++ " in (" ++ intText first ++ ".." ++ intText last ++ ") %\x7d" ++
    movedDateTemplate (quotedValue v s 1) ++ "\x7b% endfor %\x7d"

/-! ## Values -/

theorem IsSnippet.isUnbroken {text : String} (h : IsSnippet text) : IsUnbroken text.toList :=
  isUnbroken_of_forall fun c hc => ⟨fun heq => h.quote (heq ▸ hc), h.blank c hc⟩

theorem isWritableValue_intText_append {s : String} (hs : IsSnippet s) (n : Int) :
    IsWritableValue (intText n ++ s) := by
  have hbar : '|' ∉ (intText n).toList := Number.notMem_intText (by decide) (by decide) (by decide) n
  have hpercent : '%' ∉ (intText n).toList :=
    Number.notMem_intText (by decide) (by decide) (by decide) n
  constructor
  · rw [String.toList_append]
    exact (isUnbroken_of_isNumeral (Number.isNumeral_intText n)).append hs.isUnbroken
  · rw [String.toList_append, List.mem_append, not_or]
    exact ⟨hbar, hs.bar⟩
  · rw [String.toList_append]
    exact not_closing_infix_append_of_notMem hpercent hs.delimiter

theorem isWritableValue_quotedValue {v s : String} (hv : IsSnippet v) (hs : IsSnippet s) :
    IsWritableValue (quotedValue v s 1) := by
  have htext : (quotedValue v s 1).toList = v.toList ++ '"' :: (s.toList ++ '"' :: []) :=
    toList_quotedValue v s 1
  constructor
  · rw [htext]
    exact hv.isUnbroken.append (.quoted hs.quote .nil)
  · rw [htext]
    simpa using ⟨hv.bar, hs.bar⟩
  · rw [htext]
    have hbehind := not_closing_infix_append_cons (c := '"') (by decide) (by decide) hs.delimiter
      (not_closing_infix_of_notMem List.not_mem_nil)
    exact not_closing_infix_append_cons (by decide) (by decide) hv.delimiter hbehind

/-! ## Tags -/

theorem isBody_dateTag {minus : String} (h : IsWritableValue minus) :
    (Token.tag (dateTagWith "minus" minus)).IsBody (paramBody "date" "minus" minus) := by
  have hname : IsWord "date" := isWord_of_all (by decide) (by decide +kernel)
  have hkey : IsWord "minus" := isWord_of_all (by decide) (by decide +kernel)
  have hequals : '=' ∉ "minus".toList := by decide
  exact Token.isBody_paramBody hname (by decide) (by decide) (by decide)
    ⟨hkey, hequals, h.unbroken, h.bar⟩ h.delimiter

theorem result_render_movedDateTemplate {minus : String} (h : IsWritableValue minus)
    (engine : Engine) (context : Context) :
    (render engine context (movedDateTemplate minus)).result =
      (resolveTag (dateTagWith "minus" minus) context engine.clock).mapError .template := by
  have htext : (movedDateTemplate minus).toList = tagsText [paramBody "date" "minus" minus] := by
    unfold movedDateTemplate tagsText paramBody opening closing
    simp
  exact result_render_tag (isBody_dateTag h) rfl htext

/-- The tag in the loop is the tag with the number written out, which reads no loop variable. -/
theorem resolveTag_quotedValue {v s : String} (hv : '"' ∉ v.toList) (hs : '"' ∉ s.toList) (n : Int)
    (context : Context) (clock : Clock) :
    resolveTag (dateTagWith "minus" (quotedValue v s 1))
        (context.withVars (context.loopVars.insert v (.index n))) clock =
      resolveTag (dateTagWith "minus" (intText n ++ s)) context clock := by
  have hbound : (context.loopVars.insert v (.index n)).get? v = some (.index n) :=
    Table.get?_insert_self _ _ _
  have hspelled := interpolate_of_quote_notMem (quote_notMem_intText_append hs n) context.loopVars
  have hwrites (value : String) : (dateTagWith "minus" value).Writes formatDate := .date rfl
  have hget (value : String) : (dateTagWith "minus" value).params.get? "minus" = some value := rfl
  refine resolveTag_congr (hwrites _) (hwrites _) ?_ ?_ clock
  · exact (paramDuration_of_interpolate (hget _) (interpolate_index hv hs hbound 1)).trans
      (paramDuration_of_interpolate (hget _) hspelled).symm
  · rfl

/-! ## Loops -/

theorem isBody_rangeHeader {v : String} (hv : IsSnippet v) (hne : v ≠ "") {first last : Int}
    (hfirst : first.natAbs ≤ Number.maxSafe) (hlast : last.natAbs ≤ Number.maxSafe) :
    (Token.forStart ⟨v, .range first last, Table.empty⟩).IsBody
      (forBody v.toList (rangeText first last)) := by
  have hpercent (n : Int) : '%' ∉ (intText n).toList :=
    Number.notMem_intText (by decide) (by decide) (by decide) n
  have hends : Text.HasNoBlankEnds (rangeText first last) := by
    constructor
    · intro c hc
      cases hc
      decide
    · intro c hc
      have hparen : rangeText first last =
          '(' :: ((intText first).toList ++ '.' :: '.' :: (intText last).toList) ++ [')'] := by
        simp [rangeText]
      rw [hparen, List.getLast?_concat] at hc
      cases hc
      decide
  have hclosing : ¬ closing <:+: headerText v.toList (rangeText first last) := by
    refine not_closing_infix_append_cons (by decide) (by decide) hv.delimiter
      (not_closing_infix_of_notMem ?_)
    unfold rangeText
    simpa using ⟨hpercent first, hpercent last⟩
  have hbody := Token.isBody_forStart (fun hnil => hne (String.toList_injective hnil)) hv.blank
    (List.cons_ne_nil _ _) hends (parseItems_rangeText hfirst hlast) hclosing
  rwa [String.ofList_toList] at hbody

theorem result_render_movedDatesTemplate {v s : String} (hv : IsSnippet v) (hne : v ≠ "")
    (hs : IsSnippet s) {first last : Int} (hfirst : first.natAbs ≤ Number.maxSafe)
    (hlast : last.natAbs ≤ Number.maxSafe) (engine : Engine) (context : Context) :
    (render engine context (movedDatesTemplate v s first last)).result =
      (Logged.concat ((Int.range first (last + 1)).map fun n =>
        render engine context (movedDateTemplate (intText n ++ s)))).result := by
  have htext : (movedDatesTemplate v s first last).toList = tagsText
      [forBody v.toList (rangeText first last), paramBody "date" "minus" (quotedValue v s 1),
        " endfor ".toList] := by
    unfold movedDatesTemplate movedDateTemplate
    unfold tagsText forBody headerText rangeText paramBody opening closing
    simp
  have hitems : LoopItems.ofHeader ⟨v, .range first last, Table.empty⟩ context =
      .ok (.range first (last - first + 1).toNat) := rfl
  rw [result_render_loop (isBody_dateTag (isWritableValue_quotedValue hv hs)) rfl htext
    (isBody_rangeHeader hv hne hfirst hlast) hitems, LoopItems.toList_range, List.map_map]
  refine Logged.result_concat_congr ?_
  rw [List.map_map, List.map_map]
  refine List.map_congr_left fun n _ => ?_
  exact (congrArg (Except.mapError Failure.template)
    (resolveTag_quotedValue hv.quote hs.quote n context engine.clock)).trans
    (result_render_movedDateTemplate (isWritableValue_intText_append hs n) engine context).symm

theorem result_concat_range {run : Int → Logged Utf16} {first last n : Int} {failure : Failure}
    (hfirst : first ≤ n) (hlast : n ≤ last)
    (hbefore : ∀ k, first ≤ k → k < n → ∃ text, (run k).result = .ok text)
    (hrun : (run n).result = .error failure) :
    (Logged.concat ((Int.range first (last + 1)).map run)).result = .error failure := by
  have hmem : n ∈ Int.range first (last + 1) := by
    rw [Int.mem_range_iff]
    omega
  obtain ⟨before, after, hsplit⟩ := List.append_of_mem hmem
  have hsorted := Number.pairwise_range first (last + 1)
  rw [hsplit, List.pairwise_append] at hsorted
  rw [hsplit, List.map_append, List.map_cons]
  refine Logged.result_concat_of_error (List.forall_mem_map.2 fun k hk => ?_) hrun
  have hrange : k ∈ Int.range first (last + 1) := by
    rw [hsplit]
    exact List.mem_append_left _ hk
  rw [Int.mem_range_iff] at hrange
  exact hbefore k hrange.1 (hsorted.2.2 k hk n List.mem_cons_self)

theorem Tag.IsDated.exists_writes {tag : Tag} (h : tag.IsDated) :
    ∃ format, ∀ other : Tag, other.name = tag.name → other.Writes format := by
  rcases h with h | h
  · exact ⟨formatDate, fun other hname => .date (hname.trans h)⟩
  · exact ⟨formatDateTime, fun other hname => .datetime (hname.trans h)⟩

/-- **Loop indices in durations.** A date tag comes to the same, text or error, if the number of a
loop index is written out in its params. A loop between safe bounds whose date tag is moved by the
loop variable therefore comes to what those tags come to with the numbers written out, and fails as
the first of them that fails. A name that no loop binds is read as it is written. -/
theorem interpolation_spells :
    (∀ (context : Context) (clock : Clock) (tag tag' : Tag), tag.IsDated → tag'.name = tag.name →
      Spells context.loopVars (tag.params.get? "minus") (tag'.params.get? "minus") →
      Spells context.loopVars (tag.params.get? "plus") (tag'.params.get? "plus") →
      resolveTag tag context clock = resolveTag tag' context clock) ∧
    (∀ (engine : Engine) (context : Context) (v s : String) (first last : Int), IsSnippet v →
      v ≠ "" → IsSnippet s → first.natAbs ≤ Number.maxSafe → last.natAbs ≤ Number.maxSafe →
      let written n := render engine context (movedDateTemplate (intText n ++ s))
      let loop := render engine context (movedDatesTemplate v s first last)
      loop.result = (Logged.concat ((Int.range first (last + 1)).map written)).result ∧
        ∀ n failure, first ≤ n → n ≤ last →
          (∀ k, first ≤ k → k < n → ∃ text, (written k).result = .ok text) →
          (written n).result = .error failure → loop.result = .error failure) ∧
    ∀ (key : String) (params : Params) (vars : LoopVars) (v rest : String), '"' ∉ v.toList →
      vars.get? v = none → params.get? key = some (v ++ "\"" ++ rest) →
      paramDuration key params vars = parseDuration (v ++ "\"" ++ rest).toList := by
  refine ⟨fun context clock tag tag' hdated hname hminus hplus => ?_, ?_,
    fun key params vars v rest hv hbound hget => paramDuration_of_unbound hv hbound hget⟩
  · obtain ⟨format, hwrites⟩ := hdated.exists_writes
    exact resolveTag_of_spells (hwrites tag rfl) (hwrites tag' hname) hminus hplus clock
  · intro engine context v s first last hv hne hs hfirst hlast written loop
    have hloop := result_render_movedDatesTemplate hv hne hs hfirst hlast engine context
    exact ⟨hloop, fun n failure hle hle' hbefore hrun =>
      hloop.trans (result_concat_range hle hle' hbefore hrun)⟩

/-- Two params of a tag, a loop that fails at its second number, and a name that nothing binds. -/
theorem interpolation_spells_days :
    let engine : Engine := ⟨Pipes.default, ⟨8640000000000000, Zone.utc⟩⟩
    let context : Context := { loopVars := Table.ofList [("i", .index (-7))] }
    let short := offsetTag "datetime" (quotedValue "i" "d" 2) (quotedValue "i" "h" 0)
    let spelled := offsetTag "datetime" (intText (-7) ++ "d") (intText (-7) ++ "h")
    let written n := render engine context (movedDateTemplate (intText n ++ "d"))
    let loop := render engine context (movedDatesTemplate "day" "d" 104249991 104249992)
    let failure : Failure := .template
      (.invalidDuration "104249992d" .range "duration out of range: '104249992d'")
    short.IsDated ∧
      Spells context.loopVars (short.params.get? "minus") (spelled.params.get? "minus") ∧
      resolveTag short context engine.clock = resolveTag spelled context engine.clock ∧
      IsSnippet "day" ∧ IsSnippet "d" ∧ (∃ text, (written 104249991).result = .ok text) ∧
      (written 104249992).result = .error failure ∧ loop.result = .error failure ∧
      context.loopVars.get? "j" = none ∧
      paramDuration "minus" (offsetTag "date" "j\"d\"" "").params context.loopVars =
        parseDuration "j\"d\"".toList := by
  intro engine context short spelled written loop failure
  have hsnippet {text : String} (h : IsWord text) (hpercent : '%' ∉ text.toList) : IsSnippet text :=
    ⟨h.quote, h.bar, h.blank, not_closing_infix_of_notMem hpercent⟩
  have hdayWord : IsWord "day" := isWord_of_all (by decide) (by decide +kernel)
  have hdWord : IsWord "d" := isWord_of_all (by decide) (by decide +kernel)
  have hday := hsnippet hdayWord (by decide)
  have hd := hsnippet hdWord (by decide)
  obtain ⟨htags, hloops, hunbound⟩ := interpolation_spells
  have hminus : Spells context.loopVars (short.params.get? "minus") (spelled.params.get? "minus") :=
    .index (v := "i") (s := "d") 2 (by decide) (by decide) rfl
  have hplus : Spells context.loopVars (short.params.get? "plus") (spelled.params.get? "plus") :=
    .index (v := "i") (s := "h") 0 (by decide) (by decide) rfl
  have hfirst : (written 104249991).result = .ok ("-9667-12-03" : Utf16) :=
    eq_ok_of_toOption (by decide +kernel)
  have hsecond : (written 104249992).result = .error failure := by
    have htext : intText 104249992 ++ "d" = "104249992d" := by decide +kernel
    have hms : paramDuration "minus" (dateTagWith "minus" "104249992d").params context.loopVars =
        .error (.invalidDuration "104249992d" .range "duration out of range: '104249992d'") := rfl
    have hwrites : (dateTagWith "minus" "104249992d").Writes formatDate := .date rfl
    have hvalue := isWritableValue_intText_append hd 104249992
    refine (result_render_movedDateTemplate hvalue engine context).trans ?_
    rw [htext, hwrites.resolveTag_of_offset_error context _ (dateOffset_of_minus_error hms)]
    rfl
  obtain ⟨-, hfail⟩ :=
    hloops engine context "day" "d" 104249991 104249992 hday (by decide) hd (by decide) (by decide)
  refine ⟨.inr rfl, hminus, htags context engine.clock short spelled (.inr rfl) rfl hminus hplus,
    hday, hd, ⟨_, hfirst⟩, hsecond, hfail 104249992 failure (by decide) (by decide) ?_ hsecond, rfl,
    hunbound "minus" _ context.loopVars "j" "d\"" (by decide) rfl rfl⟩
  intro k hle hlt
  obtain rfl : k = 104249991 := by omega
  exact ⟨_, hfirst⟩

end PromptTemplate
