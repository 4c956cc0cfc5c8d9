import PromptTemplate.Proofs.Render.Visits
import PromptTemplate.Proofs.Text.Utf16
import PromptTemplate.Proofs.Time.Interpolation
import PromptTemplate.Proofs.Time.WrittenTime
/-!
# Days ago

A date tag can be moved by days in three ways: back by a number of days, on by the opposite number,
or back by the number of a loop index (`Tag.LeadsBack`). In a zone that keeps its offset the date
that it shows is that many dates before today, and a loop over such tags lists the dates one by one.
Where the offset changes by no more than a day, the date is off by one at most
(`resolveTag_daysAgo`).
-/

namespace PromptTemplate

open Number (intText)
open Text (cutLastUnit?)

/-! ## Durations of days -/

/-- The text of a number of days. -/
def daysText (n : Int) : String := intText n ++ "d"

theorem isDurationMs_daysText {n : Int} (h : (n * msPerDay).natAbs ≤ Number.maxSafe) :
    IsDurationMs (daysText n).toList (n * msPerDay) := by
  have hn : n.natAbs ≤ Number.maxSafe := by
    rw [Int.natAbs_mul] at h
    exact Nat.le_trans (Nat.le_mul_of_pos_right _ (by decide)) h
  have hcut : cutLastUnit? (daysText n).toList = some ((intText n).toList, 'd') := by
    rw [daysText, String.toList_append]
    exact Text.cutLastUnit?_concat (intText n).toList 'd'
  exact .mk hcut (Number.signed?_intText hn) rfl h

theorem quote_notMem_daysText (n : Int) : '"' ∉ (daysText n).toList :=
  quote_notMem_intText_append (by decide) n

theorem interpolate_days {v : String} (hv : '"' ∉ v.toList) {vars : LoopVars} {n : Int}
    (hbound : vars.get? v = some (.index n)) :
    interpolate (v ++ "\"d\"") vars = .ok (daysText n) := by
  have hvalue : v ++ "\"d\"" = quotedValue v "d" 1 :=
    String.toList_injective (by simp [quotedValue])
  rw [hvalue]
  exact interpolate_index hv (by decide) hbound 1

/-! ## Tags -/

/-- A date tag with one param. -/
def dateTagWith (key value : String) : Tag := ⟨"date", Table.ofList [(key, value)], none⟩

/-- A date tag without params. -/
def todayTag : Tag := ⟨"date", Table.empty, none⟩

/-- The tag is written as one that leads so many days back: by the days themselves, on by their
opposite, or by a loop variable that is bound to them. -/
inductive Tag.LeadsBack (vars : LoopVars) (n : Int) : Tag → Prop
  | minus : LeadsBack vars n (dateTagWith "minus" (daysText n))
  | plus : LeadsBack vars n (dateTagWith "plus" (daysText (-n)))
  | index (v : String) (hv : '"' ∉ v.toList) (hbound : vars.get? v = some (.index n)) :
    LeadsBack vars n (dateTagWith "minus" (v ++ "\"d\""))

theorem Tag.LeadsBack.writes {vars : LoopVars} {n : Int} {tag : Tag} (h : tag.LeadsBack vars n) :
    tag.Writes formatDate := by
  cases h <;> exact .date rfl

theorem Tag.LeadsBack.dateOffset_eq {vars : LoopVars} {n : Int} {tag : Tag}
    (h : tag.LeadsBack vars n) (hn : (n * msPerDay).natAbs ≤ Number.maxSafe) :
    dateOffset tag.params vars = .ok (-(n * msPerDay)) := by
  have hms := isDurationMs_daysText hn
  cases h with
  | minus =>
    have htext := interpolate_of_quote_notMem (quote_notMem_daysText n) vars
    rw [dateOffset_eq_sub (.present rfl htext hms) (.absent rfl), Int.zero_sub]
  | plus =>
    have htext := interpolate_of_quote_notMem (quote_notMem_daysText (-n)) vars
    have hms := isDurationMs_daysText (n := -n) (by rwa [Int.neg_mul, Int.natAbs_neg])
    rw [dateOffset_eq_sub (.absent rfl) (.present rfl htext hms), Int.neg_mul, Int.sub_zero]
  | index v hv hbound =>
    have htext := interpolate_days hv hbound
    rw [dateOffset_eq_sub (.present rfl htext hms) (.absent rfl), Int.zero_sub]

/-- The day that it is locally. -/
def localDay (zone : Zone) (t : Instant) : Int := (t + zone.offsetAt t * msPerMinute) / msPerDay

theorem formatDate_localDay {t : Instant} (h : t.natAbs ≤ maxInstant) (zone : Zone) :
    formatDate zone t = dateText (Date.ofDay (localDay zone t)) :=
  formatDate_of_isDatable h zone

theorem resolveTag_todayTag {clock : Clock} (hnow : clock.now.natAbs ≤ maxInstant)
    (context : Context) :
    resolveTag todayTag context clock =
      .ok (dateText (Date.ofDay (localDay clock.zone clock.now)) : Utf16) := by
  have hwrites : todayTag.Writes formatDate := .date rfl
  have hoffset : dateOffset todayTag.params context.loopVars = .ok (0 - 0) :=
    dateOffset_eq_sub (.absent rfl) (.absent rfl)
  rw [hwrites.resolveTag_of_offset context (isDatable_iff.2 hnow) hoffset,
    if_pos (isDatable_iff.2 (by simpa using hnow)), Int.sub_self, Int.add_zero,
    formatDate_localDay hnow]

/-- The number of days can be written, and there is a date so many days back. -/
structure CanLeadBack (now : Instant) (n : Int) : Prop where
  safe : (n * msPerDay).natAbs ≤ Number.maxSafe
  datable : (now - n * msPerDay).natAbs ≤ maxInstant

theorem Tag.LeadsBack.resolveTag_eq {context : Context} {n : Int} {tag : Tag}
    (h : tag.LeadsBack context.loopVars n) {clock : Clock} (hnow : clock.now.natAbs ≤ maxInstant)
    (hn : CanLeadBack clock.now n) :
    resolveTag tag context clock =
      .ok (dateText (Date.ofDay (localDay clock.zone (clock.now - n * msPerDay))) : Utf16) := by
  have hmoved : clock.now + -(n * msPerDay) = clock.now - n * msPerDay := Int.sub_eq_add_neg.symm
  rw [h.writes.resolveTag_of_offset context (isDatable_iff.2 hnow) (h.dateOffset_eq hn.safe),
    hmoved, if_pos (isDatable_iff.2 hn.datable), formatDate_localDay hn.datable]

theorem localDay_sub {zone : Zone} {t : Instant} {n : Int}
    (h : zone.offsetAt (t - n * msPerDay) = zone.offsetAt t) :
    localDay zone (t - n * msPerDay) = localDay zone t - n := by
  unfold localDay
  rw [h]
  unfold msPerDay msPerMinute
  generalize zone.offsetAt t = offset
  omega

theorem localDay_sub_near {zone : Zone} {t : Instant} {n : Int}
    (h : (zone.offsetAt (t - n * msPerDay) - zone.offsetAt t).natAbs ≤ 1440) :
    (localDay zone (t - n * msPerDay) - (localDay zone t - n)).natAbs ≤ 1 := by
  unfold localDay
  generalize zone.offsetAt (t - n * msPerDay) = offset' at *
  generalize zone.offsetAt t = offset at *
  unfold msPerDay msPerMinute
  omega

/-! ## Loops -/

/-- So many dates, from that of a day back. -/
def Date.back (day : Int) : Nat → List Date
  | 0 => []
  | count + 1 => ofDay day :: back (day - 1) count

@[simp] theorem Date.length_back (day : Int) (count : Nat) : (back day count).length = count := by
  induction count generalizing day with
  | zero => rfl
  | succ count ih => rw [back, List.length_cons, ih]

theorem Date.eq_of_mem_head?_back {day : Int} {count : Nat} {date : Date}
    (h : date ∈ (back day count).head?) : date = ofDay day := by
  cases count with
  | zero => cases h
  | succ count => exact (Option.some.inj h).symm

/-- A list of dates goes back date by date, without a gap or a repetition. -/
theorem Date.isChain_back (day : Int) (count : Nat) :
    (back day count).IsChain fun date before => date = before.next := by
  induction count generalizing day with
  | zero => exact .nil
  | succ count ih =>
    cases count with
    | zero => exact .singleton _
    | succ count =>
      refine .cons_cons ?_ (ih (day - 1))
      rw [← ofDay_succ, Int.sub_add_cancel]

/-- A loop over a range that shows the date of as many days ago as its variable says, each with a
text behind it. -/
def datesLoop (v : String) (first last : Int) (params : Params) (behind : String) : Block :=
  .loop ⟨v, .range first last, params⟩
    [.tag (dateTagWith "minus" (v ++ "\"d\"")), .literal behind]

theorem result_renderAll_dateBody {engine : Engine} {context : Context} {tag : Tag} {text : String}
    (htag : resolveTag tag context engine.clock = .ok (text : Utf16)) (hpipe : tag.pipe = none)
    (behind : String) :
    (Block.renderAll engine context [.tag tag, .literal behind]).result =
      .ok ((text ++ behind : String) : Utf16) := by
  have hrun : (renderTag engine context tag).result = .ok (text : Utf16) := by
    rw [renderTag, htag, hpipe]
    rfl
  rw [Block.renderAll, Block.render, Block.renderAll, Block.render, Block.renderAll,
    Logged.append_empty, Logged.result_append, hrun, Utf16.ofString_append]
  rfl

theorem result_concat_rangeList {run : LoopValue → Logged Utf16} {day first : Int} {count : Nat}
    {behind : String}
    (h : ∀ n, first ≤ n → n < first + count → (run (.index n)).result =
      .ok ((dateText (Date.ofDay (day - n)) ++ behind : String) : Utf16)) :
    (Logged.concat ((LoopItems.rangeList first count).map run)).result =
      .ok (String.join ((Date.back (day - first) count).map fun date =>
        dateText date ++ behind) : Utf16) := by
  induction count generalizing first with
  | zero => rfl
  | succ count ih =>
    have hfirst := h first (Int.le_refl first) (by omega)
    have hrest := @ih (first + 1) fun n hle hlt => h n (by omega) (by omega)
    rw [← Int.sub_sub] at hrest
    rw [LoopItems.rangeList, List.map_cons, Logged.concat_cons, Logged.result_append, hfirst, hrest,
      Date.back, List.map_cons, String.join_cons, Utf16.ofString_append _ (String.join _)]
    rfl

theorem result_renderTokens_datesLoop {engine : Engine} {minutes : Int}
    (hzone : engine.clock.zone = Zone.fixed minutes)
    (hnow : engine.clock.now.natAbs ≤ maxInstant) {v : String} (hv : '"' ∉ v.toList)
    {first last : Int} (hback : ∀ n, first ≤ n → n ≤ last → CanLeadBack engine.clock.now n)
    (context : Context) (params : Params) (behind : String) :
    (renderTokens engine context (datesLoop v first last params behind).tokens).result =
      .ok (String.join ((Date.back (localDay engine.clock.zone engine.clock.now - first)
        (last - first + 1).toNat).map fun date => dateText date ++ behind) : Utf16) := by
  have htree := renderTokens_tokens_append engine (datesLoop v first last params behind) context []
  rw [List.append_nil, renderTokens_nil, Logged.append_empty] at htree
  have hitems : LoopItems.ofHeader ⟨v, .range first last, params⟩ context =
      .ok (.range first (last - first + 1).toNat) := rfl
  rw [htree, datesLoop, Block.render, result_renderLoop hitems]
  refine result_concat_rangeList fun n hle hlt => ?_
  have hbound : (context.loopVars.insert v (.index n)).get? v = some (.index n) := by
    rw [Table.get?_insert, if_pos rfl]
  have htag : (dateTagWith "minus" (v ++ "\"d\"")).LeadsBack
      (context.withVars (context.loopVars.insert v (.index n))).loopVars n := .index v hv hbound
  have hresolve := htag.resolveTag_eq hnow (hback n hle (by omega))
  rw [localDay_sub (by rw [hzone]; rfl)] at hresolve
  exact result_renderAll_dateBody hresolve rfl behind

/-- **Days ago.** Today's date is what the plain tag shows, and a tag that leads `n` days back shows
the date `n` before it by any count of the dates, if the zone has the same offset then; if the
offset was different by a day at most, the date is off by one at most. In a zone of one offset, a
loop over such tags therefore lists the dates one by one, back from the first. -/
theorem resolveTag_daysAgo {clock : Clock} (hnow : clock.now.natAbs ≤ maxInstant)
    {count : Date → Int} (hcount : Date.IsCount count) :
    ∃ today : Date, today.IsValid ∧
      (∀ context, resolveTag todayTag context clock = .ok (dateText today : Utf16)) ∧
      (∀ (context : Context) (n : Int) (tag : Tag), tag.LeadsBack context.loopVars n →
        CanLeadBack clock.now n →
        ∃ date : Date, date.IsValid ∧ resolveTag tag context clock = .ok (dateText date : Utf16) ∧
          let offset' := clock.zone.offsetAt (clock.now - n * msPerDay)
          let offset := clock.zone.offsetAt clock.now
          (offset' = offset → count date = count today - n) ∧
          ((offset' - offset).natAbs ≤ 1440 → (count date - (count today - n)).natAbs ≤ 1)) ∧
      ∀ (minutes : Int) (pipes : Pipes) (context : Context) (v : String) (first last : Int)
        (params : Params) (behind : String), clock.zone = Zone.fixed minutes → '"' ∉ v.toList →
        (∀ n, first ≤ n → n ≤ last → CanLeadBack clock.now n) →
        ∃ dates : List Date, dates.length = (last - first + 1).toNat ∧
          (∀ date ∈ dates.head?, date.IsValid ∧ count date = count today - first) ∧
          dates.IsChain (fun date before => date = before.next) ∧
          (renderTokens ⟨pipes, clock⟩ context
              (datesLoop v first last params behind).tokens).result =
            .ok (String.join (dates.map fun date => dateText date ++ behind) : Utf16) := by
  have hcount (d : Int) : count (Date.ofDay d) = d := by
    rw [hcount.eq_day (Date.isValid_ofDay d), Date.day_ofDay]
  refine ⟨Date.ofDay (localDay clock.zone clock.now), Date.isValid_ofDay _,
    resolveTag_todayTag hnow, ?_, ?_⟩
  · intro context n tag htag hn
    refine ⟨Date.ofDay (localDay clock.zone (clock.now - n * msPerDay)), Date.isValid_ofDay _,
      htag.resolveTag_eq hnow hn, ?_⟩
    rw [hcount, hcount]
    exact ⟨localDay_sub, localDay_sub_near⟩
  · intro minutes pipes context v first last params behind hzone hv hback
    refine ⟨_, Date.length_back _ _, ?_, Date.isChain_back _ _,
      result_renderTokens_datesLoop hzone hnow hv hback context params behind⟩
    intro date hdate
    rw [Date.eq_of_mem_head?_back hdate, hcount, hcount]
    exact ⟨Date.isValid_ofDay _, rfl⟩

theorem canLeadBack_of_le {now : Instant} {n : Int} (hnow : now.natAbs ≤ 8000000000000000)
    (hn : n.natAbs ≤ 1000000) : CanLeadBack now n := by
  constructor
  · unfold msPerDay Number.maxSafe Number.significandEnd
    omega
  · unfold msPerDay maxInstant
    show (_ : Int).natAbs ≤ _
    omega

/-- The day before the first of March of a leap year, and a loop over that day and those beside
it. -/
theorem resolveTag_leapDay :
    let clock : Clock := ⟨1709253000000, Zone.fixed 60⟩
    let yesterday := dateTagWith "minus" (daysText 1)
    let loop := datesLoop "i" 0 2 Table.empty ","
    clock.now.natAbs ≤ maxInstant ∧ Date.IsCount Date.day ∧
      tokenize "\x7b% for i in (0..2) %\x7d\x7b% date minus=i\"d\" %\x7d,\x7b% endfor %\x7d" =
        .ok loop.tokens ∧
      resolveTag yesterday {} clock = .ok ("2024-02-29" : Utf16) ∧
      ∃ today date : Date, resolveTag todayTag {} clock = .ok (dateText today : Utf16) ∧
        resolveTag yesterday {} clock = .ok (dateText date : Utf16) ∧ date.day = today.day - 1 ∧
        ∃ dates : List Date, dates.length = 3 ∧
          dates.IsChain (fun date before => date = before.next) ∧
          (renderTokens ⟨Pipes.default, clock⟩ {} loop.tokens).result =
            .ok (String.join (dates.map fun date => dateText date ++ ",") : Utf16) := by
  intro clock yesterday loop
  have hnow : clock.now.natAbs ≤ maxInstant := by decide
  obtain ⟨today, -, htoday, hdays, hloops⟩ := resolveTag_daysAgo hnow Date.isCount_day
  obtain ⟨date, -, hdate, hsame, -⟩ :=
    hdays {} 1 yesterday .minus (canLeadBack_of_le (by decide) (by decide))
  obtain ⟨dates, hlength, -, hchain, hrender⟩ :=
    hloops 60 Pipes.default {} "i" 0 2 Table.empty "," rfl (by decide) fun n hle hlt =>
      canLeadBack_of_le (by decide) (by omega)
  exact ⟨hnow, Date.isCount_day, eq_ok_of_toOption (by decide +kernel),
    eq_ok_of_toOption (by decide +kernel), today, date, htoday {}, hdate, hsame rfl, dates, hlength,
    hchain, hrender⟩

end PromptTemplate
