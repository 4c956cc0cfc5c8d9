import PromptTemplate.Proofs.Dictionary.Faults
import PromptTemplate.Proofs.Disk.File
import PromptTemplate.Proofs.Render.Written
import PromptTemplate.Proofs.Tag.Names
import PromptTemplate.Proofs.Text.Order
/-!
# Looking up what a dictionary file says

A dictionary file is written as sections with entries. Of a name that is written twice the last
counts, and nothing is kept under the one name `__proto__`. Every other text of the file can be
looked up, and in the section `general` it is what a `custom:` tag gives
(`Dictionary.exists_load_of_isDictionary`).
-/

namespace PromptTemplate

open Json (orderMembers)
open Text (isBlank)

/-- The one name under which no value can be kept. -/
def lostName : Utf16 := "__proto__"

/-! ## Kept entries -/

section

variable {α β : Type}

/-- What a check keeps of written members. -/
def keptEntries (pairs : List (Utf16 × α)) : List (Utf16 × α) :=
  (orderMembers (Table.ofList pairs).entries).filter fun e => e.1 ≠ lostName

theorem nodup_keptEntries (pairs : List (Utf16 × α)) :
    ((keptEntries pairs).map Prod.fst).Nodup :=
  (Json.nodup_orderMembers (Table.ofList pairs).nodup).sublist (List.filter_sublist.map Prod.fst)

theorem keptEntries_map (f : α → β) (pairs : List (Utf16 × α)) :
    keptEntries (pairs.map fun e => (e.1, f e.2)) =
      (keptEntries pairs).map fun e => (e.1, f e.2) := by
  unfold keptEntries
  rw [← Table.map_ofList, Table.map, Json.orderMembers_map, List.filter_map]
  rfl

theorem get?_ofList_keptEntries (pairs : List (Utf16 × α)) (name : Utf16) :
    (Table.ofList (keptEntries pairs)).get? name =
      if name = lostName then none else (Table.ofList pairs).get? name := by
  have hnodup := Json.nodup_orderMembers (Table.ofList pairs).nodup
  have hfind := findEntry_perm (k := name) (Json.orderMembers_perm _) hnodup
  rw [Table.get?, Table.entries_ofList (nodup_keptEntries pairs), keptEntries,
    findEntry_filter_ne, hfind]
  rfl

theorem mem_names_keptEntries {pairs : List (Utf16 × α)} {name : Utf16} :
    name ∈ (keptEntries pairs).map Prod.fst ↔ name ≠ lostName ∧ name ∈ pairs.map Prod.fst := by
  have hkeys : name ∈ pairs.map Prod.fst ↔ name ∈ (Table.ofList pairs).entries.map Prod.fst :=
    Table.mem_keys_ofList.symm
  rw [hkeys]
  simp only [keptEntries, List.mem_map, List.mem_filter, Json.mem_orderMembers,
    decide_eq_true_eq]
  constructor
  · rintro ⟨e, ⟨hmem, hname⟩, rfl⟩
    exact ⟨hname, e, hmem, rfl⟩
  · rintro ⟨hname, e, hmem, rfl⟩
    exact ⟨e, ⟨hmem, hname⟩, rfl⟩

/-- Where every value is read, the members are read but for what is lost. -/
theorem checkMembers_ofMembers {check : Json → Checked β} {value : α → Json} {read : α → β}
    (h : ∀ a, (check (value a)).result = .ok (read a)) (issue : Json → Issue)
    (pairs : List (Utf16 × α)) :
    (checkObjectOr issue (checkMembers check)
      (Json.ofMembers (pairs.map fun e => (e.1, value e.2)))).result =
        .ok (keptEntries (pairs.map fun e => (e.1, read e.2))) := by
  refine checkObjectOr_eq_ok_iff.2 ⟨_, rfl, checkMembers_eq_ok_iff.2
    ⟨orderMembers (Table.ofList (pairs.map fun e => (e.1, read e.2))).entries, ?_, rfl⟩⟩
  rw [← Table.map_ofList, ← Table.map_ofList, Table.map, Table.map, Json.orderMembers_map,
    Json.orderMembers_map, List.forall₂_map_left_iff, List.forall₂_map_right_iff, List.forall₂_same]
  exact fun e _ => ⟨rfl, h e.2⟩

end

/-! ## Written dictionaries -/

namespace Dictionary

/-- What is written in a dictionary file: sections with entries, in any order and with repeated
names. -/
abbrev Written := List (Utf16 × List (Utf16 × Utf16))

/-- The value of a section that is written so. -/
def sectionData (entries : List (Utf16 × Utf16)) : Json :=
  .ofMembers (entries.map fun e => (e.1, .string e.2))

/-- The value of a file that is written so. -/
def Written.data (written : Written) : Json :=
  .ofMembers (written.map fun s => (s.1, sectionData s.2))

/-- The text that comes last under the key in the section that comes last under its name. -/
def Written.text? (written : Written) (name key : Utf16) : Option Utf16 :=
  (written.reverse.lookup name).bind fun entries => entries.reverse.lookup key

theorem exists_pairs {α : Type} {value : α → Json} {members : List (Utf16 × Json)}
    (h : ∀ m ∈ members, ∃ a, m.2 = value a) :
    ∃ pairs : List (Utf16 × α), members = pairs.map fun e => (e.1, value e.2) := by
  induction members with
  | nil => exact ⟨[], rfl⟩
  | cons m members ih =>
    rw [List.forall_mem_cons] at h
    obtain ⟨a, ha⟩ := h.1
    obtain ⟨pairs, rfl⟩ := ih h.2
    exact ⟨(m.1, a) :: pairs, by rw [List.map_cons, ← ha]⟩

theorem exists_sectionData {value : Json} (h : value.IsSection) (hordered : value.IsOrdered) :
    ∃ entries, value = sectionData entries := by
  obtain ⟨members, rfl, htexts⟩ := h
  obtain ⟨entries, rfl⟩ := exists_pairs htexts
  exact ⟨entries, hordered.ofMembers_eq.symm⟩

/-- Every dictionary is the value of something written. -/
theorem exists_written {value : Json} (h : value.IsDictionary) (hordered : value.IsOrdered) :
    ∃ written : Written, value = written.data := by
  obtain ⟨members, rfl, hsections⟩ := h
  cases hordered with
  | object nodup order hmembers =>
    obtain ⟨written, rfl⟩ := exists_pairs fun m hm =>
      exists_sectionData (hsections m hm) (hmembers m hm)
    exact ⟨written, (Json.IsOrdered.object nodup order hmembers).ofMembers_eq.symm⟩

theorem check_data (written : Written) :
    (check written.data).result =
      .ok (keptEntries (written.map fun s => (s.1, keptEntries s.2))) := by
  refine checkMembers_ofMembers (fun entries => ?_) (wrongType "object") written
  have htext (text : Utf16) : (checkTextOr valueFault (.string text)).result = .ok text := rfl
  have htexts := checkMembers_ofMembers htext
    (fun _ => ⟨[], sectionFault, "invalid_type"⟩) entries
  rwa [List.map_id'] at htexts

/-- The dictionary of what is written. -/
def ofWritten (written : Written) : Dictionary :=
  ofEntries (keptEntries (written.map fun s => (s.1, keptEntries s.2)))

theorem sections_ofWritten (written : Written) :
    (ofWritten written).sections =
      Table.ofList (keptEntries (written.map fun s => (s.1, Table.ofList (keptEntries s.2)))) := by
  have hmap := keptEntries_map Table.ofList (written.map fun s => (s.1, keptEntries s.2))
  rw [List.map_map] at hmap
  unfold ofWritten ofEntries
  rw [← hmap]
  rfl

theorem get?_ofWritten (written : Written) (name key : Utf16) :
    (ofWritten written).get? name key =
      if name = lostName ∨ key = lostName then none else written.text? name key := by
  rw [get?, sections_ofWritten, get?_ofList_keptEntries,
    ← Table.map_ofList fun entries => Table.ofList (keptEntries entries), Table.get?_map,
    Table.get?_ofList]
  unfold Written.text?
  by_cases hname : name = lostName
  · rw [if_pos hname, if_pos (.inl hname)]
    rfl
  · rw [if_neg hname]
    cases written.reverse.lookup name with
    | none => simp
    | some entries =>
      show (Table.ofList (keptEntries entries)).get? key = _
      rw [get?_ofList_keptEntries, Table.get?_ofList]
      simp [hname]

theorem mem_sectionNames_ofWritten {written : Written} {name : Utf16} :
    name ∈ (ofWritten written).sectionNames ↔
      name ≠ lostName ∧ name ∈ written.map Prod.fst := by
  rw [sectionNames, (Utf16.sort_perm _).mem_iff, sections_ofWritten, Table.mem_keys_ofList,
    mem_names_keptEntries, List.map_map]
  rfl

theorem pairwise_sectionNames (d : Dictionary) :
    d.sectionNames.Pairwise fun a b => a.units < b.units := Utf16.pairwise_sort d.sections.nodup

theorem load_eq_ofWritten {disk : Disk} {path : String} {written : Written}
    (hread : disk.readJson path = .ok (some written.data)) :
    load disk path = .ok (ofWritten written) := by
  have hvalid : validate check path [] written.data = .ok _ :=
    validate_eq_ok_iff.2 (check_data written)
  unfold load
  rw [hread]
  show ((validate check path [] written.data).mapError Failure.config >>= _) = _
  rw [hvalid]
  rfl

/-! ## Tags -/

/-- The key can be written in a tag: it is one word, and nothing in it ends the tag or its name. -/
structure IsTagKey (key : String) : Prop where
  dotless : '.' ∉ key.toList
  barless : '|' ∉ key.toList
  quoteless : '"' ∉ key.toList
  unclosed : ¬ closing <:+: key.toList
  blankless : ∀ c ∈ key.toList, isBlank c = false

/-- A template that shows what stands under the key. -/
def keyTemplate (key : String) : String := "\x7b% custom:" ++ key ++ " %\x7d"

/-- The tag of the template. -/
def keyTag (key : String) : Tag := ⟨"custom:" ++ key, Table.ofList [], none⟩

theorem toList_keyTag_name (key : String) :
    (keyTag key).name.toList = "custom:".toList ++ key.toList := String.toList_append

theorem IsTagKey.isWord {key : String} (h : IsTagKey key) : IsWord (keyTag key).name := by
  have hlead : IsWord "custom:" := isWord_of_all (by decide) (by decide +kernel)
  refine ⟨fun hnil => ?_, ?_, ?_, ?_⟩
  · have hlist := toList_keyTag_name key
    rw [hnil] at hlist
    cases hlist
  · rw [toList_keyTag_name, List.mem_append, not_or]
    exact ⟨hlead.quote, h.quoteless⟩
  · rw [toList_keyTag_name, List.mem_append, not_or]
    exact ⟨hlead.bar, h.barless⟩
  · rw [toList_keyTag_name, List.forall_mem_append]
    exact ⟨hlead.blank, h.blankless⟩

theorem IsTagKey.isBody {key : String} (h : IsTagKey key) :
    (Token.tag (keyTag key)).IsBody (wordBody (keyTag key).name) := by
  have hword := h.isWord
  have hclosing : ¬ closing <:+: (keyTag key).name.toList ++ [] := by
    rw [List.append_nil, toList_keyTag_name]
    exact not_closing_infix_append_of_notMem (by decide) h.unclosed
  have hne {word : String} (hcolon : ':' ∉ word.toList) : (keyTag key).name ≠ word := by
    rintro rfl
    rw [toList_keyTag_name] at hcolon
    exact hcolon (List.mem_append_left _ (by decide))
  have hbody := Token.isBody_tag .nil (by simp) hword (hne (by decide)) (hne (by decide)) hclosing
  rw [List.append_nil] at hbody
  exact hbody

/-- The template gives the text under the key as it is. -/
theorem IsTagKey.result_render {key : String} (h : IsTagKey key) {context : Context} {text : Utf16}
    (htext : context.dictionary.get? customSection key = some text) (engine : Engine) :
    (render engine context (keyTemplate key)).result = .ok text := by
  have hlist : (keyTemplate key).toList = tagsText [wordBody (keyTag key).name] := by
    simp [keyTemplate, tagsText, wordBody, toList_keyTag_name, opening, closing]
  rw [result_render_tag h.isBody rfl hlist]
  unfold resolveTag
  rw [show Reference.ofName (keyTag key).name = .custom key from Reference.ofName_custom h.dotless]
  dsimp only
  rw [htext]
  rfl

/-- **Looking up a dictionary file.** Whatever is written in a file that is a dictionary, the file
loads, and but for the lost name each of its sections is there and each of its texts is found, by
name and by tag. -/
theorem exists_load_of_isDictionary {disk : Disk} {path : String} {data : Json}
    (hread : disk.readJson path = .ok (some data)) (hdata : data.IsDictionary) :
    (∃ written : Written, data = written.data) ∧
      ∀ written : Written, data = written.data → ∃ d, load disk path = .ok d ∧
        (∀ name key, name ≠ lostName → key ≠ lostName →
          d.get? name key = written.text? name key) ∧
        (∀ name key, name = lostName ∨ key = lostName → d.get? name key = none) ∧
        (∀ name, name ∈ d.sectionNames ↔ name ≠ lostName ∧ name ∈ written.map Prod.fst) ∧
        (d.sectionNames.Pairwise fun a b => a.units < b.units) ∧
        ∀ (key : String) (text : Utf16), IsTagKey key → (key : Utf16) ≠ lostName →
          written.text? customSection key = some text →
            ∀ (engine : Engine) (context : Context), context.dictionary = d →
              (render engine context (keyTemplate key)).result = .ok text := by
  refine ⟨exists_written hdata (Disk.isOrdered_of_readJson hread), ?_⟩
  rintro written rfl
  have hfound {name key : Utf16} (hname : name ≠ lostName) (hkey : key ≠ lostName) :
      (ofWritten written).get? name key = written.text? name key := by
    rw [get?_ofWritten, if_neg (not_or.2 ⟨hname, hkey⟩)]
  refine ⟨ofWritten written, load_eq_ofWritten hread, fun _ _ => hfound, fun name key hlost => ?_,
    fun _ => mem_sectionNames_ofWritten, pairwise_sectionNames _,
    fun key text hkey hne htext engine context hcontext => ?_⟩
  · rw [get?_ofWritten, if_pos hlost]
  · refine hkey.result_render ?_ engine
    have hsection : (customSection : Utf16) ≠ lostName := by decide
    rw [hcontext, hfound hsection hne, htext]

/-- A section that is written twice, with a key twice in the second. -/
def twiceText : String :=
  "\x7b\"general\":\x7b\"a\":\"1\"\x7d,\"general\":\x7b\"k\":\"x\",\"k\":\"y\"\x7d\x7d"

/-- What is written in it. -/
def twiceWritten : Written := [("general", [("a", "1")]), ("general", [("k", "x"), ("k", "y")])]

/-- The last text is the one that is shown. -/
theorem render_twiceWritten :
    (Disk.ofText twiceText).readJson "d.json" = .ok (some twiceWritten.data) ∧
      twiceWritten.data.IsDictionary ∧ ∃ d, load (Disk.ofText twiceText) "d.json" = .ok d ∧
        d.get? "general" "a" = none ∧ d.get? "general" "k" = some "y" ∧
        (render ⟨Pipes.default, ⟨0, Zone.utc⟩⟩ { dictionary := d } (keyTemplate "k")).result =
          .ok "y" := by
  have hread : (Disk.ofText twiceText).readJson "d.json" = .ok (some twiceWritten.data) :=
    Disk.readJson_ofText (by decide +kernel)
  have hdata : twiceWritten.data.IsDictionary := faults_eq_nil_iff.1 (by decide +kernel)
  obtain ⟨d, hload, hget, -, -, -, hrender⟩ :=
    (exists_load_of_isDictionary hread hdata).2 twiceWritten rfl
  have hword : IsWord "k" := isWord_of_all (by decide) (by decide +kernel)
  have hkey : IsTagKey "k" := ⟨by decide, hword.bar, hword.quote, by decide, hword.blank⟩
  have hlast : twiceWritten.text? "general" "k" = some "y" := by decide
  refine ⟨hread, hdata, d, hload, ?_, ?_, hrender "k" "y" hkey (by decide) hlast _ _ rfl⟩
  · rw [hget _ _ (by decide) (by decide)]
    decide
  · rw [hget _ _ (by decide) (by decide), hlast]

/-- A dictionary with a text under the lost name. -/
def lostText : String := "\x7b\"general\":\x7b\"__proto__\":\"x\"\x7d\x7d"

/-- What is written in it. -/
def lostWritten : Written := [("general", [("__proto__", "x")])]

/-- The file is a dictionary and loads, but its text cannot be looked up. -/
theorem get?_lostWritten :
    (Disk.ofText lostText).readJson "d.json" = .ok (some lostWritten.data) ∧
      lostWritten.data.IsDictionary ∧
      load (Disk.ofText lostText) "d.json" = .ok (ofWritten lostWritten) ∧
      lostWritten.text? "general" "__proto__" = some "x" ∧
      (ofWritten lostWritten).get? "general" "__proto__" = none := by
  have hread : (Disk.ofText lostText).readJson "d.json" = .ok (some lostWritten.data) :=
    Disk.readJson_ofText (by decide +kernel)
  refine ⟨hread, faults_eq_nil_iff.1 (by decide +kernel), load_eq_ofWritten hread, by decide, ?_⟩
  rw [get?_ofWritten, if_pos (.inr rfl)]

end Dictionary

end PromptTemplate
