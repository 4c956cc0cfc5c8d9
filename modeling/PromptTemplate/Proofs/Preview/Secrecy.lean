import PromptTemplate.Preview
import PromptTemplate.Proofs.Secret.Alike
/-!
# Secrecy

Nothing that a preview gives away depends on a key or a header of the secrets file: not its text
and counts, not its failure, not its log. This holds of every request but one that reads the
secrets file for something else that is shown, as its dictionary or as its template
(`RenderRequest.ShowsFile`). A request may well read it as its job data, since the objects in it
are not what job data may be made of, whatever their fields are.
-/

namespace PromptTemplate

/-- The disks are the same but for the secrets file at one place, and alike there: both files hold
objects with the same names in the same order, whose entries differ in nothing but the texts of a
key and a header. -/
def Disk.SameButSecrets (place : Place) (d d' : Disk) : Prop :=
  ∃ octets octets' members members', Disk.SameBut place octets octets' d d' ∧
    Json.parse? (Text.decode octets) = some (.object members) ∧
      Json.parse? (Text.decode octets') = some (.object members') ∧ AlikeMembers members members'

/-! ## Job data -/

namespace AlikeMembers

variable {members members' : List (Utf16 × Json)} (h : AlikeMembers members members')

include h

theorem names_eq : members.map Prod.fst = members'.map Prod.fst := by
  induction h with
  | nil => rfl
  | cons hm _ ih => rw [List.map_cons, List.map_cons, hm.1, ih]

theorem findEntry_cases (name : Utf16) :
    (findEntry name members = none ∧ findEntry name members' = none) ∨
      ∃ value value', findEntry name members = some value ∧
        findEntry name members' = some value' ∧ AlikeEntry value value' := by
  induction h with
  | nil => exact .inl ⟨rfl, rfl⟩
  | @cons m m' rest rest' hm _ ih =>
    unfold findEntry
    rw [← hm.1]
    by_cases hname : m.1 = name
    · rw [if_pos hname, if_pos hname]
      exact .inr ⟨m.2, m'.2, rfl, rfl, hm.2⟩
    · rw [if_neg hname, if_neg hname]
      exact ih

/-- A member of a kind that no object is checks in the same way. -/
theorem optionalMember_eq {α : Type} {check : Json → Checked α}
    (hcheck : ∀ fields fields', check (.object fields) = check (.object fields')) (name : String) :
    optionalMember check name members = optionalMember check name members' := by
  unfold optionalMember
  rcases h.findEntry_cases name with ⟨hfind, hfind'⟩ | ⟨value, value', hfind, hfind', hvalue⟩
  · rw [hfind, hfind']
  · rw [hfind, hfind']
    cases hvalue with
    | same value => rfl
    | @object fields fields' hfields =>
      dsimp only
      rw [hcheck fields fields']

theorem jobData_eq : JobData.check (.object members) = JobData.check (.object members') := by
  have htext : ∀ name, optionalMember checkText name members =
      optionalMember checkText name members' := h.optionalMember_eq fun _ _ => rfl
  have hmemories : optionalMember (checkArray Memory.checkEither) "memories" members =
      optionalMember (checkArray Memory.checkEither) "memories" members' :=
    h.optionalMember_eq (fun _ _ => rfl) "memories"
  unfold JobData.check checkObject checkObjectOr refuseUnknown defaultMember
  dsimp only
  rw [h.names_eq, htext, htext, htext, hmemories]

end AlikeMembers

/-! ## Requests -/

namespace RenderRequest

/-- The request shows the file at a place: it has it for its dictionary or for its template. -/
inductive ShowsFile (request : RenderRequest) (d : Disk) (place : Place) : Prop
  | dictionary (h : d.LeadsTo request.dictionaryPath place)
  | template (filename : String) (hinline : request.inline = none)
    (htemplate : request.template = some filename)
    (hextension : Template.hasExtension filename = true)
    (h : d.LeadsTo (Path.join (Path.absolute (Path.resolve d.cwd request.templateDir)) filename)
      place)

end RenderRequest

section

variable {place : Place} {octets octets' : List UInt8} {d d' : Disk}
  (h : Disk.SameBut place octets octets' d d')

include h

theorem Template.read_eq {path filename : String}
    (hleads : Template.hasExtension filename = true → ¬ d.LeadsTo path place) :
    Template.read d path filename = Template.read d' path filename := by
  unfold Template.read
  rw [h.pathExists_eq]
  by_cases hextension : Template.hasExtension filename = true
  · rw [h.readText_eq (hleads hextension)]
  · rw [Bool.not_eq_true] at hextension
    rw [hextension]
    rfl

theorem RenderRequest.source_eq {request : RenderRequest} (hshows : ¬ request.ShowsFile d place) :
    request.source d = request.source d' := by
  unfold source
  cases hinline : request.inline with
  | some text => rfl
  | none =>
    cases htemplate : request.template with
    | none => rfl
    | some filename =>
      have hread := Template.read_eq h fun hextension hleads =>
        hshows (.template filename hinline htemplate hextension hleads)
      have hload : ∀ loader : Loader,
          loader = ⟨Path.absolute (Path.resolve d.cwd request.templateDir), Table.empty⟩ →
            (loader.load d filename).1 = (loader.load d' filename).1 := by
        rintro loader rfl
        rw [Loader.load_of_not_kept d rfl, Loader.load_of_not_kept d' rfl]
        exact hread
      unfold Loader.ofDirectory
      dsimp only
      rw [← h.cwd, ← h.pathExists_eq]
      split
      · show ((Loader.load _ d filename).1 >>= _) = ((Loader.load _ d' filename).1 >>= _)
        rw [hload _ rfl]
      · rfl

theorem Dictionary.load_eq {path : String} (hleads : ¬ d.LeadsTo path place) :
    Dictionary.load d path = Dictionary.load d' path := by
  unfold load
  rw [h.readJson_eq hleads]

theorem RenderRequest.jobData_eq {members members' : List (Utf16 × Json)}
    (hvalue : Json.parse? (Text.decode octets) = some (.object members))
    (hvalue' : Json.parse? (Text.decode octets') = some (.object members'))
    (hmembers : AlikeMembers members members') (request : RenderRequest) :
    request.jobData d = request.jobData d' := by
  unfold jobData
  cases request.contextPath with
  | none => rfl
  | some path =>
    dsimp only
    unfold JobData.load
    rcases h.readJson_cases hvalue hvalue' path with heq | ⟨hread, hread'⟩
    · rw [heq]
    · rw [hread, hread']
      show (validate _ _ _ _).mapError _ = (validate _ _ _ _).mapError _
      unfold validate
      rw [hmembers.jobData_eq]

end

theorem RenderRequest.context_blanked (dictionary : Dictionary) (secrets : Secrets)
    (job : JobData) :
    (context dictionary secrets job).blanked = context dictionary secrets.blanked job := rfl

/-- **Secrecy.** A request that does not show the secrets file gives the same preview or the same
failure, and logs the same, whatever keys and headers stand in the file. -/
theorem RenderRequest.preview_eq_of_sameButSecrets {place : Place} {d d' : Disk}
    (h : Disk.SameButSecrets place d d') {request : RenderRequest}
    (hshows : ¬ request.ShowsFile d place) (clock : Clock) :
    request.preview d clock = request.preview d' clock := by
  obtain ⟨octets, octets', members, members', hdisks, hvalue, hvalue', hmembers⟩ := h
  have hdictionary := Dictionary.load_eq hdisks fun hleads => hshows (.dictionary hleads)
  have hsecrets := Secrets.blanked_load_eq hdisks hvalue hvalue' hmembers request.secretsPath
  have hjob := jobData_eq hdisks hvalue hvalue' hmembers request
  unfold preview
  rw [source_eq hdisks hshows, hdictionary, hjob]
  refine bind_congr fun source => ?_
  refine bind_congr fun dictionary => ?_
  -- From here on the two runs hold different secrets, which are the same once blanked.
  refine Logged.bind_eq_of_map_eq hsecrets fun secrets secrets' hblanked => ?_
  refine bind_congr fun job => ?_
  have hsize : secrets.size = secrets'.size := by
    rw [← secrets.size_blanked, ← secrets'.size_blanked, hblanked]
  have hnames : secrets.names = secrets'.names := by
    rw [← secrets.names_blanked, ← secrets'.names_blanked, hblanked]
  have hrender : ∀ engine, renderTokens engine (context dictionary secrets job) source.2 =
      renderTokens engine (context dictionary secrets' job) source.2 := by
    intro engine
    rw [← renderTokens_blanked, ← renderTokens_blanked engine (context dictionary secrets' job),
      context_blanked, context_blanked, hblanked]
  unfold readEntry
  rw [hsize, hnames, hrender]

/-! ## A secret that is shown -/

/-- The text of a secrets file with one secret. -/
def secretText (key : String) : String :=
  "\x7b\"general\":\x7b\"key\":\"" ++ key ++ "\",\"match\":\"u\"\x7d\x7d"

/-- The disk with the secrets file `s.md` and nothing else. -/
def secretDisk (key : String) : Disk :=
  Disk.put ⟨Table.empty, []⟩ ["s.md"] (.file (Text.encode (secretText key)) 0o600)

theorem sameButSecrets_secretDisk :
    Disk.SameButSecrets ["s.md"] (secretDisk "a") (secretDisk "b") := by
  refine ⟨Text.encode (secretText "a"), Text.encode (secretText "b"),
    [("general", .object [("key", .string "a"), ("match", .string "u")])],
    [("general", .object [("key", .string "b"), ("match", .string "u")])],
    Disk.sameBut_put _ (by decide) _ _ _, by decide +kernel, by decide +kernel, ?_⟩
  refine .cons ⟨rfl, .object ⟨?_, ?_, ?_⟩⟩ .nil
  · intro name hkey hheader
    unfold findEntry
    rw [if_neg hkey.symm, if_neg hkey.symm]
  · constructor <;>
      · intro value hvalue
        cases hvalue
        exact ⟨_, rfl⟩
  · constructor <;>
      · intro value hvalue
        cases hvalue

/-- The time zero. -/
def epoch : Clock := ⟨0, Zone.utc⟩

/-- The text that a request renders with the one secret. -/
def RenderRequest.shown (request : RenderRequest) (key : String) : Option Utf16 :=
  (request.preview (secretDisk key) epoch).result.toOption.map Preview.rendered

/-- A request that shows the address of the secret. -/
def addressRequest : RenderRequest where
  templateDir := "."
  inline := some "\x7b% proxy:general %\x7d"
  dictionaryPath := "d.json"
  secretsPath := "s.md"

theorem preview_addressRequest : Disk.SameButSecrets ["s.md"] (secretDisk "a") (secretDisk "b") ∧
    ¬ addressRequest.ShowsFile (secretDisk "a") ["s.md"] ∧
      addressRequest.preview (secretDisk "a") epoch =
        addressRequest.preview (secretDisk "b") epoch ∧ addressRequest.shown "a" = some "u" := by
  have hshows : ¬ addressRequest.ShowsFile (secretDisk "a") ["s.md"] := by
    rintro (hleads | ⟨filename, hinline, -, -, -⟩)
    · have habsent : (secretDisk "a").pathExists "d.json" = false := by decide +kernel
      have hexists := hleads.pathExists
      rw [show addressRequest.dictionaryPath = "d.json" from rfl, habsent] at hexists
      cases hexists
    · cases hinline
  exact ⟨sameButSecrets_secretDisk, hshows,
    RenderRequest.preview_eq_of_sameButSecrets sameButSecrets_secretDisk hshows epoch,
    by decide +kernel⟩

/-- A request that has the secrets file for its dictionary. -/
def dictionaryRequest : RenderRequest where
  templateDir := "."
  inline := some "\x7b% custom:key %\x7d"
  dictionaryPath := "s.md"
  secretsPath := "s.md"

/-- A request that has the secrets file for its template. -/
def templateRequest : RenderRequest where
  templateDir := "."
  template := some "s.md"
  dictionaryPath := "d.json"
  secretsPath := "s.md"

/-- A request that shows the secrets file shows the key. Neither of the two ways of showing it may
be left out: a file of secrets is a file of texts, and no name keeps it from being read as one. -/
theorem not_preview_eq_of_showsFile :
    ¬ (∀ (place : Place) (d d' : Disk), Disk.SameButSecrets place d d' →
      ∀ (request : RenderRequest) (clock : Clock),
        request.preview d clock = request.preview d' clock) ∧
    dictionaryRequest.shown "a" = some "a" ∧ dictionaryRequest.shown "b" = some "b" ∧
      templateRequest.shown "a" = some (secretText "a") ∧
        templateRequest.shown "b" = some (secretText "b") := by
  have hdictionary : dictionaryRequest.shown "a" = some "a" := by decide +kernel
  have hdictionary' : dictionaryRequest.shown "b" = some "b" := by decide +kernel
  refine ⟨?_, hdictionary, hdictionary', by decide +kernel, by decide +kernel⟩
  intro hblind
  have hpreview := hblind _ _ _ sameButSecrets_secretDisk dictionaryRequest epoch
  have hshown : dictionaryRequest.shown "a" = dictionaryRequest.shown "b" := by
    unfold RenderRequest.shown
    rw [hpreview]
  rw [hdictionary, hdictionary'] at hshown
  revert hshown
  decide

end PromptTemplate
