import PromptTemplate.Proofs.Disk.SameBut
import PromptTemplate.Proofs.Secret.Blank
import PromptTemplate.Proofs.Validation.Result
import PromptTemplate.Secret.File
/-!
# Alike secrets files

Two secrets files are alike if they have the same names in the same order and no entry differs in
anything but the texts of a key and a header. Loading goes over the entries one by one. Each of them
adds the same secret, but for what blanking takes away, logs the same or fails in the same way, and
so the two files load as the same secrets once these are blanked (`Secrets.blanked_load_eq`).
-/

namespace PromptTemplate

open Secrets (skippedEntry warnIfShared checkMembersOnly ofMembers load)

/-! ## Entries -/

/-- The fields are the same but for a key and a header. -/
structure SameButHidden (fields fields' : List (Utf16 × Json)) : Prop where
  others : ∀ name : Utf16, name ≠ "key" → name ≠ "header" →
    findEntry name fields = findEntry name fields'
  key : IsTextOrAbsent "key" fields ∧ IsTextOrAbsent "key" fields'
  header : IsTextOrAbsent "header" fields ∧ IsTextOrAbsent "header" fields'

/-- The entries are the same, or objects that are the same but for a key and a header. -/
inductive AlikeEntry : Json → Json → Prop
  | same (value : Json) : AlikeEntry value value
  | object {fields fields' : List (Utf16 × Json)} (h : SameButHidden fields fields') :
    AlikeEntry (.object fields) (.object fields')

/-- The members have the same names in the same order, and alike entries. -/
def AlikeMembers (members members' : List (Utf16 × Json)) : Prop :=
  List.Forall₂ (fun m m' => m.1 = m'.1 ∧ AlikeEntry m.2 m'.2) members members'

/-! ## Checks -/

/-- What is made of the value of a check is made of it with the same failures. -/
theorem Logged.map_validate_eq {α β : Type} {f : α → β} {check : Json → Checked α}
    {data data' : Json} (h : f <$> check data = f <$> check data') (path : String)
    (outer : List PathStep) :
    f <$> Logged.ofExcept ((validate check path outer data).mapError .config) =
      f <$> Logged.ofExcept ((validate check path outer data').mapError .config) := by
  have hmap : ∀ data, f <$> Logged.ofExcept ((validate check path outer data).mapError .config) =
      Logged.ofExcept ((validate (fun data => f <$> check data) path outer data).mapError
        .config) := by
    intro data
    unfold validate
    rw [Checked.result_map]
    cases (check data).result <;> rfl
  rw [hmap, hmap]
  unfold validate
  dsimp only
  rw [h]

theorem defaultMember_of_isTextOrAbsent {name : String} {fields : List (Utf16 × Json)}
    (h : IsTextOrAbsent name fields) (default : Utf16) :
    ∃ text, defaultMember checkText default name fields = .ok text := by
  unfold defaultMember optionalMember
  cases hfind : findEntry (name : Utf16) fields with
  | none => exact ⟨default, rfl⟩
  | some value =>
    obtain ⟨text, rfl⟩ := h value hfind
    exact ⟨text, rfl⟩

/-- With a key and a header that check, a secret is as good as its address. -/
theorem Secret.check_object {fields : List (Utf16 × Json)} (hkey : IsTextOrAbsent "key" fields)
    (hheader : IsTextOrAbsent "header" fields) :
    blanked <$> check (.object fields) =
      Secret.mk "" "" <$> defaultMember checkText ("" : Utf16) "match" fields := by
  obtain ⟨key, hkey⟩ := defaultMember_of_isTextOrAbsent hkey ""
  obtain ⟨header, hheader⟩ := defaultMember_of_isTextOrAbsent hheader "bearer"
  unfold check checkObject checkObjectOr
  dsimp only
  rw [hkey, hheader]
  show Checked.map _ ⟨_, _⟩ = Checked.map _ _
  unfold Checked.map
  cases (defaultMember checkText ("" : Utf16) "match" fields).value <;> rfl

theorem SameButHidden.check_blanked {fields fields' : List (Utf16 × Json)}
    (h : SameButHidden fields fields') :
    Secret.blanked <$> Secret.check (.object fields) =
      Secret.blanked <$> Secret.check (.object fields') := by
  have hmatch := h.others "match" (by decide) (by decide)
  rw [Secret.check_object h.key.1 h.header.1, Secret.check_object h.key.2 h.header.2]
  unfold defaultMember optionalMember
  rw [hmatch]

/-! ## Loading -/

namespace Secrets

/-- A member of a secrets file: a secret to add, or something to pass over. -/
def addMember (path : String) (secrets : Secrets) (name : Utf16) : Json → Logged Secrets
  | .object fields => do
    let secret ← Logged.ofExcept
      ((validate Secret.check path [.name name] (.object fields)).mapError .config)
    pure (secrets.insert name secret)
  | _ => do
    Logged.entry (skippedEntry name)
    pure secrets

theorem ofMembers_cons (path : String) (secrets : Secrets) (name : Utf16) (value : Json)
    (rest : List (Utf16 × Json)) :
    ofMembers path secrets ((name, value) :: rest) =
      addMember path secrets name value >>= fun secrets => ofMembers path secrets rest := by
  cases value <;> simp only [ofMembers, addMember, bind_assoc, pure_bind]

theorem blanked_insert (secrets : Secrets) (name : Utf16) (secret : Secret) :
    Secrets.blanked (secrets.insert name secret) = secrets.blanked.insert name secret.blanked :=
  Table.map_insert Secret.blanked secrets name secret

theorem blanked_addMember (path : String) (secrets : Secrets) (name : Utf16)
    (fields : List (Utf16 × Json)) :
    blanked <$> addMember path secrets name (.object fields) =
      (Secret.blanked <$> Logged.ofExcept
        ((validate Secret.check path [.name name] (.object fields)).mapError .config)) >>=
          fun secret => pure (secrets.blanked.insert name secret) := by
  unfold addMember
  rw [map_bind, bind_map_left]
  simp only [map_pure, blanked_insert]

/-- Alike entries do the same to alike secrets. -/
theorem blanked_addMember_eq {value value' : Json} (h : AlikeEntry value value')
    {secrets secrets' : Secrets} (hblanked : secrets.blanked = secrets'.blanked) (path : String)
    (name : Utf16) :
    blanked <$> addMember path secrets name value =
      blanked <$> addMember path secrets' name value' := by
  have hskip : blanked <$> (Logged.entry (skippedEntry name) >>= fun _ => pure secrets) =
      blanked <$> (Logged.entry (skippedEntry name) >>= fun _ => pure secrets') := by
    rw [map_bind, map_bind, map_pure, map_pure, hblanked]
  cases h with
  | object hfields =>
    rw [blanked_addMember, blanked_addMember, hblanked,
      Logged.map_validate_eq hfields.check_blanked]
  | same value =>
    cases value with
    | object fields => rw [blanked_addMember, blanked_addMember, hblanked]
    | null => exact hskip
    | bool value => exact hskip
    | number value => exact hskip
    | string value => exact hskip
    | array items => exact hskip

theorem blanked_ofMembers_eq {members members' : List (Utf16 × Json)}
    (h : AlikeMembers members members') {secrets secrets' : Secrets}
    (hblanked : secrets.blanked = secrets'.blanked) (path : String) :
    blanked <$> ofMembers path secrets members = blanked <$> ofMembers path secrets' members' := by
  induction h generalizing secrets secrets' with
  | nil =>
    rw [ofMembers, ofMembers, map_pure, map_pure, hblanked]
  | @cons m m' rest rest' hm _ ih =>
    obtain ⟨name, value⟩ := m
    obtain ⟨name', value'⟩ := m'
    obtain ⟨rfl, hvalue⟩ := hm
    rw [ofMembers_cons, ofMembers_cons, map_bind, map_bind]
    exact Logged.bind_eq_of_map_eq (blanked_addMember_eq hvalue hblanked path name)
      fun _ _ hadded => ih hadded

/-- Every member is kept but one that is called `__proto__`. -/
theorem validate_checkMembersOnly (path : String) (members : List (Utf16 × Json)) :
    validate checkMembersOnly path [] (.object members) =
      .ok (members.filter fun m => m.1 ≠ ("__proto__" : Utf16)) := by
  have hmembers : (checkMembers Checked.ok members).result =
      .ok (members.filter fun m => m.1 ≠ ("__proto__" : Utf16)) :=
    checkMembers_eq_ok_iff.2 ⟨members, List.forall₂_same.2 fun m _ => ⟨rfl, rfl⟩, rfl⟩
  exact validate_eq_ok_iff.2 (checkObject_eq_ok_iff.2 ⟨members, rfl, hmembers⟩)

theorem load_of_readJson {d : Disk} {path : String} {members : List (Utf16 × Json)}
    (h : d.readJson path = .ok (some (.object members))) :
    load d path = warnIfShared d path >>= fun _ =>
      ofMembers path Table.empty (members.filter fun m => m.1 ≠ ("__proto__" : Utf16)) := by
  unfold load
  rw [h]
  show Logged.bind (.ok (some (Json.object members))) _ = _
  rw [Logged.ok_bind]
  dsimp only
  rw [validate_checkMembersOnly]
  rfl

end Secrets

theorem AlikeMembers.filter {members members' : List (Utf16 × Json)}
    (h : AlikeMembers members members') (keep : Utf16 → Bool) :
    AlikeMembers (members.filter fun m => keep m.1) (members'.filter fun m => keep m.1) := by
  induction h with
  | nil => exact List.Forall₂.nil
  | @cons m m' rest rest' hm _ ih =>
    rw [List.filter_cons, List.filter_cons, ← hm.1]
    split
    · exact List.Forall₂.cons hm ih
    · exact ih

/-- **Loading.** Two disks that are the same but for alike secrets files give the same secrets once
these are blanked, or the same failure, and log the same. -/
theorem Secrets.blanked_load_eq {place : Place} {octets octets' : List UInt8} {d d' : Disk}
    (h : Disk.SameBut place octets octets' d d') {members members' : List (Utf16 × Json)}
    (hvalue : Json.parse? (Text.decode octets) = some (.object members))
    (hvalue' : Json.parse? (Text.decode octets') = some (.object members'))
    (hmembers : AlikeMembers members members') (path : String) :
    blanked <$> load d path = blanked <$> load d' path := by
  have hmode : warnIfShared d path = warnIfShared d' path := by
    unfold warnIfShared
    rw [h.mode?_eq]
  rcases h.readJson_cases hvalue hvalue' path with heq | ⟨hread, hread'⟩
  · unfold load
    rw [heq, hmode]
  · have hkept := hmembers.filter fun name => name ≠ ("__proto__" : Utf16)
    rw [load_of_readJson hread, load_of_readJson hread', map_bind, map_bind, hmode,
      blanked_ofMembers_eq hkept rfl]

end PromptTemplate
