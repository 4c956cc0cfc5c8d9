import PromptTemplate.ConfigFile
import PromptTemplate.Logged
import PromptTemplate.Secret
/-!
# Secrets files

A secrets file is an object. Each member that is itself an object is a secret under the member's
name; any other member is passed over with a log entry. A file that others than its owner may use
is warned about, and used all the same. The first secret that does not check ends the loading.
-/

namespace PromptTemplate

/-- A secret; a field that is missing has its default. -/
def Secret.check (value : Json) : Checked Secret :=
  checkObject (fun members =>
    Secret.mk <$> defaultMember checkText ("" : Utf16) "key" members
      <*> defaultMember checkText ("bearer" : Utf16) "header" members
      <*> defaultMember checkText ("" : Utf16) "match" members) value

namespace Secrets

/-- The members of a secrets file, of whatever type they are. -/
def checkMembersOnly (value : Json) : Checked (List (Utf16 × Json)) :=
  checkObject (checkMembers .ok) value

/-- The entry for a member that is passed over. -/
def skippedEntry (name : Utf16) : LogEntry :=
  ⟨.debug, "Skipping non-object secrets entry", [("name", .string name)]⟩

/-- Permission bits in octal digits, at least four of them. -/
def modeText (mode : Nat) : String :=
  Number.padLeft 4 '0' (String.ofList (Nat.toDigits 8 mode))

/-- The warning about a file that others than its owner may use. -/
def modeEntry (path : String) (mode : Nat) : LogEntry :=
  ⟨.warn, "Secrets file is readable by other users; should be 0600",
    [("path", .string path), ("mode", .string (modeText mode)),
      ("fix", .string ("chmod 600 " ++ path))]⟩

/-- The bits that give the owner, the group and others their rights. -/
def rightsBits : Nat := 0o777

/-- The bits that give the group or others any right. -/
def sharedBits : Nat := 0o077

/-- Warn about the file at a path if others than its owner may use it. -/
def warnIfShared (disk : Disk) (path : String) : Logged Unit :=
  match disk.mode? path with
  | none => pure ()
  | some mode =>
    if mode &&& sharedBits = 0 then pure ()
    else Logged.entry (modeEntry path (mode &&& rightsBits))

/-- The secrets among the members of a file, one after the other. -/
def ofMembers (path : String) (secrets : Secrets) : List (Utf16 × Json) → Logged Secrets
  | [] => pure secrets
  | (name, .object fields) :: rest => do
    let secret ← Logged.ofExcept
      ((validate Secret.check path [.name name] (.object fields)).mapError .config)
    ofMembers path (secrets.insert name secret) rest
  | (name, _) :: rest => do
    Logged.entry (skippedEntry name)
    ofMembers path secrets rest

/-- The secrets in the file at a path. -/
def load (disk : Disk) (path : String) : Logged Secrets := do
  match ← Logged.ofExcept (disk.readJson path) with
  | none => pure Table.empty
  | some data =>
    warnIfShared disk path
    let members ← Logged.ofExcept ((validate checkMembersOnly path [] data).mapError .config)
    ofMembers path Table.empty members

end Secrets

end PromptTemplate
