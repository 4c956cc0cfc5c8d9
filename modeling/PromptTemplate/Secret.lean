import PromptTemplate.Table
import PromptTemplate.Text.Utf16
/-!
# Secrets

A secret has a key, the header that carries it and the address it is good for. Templates read the
address alone. When secrets are written out, every key is masked.
-/

namespace PromptTemplate

/-- A secret: the key itself, the header it is sent in, and the address it is good for. -/
structure Secret where
  key : Utf16
  header : Utf16
  matchUrl : Utf16
  deriving Repr, DecidableEq

/-- Secrets by name. -/
abbrev Secrets := Table Utf16 Secret

namespace Secrets

/-- What stands for a key that is not to be seen. -/
def mask : Utf16 := "***"

/-- A secret that may be seen. -/
def masked (s : Secret) : Secret := { s with key := mask }

/-- The names in ascending order. -/
def names (s : Secrets) : List Utf16 := Utf16.sort s.keys

/-- The secrets as they are written out: an object with a member for each name but `__proto__`,
which cannot name a member that is set by assignment. -/
def toMembers (s : Secrets) : List (Utf16 × Secret) :=
  (s.entries.filter fun e => e.1 ≠ ("__proto__" : Utf16)).map fun e => (e.1, masked e.2)

end Secrets

end PromptTemplate
