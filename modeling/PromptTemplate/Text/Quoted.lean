import PromptTemplate.Text.Cut
import PromptTemplate.Text.Utf16
/-!
# Quoted texts

A message that shows what was given shows it in quotes and on one line: control characters, the
backslash and the quote itself are escaped. There are three quotes, and the first that the text
does not hold is taken, so an escaped quote is rare.
-/

namespace PromptTemplate.Text

/-- The quote for a text: a single or a double quote or a backtick, whichever does not occur in it
first, and a single quote if all of them do. A dollar sign with a brace rules out the backtick. -/
def quoteFor (cs : List Char) : Char :=
  if '\'' ∉ cs then '\''
  else if '"' ∉ cs then '"'
  else if '\x60' ∉ cs ∧ !occurs ['$', '\x7b'] cs then '\x60'
  else '\''

/-- A character that shows nothing by itself. -/
def isControl (c : Char) : Bool := c.toNat < 0x20 || (0x7F ≤ c.toNat && c.toNat < 0xA0)

/-- The upper-case hexadecimal digit of a value below sixteen. -/
def upperHexChar (n : Nat) : Char := (Nat.digitChar n).toUpper

/-- A character as it stands between quotes. -/
def escapeWithin (quote c : Char) : List Char :=
  if c = quote ∨ c = '\\' then ['\\', c]
  else if c = '\x08' then ['\\', 'b']
  else if c = '\t' then ['\\', 't']
  else if c = '\n' then ['\\', 'n']
  else if c = '\x0C' then ['\\', 'f']
  else if c = '\r' then ['\\', 'r']
  else if isControl c then ['\\', 'x', upperHexChar (c.toNat / 16), upperHexChar (c.toNat % 16)]
  else [c]

/-- A text in quotes. -/
def quoted (s : String) : String :=
  let quote := quoteFor s.toList
  String.ofList (quote :: (s.toList.flatMap (escapeWithin quote) ++ [quote]))

/-- How many units of a quoted text are shown. -/
def shownUnits : Nat := 128

/-- A text in quotes, cut if it is long. -/
def quotedShort (s : String) : String :=
  let t := Utf16.ofString (quoted s)
  if t.size ≤ shownUnits then t.text else (t.take shownUnits).text ++ "..."

/-! ## Facts -/

example : quoted "a\x00b" = "'a\\x00b'" ∧ quoted "it's" = "\"it's\"" ∧
    quoted "\t\\\x7F" = "'\\t\\\\\\x7F'" := by decide +kernel

end PromptTemplate.Text
