import PromptTemplate.Json
/-!
# Writing JSON

`Json.compact` writes a value on one line and `Json.pretty` with two blanks for each level. In a
string only the quote, the backslash, the characters below U+0020 and surrogates without a partner
are escaped. A number that is infinite is written as `null`.
-/

namespace PromptTemplate.Json

/-- The hexadecimal digit of a value below sixteen. -/
def hexChar (n : Nat) : Char :=
  if n < 10 then Char.ofNat ('0'.toNat + n) else Char.ofNat ('a'.toNat + (n - 10))

/-- A unit as four hexadecimal digits behind `\u`. -/
def escapeUnit (n : Nat) : List Char :=
  ['\\', 'u', hexChar (n / 0x1000), hexChar (n / 0x100 % 0x10), hexChar (n / 0x10 % 0x10),
    hexChar (n % 0x10)]

/-- A character as it stands in a string. -/
def escapeChar (c : Char) : List Char :=
  if c = '"' then ['\\', '"']
  else if c = '\\' then ['\\', '\\']
  else if c = '\x08' then ['\\', 'b']
  else if c = '\x0C' then ['\\', 'f']
  else if c = '\n' then ['\\', 'n']
  else if c = '\r' then ['\\', 'r']
  else if c = '\t' then ['\\', 't']
  else if c.toNat < 0x20 then escapeUnit c.toNat
  else [c]

/-- What stands at one place of a text, as it stands in a string. -/
def escape : Spelled → List Char
  | .char c => escapeChar c
  | .lone u => escapeUnit u.toNat

/-- A text in quotes. -/
def quote (t : Utf16) : String :=
  String.ofList ('"' :: ((Utf16.spell t.units).flatMap escape ++ ['"']))

/-- A number as it is written. -/
def numberText (n : Number.Decimal) : String := n.text?.getD "null"

/-- Texts with commas between them. -/
def commaSeparated (texts : List String) : String := ",".intercalate texts

mutual

/-- A value on one line. -/
def compact : Json → String
  | null => "null"
  | bool b => if b then "true" else "false"
  | number n => numberText n
  | string s => quote s
  | array items => "[" ++ commaSeparated (compactItems items) ++ "]"
  | object members => "\x7b" ++ commaSeparated (compactMembers members) ++ "\x7d"

/-- The items of an array. -/
def compactItems : List Json → List String
  | [] => []
  | item :: items => compact item :: compactItems items

/-- The members of an object. -/
def compactMembers : List (Utf16 × Json) → List String
  | [] => []
  | (name, value) :: members => (quote name ++ ":" ++ compact value) :: compactMembers members

end

/-- The start of a line at a level. -/
def newline (level : Nat) : String := String.ofList ('\n' :: List.replicate (2 * level) ' ')

/-- Texts between brackets, each on a line of its own. -/
def block (opening closing : String) (level : Nat) (texts : List String) : String :=
  if texts.isEmpty then opening ++ closing
  else
    opening ++ newline (level + 1) ++ ("," ++ newline (level + 1)).intercalate texts ++
      newline level ++ closing

mutual

/-- A value over several lines, its own brackets at a level. -/
def prettyAt (level : Nat) : Json → String
  | null => "null"
  | bool b => if b then "true" else "false"
  | number n => numberText n
  | string s => quote s
  | array items => block "[" "]" level (prettyItems (level + 1) items)
  | object members => block "\x7b" "\x7d" level (prettyMembers (level + 1) members)

/-- The items of an array at a level. -/
def prettyItems (level : Nat) : List Json → List String
  | [] => []
  | item :: items => prettyAt level item :: prettyItems level items

/-- The members of an object at a level. -/
def prettyMembers (level : Nat) : List (Utf16 × Json) → List String
  | [] => []
  | (name, value) :: members =>
    (quote name ++ ": " ++ prettyAt level value) :: prettyMembers level members

end

/-- A value over several lines. -/
def pretty (value : Json) : String := prettyAt 0 value

/-- The plain text of a scalar: a string without quotes, any other as it is written. -/
def scalarText : Json → String
  | string s => s.text
  | number n => n.text
  | value => compact value

end PromptTemplate.Json
