import PromptTemplate.Json
/-!
# Reading JSON

JSON as RFC 8259 has it, with nothing but blanks around the value. An escape in a string is one
unit of the text, whether or not it is a surrogate that has its partner beside it.

Every step of the reader consumes a character, so the length of the text bounds the steps; the
reader counts them down and `Json.parse?` starts it with one more than the text has characters.
-/

namespace PromptTemplate.Json

/-- The blanks of JSON. -/
def isSpace (c : Char) : Bool := c == ' ' || c == '\t' || c == '\n' || c == '\r'

/-- What remains after the leading blanks. -/
def skipSpace (cs : List Char) : List Char := cs.dropWhile isSpace

/-- The value of a hexadecimal digit. -/
def hexDigit? (c : Char) : Option Nat :=
  let n := c.toNat
  if '0' ≤ c ∧ c ≤ '9' then some (n - '0'.toNat)
  else if 'a' ≤ c ∧ c ≤ 'f' then some (n - 'a'.toNat + 10)
  else if 'A' ≤ c ∧ c ≤ 'F' then some (n - 'A'.toNat + 10)
  else none

/-- The value of four hexadecimal digits, and the rest. -/
def hexUnit? : List Char → Option (Nat × List Char)
  | a :: b :: c :: d :: rest => do
    let a ← hexDigit? a
    let b ← hexDigit? b
    let c ← hexDigit? c
    let d ← hexDigit? d
    some (((a * 16 + b) * 16 + c) * 16 + d, rest)
  | _ => none

/-- The character that a single-letter escape stands for. -/
def simpleEscape? (c : Char) : Option Char :=
  if c = '"' ∨ c = '\\' ∨ c = '/' then some c
  else if c = 'b' then some '\x08'
  else if c = 'f' then some '\x0C'
  else if c = 'n' then some '\n'
  else if c = 'r' then some '\r'
  else if c = 't' then some '\t'
  else none

/-- The units up to the closing quote, and the rest. -/
def stringBody? : Nat → List Char → Option (List UInt16 × List Char)
  | 0, _ => none
  | _, [] => none
  | _, '"' :: rest => some ([], rest)
  | fuel + 1, '\\' :: 'u' :: rest => do
    let (n, rest) ← hexUnit? rest
    let (us, rest) ← stringBody? fuel rest
    some (UInt16.ofNat n :: us, rest)
  | fuel + 1, '\\' :: e :: rest => do
    let c ← simpleEscape? e
    let (us, rest) ← stringBody? fuel rest
    some (Text.unitsOf c ++ us, rest)
  | fuel + 1, c :: rest =>
    if c.toNat < 0x20 ∨ c = '\\' then none
    else do
      let (us, rest) ← stringBody? fuel rest
      some (Text.unitsOf c ++ us, rest)

/-- The leading digits of a text, and the rest. -/
def spanDigits (cs : List Char) : List Char × List Char :=
  cs.span fun c => (Number.digit? c).isSome

/-- The digits of an integer without leading zeros, and the rest. -/
def integerDigits? (cs : List Char) : Option (List Char × List Char) :=
  match spanDigits cs with
  | ([], _) => none
  | ('0' :: _ :: _, _) => none
  | (digits, rest) => some (digits, rest)

/-- The digits behind a point, if there is one, and the rest. -/
def fractionDigits? : List Char → Option (List Char × List Char)
  | '.' :: cs =>
    match spanDigits cs with
    | ([], _) => none
    | (digits, rest) => some (digits, rest)
  | cs => some ([], cs)

/-- The power of ten behind an `e`, if there is one, and the rest. -/
def powerOfTen? : List Char → Option (Int × List Char)
  | c :: cs =>
    if c = 'e' ∨ c = 'E' then
      let (negative, cs) :=
        match cs with
        | '-' :: cs => (true, cs)
        | '+' :: cs => (false, cs)
        | cs => (false, cs)
      let (digits, rest) := spanDigits cs
      (Number.digits? digits).map fun n => (if negative then -(n : Int) else n, rest)
    else some (0, c :: cs)
  | [] => some (0, [])

/-- A number at the start of a text, and the rest. -/
def number? (cs : List Char) : Option (Number.Decimal × List Char) := do
  let (negative, cs) :=
    match cs with
    | '-' :: cs => (true, cs)
    | cs => (false, cs)
  let (whole, cs) ← integerDigits? cs
  let (fraction, cs) ← fractionDigits? cs
  let (power, cs) ← powerOfTen? cs
  let digits ← Number.digits? (whole ++ fraction)
  some (⟨negative, digits, power - fraction.length⟩, cs)

/-- The text behind a word, if it starts with the word. -/
def word? (word : List Char) (value : Json) (cs : List Char) : Option (Json × List Char) :=
  if word.isPrefixOf cs then some (value, cs.drop word.length) else none

mutual

/-- A value at the start of a text, and the rest. -/
def value? : Nat → List Char → Option (Json × List Char)
  | 0, _ => none
  | fuel + 1, cs =>
    match skipSpace cs with
    | [] => none
    | '"' :: rest =>
      (stringBody? (rest.length + 1) rest).map fun r => (string ⟨r.1⟩, r.2)
    | '[' :: rest =>
      match skipSpace rest with
      | ']' :: rest => some (array [], rest)
      | rest => (items? fuel rest).map fun r => (array r.1, r.2)
    | '{' :: rest =>
      match skipSpace rest with
      | '}' :: rest => some (object [], rest)
      | rest => (members? fuel rest).map fun r => (ofMembers r.1, r.2)
    | 't' :: rest => word? "rue".toList (bool true) rest
    | 'f' :: rest => word? "alse".toList (bool false) rest
    | 'n' :: rest => word? "ull".toList null rest
    | c :: rest => (number? (c :: rest)).map fun r => (number r.1, r.2)

/-- One or more items up to the closing bracket, and the rest. -/
def items? : Nat → List Char → Option (List Json × List Char)
  | 0, _ => none
  | fuel + 1, cs => do
    let (item, cs) ← value? fuel cs
    match skipSpace cs with
    | ']' :: rest => some ([item], rest)
    | ',' :: rest => do
      let (items, rest) ← items? fuel rest
      some (item :: items, rest)
    | _ => none

/-- One or more members up to the closing brace, and the rest. -/
def members? : Nat → List Char → Option (List (Utf16 × Json) × List Char)
  | 0, _ => none
  | fuel + 1, cs =>
    match skipSpace cs with
    | '"' :: rest => do
      let (name, rest) ← stringBody? (rest.length + 1) rest
      match skipSpace rest with
      | ':' :: rest => do
        let (value, rest) ← value? fuel rest
        match skipSpace rest with
        | '}' :: rest => some ([(⟨name⟩, value)], rest)
        | ',' :: rest => do
          let (members, rest) ← members? fuel rest
          some ((⟨name⟩, value) :: members, rest)
        | _ => none
      | _ => none
    | _ => none

end

/-- The value of a JSON text; `none` if the text is not JSON. -/
def parse? (text : String) : Option Json :=
  match value? (text.toList.length + 1) text.toList with
  | some (value, rest) => if (skipSpace rest).isEmpty then some value else none
  | none => none

end PromptTemplate.Json
