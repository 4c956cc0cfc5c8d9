import PromptTemplate.Table
import PromptTemplate.Text.Blank
/-!
# Variable files

A variable file sets one variable a line: a name, `=` or a colon with a blank, and a value. Blanks
around each part do not count, even if they run over several lines, and the word `export` may stand
in front. Behind `#` there is a comment. A value in quotes may hold `#` and line ends. A line that
sets nothing is passed over.

A quote behind a backslash does not end a quoted value, unless no other quote does. What stands
behind the closing quote must be blank up to the end of a line or a comment; if it is not, the
quotes have no meaning and the value ends with its line.

A value may itself have lines, of which two kinds of line end are no end of the value. Quotes that
enclose some of its lines are taken off, from the first line that begins with one to the last that
ends with the same.
-/

namespace PromptTemplate.EnvFile

open Text

/-- A character of a name: an ASCII letter or digit, an underscore, a point or a dash. -/
def isNameChar (c : Char) : Bool := c.isAlphanum || c == '_' || c == '.' || c == '-'

/-- A character that ends a line. -/
def isLineEnd (c : Char) : Bool := c == '\n' || c == '\r' || c == '\u2028' || c == '\u2029'

/-- A text with one form of line end for the two others that typed text has. -/
def unifyLines : List Char → List Char
  | [] => []
  | '\r' :: '\n' :: cs => '\n' :: unifyLines cs
  | '\r' :: cs => '\n' :: unifyLines cs
  | c :: cs => c :: unifyLines cs

/-- A quote that may enclose a value. -/
def isQuote (c : Char) : Bool := c == '\'' || c == '"' || c == '\x60'

/-- What stands behind the sign between a name and its value. -/
def afterSign? (cs : List Char) : Option (List Char) :=
  match trimStart cs, cs with
  | '=' :: rest, _ => some rest
  | _, ':' :: c :: rest => if isBlank c then some rest else none
  | _, _ => none

/-- A name at the start of a text, and what stands behind the sign after it. -/
def nameAndRest? (cs : List Char) : Option (List Char × List Char) :=
  let (name, rest) := cs.span isNameChar
  if name.isEmpty then none else (afterSign? rest).map fun rest => (name, rest)

/-- The word that may stand in front of a name. -/
def exportWord : List Char := "export".toList

/-- What stands behind the word `export` and a blank. -/
def afterExport? (cs : List Char) : Option (List Char) :=
  if exportWord.isPrefixOf cs then
    match cs.drop exportWord.length with
    | c :: rest => if isBlank c then some (trimStart rest) else none
    | [] => none
  else none

/-- The name that the text at the start of a line sets, and what stands behind the sign. -/
def setting? (cs : List Char) : Option (List Char × List Char) :=
  let cs := trimStart cs
  ((afterExport? cs).bind nameAndRest?).or (nameAndRest? cs)

/-- Nothing but blanks stands before the end of the line or a comment. -/
def endsLine (cs : List Char) : Bool :=
  match trimStart cs with
  | [] => true
  | c :: _ => c == '#' || (cs.takeWhile isBlank).any isLineEnd

/-- Ways to cut a text at `quote`, as the part before it and the part behind it: first at the first
one that does not stand behind a backslash, and then at each of those before it, the last first.
`before` holds what has been passed, the last character first. -/
def closings (quote : Char) (before : List Char) : List Char → List (List Char × List Char)
  | [] => []
  | c :: rest =>
    if c = quote then
      match before with
      | '\\' :: _ => closings quote (c :: before) rest ++ [(before.reverse, rest)]
      | _ => [(before.reverse, rest)]
    else closings quote (c :: before) rest

/-- The inside of a quoted value at the start of a text, and what stands behind it. -/
def quoted? (cs : List Char) : Option (Char × List Char × List Char) :=
  match trimStart cs with
  | [] => none
  | quote :: rest =>
    if isQuote quote then
      ((closings quote [] rest).find? fun cut => endsLine cut.2).map fun cut => (quote, cut)
    else none

/-- A character that ends a value without quotes. -/
def endsPlain (c : Char) : Bool := c == '#' || c == '\n'

/-- A value in its quotes, or the rest of a line up to a comment, and what stands behind it. -/
def written (cs : List Char) : List Char × List Char :=
  match quoted? cs with
  | some (quote, inside, rest) => (quote :: (inside ++ [quote]), rest)
  | none => (trim (cs.takeWhile fun c => !endsPlain c), cs.dropWhile fun c => !endsPlain c)

/-- A text cut at the last `quote` that ends a line, which is left out. -/
def cutLastClosing? (quote : Char) : List Char → Option (List Char × List Char)
  | [] => none
  | c :: rest =>
    match cutLastClosing? quote rest with
    | some (inside, after) => some (c :: inside, after)
    | none => if c = quote ∧ rest.head?.all isLineEnd then some ([], rest) else none

theorem length_of_cutLastClosing? {quote : Char} {cs inside after : List Char}
    (h : cutLastClosing? quote cs = some (inside, after)) :
    cs.length = inside.length + 1 + after.length := by
  induction cs generalizing inside with
  | nil => simp [cutLastClosing?] at h
  | cons c rest ih =>
    simp only [cutLastClosing?] at h
    split at h
    · next hr =>
      simp only [Option.some.injEq, Prod.mk.injEq] at h
      obtain ⟨rfl, rfl⟩ := h
      rw [List.length_cons, ih hr, List.length_cons]
      omega
    · split at h
      · simp only [Option.some.injEq, Prod.mk.injEq] at h
        obtain ⟨rfl, rfl⟩ := h
        simp
        omega
      · exact absurd h (by simp)

/-- A text without the quotes that enclose lines of it; `lineStart` says whether a line begins
with the text. -/
def stripQuotesFrom (lineStart : Bool) : List Char → List Char
  | [] => []
  | c :: rest =>
    if lineStart && isQuote c then
      match h : cutLastClosing? c rest with
      | some (inside, after) =>
        have := length_of_cutLastClosing? h
        inside ++ stripQuotesFrom false after
      | none => c :: stripQuotesFrom (isLineEnd c) rest
    else c :: stripQuotesFrom (isLineEnd c) rest
termination_by cs => cs.length
decreasing_by all_goals simp only [List.length_cons]; omega

/-- A value without the quotes that enclose lines of it. -/
def stripQuotes (cs : List Char) : List Char := stripQuotesFrom true cs

/-- A text with its escaped line ends replaced. -/
def expandLineEnds : List Char → List Char
  | [] => []
  | '\\' :: 'n' :: cs => '\n' :: expandLineEnds cs
  | '\\' :: 'r' :: cs => '\r' :: expandLineEnds cs
  | c :: cs => c :: expandLineEnds cs

/-- The value of a text that was written for one. -/
def meaning (cs : List Char) : List Char :=
  if cs.head? = some '"' then expandLineEnds (stripQuotes cs) else stripQuotes cs

/-- The text from the next start of a line on. -/
def nextLine : List Char → List Char
  | [] => []
  | c :: cs => if isLineEnd c then cs else nextLine cs

/-- The variables that lines set, in order; `fuel` is more than the number of characters. -/
def settings : Nat → List Char → List (String × String)
  | 0, _ => []
  | _ + 1, [] => []
  | fuel + 1, cs =>
    match setting? cs with
    | none => settings fuel (nextLine cs)
    | some (name, rest) =>
      let (value, rest) := written rest
      (String.ofList name, String.ofList (meaning value)) :: settings fuel (nextLine rest)

/-- What a text sets, by name; of a name that is set twice the last value counts. -/
def parse (text : String) : Table String String :=
  let cs := unifyLines text.toList
  Table.ofList (settings (cs.length + 1) cs)

/-! ## Facts -/

example : (parse "A=1 # one\nexport B = 'x # y'\nC: \"p\\nq\"\n# D=2\n").entries =
    [("A", "1"), ("B", "x # y"), ("C", "p\nq")] := by decide +kernel

end PromptTemplate.EnvFile
