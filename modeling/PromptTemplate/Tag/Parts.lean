/-!
# Parts of a tag body

The parts of a tag body are its maximal runs without a space or tab outside double quotes. Quotes
stay in the part they stand in, so nothing but separators is lost.
-/

namespace PromptTemplate

/-- The characters that separate parts. -/
def isSeparator (c : Char) : Bool := c == ' ' || c == '\t'

/-- Whether the text after `c` is quoted. -/
def quotedAfter (quoted : Bool) (c : Char) : Bool := if c = '"' then !quoted else quoted

/-- The text up to the first separator outside quotes, and the rest from there. -/
def takePart (quoted : Bool) : List Char → List Char × List Char
  | [] => ([], [])
  | c :: cs =>
    if isSeparator c && !quoted then ([], c :: cs)
    else
      let (part, rest) := takePart (quotedAfter quoted c) cs
      (c :: part, rest)

theorem takePart_append (quoted : Bool) (cs : List Char) :
    (takePart quoted cs).1 ++ (takePart quoted cs).2 = cs := by
  induction cs generalizing quoted with
  | nil => rfl
  | cons c cs ih =>
    simp only [takePart]
    split
    · rfl
    · simp [ih]

theorem length_takePart_snd_le (quoted : Bool) (cs : List Char) :
    (takePart quoted cs).2.length ≤ cs.length := by
  have h := congrArg List.length (takePart_append quoted cs)
  simp only [List.length_append] at h
  omega

/-- The parts of a text, in order. -/
def splitParts (cs : List Char) : List (List Char) :=
  match cs with
  | [] => []
  | c :: rest =>
    if isSeparator c then splitParts rest
    else
      let cut := takePart (quotedAfter false c) rest
      (c :: cut.1) :: splitParts cut.2
termination_by cs.length
decreasing_by
  · simp
  · have := length_takePart_snd_le (quotedAfter false c) rest
    simp only [List.length_cons]
    omega

end PromptTemplate
