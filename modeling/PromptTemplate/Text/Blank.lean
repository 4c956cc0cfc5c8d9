/-!
# Blank characters

The characters that surround a tag body, a pipe name or a range bound without belonging to it.
The set is fixed: the Unicode space separators, the two line separators, the five control
characters of a typed line, and the byte-order mark.

`trim` takes the blank characters off both ends and touches nothing else.
-/

namespace PromptTemplate.Text

/-- Blank: tab to carriage return, the space separators, U+2028, U+2029 and U+FEFF. -/
def isBlank (c : Char) : Bool :=
  let n := c.toNat
  (0x09 ≤ n && n ≤ 0x0D) || n == 0x20 || n == 0xA0 || n == 0x1680 ||
    (0x2000 ≤ n && n ≤ 0x200A) || n == 0x2028 || n == 0x2029 || n == 0x202F ||
    n == 0x205F || n == 0x3000 || n == 0xFEFF

/-- What remains after the leading blanks. -/
def trimStart (cs : List Char) : List Char := cs.dropWhile isBlank

/-- What remains before the trailing blanks. -/
def trimEnd (cs : List Char) : List Char := (cs.reverse.dropWhile isBlank).reverse

/-- The text without the blanks at its two ends. -/
def trim (cs : List Char) : List Char := trimEnd (trimStart cs)

/-! ## Facts -/

@[simp] theorem trim_nil : trim [] = [] := rfl

theorem trimStart_append_blank (pre cs : List Char) (h : ∀ c ∈ pre, isBlank c = true) :
    trimStart (pre ++ cs) = trimStart cs := by
  induction pre with
  | nil => rfl
  | cons c pre ih =>
    have hc : isBlank c = true := h c (by simp)
    simp only [trimStart, List.cons_append, List.dropWhile_cons, hc, if_true]
    exact ih fun d hd => h d (by simp [hd])

end PromptTemplate.Text
