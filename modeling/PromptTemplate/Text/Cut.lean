/-!
# Cutting a text at its first separator

`cut? sep s` is the text before and after the first occurrence of `sep` in `s`. It loses nothing
(`eq_append_of_cut?`), and the rest is shorter than the text (`length_lt_of_cut?`), which is what
makes the scanners that use it end.
-/

namespace PromptTemplate.Text

/-- The text before and after the first occurrence of `sep`; `none` if there is none. -/
def cut? (sep : List Char) : List Char → Option (List Char × List Char)
  | [] => if sep.isEmpty then some ([], []) else none
  | c :: rest =>
    if sep.isPrefixOf (c :: rest) then some ([], (c :: rest).drop sep.length)
    else (cut? sep rest).map fun found => (c :: found.1, found.2)

/-- The separator occurs somewhere in the text. -/
def occurs (sep s : List Char) : Bool := (cut? sep s).isSome

/-- The pieces between the occurrences of one character, in order. -/
def splitAt (sep : Char) : List Char → List (List Char)
  | [] => [[]]
  | c :: rest =>
    if c = sep then [] :: splitAt sep rest
    else
      match splitAt sep rest with
      | [] => [[c]]
      | piece :: pieces => (c :: piece) :: pieces

/-! ## Facts -/

theorem eq_append_of_cut? {sep s before after : List Char}
    (h : cut? sep s = some (before, after)) : s = before ++ sep ++ after := by
  induction s generalizing before with
  | nil =>
    simp only [cut?] at h
    split at h
    · next he =>
      simp only [Option.some.injEq, Prod.mk.injEq] at h
      simp [← h.1, ← h.2, List.isEmpty_iff.1 he]
    · exact absurd h (by simp)
  | cons c rest ih =>
    simp only [cut?] at h
    split at h
    · next hp =>
      simp only [Option.some.injEq, Prod.mk.injEq] at h
      obtain ⟨t, ht⟩ := List.isPrefixOf_iff_prefix.1 hp
      rw [← h.1, ← h.2, ← ht]
      simp
    · obtain ⟨⟨before', after'⟩, hcut, heq⟩ := Option.map_eq_some_iff.1 h
      simp only [Prod.mk.injEq] at heq
      obtain ⟨rfl, rfl⟩ := heq
      rw [ih hcut]
      simp

theorem length_of_cut? {sep s before after : List Char}
    (h : cut? sep s = some (before, after)) :
    s.length = before.length + sep.length + after.length := by
  rw [eq_append_of_cut? h]
  simp [Nat.add_assoc]

theorem length_lt_of_cut? {sep s before after : List Char}
    (h : cut? sep s = some (before, after)) (hsep : sep ≠ []) : after.length < s.length := by
  have := length_of_cut? h
  have := List.length_pos_iff.2 hsep
  omega

theorem splitAt_ne_nil (sep : Char) (s : List Char) : splitAt sep s ≠ [] := by
  cases s with
  | nil => simp [splitAt]
  | cons c rest =>
    simp only [splitAt]
    split
    · simp
    · split <;> simp

end PromptTemplate.Text
