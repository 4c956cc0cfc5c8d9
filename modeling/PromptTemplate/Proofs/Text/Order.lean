import Mathlib.Data.List.Nodup
import PromptTemplate.Text.Utf16
/-!
# The order of texts

Texts are compared as the lists of their units (`lt_iff`), which is a linear order: a common start
has no part in it, and texts of narrow characters are compared character by character. Sorting
different texts puts each of them before all that follow it (`pairwise_sort`), and what is in this
order is known from its members (`eq_of_pairwise`).
-/

namespace PromptTemplate.Utf16

open Text (isWide unitsOf_narrow)

variable {a b : Utf16}

/-! ## Units -/

theorem lt_iff : lt a b = true ↔ a.units < b.units := by
  unfold lt
  simp only [← UInt16.lt_iff_toNat_lt]
  exact List.lex_eq_true_iff_lt

theorem le_iff : le a b = true ↔ a.units ≤ b.units := by
  rw [le, Bool.not_eq_true', Bool.eq_false_iff, Ne, lt_iff]
  exact List.not_lt

theorem le_trans (a b c : Utf16) (hab : le a b = true) (hbc : le b c = true) : le a c = true := by
  rw [le_iff] at hab hbc ⊢
  exact List.le_trans hab hbc

theorem le_total (a b : Utf16) : (le a b || le b a) = true := by
  rw [Bool.or_eq_true, le_iff, le_iff]
  exact List.le_total a.units b.units

/-- Different texts are in ascending order when they are sorted. -/
theorem pairwise_sort {ts : List Utf16} (h : ts.Nodup) :
    (sort ts).Pairwise fun a b => a.units < b.units := by
  have hsorted : (sort ts).Pairwise fun a b => le a b = true :=
    List.pairwise_mergeSort le_trans le_total ts
  have hnodup : (sort ts).Nodup := (sort_perm ts).nodup_iff.2 h
  refine hsorted.imp₂ (fun a b hle hne => ?_) hnodup
  have hunits : a.units ≠ b.units := fun heq => hne (congrArg Utf16.mk heq)
  exact (List.le_iff_lt_or_eq.1 (le_iff.1 hle)).resolve_right hunits

/-- Different strings are in ascending order of their units when they are sorted. -/
theorem pairwise_sortStrings {ss : List String} (h : ss.Nodup) :
    (sortStrings ss).Pairwise fun a b => (ofString a).units < (ofString b).units := by
  have hmap : (sortStrings ss).map ofString = sort (ss.map ofString) :=
    List.map_mergeSort fun _ _ _ _ => rfl
  have hnodup : (ss.map ofString).Nodup :=
    List.pairwise_map.2 (h.imp fun hne heq => hne (ofString_injective heq))
  have hsorted := pairwise_sort hnodup
  rwa [← hmap, List.pairwise_map] at hsorted

theorem nodup_of_pairwise {ss : List String}
    (h : ss.Pairwise fun a b => (ofString a).units < (ofString b).units) : ss.Nodup := by
  refine h.imp fun hlt heq => ?_
  rw [heq] at hlt
  exact List.lt_irrefl _ hlt

/-- What is in ascending order by its names is known from its members. -/
theorem eq_of_pairwise {α : Type} {f : α → String} {l l' : List α}
    (h : l.Pairwise fun a b => (ofString (f a)).units < (ofString (f b)).units)
    (h' : l'.Pairwise fun a b => (ofString (f a)).units < (ofString (f b)).units)
    (hmem : ∀ x, x ∈ l ↔ x ∈ l') : l = l' := by
  have hnodup : l.Nodup := (nodup_of_pairwise (List.pairwise_map.2 h)).of_map f
  have hnodup' : l'.Nodup := (nodup_of_pairwise (List.pairwise_map.2 h')).of_map f
  have hperm : l.Perm l' := (List.perm_ext_iff_of_nodup hnodup hnodup').2 hmem
  exact hperm.eq_of_pairwise (fun _ _ _ _ hlt hgt => absurd hgt (List.lt_asymm hlt)) h h'

/-! ## Common starts and characters -/

theorem lt_append_left (a u v : Utf16) : lt (a ++ u) (a ++ v) = lt u v := by
  obtain ⟨us⟩ := a
  induction us with
  | nil => rfl
  | cons w us ih =>
    show List.lex (w :: (us ++ u.units)) (w :: (us ++ v.units)) _ = _
    rw [List.lex, decide_eq_false (Nat.lt_irrefl _), beq_self_eq_true]
    exact ih

theorem lt_self (a : Utf16) : lt a a = false := by
  have h := lt_append_left a ⟨[]⟩ ⟨[]⟩
  rwa [append_empty] at h

theorem toNat_unit {c : Char} (h : isWide c = false) :
    (UInt16.ofNat c.toNat).toNat = c.toNat := by
  rw [isWide, decide_eq_false_iff_not] at h
  rw [UInt16.toNat_ofNat']
  omega

theorem lt_ofChars_cons {c d : Char} (hc : isWide c = false) (hd : isWide d = false)
    (cs ds : List Char) (u v : Utf16) :
    lt (ofChars (c :: cs) ++ u) (ofChars (d :: ds) ++ v) = true ↔
      c.toNat < d.toNat ∨ c.toNat = d.toNat ∧
        lt (ofChars cs ++ u) (ofChars ds ++ v) = true := by
  have hunit : UInt16.ofNat c.toNat = UInt16.ofNat d.toNat ↔ c.toNat = d.toNat := by
    rw [← UInt16.toNat_inj, toNat_unit hc, toNat_unit hd]
  unfold lt ofChars
  simp only [units_append, List.flatMap_cons, unitsOf_narrow hc, unitsOf_narrow hd,
    List.cons_append, List.nil_append, List.lex, toNat_unit hc, toNat_unit hd,
    Bool.or_eq_true, Bool.and_eq_true, decide_eq_true_eq, beq_iff_eq, hunit]

end PromptTemplate.Utf16
