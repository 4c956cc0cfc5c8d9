import PromptTemplate.Proofs.Dictionary.Lookup
import PromptTemplate.Secret
/-!
# Writing secrets out

Secrets are written out as an object, with a masked secret under each name. One name cannot be that
of a member that is set, so the secret of that name is lost; all others are there, each once
(`Secrets.mem_toMembers_iff`). Everything is written out exactly if no secret has that name
(`Secrets.writesAll_ofList_iff`).
-/

namespace PromptTemplate.Secrets

/-- There is a member for each name, once, and it is the secret of the name with its key masked. -/
structure WritesAll (secrets : Secrets) : Prop where
  names : (secrets.toMembers.map Prod.fst).Perm secrets.names
  masked : ∀ name shown, (name, shown) ∈ secrets.toMembers →
    ∃ secret, secrets.get? name = some secret ∧ shown = ⟨"***", secret.header, secret.matchUrl⟩
  size : secrets.size = secrets.toMembers.length

variable {secrets : Secrets}

theorem mem_toMembers_iff {name : Utf16} {shown : Secret} :
    (name, shown) ∈ secrets.toMembers ↔ name ≠ lostName ∧ ∃ secret,
      secrets.get? name = some secret ∧ shown = ⟨"***", secret.header, secret.matchUrl⟩ := by
  unfold toMembers
  simp only [List.mem_map, List.mem_filter, decide_eq_true_eq, Table.get?_eq_some_iff]
  constructor
  · rintro ⟨⟨name', secret⟩, ⟨hmem, hname⟩, heq⟩
    cases heq
    exact ⟨hname, secret, hmem, rfl⟩
  · rintro ⟨hname, secret, hmem, rfl⟩
    exact ⟨(name, secret), ⟨hmem, hname⟩, rfl⟩

/-- Only the lost name is missing. -/
theorem names_toMembers (secrets : Secrets) :
    secrets.toMembers.map Prod.fst = secrets.keys.erase lostName := by
  unfold toMembers
  rw [secrets.keys_nodup.erase_eq_filter, Table.keys, List.map_map, List.filter_map]
  exact congrArg _ (List.filter_congr fun e _ => by simp [bne, lostName, beq_eq_decide])

theorem nodup_names_toMembers (secrets : Secrets) : (secrets.toMembers.map Prod.fst).Nodup := by
  rw [names_toMembers]
  exact secrets.keys_nodup.erase lostName

/-- At most one secret is lost. -/
theorem size_eq (secrets : Secrets) :
    secrets.size = secrets.toMembers.length + if lostName ∈ secrets.keys then 1 else 0 := by
  have hsize : secrets.size = secrets.keys.length := (List.length_map Prod.fst).symm
  rw [hsize, ← List.length_map Prod.fst, names_toMembers]
  split
  · next hmem =>
    have hpos := List.length_pos_of_mem hmem
    rw [List.length_erase_of_mem hmem]
    omega
  · next hmem => rw [List.erase_of_not_mem hmem, Nat.add_zero]

theorem writesAll_iff : secrets.WritesAll ↔ lostName ∉ secrets.keys := by
  constructor
  · intro h hlost
    have hmem : lostName ∈ secrets.toMembers.map Prod.fst :=
      h.names.mem_iff.2 ((Utf16.sort_perm _).mem_iff.2 hlost)
    rw [names_toMembers] at hmem
    exact secrets.keys_nodup.not_mem_erase hmem
  · intro hlost
    have hnames : secrets.toMembers.map Prod.fst = secrets.keys := by
      rw [names_toMembers, List.erase_of_not_mem hlost]
    have hsize := secrets.size_eq
    rw [if_neg hlost] at hsize
    refine ⟨?_, fun name shown hshown => (mem_toMembers_iff.1 hshown).2, hsize⟩
    rw [hnames]
    exact (Utf16.sort_perm _).symm

/-- **Writing secrets out.** Of secrets made from any pairs, the last of a name counts. All of them
are written out, each under its name with its key masked, exactly if none has the lost name. In any
case each of the others is, once, and nothing else. -/
theorem writesAll_ofList_iff (pairs : List (Utf16 × Secret)) :
    let secrets : Secrets := Table.ofList pairs
    (∀ name, secrets.get? name = pairs.reverse.lookup name) ∧
      (secrets.WritesAll ↔ lostName ∉ pairs.map Prod.fst) ∧
      (∀ name shown, (name, shown) ∈ secrets.toMembers ↔ name ≠ lostName ∧ ∃ secret,
        secrets.get? name = some secret ∧ shown = ⟨"***", secret.header, secret.matchUrl⟩) ∧
      (secrets.toMembers.map Prod.fst).Nodup ∧
      secrets.size = secrets.toMembers.length + if lostName ∈ pairs.map Prod.fst then 1 else 0 := by
  intro secrets
  have hkeys : lostName ∈ secrets.keys ↔ lostName ∈ pairs.map Prod.fst := Table.mem_keys_ofList
  refine ⟨Table.get?_ofList pairs, ?_, fun _ _ => mem_toMembers_iff, nodup_names_toMembers secrets,
    ?_⟩
  · rw [writesAll_iff, hkeys]
  · simp only [← hkeys]
    exact secrets.size_eq

/-- A secret with the lost name is there, but is not written out. -/
theorem not_writesAll_lostSecret :
    let secrets : Secrets := Table.ofList [(("__proto__" : Utf16), ⟨"k", "h", "u"⟩)]
    secrets.get? "__proto__" = some ⟨"k", "h", "u"⟩ ∧ secrets.names = [lostName] ∧
      secrets.size = 1 ∧ secrets.toMembers = [] ∧ ¬ secrets.WritesAll := by
  intro secrets
  refine ⟨by decide, by decide +kernel, by decide, by decide, fun h => ?_⟩
  exact absurd h.size (by decide)

end PromptTemplate.Secrets
