import Mathlib
import WorkloadTraits.SortedMap

/-!
# Maps by their look-ups

A sorted map has one list of entries for each function that it can be looked up by (`ext_get?`), so
that maps which were made in different ways are compared key by key.
-/

namespace WorkloadTraits.SortedMap

variable {α : Type}

lemma mem_entries_iff {m : SortedMap α} {key : String} {value : α} :
    (key, value) ∈ m.entries ↔ m.get? key = some value := by
  obtain ⟨entries, hsorted⟩ := m
  show (key, value) ∈ entries ↔ entries.lookup key = some value
  induction entries with
  | nil => simp
  | cons head rest ih =>
      obtain ⟨k, v⟩ := head
      obtain ⟨hfirst, hrest⟩ := List.pairwise_cons.1 hsorted
      rw [List.mem_cons, ih hrest, List.lookup_cons]
      by_cases hkey : key = k
      · -- The key does not stand behind the first entry.
        subst hkey
        have habsent : rest.lookup key ≠ some value := by
          intro hlookup
          exact String.lt_irrefl key (hfirst _ ((ih hrest).2 hlookup))
        rw [beq_self_eq_true, or_iff_left habsent, Prod.mk.injEq, Option.some.injEq, eq_comm]
        exact ⟨fun h => h.2.symm ▸ rfl, fun h => ⟨rfl, h.symm ▸ rfl⟩⟩
      · rw [beq_eq_false_iff_ne.2 hkey, or_iff_right fun h => hkey (congrArg Prod.fst h)]

/-- **Maps are determined by their look-ups.** -/
theorem ext_get? {m m' : SortedMap α} (h : ∀ x, m.get? x = m'.get? x) : m = m' := by
  have hnodup : ∀ m : SortedMap α, m.entries.Nodup := fun m =>
    m.sorted.imp fun {a b} (hlt : a.1 < b.1) heq => hlt.ne (congrArg Prod.fst heq)
  have hperm : m.entries.Perm m'.entries := by
    rw [List.perm_ext_iff_of_nodup (hnodup m) (hnodup m')]
    rintro ⟨key, value⟩
    rw [mem_entries_iff, mem_entries_iff, h]
  have hentries : m.entries = m'.entries :=
    hperm.eq_of_pairwise (fun a b _ _ hab hba => absurd hba (String.lt_asymm hab))
      m.sorted m'.sorted
  cases m
  cases m'
  exact (mk.injEq ..).mpr hentries

/-- A map that is left out when it is empty has the same look-ups. -/
lemma bind_given? (m : SortedMap α) (x : String) : m.given?.bind (·.get? x) = m.get? x := by
  rw [given?]
  split
  · rename_i hempty
    rw [get?, List.isEmpty_iff.1 hempty]
    rfl
  · rfl

@[simp] lemma empty_overlay (m : SortedMap α) : empty.overlay m = m := by
  apply ext_get?
  intro x
  rw [get?_overlay, get?_empty, Option.or_none]

/-- A map that has been laid over another changes nothing when it is laid over it again. -/
lemma overlay_overlay (base extra : SortedMap α) :
    (base.overlay extra).overlay extra = base.overlay extra := by
  apply ext_get?
  intro x
  rw [get?_overlay, get?_overlay, ← Option.or_assoc, Option.or_self]

end WorkloadTraits.SortedMap
