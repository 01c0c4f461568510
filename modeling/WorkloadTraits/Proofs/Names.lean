import WorkloadTraits.Builtin.Access
import WorkloadTraits.Proofs.Contribution.Merge

/-!
# Names are not empty

A name that an author gives counts only if it is not blank, but it is used normalized: in lower
case and without pasted white space.  That something is left of it is not obvious, since the lower
case of a character is looked up in a table.  It holds because no character that is not blank has a
lower case that is pasted white space, and so the account of a policy always has a name.
-/

namespace WorkloadTraits

open Text

namespace Label

lemma toNat_of_isPasted {c : Char} (hc : isPasted c = true) : 0 < c.toNat ∧ c.toNat ≤ 0x20 := by
  simp only [isPasted, Bool.or_eq_true, beq_iff_eq] at hc
  rcases hc with ((rfl | rfl) | rfl) | rfl <;> decide

lemma isBlank_of_isPasted {c : Char} (hc : isPasted c = true) : isBlank c = true := by
  simp only [isPasted, Bool.or_eq_true, beq_iff_eq] at hc
  rcases hc with ((rfl | rfl) | rfl) | rfl <;> decide

lemma not_isPasted_toLower {n : Nat} (hn : n < 0x80) :
    isBlank (Char.ofNat n) = false → isPasted (Char.ofNat n).toLower = false := by
  revert n
  decide

lemma lowerRuns_above_space : ∀ run ∈ CaseTable.lowerRuns, 0x20 < run.2.2.2 := by
  decide +kernel

/-- Pasted white space is the lower case of blanks only. -/
lemma isBlank_of_isPasted_lowerChar {c : Char} (hpasted : isPasted (lowerChar c) = true) :
    isBlank c = true := by
  by_contra hblank
  rw [Bool.not_eq_true] at hblank
  rw [lowerChar] at hpasted
  split at hpasted
  · rename_i hsmall
    have hkept := not_isPasted_toLower hsmall
    rw [Char.ofNat_toNat] at hkept
    exact Bool.false_ne_true ((hkept hblank).symm.trans hpasted)
  · split at hpasted
    · rename_i first last step lower hrun
      -- Every run of the table starts above the space; a number that is no character counts as 0.
      have habove : 0x20 < lower := lowerRuns_above_space _ (List.mem_of_find?_eq_some hrun)
      obtain ⟨hpositive, hsmall⟩ := toNat_of_isPasted hpasted
      rw [Char.toNat_ofNat] at hpositive hsmall
      split_ifs at hpositive hsmall <;> omega
    · exact Bool.false_ne_true (hblank.symm.trans (isBlank_of_isPasted hpasted))

/-- A character that is not blank leaves something behind, whatever stands around it. -/
lemma exists_not_isPasted_lowerChars (before : List Char) {cs : List Char}
    (h : cs.all isBlank = false) : ∃ c ∈ lowerChars before cs, isPasted c = false := by
  induction cs generalizing before with
  | nil => cases h
  | cons c rest ih =>
      rw [lowerChars]
      simp only [List.mem_append]
      by_cases hc : isBlank c = true
      · rw [List.all_cons, hc, Bool.true_and] at h
        obtain ⟨c', hc', hkept⟩ := ih _ h
        exact ⟨c', .inr hc', hkept⟩
      · split
        · split
          · exact ⟨'ς', .inl (List.mem_singleton_self _), by decide⟩
          · exact ⟨'σ', .inl (List.mem_singleton_self _), by decide⟩
        · split
          · exact ⟨'i', .inl List.mem_cons_self, by decide⟩
          · refine ⟨lowerChar c, .inl (List.mem_singleton_self _), ?_⟩
            exact Bool.eq_false_iff.2 fun hpasted => hc (isBlank_of_isPasted_lowerChar hpasted)

/-- A name that is given is a name after normalization. -/
theorem normalize_ne_empty {name : String} (h : isBlankText name = false) :
    normalize name ≠ "" := by
  obtain ⟨c, hc, hkept⟩ := exists_not_isPasted_lowerChars [] h
  intro hempty
  have hnil : (lowerChars [] name.toList).filter (fun c => !isPasted c) = [] := by
    have hchars := congrArg String.toList hempty
    rwa [normalize, String.toList_ofList] at hchars
  have hmem : c ∈ (lowerChars [] name.toList).filter (fun c => !isPasted c) :=
    List.mem_filter.2 ⟨hc, by rw [hkept]; rfl⟩
  rw [hnil] at hmem
  cases hmem

end Label

/-- The account of a policy has a name. -/
theorem AccessPolicy.accountName_ne_empty (target : String) (index : Nat) (p : AccessPolicy) :
    p.accountName target index ≠ "" := by
  rw [accountName]
  by_cases hblank : isBlankText p.serviceAccount = true
  · rw [if_pos hblank]
    split <;> simp [String.append_eq_empty_iff]
  · rw [if_neg hblank]
    exact Label.normalize_ne_empty (Bool.not_eq_true _ ▸ hblank)

end WorkloadTraits
