import Mathlib
import WorkloadTraits.Text.Blank

/-!
# Trimmed text

What is left of a text without the blanks at its ends.  `Trimmed s t` says it of the two texts, with
nothing of how the blanks are found: `t` stands in `s` between blanks, and neither begins nor ends
with one.  There is one such text for each, and it is the one that `trim` makes (`trim_eq_iff`).

The end of a text is where the recursion is awkward, since it runs from the front.  But dropping
blanks there is dropping them in front of the reversed text (`dropTrailing_eq_rdropWhile`), of which
the library knows the rest.
-/

namespace WorkloadTraits.Text

/-- A text `t` is a text `s` without the blanks at either end. -/
structure Trimmed (s t : String) : Prop where
  between : ∃ before after, s.toList = before ++ t.toList ++ after ∧
    (∀ c ∈ before, isBlank c = true) ∧ ∀ c ∈ after, isBlank c = true
  first : ∀ c, t.toList.head? = some c → isBlank c = false
  last : ∀ c, t.toList.getLast? = some c → isBlank c = false

/-! ## The end of a text -/

section DropTrailing

variable {blank : Char → Bool} {cs tail : List Char}

lemma dropTrailing_eq_rdropWhile (blank : Char → Bool) (cs : List Char) :
    dropTrailing blank cs = cs.rdropWhile blank := by
  induction cs with
  | nil => rfl
  | cons c rest ih =>
      rw [List.rdropWhile, ← List.reverse_eq_iff] at ih
      rw [dropTrailing, List.rdropWhile, List.reverse_cons, List.dropWhile_append, ← ih]
      cases dropTrailing blank rest with
      | nil => by_cases hc : blank c = true <;> simp [hc]
      | cons c' kept => simp

/-- Nothing but blanks is dropped at the end. -/
lemma exists_dropTrailing (blank : Char → Bool) (cs : List Char) :
    ∃ tail, cs = dropTrailing blank cs ++ tail ∧ ∀ c ∈ tail, blank c = true := by
  refine ⟨cs.rtakeWhile blank, ?_, fun c hc => List.mem_rtakeWhile_imp hc⟩
  rw [dropTrailing_eq_rdropWhile, List.rdropWhile_append_rtakeWhile]

lemma getLast?_dropTrailing {c : Char} (h : (dropTrailing blank cs).getLast? = some c) :
    blank c = false := by
  rw [dropTrailing_eq_rdropWhile] at h
  have hne : cs.rdropWhile blank ≠ [] := by
    intro hnil
    rw [hnil] at h
    cases h
  rw [List.getLast?_eq_some_getLast hne] at h
  obtain rfl := Option.some.inj h
  exact Bool.eq_false_iff.2 (List.rdropWhile_last_not blank cs hne)

/-- A text that does not end with a blank stays as it is, whatever blanks follow. -/
lemma dropTrailing_append (hcs : ∀ c, cs.getLast? = some c → blank c = false)
    (htail : ∀ c ∈ tail, blank c = true) : dropTrailing blank (cs ++ tail) = cs := by
  rw [dropTrailing_eq_rdropWhile]
  induction tail using List.reverseRecOn with
  | nil =>
      rw [List.append_nil, List.rdropWhile_eq_self_iff]
      intro hne
      rw [hcs _ (List.getLast?_eq_some_getLast hne)]
      exact Bool.false_ne_true
  | append_singleton tail c ih =>
      rw [← List.append_assoc, List.rdropWhile_concat_pos _ _ _ (htail c (by simp))]
      exact ih fun c' hc' => htail c' (List.mem_append_left _ hc')

end DropTrailing

/-- A text is what is left of it and the characters that were taken off its end. -/
lemma exists_dropTrailingChar (c : Char) (s : String) :
    ∃ n, s = dropTrailingChar c s ++ String.ofList (List.replicate n c) ∧
      (dropTrailingChar c s).toList.getLast? ≠ some c := by
  obtain ⟨tail, hsplit, htail⟩ := exists_dropTrailing (· == c) s.toList
  have hreplicate : tail = List.replicate tail.length c :=
    List.eq_replicate_of_mem fun d hd => beq_iff_eq.1 (htail d hd)
  refine ⟨tail.length, ?_, fun hlast => ?_⟩
  · rw [← hreplicate, dropTrailingChar, ← String.ofList_append, ← hsplit, String.ofList_toList]
  · rw [dropTrailingChar, String.toList_ofList] at hlast
    have hne := getLast?_dropTrailing hlast
    rw [beq_self_eq_true] at hne
    cases hne

/-- What does not end with a character is what is left, however often the character follows. -/
lemma dropTrailingChar_append {c : Char} {s : String} (hlast : s.toList.getLast? ≠ some c)
    (n : ℕ) : dropTrailingChar c (s ++ String.ofList (List.replicate n c)) = s := by
  rw [dropTrailingChar, String.toList_append, String.toList_ofList, dropTrailing_append,
    String.ofList_toList]
  · exact fun d hd => beq_eq_false_iff_ne.2 fun hdc => hlast (hdc ▸ hd)
  · exact fun d hd => beq_iff_eq.2 (List.eq_of_mem_replicate hd)

/-! ## Both ends -/

/-- **Trimming** gives the one text that is left without the blanks at both ends. -/
theorem trim_eq_iff {s t : String} : trim s = t ↔ Trimmed s t := by
  constructor
  · rintro rfl
    obtain ⟨after, hafter, hblank⟩ := exists_dropTrailing isBlank (s.toList.dropWhile isBlank)
    have hsplit : s.toList = s.toList.takeWhile isBlank ++ trimChars s.toList ++ after := by
      rw [List.append_assoc, trimChars, ← hafter, List.takeWhile_append_dropWhile]
    refine ⟨⟨s.toList.takeWhile isBlank, after, ?_, fun c hc => List.mem_takeWhile_imp hc, hblank⟩,
      fun c hc => ?_, fun c hc => ?_⟩
    · rwa [trim, String.toList_ofList]
    · -- The text that is left is the front of what begins behind the blanks.
      rw [trim, String.toList_ofList, trimChars] at hc
      have hfront : (s.toList.dropWhile isBlank).head? = some c := by
        rw [hafter, List.head?_append, hc, Option.some_or]
      have hnot := List.head?_dropWhile_not isBlank s.toList
      rw [hfront] at hnot
      exact Bool.eq_false_iff.2 (by simpa using hnot)
    · rw [trim, String.toList_ofList] at hc
      exact getLast?_dropTrailing hc
  · rintro ⟨⟨before, after, hs, hbefore, hafter⟩, hfirst, hlast⟩
    have hchars : trimChars s.toList = t.toList := by
      rw [trimChars, hs, List.append_assoc, List.dropWhile_append_of_pos hbefore]
      cases ht : t.toList with
      | nil =>
          rw [List.nil_append, List.dropWhile_eq_nil_iff.2 hafter]
          rfl
      | cons c rest =>
          have hc : ¬ isBlank c = true := by
            rw [hfirst c (by rw [ht]; rfl)]
            exact Bool.false_ne_true
          rw [List.cons_append, List.dropWhile_cons_of_neg hc, ← List.cons_append, ← ht]
          exact dropTrailing_append hlast hafter
    rw [trim, hchars, String.ofList_toList]

lemma trimmed_trim (s : String) : Trimmed s (trim s) :=
  trim_eq_iff.1 rfl

/-- A text without blanks at its ends stays as it is. -/
lemma trim_eq_self {t : String} (hfirst : ∀ c, t.toList.head? = some c → isBlank c = false)
    (hlast : ∀ c, t.toList.getLast? = some c → isBlank c = false) : trim t = t :=
  trim_eq_iff.2 ⟨⟨[], [], by simp, by simp, by simp⟩, hfirst, hlast⟩

lemma trim_trim (s : String) : trim (trim s) = trim s :=
  trim_eq_self (trimmed_trim s).first (trimmed_trim s).last

lemma trim_eq_empty {s : String} : trim s = "" ↔ isBlankText s = true := by
  rw [trim, isBlankText, ← trimChars_eq_nil_iff, String.ext_iff, String.toList_ofList]
  rfl

/-- A field of free text counts unless it is blank. -/
lemma firstNonEmpty_trim (s t : String) :
    firstNonEmpty [trim s, t] = if isBlankText s then t else trim s := by
  unfold firstNonEmpty firstNonEmpty firstNonEmpty
  by_cases hblank : isBlankText s = true
  · have hnothing : "".isEmpty = true := rfl
    rw [if_pos hblank, trim_eq_empty.2 hblank, if_pos hnothing]
    split
    · rename_i hempty
      exact (String.isEmpty_iff.1 hempty).symm
    · rfl
  · have htrim : ¬ (trim s).isEmpty = true := fun hempty =>
      hblank (trim_eq_empty.1 (String.isEmpty_iff.1 hempty))
    rw [if_neg hblank, if_neg htrim]

end WorkloadTraits.Text
