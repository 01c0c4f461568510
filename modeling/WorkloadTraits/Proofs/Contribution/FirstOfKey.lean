import Mathlib
import WorkloadTraits.Contribution.Basic

/-!
# The first value of each key

Volumes, companion objects and mounts are all collected by one rule: of several values with one
key the first counts.  `appendNew` applies the rule one value at a time against what is kept so
far, which is the wrong shape for a proof: the list it tests grows as it goes.

`firsts` states the same rule by the keys seen so far, and `appendNew_eq` says that the two agree.
Everything else here follows: which keys there are afterwards, that nothing is made up, and that
appending in two goes is appending once (`appendNew_append`), which is why levels of traits can be
merged one by one.
-/

namespace WorkloadTraits

variable {α κ : Type} [DecidableEq κ]

/-- The values whose key is neither among those seen nor that of an earlier value. -/
def firsts (key : α → κ) (seen : List κ) : List α → List α
  | [] => []
  | a :: rest =>
    if key a ∈ seen then firsts key seen rest else a :: firsts key (key a :: seen) rest

@[simp] lemma firsts_nil (key : α → κ) (seen : List κ) : firsts key seen [] = [] := rfl

/-- Only membership in the seen keys matters. -/
lemma firsts_congr {key : α → κ} {seen seen' : List κ} (h : ∀ k, k ∈ seen ↔ k ∈ seen')
    (as : List α) : firsts key seen as = firsts key seen' as := by
  induction as generalizing seen seen' with
  | nil => rfl
  | cons a rest ih =>
      rw [firsts, firsts]
      by_cases ha : key a ∈ seen
      · rw [if_pos ha, if_pos ((h _).1 ha)]
        exact ih h
      · rw [if_neg ha, if_neg (fun ha' => ha ((h _).2 ha'))]
        have hcons : ∀ k, k ∈ key a :: seen ↔ k ∈ key a :: seen' := by
          intro k
          rw [List.mem_cons, List.mem_cons, h]
        rw [ih hcons]

lemma firsts_sublist (key : α → κ) (seen : List κ) (as : List α) :
    (firsts key seen as).Sublist as := by
  induction as generalizing seen with
  | nil => exact List.Sublist.refl []
  | cons a rest ih =>
      rw [firsts]
      split
      · exact (ih seen).cons a
      · exact (ih _).cons_cons a

/-- A key that is not seen yet is kept once it comes up, and no seen key is. -/
lemma mem_map_firsts {key : α → κ} {seen : List κ} {as : List α} {k : κ} :
    k ∈ (firsts key seen as).map key ↔ k ∈ as.map key ∧ k ∉ seen := by
  induction as generalizing seen with
  | nil => simp
  | cons a rest ih =>
      rw [firsts]
      split
      · rename_i ha
        rw [ih, List.map_cons, List.mem_cons]
        constructor
        · exact fun ⟨hk, hn⟩ => ⟨.inr hk, hn⟩
        · rintro ⟨rfl | hk, hn⟩
          · exact absurd ha hn
          · exact ⟨hk, hn⟩
      · rename_i ha
        rw [List.map_cons, List.mem_cons, ih, List.map_cons, List.mem_cons, List.mem_cons]
        constructor
        · rintro (rfl | ⟨hk, hn⟩)
          · exact ⟨.inl rfl, ha⟩
          · exact ⟨.inr hk, fun h => hn (.inr h)⟩
        · rintro ⟨hk, hn⟩
          by_cases hka : k = key a
          · exact .inl hka
          · exact .inr ⟨hk.resolve_left hka, fun h => h.elim hka hn⟩

/-- Each key counts once. -/
lemma nodup_map_firsts (key : α → κ) (seen : List κ) (as : List α) :
    ((firsts key seen as).map key).Nodup := by
  induction as generalizing seen with
  | nil => exact List.nodup_nil
  | cons a rest ih =>
      rw [firsts]
      split
      · exact ih seen
      · rw [List.map_cons, List.nodup_cons, mem_map_firsts]
        exact ⟨fun h => h.2 List.mem_cons_self, ih _⟩

/-- Where no key comes up twice, every value counts. -/
lemma firsts_eq_self {key : α → κ} {seen : List κ} {as : List α} (hfresh : ∀ a ∈ as, key a ∉ seen)
    (hnodup : (as.map key).Nodup) : firsts key seen as = as := by
  induction as generalizing seen with
  | nil => rfl
  | cons a rest ih =>
      rw [List.forall_mem_cons] at hfresh
      rw [List.map_cons, List.nodup_cons] at hnodup
      have hrest : ∀ b ∈ rest, key b ∉ key a :: seen := by
        intro b hb
        rw [List.mem_cons, not_or]
        exact ⟨fun heq => hnodup.1 (heq ▸ List.mem_map_of_mem hb), hfresh.2 b hb⟩
      rw [firsts, if_neg hfresh.1, ih hrest hnodup.2]

/-- What was left out for a key that came before is left out anyway where more keys have been
seen. -/
lemma firsts_firsts_of_subset (key : α → κ) {seen seen' : List κ} (h : seen' ⊆ seen)
    (as : List α) : firsts key seen (firsts key seen' as) = firsts key seen as := by
  induction as generalizing seen seen' with
  | nil => rfl
  | cons a rest ih =>
      rw [firsts, firsts]
      by_cases ha' : key a ∈ seen'
      · rw [if_pos ha', if_pos (h ha'), ih h]
      · rw [if_neg ha', firsts]
        by_cases ha : key a ∈ seen
        · rw [if_pos ha, if_pos ha, ih (List.cons_subset.2 ⟨ha, h⟩)]
        · rw [if_neg ha, if_neg ha, ih (List.cons_subset_cons _ h)]

/-- Values that count are kept when it is asked again which values count. -/
lemma firsts_firsts (key : α → κ) (seen : List κ) (as : List α) :
    firsts key seen (firsts key seen as) = firsts key seen as :=
  firsts_firsts_of_subset key (List.Subset.refl seen) as

/-- A value counts if it is the one that is found under its key, and its key is new. -/
lemma mem_firsts {key : α → κ} {seen : List κ} {as : List α} {a : α} :
    a ∈ firsts key seen as ↔ key a ∉ seen ∧ as.find? (key · = key a) = some a := by
  induction as generalizing seen with
  | nil => simp
  | cons b rest ih =>
      rw [firsts, List.find?_cons]
      by_cases hb : key b ∈ seen
      · rw [if_pos hb, ih]
        refine and_congr_right fun ha => ?_
        have hne : ¬ key b = key a := fun heq => ha (heq ▸ hb)
        rw [decide_eq_false hne]
      · rw [if_neg hb, List.mem_cons, ih, List.mem_cons, not_or]
        by_cases heq : key b = key a
        · rw [decide_eq_true heq]
          constructor
          · rintro (rfl | ⟨⟨hne, -⟩, -⟩)
            · exact ⟨hb, rfl⟩
            · exact absurd heq.symm hne
          · rintro ⟨-, hfound⟩
            exact .inl (Option.some.inj hfound).symm
        · rw [decide_eq_false heq]
          constructor
          · rintro (rfl | ⟨⟨-, ha⟩, hfound⟩)
            · exact absurd rfl heq
            · exact ⟨ha, hfound⟩
          · rintro ⟨ha, hfound⟩
            exact .inr ⟨⟨fun h => heq h.symm, ha⟩, hfound⟩

/-- Under each key of a list a value is found. -/
lemma exists_find?_of_mem_map {key : α → κ} {as : List α} {k : κ} (h : k ∈ as.map key) :
    ∃ a, as.find? (key · = k) = some a ∧ key a = k := by
  obtain ⟨a₀, ha₀, hkey₀⟩ := List.mem_map.1 h
  have hsome : (as.find? (key · = k)).isSome = true :=
    List.find?_isSome.2 ⟨a₀, ha₀, decide_eq_true hkey₀⟩
  obtain ⟨a, ha⟩ := Option.isSome_iff_exists.1 hsome
  exact ⟨a, ha, by simpa using List.find?_some ha⟩

/-- Of two lists in a row, what the first one has is not looked for in the second. -/
lemma firsts_append (key : α → κ) (seen : List κ) (as bs : List α) :
    firsts key seen (as ++ bs) = firsts key seen as ++ firsts key (as.map key ++ seen) bs := by
  induction as generalizing seen with
  | nil => rfl
  | cons a rest ih =>
      rw [List.cons_append, firsts, firsts, List.map_cons]
      by_cases ha : key a ∈ seen
      · rw [if_pos ha, if_pos ha, ih]
        have hseen : ∀ k, k ∈ rest.map key ++ seen ↔ k ∈ key a :: rest.map key ++ seen := by
          intro k
          rw [List.cons_append, List.mem_cons, List.mem_append]
          exact ⟨.inr, fun h => h.elim (fun hk => .inr (hk ▸ ha)) id⟩
        rw [firsts_congr hseen]
      · rw [if_neg ha, if_neg ha, ih, List.cons_append]
        have hseen : ∀ k, k ∈ rest.map key ++ key a :: seen ↔
            k ∈ key a :: rest.map key ++ seen := by
          intro k
          simp only [List.cons_append, List.mem_append, List.mem_cons]
          exact or_left_comm
        rw [firsts_congr hseen]

/-- Values can be replaced by others of the same keys before or after it is asked which count. -/
lemma firsts_map {β : Type} {f : β → α} {key : α → κ} (seen : List κ) (bs : List β) :
    firsts key seen (bs.map f) = (firsts (fun b => key (f b)) seen bs).map f := by
  induction bs generalizing seen with
  | nil => rfl
  | cons b rest ih =>
      rw [List.map_cons, firsts, firsts]
      split
      · exact ih seen
      · rw [ih, List.map_cons]

/-- What can be read of the values that count are the readings that count, if values have one key
exactly when they have readings of one key. -/
theorem filterMap_firsts {β κ' : Type} [DecidableEq κ'] {f : α → Option β} {key : α → κ}
    {key' : β → κ'} {seen : List κ} {seen' : List κ'} {as : List α}
    (hkey : ∀ a ∈ as, ∀ b, f a = some b → ∀ a' ∈ as,
      (key a' = key a ↔ ∃ b', f a' = some b' ∧ key' b' = key' b))
    (hseen : ∀ a ∈ as, ∀ b, f a = some b → (key a ∈ seen ↔ key' b ∈ seen')) :
    (firsts key seen as).filterMap f = firsts key' seen' (as.filterMap f) := by
  induction as generalizing seen seen' with
  | nil => rfl
  | cons a rest ih =>
      rw [List.forall_mem_cons] at hseen
      have hrest : ∀ x ∈ rest, ∀ b, f x = some b → ∀ a' ∈ rest,
          (key a' = key x ↔ ∃ b', f a' = some b' ∧ key' b' = key' b) :=
        fun x hx b hb a' ha' =>
          hkey x (List.mem_cons_of_mem _ hx) b hb a' (List.mem_cons_of_mem _ ha')
      -- How the key of the head compares with the keys of the tail.
      have hhead : ∀ x ∈ rest, ∀ b, f x = some b →
          (key a = key x ↔ ∃ b', f a = some b' ∧ key' b' = key' b) :=
        fun x hx b hb => hkey x (List.mem_cons_of_mem _ hx) b hb a List.mem_cons_self
      rw [firsts]
      cases ha : f a with
      | none =>
          rw [List.filterMap_cons_none ha]
          split
          · exact ih hrest hseen.2
          · rw [List.filterMap_cons_none ha]
            refine ih hrest fun x hx b hb => ?_
            have hne : key x ≠ key a := by
              intro heq
              obtain ⟨b', hb', -⟩ := (hhead x hx b hb).1 heq.symm
              cases ha.symm.trans hb'
            rw [List.mem_cons, or_iff_right hne, hseen.2 x hx b hb]
      | some b =>
          rw [List.filterMap_cons_some ha, firsts]
          by_cases hin : key a ∈ seen
          · rw [if_pos hin, if_pos ((hseen.1 b ha).1 hin)]
            exact ih hrest hseen.2
          · rw [if_neg hin, if_neg (fun h => hin ((hseen.1 b ha).2 h)),
              List.filterMap_cons_some ha]
            refine congrArg (b :: ·) (ih hrest fun x hx b' hb' => ?_)
            have hsame : key x = key a ↔ key' b' = key' b := by
              rw [eq_comm, hhead x hx b' hb', ha]
              exact ⟨fun ⟨_, hb₁, heq⟩ => Option.some.inj hb₁ ▸ heq.symm,
                fun heq => ⟨b, rfl, heq.symm⟩⟩
            rw [List.mem_cons, List.mem_cons, hsame, hseen.2 x hx b' hb']

@[simp] lemma appendNew_nil (key : α → κ) (kept : List α) : appendNew key kept [] = kept := rfl

lemma appendNew_cons (key : α → κ) (kept : List α) (a : α) (rest : List α) :
    appendNew key kept (a :: rest) =
      if key a ∈ kept.map key then appendNew key kept rest
      else appendNew key (kept ++ [a]) rest := by
  have htest : kept.any (key · == key a) = true ↔ key a ∈ kept.map key := by
    simp only [List.any_eq_true, beq_iff_eq, List.mem_map]
  rw [appendNew, List.foldl_cons]
  by_cases ha : key a ∈ kept.map key
  · rw [if_pos ha, if_pos (htest.2 ha)]
    rfl
  · rw [if_neg ha, if_neg (fun h => ha (htest.1 h))]
    rfl

/-- What is appended are the first values of the keys that are not there yet. -/
theorem appendNew_eq (key : α → κ) (kept new : List α) :
    appendNew key kept new = kept ++ firsts key (kept.map key) new := by
  induction new generalizing kept with
  | nil => simp
  | cons a rest ih =>
      rw [appendNew_cons, firsts]
      by_cases ha : key a ∈ kept.map key
      · rw [if_pos ha, if_pos ha, ih]
      · rw [if_neg ha, if_neg ha, ih, List.append_assoc, List.singleton_append]
        have hseen : ∀ k, k ∈ (kept ++ [a]).map key ↔ k ∈ key a :: kept.map key := by
          intro k
          rw [List.map_append, List.mem_append, List.map_singleton, List.mem_singleton,
            List.mem_cons, or_comm]
        rw [firsts_congr hseen]

/-- Values can be replaced by others of the same keys before or after they are appended. -/
lemma appendNew_map {key : α → κ} {f : α → α} (hkey : ∀ a, key (f a) = key a)
    (kept new : List α) :
    appendNew key (kept.map f) (new.map f) = (appendNew key kept new).map f := by
  rw [appendNew_eq, appendNew_eq, firsts_map, List.map_append, List.map_map]
  simp only [Function.comp_def, hkey]

/-- Appending in two goes is appending once. -/
theorem appendNew_append (key : α → κ) (kept as bs : List α) :
    appendNew key (appendNew key kept as) bs = appendNew key kept (as ++ bs) := by
  rw [appendNew, appendNew, appendNew, List.foldl_append]

/-- It does not matter which of two steps is done first. -/
theorem appendNew_assoc (key : α → κ) (as bs cs : List α) :
    appendNew key (appendNew key as bs) cs = appendNew key as (appendNew key bs cs) := by
  have hcount : firsts key (as.map key) (appendNew key bs cs) =
      firsts key (as.map key) (bs ++ cs) := by
    rw [appendNew_eq, firsts_append, firsts_append,
      firsts_firsts_of_subset key (List.subset_append_left _ _)]
  rw [appendNew_append, appendNew_eq key as, appendNew_eq key as, hcount]

/-- What has been appended is there already when it is appended again. -/
theorem appendNew_twice (key : α → κ) (kept new : List α) :
    appendNew key (appendNew key kept new) new = appendNew key kept new := by
  have hkeys : (firsts key ((appendNew key kept new).map key) new).map key = [] := by
    refine List.eq_nil_iff_forall_not_mem.2 fun k hk => ?_
    obtain ⟨hnew, hkept⟩ := mem_map_firsts.1 hk
    rw [appendNew_eq, List.map_append, List.mem_append, mem_map_firsts] at hkept
    exact hkept (if h : k ∈ kept.map key then .inl h else .inr ⟨hnew, h⟩)
  rw [appendNew_eq key (appendNew key kept new), List.map_eq_nil_iff.1 hkeys, List.append_nil]

/-- Of the values that are asked for again, after hidden ones have been taken away, all that count
are hidden, unless a value that is not hidden takes the place of an old one that was. -/
lemma firsts_again {key : α → κ} {hidden : α → Bool}
    {old new : List α} :
    (∀ a ∈ firsts key (((old ++ firsts key (old.map key) new).filter (!hidden ·)).map key) new,
        hidden a = true) ↔
      ∀ a ∈ firsts key [] new, hidden a = false → key a ∈ old.map key →
        ∃ b ∈ old, key b = key a ∧ hidden b = false := by
  have hkept : ∀ k, k ∈ ((old ++ firsts key (old.map key) new).filter (!hidden ·)).map key ↔
      ∃ b, (b ∈ old ∨ b ∈ firsts key (old.map key) new) ∧ hidden b = false ∧ key b = k := by
    simp only [List.mem_map, List.mem_filter, List.mem_append, Bool.not_eq_true', and_assoc,
      implies_true]
  constructor
  · intro h a ha hshown hold
    by_contra hnone
    have hnew : a ∈ firsts key
        (((old ++ firsts key (old.map key) new).filter (!hidden ·)).map key) new := by
      rw [mem_firsts, hkept]
      refine ⟨?_, (mem_firsts.1 ha).2⟩
      rintro ⟨b, hb | hb, hshown', hkey⟩
      · exact hnone ⟨b, hb, hkey, hshown'⟩
      · exact (mem_firsts.1 hb).1 (hkey ▸ hold)
    exact absurd (h a hnew) (Bool.eq_false_iff.1 hshown)
  · intro h a ha
    obtain ⟨hgone, hfirst⟩ := mem_firsts.1 ha
    rw [hkept] at hgone
    by_contra hshown
    rw [Bool.not_eq_true] at hshown
    by_cases hold : key a ∈ old.map key
    · obtain ⟨b, hb, hkey, hshown'⟩ :=
        h a (mem_firsts.2 ⟨List.not_mem_nil, hfirst⟩) hshown hold
      exact hgone ⟨b, .inl hb, hshown', hkey⟩
    · exact hgone ⟨a, .inr (mem_firsts.2 ⟨hold, hfirst⟩), hshown, rfl⟩

/-- The keys afterwards are the old ones and the new ones. -/
lemma mem_map_appendNew {key : α → κ} {kept new : List α} {k : κ} :
    k ∈ (appendNew key kept new).map key ↔ k ∈ kept.map key ∨ k ∈ new.map key := by
  rw [appendNew_eq, List.map_append, List.mem_append, mem_map_firsts]
  constructor
  · rintro (hk | ⟨hk, -⟩)
    · exact .inl hk
    · exact .inr hk
  · rintro (hk | hk)
    · exact .inl hk
    · by_cases hkept : k ∈ kept.map key
      · exact .inl hkept
      · exact .inr ⟨hk, hkept⟩

/-- Nothing is made up. -/
lemma mem_of_mem_appendNew {key : α → κ} {kept new : List α} {a : α}
    (h : a ∈ appendNew key kept new) : a ∈ kept ∨ a ∈ new := by
  rw [appendNew_eq, List.mem_append] at h
  exact h.imp_right fun ha => (firsts_sublist key _ new).subset ha

/-- Keys that stood once before stand once afterwards. -/
lemma nodup_map_appendNew {key : α → κ} {kept : List α} (h : (kept.map key).Nodup)
    (new : List α) : ((appendNew key kept new).map key).Nodup := by
  rw [appendNew_eq, List.map_append, List.nodup_append]
  refine ⟨h, nodup_map_firsts key _ new, fun k hk k' hk' => ?_⟩
  rintro rfl
  exact (mem_map_firsts.1 hk').2 hk

/-! ## Lists of which the same values count -/

/-- The same values count of both lists, whatever keys have been seen before. -/
def SameFirsts (key : α → κ) (as bs : List α) : Prop :=
  ∀ seen, firsts key seen as = firsts key seen bs

namespace SameFirsts

variable {key : α → κ} {as as' bs bs' : List α}

lemma refl (as : List α) : SameFirsts key as as := fun _ => rfl

lemma trans {cs : List α} (h : SameFirsts key as bs) (h' : SameFirsts key bs cs) :
    SameFirsts key as cs :=
  fun seen => (h seen).trans (h' seen)

/-- The values that count stand for the whole list. -/
lemma of_firsts (key : α → κ) (as : List α) : SameFirsts key (firsts key [] as) as :=
  fun seen => firsts_firsts_of_subset key (List.nil_subset seen) as

lemma mem_map (h : SameFirsts key as bs) (k : κ) : k ∈ as.map key ↔ k ∈ bs.map key := by
  have hkeys := congrArg (fun cs => k ∈ cs.map key) (h [])
  simpa only [mem_map_firsts, List.not_mem_nil, not_false_eq_true, and_true, eq_iff_iff] using hkeys

/-- Lists can be exchanged one by one. -/
lemma append (has : SameFirsts key as as') (hbs : SameFirsts key bs bs') :
    SameFirsts key (as ++ bs) (as' ++ bs') := by
  intro seen
  have hseen : ∀ k, k ∈ as.map key ++ seen ↔ k ∈ as'.map key ++ seen := by
    intro k
    rw [List.mem_append, List.mem_append, has.mem_map]
  rw [firsts_append, firsts_append, has seen, hbs, firsts_congr hseen]

end SameFirsts

/-! ## Lists that need not be given -/

/-- The values of an extended list; whether a list was given before does not matter. -/
lemma getD_extendGiven {append : List α → List α → List α} (happend : ∀ as, append as [] = as)
    (given : Option (List α)) (new : List α) :
    (extendGiven append given new).getD [] = append (given.getD []) new := by
  rw [extendGiven]
  split
  · rename_i hnew
    rw [List.isEmpty_iff.1 hnew, happend]
  · rfl

/-- A list that has been extended has what it is extended by when it is extended again. -/
lemma extendGiven_appendNew_twice (key : α → κ)
    (given : Option (List α)) (new : List α) :
    extendGiven (appendNew key) (extendGiven (appendNew key) given new) new =
      extendGiven (appendNew key) given new := by
  unfold extendGiven
  split
  · rfl
  · rw [Option.getD_some, appendNew_twice]

end WorkloadTraits
