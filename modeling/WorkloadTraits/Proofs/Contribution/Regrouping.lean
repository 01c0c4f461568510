import WorkloadTraits.Proofs.Contribution.Merge

/-!
# Contributions can be grouped in any way

Contributions are merged in the order in which they come, but not one after the other: those of a
level are merged first, then the outcome is merged into the level above.  Nothing of this shows in
the end (`merge_regroups`), for merging is associative.

It is so for every field by itself.  Of the rules for fields only one needs an argument: what is
routed to containers is joined name by name, and the names stand in the order in which they first
come up.  But the names are themselves merged by the rule that the first counts (`names_merge`), and
a routing is nothing but its names with the values under them (`ext_get`).
-/

namespace WorkloadTraits

namespace Routing

variable {α : Type}

lemma names_update (r : Routing α) (name : String) (f : List α → List α) :
    (r.update name f).names = if name ∈ r.names then r.names else r.names ++ [name] := by
  have hentries : ∀ entries : List (String × List α),
      (updateEntries name f entries).map Prod.fst =
        if name ∈ entries.map Prod.fst then entries.map Prod.fst
        else entries.map Prod.fst ++ [name] := by
    intro entries
    induction entries with
    | nil => rfl
    | cons head rest ih =>
        obtain ⟨n, values⟩ := head
        rw [updateEntries]
        by_cases hn : n = name
        · simp [hn]
        · simp only [if_neg hn, List.map_cons, List.mem_cons, Ne.symm hn, false_or, ih]
          split <;> rfl
  exact hentries r.entries

/-- The names of two merged routings, in the order in which they come up. -/
theorem names_merge (join : List α → List α → List α) (r other : Routing α) :
    (r.merge join other).names = appendNew id r.names other.names := by
  obtain ⟨entries, hnodup⟩ := other
  rw [merge]
  show (entries.foldl (fun r e => r.update e.1 (join · e.2)) r).names =
    appendNew id r.names (entries.map Prod.fst)
  clear hnodup
  induction entries generalizing r with
  | nil => rfl
  | cons head rest ih =>
      rw [List.foldl_cons, ih, names_update, List.map_cons, appendNew_cons, List.map_id, id_eq]
      split <;> rfl

lemma entries_eq (r : Routing α) : r.entries = r.names.map fun name => (name, r.get name) := by
  obtain ⟨entries, hnodup⟩ := r
  show entries = (entries.map Prod.fst).map fun name => (name, (entries.lookup name).getD [])
  induction entries with
  | nil => rfl
  | cons head rest ih =>
      obtain ⟨n, values⟩ := head
      rw [List.map_cons, List.nodup_cons] at hnodup
      rw [List.map_cons, List.map_cons, List.lookup_cons_self, Option.getD_some]
      refine congrArg ((n, values) :: ·) ((ih hnodup.2).trans (List.map_congr_left ?_))
      intro name hname
      have hne : (name == n) = false :=
        beq_eq_false_iff_ne.2 fun heq => hnodup.1 (heq ▸ hname)
      rw [List.lookup_cons, hne]

/-- A routing is determined by its names, in their order, and the values under each. -/
lemma ext_get {r s : Routing α} (hnames : r.names = s.names) (hget : ∀ x, r.get x = s.get x) :
    r = s := by
  have hentries : r.entries = s.entries := by
    rw [entries_eq r, entries_eq s, hnames]
    exact List.map_congr_left fun name _ => by rw [hget]
  cases r
  cases s
  exact (mk.injEq ..).mpr hentries

/-- Routings can be merged in any grouping if the values under a name can be joined so. -/
theorem merge_assoc {join : List α → List α → List α} (hnil : ∀ as, join as [] = as)
    (hassoc : ∀ as bs cs, join (join as bs) cs = join as (join bs cs)) (r s t : Routing α) :
    (r.merge join s).merge join t = r.merge join (s.merge join t) := by
  refine ext_get ?_ fun x => ?_
  · rw [names_merge, names_merge, names_merge, names_merge, appendNew_assoc]
  · rw [get_merge hnil, get_merge hnil, get_merge hnil, get_merge hnil, hassoc]

end Routing

namespace Contribution

/-- An account of an empty name decides nothing, whichever two are merged first. -/
lemma account?_merge (a b : Contribution) : (a.merge b).account? = b.account?.or a.account? := by
  show (b.account?.or a.serviceAccountName).filter (!·.isEmpty) = b.account?.or a.account?
  cases hb : b.account? with
  | none => rfl
  | some name => exact Option.filter_eq_some_iff.2 ⟨rfl, (Option.filter_eq_some_iff.1 hb).2⟩

theorem merge_assoc (a b c : Contribution) : (a.merge b).merge c = a.merge (b.merge c) := by
  have hmounts := Routing.merge_assoc (appendNew_nil (VolumeMount.mountPath ·))
    (appendNew_assoc _) a.volumeMounts b.volumeMounts c.volumeMounts
  have henv := Routing.merge_assoc List.append_nil List.append_assoc a.envVars b.envVars c.envVars
  have henvFrom :=
    Routing.merge_assoc List.append_nil List.append_assoc a.envFrom b.envFrom c.envFrom
  have haccount : ((a.merge b).merge c).serviceAccountName =
      (a.merge (b.merge c)).serviceAccountName := by
    show c.account?.or (b.account?.or a.serviceAccountName) =
      (b.merge c).account?.or a.serviceAccountName
    rw [account?_merge, Option.or_assoc]
  simp only [merge, mk.injEq] at haccount ⊢
  exact ⟨List.append_assoc .., List.append_assoc .., appendNew_assoc .., hmounts, henv, henvFrom,
    appendNew_assoc .., haccount, Option.or_assoc.symm, Option.or_assoc.symm, Option.or_assoc.symm,
    Option.or_assoc.symm, Option.or_assoc.symm⟩

/-- To merge some contributions one after the other is to merge what they come to. -/
lemma foldl_merge (a : Contribution) (cs : List Contribution) :
    cs.foldl merge a = a.merge (aggregate cs) := by
  have hfold : ∀ b, cs.foldl merge (a.merge b) = a.merge (cs.foldl merge b) := by
    induction cs with
    | nil => exact fun b => rfl
    | cons c rest ih =>
        intro b
        rw [List.foldl_cons, List.foldl_cons, merge_assoc, ih]
  have hempty := hfold empty
  rwa [merge_empty] at hempty

theorem aggregate_append (xs ys : List Contribution) :
    aggregate (xs ++ ys) = (aggregate xs).merge (aggregate ys) := by
  rw [aggregate, List.foldl_append, foldl_merge]
  rfl

/-- What some contributions come to is not changed when it is merged once more. -/
lemma aggregate_aggregate (cs : List Contribution) : aggregate [aggregate cs] = aggregate cs :=
  (aggregate_append [] cs).symm

/-- **Merging can be regrouped**: it is associative in every field, the contribution that wants
nothing can be merged in without effect, and so the outcome for a list is the outcomes for its parts
merged, whichever stretches of it have been merged before. -/
theorem merge_regroups :
    (∀ a b c : Contribution, (a.merge b).merge c = a.merge (b.merge c)) ∧
      (∀ a : Contribution, a.merge empty = a) ∧
      (∀ xs ys, aggregate (xs ++ ys) = (aggregate xs).merge (aggregate ys)) ∧
      (∀ xs group ys, aggregate (xs ++ aggregate group :: ys) = aggregate (xs ++ group ++ ys)) ∧
      ∀ cs, aggregate [aggregate cs] = aggregate cs := by
  refine ⟨merge_assoc, merge_empty, aggregate_append, fun xs group ys => ?_, aggregate_aggregate⟩
  calc aggregate (xs ++ aggregate group :: ys)
      = (aggregate xs).merge ((aggregate [aggregate group]).merge (aggregate ys)) := by
        rw [aggregate_append, ← aggregate_append [aggregate group] ys, List.singleton_append]
    _ = (aggregate xs).merge ((aggregate group).merge (aggregate ys)) := by
        rw [aggregate_aggregate]
    _ = aggregate (xs ++ group ++ ys) := by
        rw [aggregate_append, aggregate_append, merge_assoc]

end Contribution

end WorkloadTraits
