import WorkloadTraits.Proofs.Placement.Pod

/-!
# The walk over the containers

What a contribution has for containers is delivered under their names, one name after the other, and
each time the container is looked up in the pod as it is by then: among the containers that run
beside each other, and then among those that run first.  A name can stand for several containers of
the pod, and the main container has been changed before the walk begins.

All the same no look-up depends on an earlier one, because no delivery changes a name.  The walk
comes to one change of the list in which containers are looked up: the first container of each name
gets everything that is meant for its name (`Pod.allContainers_equip`).
-/

namespace WorkloadTraits

/-! ## The first value of each key -/

section ChangeFirsts

variable {α κ : Type} [DecidableEq κ] {key : α → κ} {f g : α → α}

/-- Changes the first value of each key, unless the key is among those seen. -/
def changeFirsts (key : α → κ) (f : α → α) (seen : List κ) : List α → List α
  | [] => []
  | a :: rest => (if key a ∈ seen then a else f a) :: changeFirsts key f (key a :: seen) rest

/-- It only matters what becomes of values whose key is not seen yet. -/
lemma changeFirsts_congr {seen : List κ} {as : List α}
    (h : ∀ a, key a ∉ seen → f a = g a) :
    changeFirsts key f seen as = changeFirsts key g seen as := by
  induction as generalizing seen with
  | nil => rfl
  | cons a rest ih =>
      have hrest : ∀ b, key b ∉ key a :: seen → f b = g b :=
        fun b hb => h b fun hseen => hb (List.mem_cons_of_mem _ hseen)
      rw [changeFirsts, changeFirsts, ih hrest]
      by_cases ha : key a ∈ seen
      · rw [if_pos ha, if_pos ha]
      · rw [if_neg ha, if_neg ha, h a ha]

lemma changeFirsts_id (seen : List κ) (as : List α) :
    changeFirsts key (fun a => a) seen as = as := by
  induction as generalizing seen with
  | nil => rfl
  | cons a rest ih => rw [changeFirsts, ite_self, ih]

lemma length_changeFirsts (seen : List κ) (as : List α) :
    (changeFirsts key f seen as).length = as.length := by
  induction as generalizing seen with
  | nil => rfl
  | cons a rest ih => rw [changeFirsts, List.length_cons, ih, List.length_cons]

/-- The first value of one more key is changed, where no change touches a key. -/
lemma updateFirst_changeFirsts (hf : ∀ a, key (f a) = key a) {k : κ} {seen : List κ}
    (hk : k ∉ seen) (as : List α) :
    updateFirst (key · == k) g (changeFirsts key f seen as) =
      changeFirsts key (fun a => if key a = k then g (f a) else f a) seen as := by
  induction as generalizing seen with
  | nil => rfl
  | cons a rest ih =>
      rw [changeFirsts, changeFirsts, updateFirst]
      have hkey : key (if key a ∈ seen then a else f a) = key a := by
        split
        · rfl
        · exact hf a
      rw [hkey]
      by_cases ha : key a = k
      · -- The search ends here; behind this place the key is seen.
        have hfresh : key a ∉ seen := ha ▸ hk
        have hbehind : changeFirsts key (fun a => if key a = k then g (f a) else f a)
            (key a :: seen) rest = changeFirsts key f (key a :: seen) rest := by
          refine changeFirsts_congr fun b hb => if_neg fun hbk => hb ?_
          rw [hbk, ha]
          exact List.mem_cons_self
        rw [if_pos (beq_iff_eq.2 ha), if_neg hfresh, if_neg hfresh, if_pos ha, hbehind]
      · have hk' : k ∉ key a :: seen := by
          rw [List.mem_cons, not_or]
          exact ⟨fun heq => ha heq.symm, hk⟩
        rw [if_neg (fun h => ha (beq_iff_eq.1 h)), if_neg ha, ih hk']

/-- Place by place: a value is changed if its key is neither seen nor that of a value in front. -/
theorem getElem?_changeFirsts (seen : List κ) (as : List α) (i : ℕ) :
    (changeFirsts key f seen as)[i]? =
      as[i]?.map fun a => if key a ∈ seen ∨ key a ∈ (as.take i).map key then a else f a := by
  induction as generalizing seen i with
  | nil => rfl
  | cons a rest ih =>
      cases i with
      | zero => simp [changeFirsts]
      | succ i =>
          rw [changeFirsts, List.getElem?_cons_succ, List.getElem?_cons_succ, ih,
            List.take_succ_cons, List.map_cons]
          refine Option.map_congr fun b _ => ?_
          have hseen : key b ∈ key a :: seen ∨ key b ∈ (rest.take i).map key ↔
              key b ∈ seen ∨ key b ∈ key a :: (rest.take i).map key := by
            rw [List.mem_cons, List.mem_cons, or_assoc, or_left_comm]
          simp only [hseen]

end ChangeFirsts

namespace Pod

/-! ## One container -/

/-- A container that is not among those beside each other is looked for among those that run
first. -/
lemma allContainers_updateContainer (p : Pod) (name : String) (f : Container → Container) :
    (p.updateContainer name f).allContainers = updateFirst (·.name == name) f p.allContainers := by
  unfold updateContainer allContainers inits
  by_cases hany : p.containers.any (·.name == name) = true
  · rw [if_pos hany, updateFirst_append hany]
  · rw [if_neg hany, updateFirst_append_of_not_any hany]
    cases p.initContainers <;> rfl

lemma length_containers_updateContainer (p : Pod) (name : String) (f : Container → Container) :
    (p.updateContainer name f).containers.length = p.containers.length := by
  unfold updateContainer
  split
  · exact length_updateFirst _ _ _
  · rfl

end Pod

/-! ## All containers -/

/-- The container with everything that a contribution has for one of its name, where `main` is the
name of the main container. -/
def Container.provided (k : Container) (main : String) (c : Contribution) : Container :=
  (c.fieldsFor k.name).applyTo (if k.name = main then k.equip c else k)

namespace Pod

/-- Walking over some names changes the first container of each of them. -/
lemma allContainers_walk {c : Contribution} {g : Container → Container}
    (hg : ∀ k, (g k).name = k.name) {names : List String} (hnodup : names.Nodup) {p : Pod}
    {ks : List Container} (hp : p.allContainers = changeFirsts (·.name) g [] ks) :
    (names.foldl (fun p name => p.updateContainer name (c.fieldsFor name).applyTo)
        p).allContainers =
      changeFirsts (·.name)
        (fun k => if k.name ∈ names then (c.fieldsFor k.name).applyTo (g k) else g k) [] ks := by
  induction names generalizing p g with
  | nil =>
      rw [List.foldl_nil, hp]
      exact changeFirsts_congr fun k _ => (if_neg List.not_mem_nil).symm
  | cons name rest ih =>
      obtain ⟨hname, hrest⟩ := List.nodup_cons.1 hnodup
      have hstep : (p.updateContainer name (c.fieldsFor name).applyTo).allContainers =
          changeFirsts (·.name)
            (fun k => if k.name = name then (c.fieldsFor name).applyTo (g k) else g k) [] ks := by
        rw [allContainers_updateContainer, hp]
        exact updateFirst_changeFirsts hg List.not_mem_nil ks
      have hkept : ∀ k,
          (if k.name = name then (c.fieldsFor name).applyTo (g k) else g k).name = k.name := by
        intro k
        split
        · exact hg k
        · exact hg k
      rw [List.foldl_cons, ih hkept hrest hstep]
      refine changeFirsts_congr fun k _ => ?_
      by_cases hk : k.name = name
      · -- The name does not come up again.
        have hdone : k.name ∉ rest := hk ▸ hname
        rw [if_neg hdone, if_pos hk, if_pos (hk ▸ List.mem_cons_self), hk]
      · have hmem : k.name ∈ name :: rest ↔ k.name ∈ rest := by
          rw [List.mem_cons, or_iff_right hk]
        simp only [if_neg hk, hmem]

/-- **One walk, each name once.**  In a pod whose containers are equipped, the first container of
each name has everything that is meant for its name, and the others are as they were. -/
theorem allContainers_equip (p : Pod) (main : String) (c : Contribution) :
    (p.equip main c).allContainers =
      changeFirsts (·.name) (·.provided main c) [] p.allContainers := by
  have hmain : (p.updateContainer main (·.equip c)).allContainers =
      changeFirsts (·.name) (fun k => if k.name = main then k.equip c else k) []
        p.allContainers := by
    have hstart : p.allContainers = changeFirsts (·.name) (fun k => k) [] p.allContainers :=
      (changeFirsts_id [] p.allContainers).symm
    rw [allContainers_updateContainer]
    nth_rewrite 1 [hstart]
    exact updateFirst_changeFirsts (fun _ => rfl) List.not_mem_nil p.allContainers
  have hname : ∀ k : Container, (if k.name = main then k.equip c else k).name = k.name := by
    intro k
    split <;> rfl
  rw [equip, route, allContainers_walk hname c.nodup_routedNames hmain]
  refine changeFirsts_congr fun k _ => ?_
  unfold Container.provided
  by_cases hk : k.name ∈ c.routedNames
  · exact if_pos hk
  · rw [if_neg hk, Contribution.fieldsFor_of_not_mem hk]
    rfl

/-- No container is moved. -/
lemma length_containers_equip (p : Pod) (main : String) (c : Contribution) :
    (p.equip main c).containers.length = p.containers.length := by
  have hmain := p.length_containers_updateContainer main (·.equip c)
  exact route_induction (P := fun q => q.containers.length = p.containers.length) hmain
    fun q name hq => (q.length_containers_updateContainer name _).trans hq

end Pod

end WorkloadTraits
