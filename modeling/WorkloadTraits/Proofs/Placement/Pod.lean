import WorkloadTraits.Placement.Pod
import WorkloadTraits.Proofs.Contribution.Merge

/-!
# What placing leaves alone

A contribution changes single containers of a pod (`Pod.updateContainer`) and appends to its
lists.  This file says what becomes of the parts that a step is not about, and packages the walk
over all containers that a contribution has values for: `route_induction` reduces a property of
the routed pod to one changed container, and `route_eq` says what is left of the walk when there is
only one container to go to.
-/

namespace WorkloadTraits

/-! ## The first value with a property -/

section UpdateFirst

variable {α : Type} {p : α → Bool} {f : α → α}

lemma mem_updateFirst {as : List α} {b : α} (h : b ∈ updateFirst p f as) :
    b ∈ as ∨ ∃ a ∈ as, p a = true ∧ b = f a := by
  induction as with
  | nil => cases h
  | cons a rest ih =>
      rw [updateFirst] at h
      split at h
      · rename_i ha
        rcases List.mem_cons.1 h with rfl | h
        · exact .inr ⟨a, List.mem_cons_self, ha, rfl⟩
        · exact .inl (List.mem_cons_of_mem _ h)
      · rcases List.mem_cons.1 h with rfl | h
        · exact .inl List.mem_cons_self
        · rcases ih h with h | ⟨a', ha', hp, rfl⟩
          · exact .inl (List.mem_cons_of_mem _ h)
          · exact .inr ⟨a', List.mem_cons_of_mem _ ha', hp, rfl⟩

/-- A change that keeps the property keeps it for every value. -/
lemma any_updateFirst (hf : ∀ a, p (f a) = p a) (as : List α) :
    (updateFirst p f as).any p = as.any p := by
  induction as with
  | nil => rfl
  | cons a rest ih =>
      rw [updateFirst]
      split
      · rw [List.any_cons, List.any_cons, hf]
      · rw [List.any_cons, List.any_cons, ih]

/-- What is behind the first value with the property does not matter. -/
lemma updateFirst_append {as : List α} (h : as.any p = true) (bs : List α) :
    updateFirst p f (as ++ bs) = updateFirst p f as ++ bs := by
  induction as with
  | nil => cases h
  | cons a rest ih =>
      rw [List.cons_append, updateFirst, updateFirst]
      split
      · rfl
      · rename_i ha
        rw [List.any_cons, Bool.or_eq_true] at h
        rw [ih (h.resolve_left ha), List.cons_append]

/-- Where no value in front has the property, it is looked for behind. -/
lemma updateFirst_append_of_not_any {as : List α} (h : ¬ as.any p = true) (bs : List α) :
    updateFirst p f (as ++ bs) = as ++ updateFirst p f bs := by
  induction as with
  | nil => rfl
  | cons a rest ih =>
      rw [List.any_cons, Bool.or_eq_true, not_or] at h
      rw [List.cons_append, updateFirst, if_neg h.1, ih h.2, List.cons_append]

/-- Two changes in a row are one. -/
lemma updateFirst_updateFirst {g : α → α} (hf : ∀ a, p (f a) = p a) (as : List α) :
    updateFirst p g (updateFirst p f as) = updateFirst p (fun a => g (f a)) as := by
  induction as with
  | nil => rfl
  | cons a rest ih =>
      rw [updateFirst, updateFirst]
      by_cases ha : p a = true
      · rw [if_pos ha, if_pos ha, updateFirst, if_pos ((hf a).trans ha)]
      · rw [if_neg ha, if_neg ha, updateFirst, if_neg ha, ih]

lemma length_updateFirst (p : α → Bool) (f : α → α) (as : List α) :
    (updateFirst p f as).length = as.length := by
  induction as with
  | nil => rfl
  | cons a rest ih =>
      rw [updateFirst]
      split
      · rfl
      · rw [List.length_cons, ih, List.length_cons]

lemma updateFirst_id (as : List α) : updateFirst p (fun a => a) as = as := by
  induction as with
  | nil => rfl
  | cons a rest ih => rw [updateFirst, ih, ite_self]

end UpdateFirst

/-! ## The names that a contribution has values for -/

namespace Contribution

lemma mem_routedNames {c : Contribution} {name : String} :
    name ∈ c.routedNames ↔
      name ∈ c.volumeMounts.names ∨ name ∈ c.envVars.names ∨ name ∈ c.envFrom.names := by
  have h : name ∈ c.routedNames.map id ↔ name ∈ c.volumeMounts.names.map id ∨
      name ∈ (c.envVars.names ++ c.envFrom.names).map id := mem_map_appendNew
  rwa [List.map_id, List.map_id, List.map_id, List.mem_append] at h

lemma nodup_routedNames (c : Contribution) : c.routedNames.Nodup := by
  have hmounts : (c.volumeMounts.names.map id).Nodup := by
    rw [List.map_id]
    exact c.volumeMounts.nodup
  have h := nodup_map_appendNew hmounts (c.envVars.names ++ c.envFrom.names)
  rwa [List.map_id] at h

/-- There is nothing for a name that does not come up. -/
lemma fieldsFor_of_not_mem {c : Contribution} {name : String} (h : name ∉ c.routedNames) :
    c.fieldsFor name = {} := by
  rw [mem_routedNames, not_or, not_or] at h
  rw [fieldsFor, Routing.get_eq_nil_of_not_mem h.1, Routing.get_eq_nil_of_not_mem h.2.1,
    Routing.get_eq_nil_of_not_mem h.2.2]

end Contribution

namespace Pod

/-! ## Single containers -/

/-- All containers of a pod. -/
def allContainers (p : Pod) : List Container := p.containers ++ p.inits

/-- A changed container is an old one or comes of one. -/
lemma mem_updateContainer {p : Pod} {name : String} {f : Container → Container} {k : Container}
    (h : k ∈ (p.updateContainer name f).allContainers) :
    k ∈ p.allContainers ∨ ∃ k' ∈ p.allContainers, k'.name = name ∧ k = f k' := by
  have hfirst : ∀ ks : List Container, k ∈ updateFirst (·.name == name) f ks →
      k ∈ ks ∨ ∃ k' ∈ ks, k'.name = name ∧ k = f k' := by
    intro ks hk
    rcases mem_updateFirst hk with hk | ⟨k', hk', hname, rfl⟩
    · exact .inl hk
    · exact .inr ⟨k', hk', beq_iff_eq.1 hname, rfl⟩
  simp only [allContainers, updateContainer, inits] at h ⊢
  split at h
  · rcases List.mem_append.1 h with h | h
    · exact (hfirst _ h).imp (List.mem_append_left _)
        fun ⟨k', hk', hk⟩ => ⟨k', List.mem_append_left _ hk', hk⟩
    · exact .inl (List.mem_append_right _ h)
  · rcases List.mem_append.1 h with h | h
    · exact .inl (List.mem_append_left _ h)
    · have hinits : (p.initContainers.map (updateFirst (·.name == name) f)).getD [] =
          updateFirst (·.name == name) f (p.initContainers.getD []) := by
        cases p.initContainers <;> rfl
      rw [hinits] at h
      exact (hfirst _ h).imp (List.mem_append_right _)
        fun ⟨k', hk', hk⟩ => ⟨k', List.mem_append_right _ hk', hk⟩

/-- Pods that differ in single containers only.  The containers that run first are given in both or
in neither. -/
structure SameShell (p q : Pod) : Prop where
  volumes : q.volumes = p.volumes
  account : q.serviceAccountName = p.serviceAccountName
  token : q.automountToken = p.automountToken
  given : q.initContainers.isSome = p.initContainers.isSome

lemma SameShell.trans {p q r : Pod} (h : p.SameShell q) (h' : q.SameShell r) : p.SameShell r where
  volumes := h'.volumes.trans h.volumes
  account := h'.account.trans h.account
  token := h'.token.trans h.token
  given := h'.given.trans h.given

lemma sameShell_updateContainer (p : Pod) (name : String) (f : Container → Container) :
    p.SameShell (p.updateContainer name f) := by
  unfold updateContainer
  split
  · exact ⟨rfl, rfl, rfl, rfl⟩
  · exact ⟨rfl, rfl, rfl, Option.isSome_map⟩

/-- A container that runs beside the others goes before one that runs first. -/
lemma updateContainer_of_any {p : Pod} {name : String} {f : Container → Container}
    (h : p.containers.any (·.name == name) = true) :
    p.updateContainer name f =
      { p with containers := updateFirst (·.name == name) f p.containers } :=
  if_pos h

/-! ## All values of a contribution -/

/-- What holds of a pod and is kept when a container gets its values holds of the routed pod. -/
lemma route_induction {P : Pod → Prop} {c : Contribution} {p : Pod} (hp : P p)
    (hstep : ∀ p name, P p → P (p.updateContainer name (c.fieldsFor name).applyTo)) :
    P (p.route c) := by
  rw [route]
  generalize c.routedNames = names
  induction names generalizing p with
  | nil => exact hp
  | cons name rest ih => exact ih (hstep p name hp)

/-- Equipping changes containers only. -/
lemma sameShell_equip (p : Pod) (main : String) (c : Contribution) : p.SameShell (p.equip main c) :=
  route_induction (P := p.SameShell) (p.sameShell_updateContainer main _)
    fun q name hq => hq.trans (q.sameShell_updateContainer name _)

@[simp] lemma volumes_equip (p : Pod) (main : String) (c : Contribution) :
    (p.equip main c).volumes = p.volumes :=
  (p.sameShell_equip main c).volumes

/-! ## The pod itself -/

@[simp] lemma containers_receive (p : Pod) (c : Contribution) :
    (p.receive c).containers = p.containers ++ c.containers := rfl

@[simp] lemma inits_receive (p : Pod) (c : Contribution) :
    (p.receive c).inits = p.inits ++ c.initContainers :=
  getD_extendGiven List.append_nil _ _

@[simp] lemma volumeList_receive (p : Pod) (c : Contribution) :
    (p.receive c).volumeList = appendNew (·.name) p.volumeList c.volumes :=
  getD_extendGiven (appendNew_nil _) _ _

/-- A pod does not lose a container to a contribution. -/
lemma hasContainer_receive {p : Pod} {name : String} (c : Contribution)
    (h : p.containers.any (·.name == name) = true) : (p.receive c).hasContainer name = true := by
  rw [hasContainer, containers_receive, List.append_assoc, List.any_append, h]
  rfl

/-! ## What every container has -/

section Every

variable {P : Container → Prop} {p : Pod} {c : Contribution}

lemma forall_updateContainer (hp : ∀ k ∈ p.allContainers, P k) {name : String}
    {f : Container → Container} (hf : ∀ k, P k → P (f k)) :
    ∀ k ∈ (p.updateContainer name f).allContainers, P k := by
  intro k hk
  rcases mem_updateContainer hk with hk | ⟨k', hk', -, rfl⟩
  · exact hp k hk
  · exact hf k' (hp k' hk')

lemma forall_receive (hp : ∀ k ∈ p.allContainers, P k)
    (hc : ∀ k ∈ c.initContainers ++ c.containers, P k) :
    ∀ k ∈ (p.receive c).allContainers, P k := by
  intro k hk
  rw [allContainers, containers_receive, inits_receive] at hk
  simp only [List.mem_append] at hk hc
  rcases hk with (hk | hk) | hk | hk
  · exact hp k (List.mem_append_left _ hk)
  · exact hc k (.inr hk)
  · exact hp k (List.mem_append_right _ hk)
  · exact hc k (.inl hk)

lemma forall_equip (hp : ∀ k ∈ p.allContainers, P k) {main : String}
    (hmain : ∀ k, P k → P (k.equip c))
    (hfields : ∀ name k, P k → P ((c.fieldsFor name).applyTo k)) :
    ∀ k ∈ (p.equip main c).allContainers, P k :=
  route_induction (P := fun q => ∀ k ∈ q.allContainers, P k) (forall_updateContainer hp hmain)
    fun _ name hq => forall_updateContainer hq (hfields name)

end Every

end Pod

end WorkloadTraits
