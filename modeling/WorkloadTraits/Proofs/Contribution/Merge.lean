import WorkloadTraits.Proofs.Contribution.FirstOfKey

/-!
# What a merged contribution holds

Contributions of one level are merged one after the other.  Field by field the outcome can be said
at once: lists are concatenated, of volumes, objects and the mounts of one container the first of
each key is kept, and what there can only be one of is taken from the last that has it.

The equations for `Contribution.aggregate` are the interface to the rest of the theory; after them
nobody unfolds a merge.
-/

namespace WorkloadTraits

namespace Routing

variable {α : Type}

lemma lookup_eq_none_of_not_mem {entries : List (String × List α)} {x : String}
    (h : x ∉ entries.map Prod.fst) : entries.lookup x = none := by
  induction entries with
  | nil => rfl
  | cons head rest ih =>
      obtain ⟨n, values⟩ := head
      rw [List.map_cons, List.mem_cons, not_or] at h
      rw [List.lookup_cons, beq_eq_false_iff_ne.2 h.1]
      exact ih h.2

/-- A name that did not come up has no values. -/
lemma get_eq_nil_of_not_mem {r : Routing α} {x : String} (h : x ∉ r.names) : r.get x = [] := by
  rw [get, lookup_eq_none_of_not_mem h]
  rfl

@[simp] lemma get_empty (x : String) : (empty : Routing α).get x = [] := rfl

@[simp] lemma names_empty : (empty : Routing α).names = [] := rfl

lemma get_single (name : String) (values : List α) (x : String) :
    (single name values).get x = if x = name then values else [] := by
  cases values with
  | nil =>
      rw [ite_self]
      rfl
  | cons v rest =>
      by_cases hx : x = name
      · subst hx
        simp [single, get]
      · rw [if_neg hx]
        exact get_eq_nil_of_not_mem (by simpa [single, names] using hx)

lemma eq_of_mem_names_single {name x : String} {values : List α}
    (h : x ∈ (single name values).names) : x = name := by
  cases values with
  | nil => simp [single, names, empty] at h
  | cons v rest => simpa [single, names] using h

lemma mem_names_update {r : Routing α} {name x : String} {f : List α → List α} :
    x ∈ (r.update name f).names ↔ x = name ∨ x ∈ r.names :=
  mem_names_updateEntries

lemma get_erase (r : Routing α) (name x : String) :
    (r.erase name).get x = if x = name then [] else r.get x := by
  have hlookup : ∀ entries : List (String × List α),
      ((entries.filter (·.1 != name)).lookup x).getD [] =
        if x = name then [] else (entries.lookup x).getD [] := by
    intro entries
    induction entries with
    | nil => simp
    | cons head rest ih =>
        obtain ⟨n, values⟩ := head
        grind
  exact hlookup r.entries

lemma mem_names_erase {r : Routing α} {name x : String} :
    x ∈ (r.erase name).names ↔ x ∈ r.names ∧ x ≠ name := by
  simp only [names, erase, List.mem_map, List.mem_filter, bne_iff_ne]
  constructor
  · rintro ⟨e, ⟨he, hne⟩, rfl⟩
    exact ⟨⟨e, he, rfl⟩, hne⟩
  · rintro ⟨⟨e, he, rfl⟩, hne⟩
    exact ⟨e, ⟨he, hne⟩, rfl⟩

/-- Under each name, the values of two merged routings are joined. -/
theorem get_merge {join : List α → List α → List α} (hjoin : ∀ as, join as [] = as)
    (r other : Routing α) (x : String) :
    (r.merge join other).get x = join (r.get x) (other.get x) := by
  obtain ⟨entries, hnodup⟩ := other
  rw [merge]
  show (entries.foldl (fun r e => r.update e.1 (join · e.2)) r).get x =
    join (r.get x) ((entries.lookup x).getD [])
  -- A name stands once, so at most one step of the fold touches the values under `x`.
  induction entries generalizing r with
  | nil => exact (hjoin _).symm
  | cons head rest ih =>
      obtain ⟨n, values⟩ := head
      rw [List.map_cons, List.nodup_cons] at hnodup
      rw [List.foldl_cons, ih _ hnodup.2, get_update]
      by_cases hx : x = n
      · subst hx
        rw [if_pos rfl, lookup_eq_none_of_not_mem hnodup.1, List.lookup_cons_self]
        exact hjoin _
      · rw [if_neg hx, List.lookup_cons, beq_eq_false_iff_ne.2 hx]

/-- The names of two merged routings are those of both. -/
theorem mem_names_merge {join : List α → List α → List α} {r other : Routing α} {x : String} :
    x ∈ (r.merge join other).names ↔ x ∈ r.names ∨ x ∈ other.names := by
  obtain ⟨entries, hnodup⟩ := other
  rw [merge]
  show x ∈ (entries.foldl (fun r e => r.update e.1 (join · e.2)) r).names ↔
    x ∈ r.names ∨ x ∈ entries.map Prod.fst
  clear hnodup
  induction entries generalizing r with
  | nil => simp
  | cons head rest ih =>
      rw [List.foldl_cons, ih, mem_names_update, List.map_cons, List.mem_cons]
      tauto

end Routing

namespace Contribution

@[simp] lemma merge_empty (c : Contribution) : c.merge empty = c := by
  obtain ⟨inits, containers, volumes, mounts, env, envFrom, objects⟩ := c
  simp [merge, empty, Routing.merge, Routing.empty]

/-- What holds of nothing and is kept by merging holds of everything that is merged. -/
lemma aggregate_induction {P : Contribution → Prop} {cs : List Contribution} (hempty : P empty)
    (hmerge : ∀ a b, P a → P b → P (a.merge b)) (h : ∀ c ∈ cs, P c) : P (aggregate cs) := by
  have hfold : ∀ a, P a → P (cs.foldl merge a) := by
    induction cs with
    | nil => exact fun a ha => ha
    | cons c rest ih =>
        intro a ha
        rw [List.foldl_cons]
        exact ih (fun c' hc' => h c' (List.mem_cons_of_mem _ hc')) _
          (hmerge a c ha (h c List.mem_cons_self))
  exact hfold empty hempty

/-! ## Objects under their keys -/

/-- The contribution with every object replaced. -/
def mapObjects (g : Companion → Companion) (c : Contribution) : Contribution :=
  { c with objects := c.objects.map g }

/-- Objects are merged under their keys, whatever they are otherwise. -/
theorem mapObjects_merge {g : Companion → Companion} (hkey : ∀ o, (g o).key = o.key)
    (c later : Contribution) :
    (c.merge later).mapObjects g = (c.mapObjects g).merge (later.mapObjects g) := by
  simp only [mapObjects, merge, appendNew_map hkey]

lemma mapObjects_aggregate {g : Companion → Companion} (hkey : ∀ o, (g o).key = o.key)
    (cs : List Contribution) :
    (aggregate cs).mapObjects g = aggregate (cs.map (mapObjects g)) := by
  have hfold : ∀ c : Contribution,
      (cs.foldl merge c).mapObjects g = (cs.map (mapObjects g)).foldl merge (c.mapObjects g) := by
    induction cs with
    | nil => exact fun _ => rfl
    | cons d rest ih =>
        intro c
        rw [List.map_cons, List.foldl_cons, List.foldl_cons, ih, mapObjects_merge hkey]
  exact hfold empty

/-! ## Lists

All list-like fields are joined by an operation that may be done in one go. -/

/-- A field whose values are joined, for any number of contributions at once. -/
lemma field_aggregate {β : Type} (field : Contribution → List β)
    {join : List β → List β → List β} (hnil : ∀ as, join as [] = as)
    (happend : ∀ as bs bs', join (join as bs) bs' = join as (bs ++ bs'))
    (hempty : field empty = [])
    (hmerge : ∀ a b, field (a.merge b) = join (field a) (field b)) (cs : List Contribution) :
    field (aggregate cs) = join [] (cs.flatMap field) := by
  have hfold : ∀ a, field (cs.foldl merge a) = join (field a) (cs.flatMap field) := by
    induction cs with
    | nil => exact fun a => (hnil _).symm
    | cons c rest ih =>
        intro a
        rw [List.foldl_cons, ih, hmerge, happend, List.flatMap_cons]
  rw [aggregate, hfold, hempty]

theorem aggregate_containers (cs : List Contribution) :
    (aggregate cs).containers = cs.flatMap (·.containers) :=
  field_aggregate (·.containers) List.append_nil List.append_assoc rfl (fun _ _ => rfl) cs

theorem aggregate_initContainers (cs : List Contribution) :
    (aggregate cs).initContainers = cs.flatMap (·.initContainers) :=
  field_aggregate (·.initContainers) List.append_nil List.append_assoc rfl (fun _ _ => rfl) cs

theorem aggregate_volumes (cs : List Contribution) :
    (aggregate cs).volumes = appendNew (·.name) [] (cs.flatMap (·.volumes)) :=
  field_aggregate (·.volumes) (appendNew_nil _) (appendNew_append _) rfl (fun _ _ => rfl) cs

theorem aggregate_objects (cs : List Contribution) :
    (aggregate cs).objects = appendNew (·.key) [] (cs.flatMap (·.objects)) :=
  field_aggregate (·.objects) (appendNew_nil _) (appendNew_append _) rfl (fun _ _ => rfl) cs

/-! ## Values for containers -/

lemma get_volumeMounts_merge (a b : Contribution) (name : String) :
    (a.merge b).volumeMounts.get name =
      appendNew (·.mountPath) (a.volumeMounts.get name) (b.volumeMounts.get name) :=
  Routing.get_merge (appendNew_nil _) _ _ name

lemma get_envVars_merge (a b : Contribution) (name : String) :
    (a.merge b).envVars.get name = a.envVars.get name ++ b.envVars.get name :=
  Routing.get_merge List.append_nil _ _ name

lemma get_envFrom_merge (a b : Contribution) (name : String) :
    (a.merge b).envFrom.get name = a.envFrom.get name ++ b.envFrom.get name :=
  Routing.get_merge List.append_nil _ _ name

theorem get_volumeMounts_aggregate (cs : List Contribution) (name : String) :
    (aggregate cs).volumeMounts.get name =
      appendNew (·.mountPath) [] (cs.flatMap (·.volumeMounts.get name)) :=
  field_aggregate (·.volumeMounts.get name) (appendNew_nil _) (appendNew_append _) rfl
    (fun a b => get_volumeMounts_merge a b name) cs

theorem get_envVars_aggregate (cs : List Contribution) (name : String) :
    (aggregate cs).envVars.get name = cs.flatMap (·.envVars.get name) :=
  field_aggregate (·.envVars.get name) List.append_nil List.append_assoc rfl
    (fun a b => get_envVars_merge a b name) cs

theorem get_envFrom_aggregate (cs : List Contribution) (name : String) :
    (aggregate cs).envFrom.get name = cs.flatMap (·.envFrom.get name) :=
  field_aggregate (·.envFrom.get name) List.append_nil List.append_assoc rfl
    (fun a b => get_envFrom_merge a b name) cs

/-- A contribution that has values for no other container than one of a name. -/
structure RoutesOnlyTo (name : String) (c : Contribution) : Prop where
  volumeMounts : ∀ n ∈ c.volumeMounts.names, n = name
  envVars : ∀ n ∈ c.envVars.names, n = name
  envFrom : ∀ n ∈ c.envFrom.names, n = name

lemma routesOnlyTo_empty (name : String) : empty.RoutesOnlyTo name :=
  ⟨by simp [empty], by simp [empty], by simp [empty]⟩

lemma RoutesOnlyTo.merge {name : String} {a b : Contribution} (ha : a.RoutesOnlyTo name)
    (hb : b.RoutesOnlyTo name) : (a.merge b).RoutesOnlyTo name where
  volumeMounts n hn := (Routing.mem_names_merge.1 hn).elim (ha.volumeMounts n) (hb.volumeMounts n)
  envVars n hn := (Routing.mem_names_merge.1 hn).elim (ha.envVars n) (hb.envVars n)
  envFrom n hn := (Routing.mem_names_merge.1 hn).elim (ha.envFrom n) (hb.envFrom n)

/-! ## What there can only be one of -/

/-- A field of which the later contribution decides, as far as it has a say. -/
lemma single_aggregate {β : Type} (field say : Contribution → Option β)
    (hempty : field empty = none)
    (hmerge : ∀ a b, field (a.merge b) = (say b).or (field a)) (cs : List Contribution) :
    field (aggregate cs) = cs.reverse.findSome? say := by
  have hfold : ∀ a, field (cs.foldl merge a) = (cs.reverse.findSome? say).or (field a) := by
    induction cs with
    | nil => exact fun a => rfl
    | cons c rest ih =>
        intro a
        rw [List.foldl_cons, ih, hmerge, List.reverse_cons, List.findSome?_append,
          List.findSome?_singleton, Option.or_assoc]
  rw [aggregate, hfold, hempty, Option.or_none]

theorem aggregate_resources (cs : List Contribution) :
    (aggregate cs).resources = cs.reverse.findSome? (·.resources) :=
  single_aggregate (·.resources) (·.resources) rfl (fun _ _ => rfl) cs

theorem aggregate_livenessProbe (cs : List Contribution) :
    (aggregate cs).livenessProbe = cs.reverse.findSome? (·.livenessProbe) :=
  single_aggregate (·.livenessProbe) (·.livenessProbe) rfl (fun _ _ => rfl) cs

theorem aggregate_readinessProbe (cs : List Contribution) :
    (aggregate cs).readinessProbe = cs.reverse.findSome? (·.readinessProbe) :=
  single_aggregate (·.readinessProbe) (·.readinessProbe) rfl (fun _ _ => rfl) cs

theorem aggregate_startupProbe (cs : List Contribution) :
    (aggregate cs).startupProbe = cs.reverse.findSome? (·.startupProbe) :=
  single_aggregate (·.startupProbe) (·.startupProbe) rfl (fun _ _ => rfl) cs

theorem aggregate_automountToken (cs : List Contribution) :
    (aggregate cs).automountToken = cs.reverse.findSome? (·.automountToken) :=
  single_aggregate (·.automountToken) (·.automountToken) rfl (fun _ _ => rfl) cs

/-- The account that is asked for; an empty name asks for none. -/
def account? (c : Contribution) : Option String := c.serviceAccountName.filter (!·.isEmpty)

theorem aggregate_serviceAccountName (cs : List Contribution) :
    (aggregate cs).serviceAccountName = cs.reverse.findSome? (·.account?) :=
  single_aggregate (·.serviceAccountName) (·.account?) rfl (fun _ _ => rfl) cs

end Contribution

end WorkloadTraits
