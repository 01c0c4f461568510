import WorkloadTraits.Proofs.Builtin.Besides
import WorkloadTraits.Proofs.Containers

/-!
# The tree of levels as one list

Contributions are merged at every step of the way up: the kinds of a level, the entries of a kind,
the level of an entry into those before it.  The outcome is nevertheless that of one flat list, in
which every level puts what it asks for in the order of the kinds and what its nested levels ask
for in the places of `init` and `sidecar` (`Demand.flatten`), and of which the first volume of each
name and the first object of each key count (`dispatch_flattens`).

All that is used of merging is that it respects concatenation up to some relation: that the same
values count (`SameFirsts`), or that the same value is the last one.  `Besides.Collects` names what
is needed of such a relation.  The walk over the levels is done once, for whatever can be said of a
contribution and a flat list level by level (`Demand.Follows`).
-/

namespace WorkloadTraits

/-! ## Flat lists -/

/-- What the traits of a single level ask for, kind by kind, and the order of the kinds. -/
structure Demand (α : Type) where
  kinds : List TraitKind
  ofKind : Site → Traits → TraitKind → List α

namespace Demand

variable {α β : Type} (r : Demand α)

/-- What a level asks for in the order of the kinds, where some lists stand for what is asked for
below its init entries and below its sidecars. -/
def around (s : Site) (t : Traits) (inits sidecars : List α) : List α :=
  r.kinds.flatMap fun
    | .init => inits
    | .sidecar => sidecars
    | k => r.ofKind s t k

/-- What a level below a sidecar asks for: there are no levels below it. -/
def alone (s : Site) (t : Traits) : List α := r.around s t [] []

/-- What the sidecars of a level ask for, in order. -/
def ofSidecars (s : Site) (t : Traits) : List α :=
  t.sidecar.zipIdx.flatMap fun e =>
    r.alone (s.forTarget (Containers.sidecarName s e.2 e.1)) e.1.traits

/-- What a level below an init entry asks for, with its sidecars. -/
def withSidecars (s : Site) (t : Traits) : List α := r.around s t [] (r.ofSidecars s t)

/-- What the init entries of a level ask for, in order. -/
def ofInits (s : Site) (t : Traits) : List α :=
  t.init.zipIdx.flatMap fun e =>
    r.withSidecars (s.forTarget (Containers.initName s e.2 e.1)) e.1.traits

/-- What a level asks for, with its init entries and its sidecars. -/
def flatten (s : Site) (t : Traits) : List α := r.around s t (r.ofInits s t) (r.ofSidecars s t)

variable {r}

lemma flatMap_around {r' : Demand β} {f : α → List β} (hkinds : r.kinds = r'.kinds)
    (hf : ∀ s t k, (r.ofKind s t k).flatMap f = r'.ofKind s t k) (s : Site) (t : Traits)
    (inits sidecars : List α) :
    (r.around s t inits sidecars).flatMap f =
      r'.around s t (inits.flatMap f) (sidecars.flatMap f) := by
  rw [around, around, List.flatMap_assoc, hkinds]
  refine List.flatMap_congr fun k _ => ?_
  cases k
  case init => rfl
  case sidecar => rfl
  all_goals exact hf s t _

/-- Values that are replaced by lists of others can be replaced kind by kind. -/
lemma flatMap_flatten {r' : Demand β} {f : α → List β} (hkinds : r.kinds = r'.kinds)
    (hf : ∀ s t k, (r.ofKind s t k).flatMap f = r'.ofKind s t k) (s : Site) (t : Traits) :
    (r.flatten s t).flatMap f = r'.flatten s t := by
  have hsidecars : ∀ s t, (r.ofSidecars s t).flatMap f = r'.ofSidecars s t := by
    intro s t
    simp only [ofSidecars, alone, List.flatMap_assoc, flatMap_around hkinds hf, List.flatMap_nil]
  have hinits : ∀ s t, (r.ofInits s t).flatMap f = r'.ofInits s t := by
    intro s t
    simp only [ofInits, withSidecars, List.flatMap_assoc, flatMap_around hkinds hf, hsidecars,
      List.flatMap_nil]
  simp only [flatten, flatMap_around hkinds hf, hsidecars, hinits]

/-- What can be read of the values of two demands is the same if it is so kind by kind. -/
lemma filterMap_flatten {γ : Type} {r' : Demand β} {f : α → Option γ} {g : β → Option γ}
    (hkinds : r.kinds = r'.kinds)
    (hfg : ∀ s t k, (r.ofKind s t k).filterMap f = (r'.ofKind s t k).filterMap g) (s : Site)
    (t : Traits) : (r.flatten s t).filterMap f = (r'.flatten s t).filterMap g := by
  let readings : Demand γ := ⟨r.kinds, fun s t k => (r.ofKind s t k).filterMap f⟩
  have hleft : (r.flatten s t).flatMap (fun a => (f a).toList) = readings.flatten s t := by
    refine flatMap_flatten ?_ (fun s t k => ?_) s t
    · rfl
    · exact (List.filterMap_eq_flatMap_toList f _).symm
  have hright : (r'.flatten s t).flatMap (fun b => (g b).toList) = readings.flatten s t := by
    refine flatMap_flatten ?_ (fun s t k => ?_) s t
    · exact hkinds.symm
    · rw [← List.filterMap_eq_flatMap_toList]
      exact (hfg s t k).symm
  rw [List.filterMap_eq_flatMap_toList, List.filterMap_eq_flatMap_toList, hleft, hright]

/-- What is asked for has a property if it has it kind by kind; of the container, the property may
use what is the same for nested levels. -/
lemma forall_mem_flatten {Q : Site → Prop} {P : α → Prop}
    (hbelow : ∀ s target, Q s → Q (s.forTarget target))
    (hkind : ∀ s t k, Q s → ∀ a ∈ r.ofKind s t k, P a) {s : Site} (hs : Q s) (t : Traits) :
    ∀ a ∈ r.flatten s t, P a := by
  have haround : ∀ s t inits sidecars, Q s → (∀ a ∈ inits, P a) → (∀ a ∈ sidecars, P a) →
      ∀ a ∈ r.around s t inits sidecars, P a := by
    intro s t inits sidecars hs hinits hsidecars a ha
    obtain ⟨k, -, ha⟩ := List.mem_flatMap.1 ha
    cases k
    case init => exact hinits a ha
    case sidecar => exact hsidecars a ha
    all_goals exact hkind s t _ hs a ha
  have hnothing : ∀ a ∈ ([] : List α), P a := fun a ha => (List.not_mem_nil ha).elim
  have hsidecars : ∀ s t, Q s → ∀ a ∈ r.ofSidecars s t, P a := by
    intro s t hs a ha
    obtain ⟨e, -, ha⟩ := List.mem_flatMap.1 ha
    exact haround _ _ _ _ (hbelow s _ hs) hnothing hnothing a ha
  have hinits : ∀ s t, Q s → ∀ a ∈ r.ofInits s t, P a := by
    intro s t hs a ha
    obtain ⟨e, -, ha⟩ := List.mem_flatMap.1 ha
    exact haround _ _ _ _ (hbelow s _ hs) hnothing (hsidecars _ _ (hbelow s _ hs)) a ha
  exact haround s t _ _ hs (hinits s t hs) (hsidecars s t hs)

/-- Traits that say nothing ask for nothing. -/
lemma flatten_of_nothing (hr : ∀ s k, r.ofKind s {} k = []) (s : Site) : r.flatten s {} = [] := by
  refine List.flatMap_eq_nil_iff.2 fun k _ => ?_
  cases k
  case init => rfl
  case sidecar => rfl
  all_goals exact hr s _

end Demand

/-! ## Walking over the levels -/

/-- A relation between contributions and flat lists that follows a demand: it holds for every kind
of a single level, and is kept by merging and on the way up from a nested level. -/
structure Demand.Follows {α : Type} (r : Demand α) (R : Contribution → List α → Prop) : Prop where
  aggregate : ∀ cs ass, List.Forall₂ R cs ass → R (.aggregate cs) ass.flatten
  aroundInit : ∀ c as k, R c as → R (c.aroundInit k) as
  aroundSidecar : ∀ c as k, R c as → R (c.aroundSidecar k) as
  ofKind : ∀ {s answer t k c}, k ≠ .init → k ≠ .sidecar →
    kindContribution s answer t k = .ok c → R c (r.ofKind s t k)

namespace Demand.Follows

variable {α : Type} {r : Demand α} {R : Contribution → List α → Prop}

lemma empty (hr : r.Follows R) : R .empty [] := hr.aggregate [] [] .nil

/-- Contributions that follow lists one by one follow all of them in a row. -/
lemma aggregate_flatMap (hr : r.Follows R) {γ : Type} {f : γ → List α} {as : List γ}
    {cs : List Contribution} (h : List.Forall₂ (fun a c => R c (f a)) as cs) :
    R (.aggregate cs) (as.flatMap f) := by
  rw [List.flatMap_def]
  exact hr.aggregate _ _ (List.forall₂_map_right_iff.2 h.flip)

end Demand.Follows

namespace Dispatcher

/-- A nested level is for a container of the same component. -/
lemma site_below {d : Dispatcher} {l : Level} (request : Nested) :
    d.site (below l request) = (d.site l).forTarget request.target := rfl

section Follows

variable {α : Type} {r : Demand α} {R : Contribution → List α → Prop}
variable {d : Dispatcher} {l : Level} {c : Contribution}
variable {answer : Nested → Except Failure Contribution} {part : TraitKind → Contribution}

/-- A barred kind follows nothing. -/
lemma Parts.follows_barred (hr : r.Follows R) (hparts : d.Parts answer l part)
    {k : TraitKind} (hbarred : l.barred.contains k = true) (hk : k ∈ d.registry.kinds) :
    R (part k) [] := by
  rw [hparts.barred k hk hbarred]
  exact hr.empty

variable (hr : r.Follows R) (hkinds : r.kinds = d.registry.kinds)
include hr hkinds

/-- A level follows what it asks for, around what its init entries and sidecars follow. -/
lemma Parts.follows (hbars : BarsContainersOnly l) (hparts : d.Parts answer l part)
    {inits sidecars : List α} (hinits : .init ∈ d.registry.kinds → R (part .init) inits)
    (hsidecars : .sidecar ∈ d.registry.kinds → R (part .sidecar) sidecars) :
    R (.aggregate (d.registry.kinds.map part)) (r.around (d.site l) l.traits inits sidecars) := by
  rw [Demand.around, hkinds]
  refine hr.aggregate_flatMap (List.forall₂_map_right_iff.2 (List.forall₂_same.2 fun k hk => ?_))
  have hmade : k ≠ .init → k ≠ .sidecar → R (part k) (r.ofKind (d.site l) l.traits k) := by
    intro hinit hsidecar
    have hfree : l.barred.contains k = false := by
      by_contra hbarred
      rw [Bool.not_eq_false] at hbarred
      exact (hbars k hbarred).elim hinit hsidecar
    exact hr.ofKind hinit hsidecar (hparts.made k hk hfree)
  cases k
  case init => exact hinits hk
  case sidecar => exact hsidecars hk
  all_goals exact hmade (by decide) (by decide)

variable (hbuiltin : d.registry.IsBuiltin)
include hbuiltin

/-- Below a sidecar a level follows what it asks for itself. -/
lemma Contributes.follows_alone (hbars : BarsContainersOnly l)
    (hinit : l.barred.contains .init = true) (hsidecar : l.barred.contains .sidecar = true)
    (h : d.Contributes l c) : R c (r.alone (d.site l) l.traits) := by
  obtain ⟨answer, part, -, hparts, rfl⟩ := h.parts hbuiltin
  exact hparts.follows hr hkinds hbars (hparts.follows_barred hr hinit)
    (hparts.follows_barred hr hsidecar)

/-- Sidecars follow what they ask for, one after the other. -/
lemma follows_sidecarPart (hbars : BarsContainersOnly l)
    (hnested : ∀ request n, nestedOutcome answer request = .ok n →
      d.Contributes (below l request) n)
    (h : kindContribution (d.site l) answer l.traits .sidecar = .ok c) :
    R c (r.ofSidecars (d.site l) l.traits) := by
  obtain ⟨-, pieces, hpieces, rfl⟩ := Containers.sidecarContribution_eq_ok.1 h
  refine hr.aggregate_flatMap (hpieces.imp fun e p hp => ?_)
  obtain ⟨n, hn, rfl⟩ := Containers.sidecarPiece_eq_ok.1 hp
  have hbars' : BarsContainersOnly (below l (Containers.sidecarRequest (d.site l) e)) :=
    barsContainersOnly_below hbars (by simp [Containers.sidecarRequest])
  have hfollows := (hnested _ n hn).follows_alone hr hkinds hbuiltin hbars'
    (by rw [barred_below]; rfl) (by rw [barred_below]; rfl)
  rw [site_below] at hfollows
  exact hr.aroundSidecar _ _ _ hfollows

/-- Below an init entry a level follows what it and its sidecars ask for. -/
lemma Contributes.follows_withSidecars (hbars : BarsContainersOnly l)
    (hinit : l.barred.contains .init = true) (hsidecar : l.barred.contains .sidecar = false)
    (h : d.Contributes l c) : R c (r.withSidecars (d.site l) l.traits) := by
  obtain ⟨answer, part, hnested, hparts, rfl⟩ := h.parts hbuiltin
  refine hparts.follows hr hkinds hbars (hparts.follows_barred hr hinit) fun hk => ?_
  exact follows_sidecarPart hr hkinds hbuiltin hbars hnested (hparts.made _ hk hsidecar)

/-- Init entries follow what they and their sidecars ask for, one after the other. -/
lemma follows_initPart (hbars : BarsContainersOnly l)
    (hsidecar : l.barred.contains .sidecar = false)
    (hnested : ∀ request n, nestedOutcome answer request = .ok n →
      d.Contributes (below l request) n)
    (h : kindContribution (d.site l) answer l.traits .init = .ok c) :
    R c (r.ofInits (d.site l) l.traits) := by
  obtain ⟨pieces, hpieces, rfl⟩ := Containers.initContribution_eq_ok.1 h
  refine hr.aggregate_flatMap (hpieces.imp fun e p hp => ?_)
  obtain ⟨image, n, -, hn, rfl⟩ := Containers.initPiece_eq_ok.1 hp
  have hbars' : BarsContainersOnly (below l (Containers.initRequest (d.site l) e)) :=
    barsContainersOnly_below hbars (by simp [Containers.initRequest])
  have hfollows := (hnested _ n hn).follows_withSidecars hr hkinds hbuiltin hbars'
    (by rw [barred_below]; rfl) (by rw [barred_below, hsidecar]; rfl)
  rw [site_below] at hfollows
  exact hr.aroundInit _ _ _ hfollows

/-- At the top, a contribution follows the flat list. -/
theorem Contributes.follows (hbarred : l.barred = .empty) (h : d.Contributes l c) :
    R c (r.flatten (d.site l) l.traits) := by
  have hfree : ∀ k, l.barred.contains k = false := by
    intro k
    rw [hbarred, KindSet.contains_empty]
  have hbars : BarsContainersOnly l := by
    intro k hk
    rw [hfree] at hk
    cases hk
  obtain ⟨answer, part, hnested, hparts, rfl⟩ := h.parts hbuiltin
  refine hparts.follows hr hkinds hbars (fun hk => ?_) fun hk => ?_
  · exact follows_initPart hr hkinds hbuiltin hbars (hfree _) hnested (hparts.made _ hk (hfree _))
  · exact follows_sidecarPart hr hkinds hbuiltin hbars hnested (hparts.made _ hk (hfree _))

end Follows

end Dispatcher

/-! ## Collecting -/

namespace Besides

variable {α : Type}

/-- What is asked for in a list, in the order of some kinds. -/
def demand (kinds : List TraitKind) (field : Besides → List α) : Demand α where
  kinds := kinds
  ofKind s t k := field (.ofKind s t k)

/-- A list collects up to a relation what is asked for in it: the relation is a congruence, and the
list of merged contributions is related to their lists in a row. -/
structure Collects (R : List α → List α → Prop) (field : Besides → List α) : Prop where
  refl : ∀ as, R as as
  trans : ∀ as bs cs, R as bs → R bs cs → R as cs
  append : ∀ as as' bs bs', R as as' → R bs bs' → R (as ++ bs) (as' ++ bs')
  aggregate : ∀ cs : List Contribution,
    R (field (Contribution.aggregate cs).besides) (cs.flatMap fun c => field c.besides)

/-- What is collected follows what is asked for. -/
lemma Collects.follows {R : List α → List α → Prop} {field : Besides → List α}
    (hr : Collects R field) (kinds : List TraitKind) :
    (demand kinds field).Follows fun c as => R (field c.besides) as where
  aggregate cs ass h := by
    refine hr.trans _ _ _ (hr.aggregate cs) ?_
    induction h with
    | nil => exact hr.refl []
    | cons hc _ ih => exact hr.append _ _ _ _ hc ih
  aroundInit _ _ _ h := by rwa [Contribution.besides_aroundInit]
  aroundSidecar _ _ _ h := by rwa [Contribution.besides_aroundSidecar]
  ofKind hinit hsidecar h := by
    rw [Contribution.besides_kindContribution hinit hsidecar h]
    exact hr.refl _

end Besides

namespace Dispatcher

variable {α : Type} {R : List α → List α → Prop} {field : Besides → List α}
variable {d : Dispatcher} {l : Level} {c : Contribution}

/-- The demand of a list, in the order of the processors. -/
def demand (d : Dispatcher) (field : Besides → List α) : Demand α :=
  Besides.demand d.registry.kinds field

/-- At the top, everything is collected in the order of the flat list. -/
theorem Contributes.collects (hr : Besides.Collects R field) (hbuiltin : d.registry.IsBuiltin)
    (hbarred : l.barred = .empty) (h : d.Contributes l c) :
    R (field c.besides) ((d.demand field).flatten (d.site l) l.traits) :=
  h.follows (hr.follows d.registry.kinds) rfl hbuiltin hbarred

end Dispatcher

/-! ## Volumes and objects -/

namespace Besides

/-- Of volumes, the first of each name counts. -/
lemma collects_volumes : Collects (SameFirsts (·.name)) (·.volumes) where
  refl := .refl
  trans _ _ _ h h' := h.trans h'
  append _ _ _ _ h h' := h.append h'
  aggregate cs := by
    show SameFirsts _ (Contribution.aggregate cs).volumes _
    rw [Contribution.aggregate_volumes, appendNew_eq]
    exact .of_firsts _ _

/-- Of objects, the first of each key counts. -/
lemma collects_objects : Collects (SameFirsts (·.key)) (·.objects) where
  refl := .refl
  trans _ _ _ h h' := h.trans h'
  append _ _ _ _ h h' := h.append h'
  aggregate cs := by
    show SameFirsts _ (Contribution.aggregate cs).objects _
    rw [Contribution.aggregate_objects, appendNew_eq]
    exact .of_firsts _ _

/-- In the order of the built-in processors, a level asks for the volumes of its storage, then for
those of its secrets, then for those of nested levels. -/
theorem volumes_flatten (s : Site) (t : Traits) :
    (demand TraitKind.all (·.volumes)).flatten s t =
      (ofKind s t .storage).volumes ++ (ofKind s t .secret).volumes ++
        (demand TraitKind.all (·.volumes)).ofInits s t ++
          (demand TraitKind.all (·.volumes)).ofSidecars s t := by
  simp [Demand.flatten, Demand.around, demand, TraitKind.all, ofKind]

/-- In the order of the built-in processors, a level asks for its claims, its secrets and the
objects of its access policies, then for the objects of nested levels, then for its ingresses. -/
theorem objects_flatten (s : Site) (t : Traits) :
    (demand TraitKind.all (·.objects)).flatten s t =
      (ofKind s t .storage).objects ++ (ofKind s t .secret).objects ++ (ofKind s t .rbac).objects ++
        (demand TraitKind.all (·.objects)).ofInits s t ++
          (demand TraitKind.all (·.objects)).ofSidecars s t ++ (ofKind s t .ingress).objects := by
  simp [Demand.flatten, Demand.around, demand, TraitKind.all, ofKind]

end Besides

namespace Dispatcher

variable {d : Dispatcher} {l : Level} {c : Contribution}

/-- Every contribution of a level is merged of some others. -/
lemma Contributes.exists_aggregate (h : d.Contributes l c) : ∃ cs, c = .aggregate cs := by
  obtain ⟨answer, -, houtcome⟩ := h
  obtain ⟨cs, -, hcs⟩ := map_eq_ok.1 houtcome
  exact ⟨cs.reduceOption, hcs.symm⟩

/-- The volumes of a level are those that count of the flat list. -/
theorem Contributes.volumes_eq (hbuiltin : d.registry.IsBuiltin) (hbarred : l.barred = .empty)
    (h : d.Contributes l c) :
    c.volumes = firsts (·.name) [] ((d.demand (·.volumes)).flatten (d.site l) l.traits) := by
  rw [← h.collects Besides.collects_volumes hbuiltin hbarred []]
  obtain ⟨cs, rfl⟩ := h.exists_aggregate
  show (Contribution.aggregate cs).volumes = firsts _ [] (Contribution.aggregate cs).volumes
  rw [Contribution.aggregate_volumes, appendNew_eq]
  exact (firsts_firsts _ _ _).symm

/-- The objects of a level are those that count of the flat list. -/
theorem Contributes.objects_eq (hbuiltin : d.registry.IsBuiltin) (hbarred : l.barred = .empty)
    (h : d.Contributes l c) :
    c.objects = firsts (·.key) [] ((d.demand (·.objects)).flatten (d.site l) l.traits) := by
  rw [← h.collects Besides.collects_objects hbuiltin hbarred []]
  obtain ⟨cs, rfl⟩ := h.exists_aggregate
  show (Contribution.aggregate cs).objects = firsts _ [] (Contribution.aggregate cs).objects
  rw [Contribution.aggregate_objects, appendNew_eq]
  exact (firsts_firsts _ _ _).symm

/-- **The tree is flat.**  Whatever a level without barred kinds is processed to has the volumes
and the objects of the flat list, of which the first of each name and of each key count; so every
name and every key that is asked for at any depth is there exactly once.  For the order of the
built-in processors, `Besides.volumes_flatten` and `Besides.objects_flatten` spell the flat lists
out. -/
theorem dispatch_flattens (hbuiltin : d.registry.IsBuiltin) (hbarred : l.barred = .empty)
    (hok : (d.dispatch l).outcome = .ok c) :
    c.volumes = firsts (·.name) [] ((d.demand (·.volumes)).flatten (d.site l) l.traits) ∧
      c.objects = firsts (·.key) [] ((d.demand (·.objects)).flatten (d.site l) l.traits) ∧
      (∀ v ∈ (d.demand (·.volumes)).flatten (d.site l) l.traits,
        (c.volumes.map (·.name)).count v.name = 1) ∧
      ∀ o ∈ (d.demand (·.objects)).flatten (d.site l) l.traits,
        (c.objects.map (·.key)).count o.key = 1 := by
  have hcontributes := contributes_of_dispatch hok
  have hvolumes := hcontributes.volumes_eq hbuiltin hbarred
  have hobjects := hcontributes.objects_eq hbuiltin hbarred
  refine ⟨hvolumes, hobjects, fun v hv => ?_, fun o ho => ?_⟩
  · rw [hvolumes]
    exact List.count_eq_one_of_mem (nodup_map_firsts _ _ _)
      (mem_map_firsts.2 ⟨List.mem_map_of_mem hv, List.not_mem_nil⟩)
  · rw [hobjects]
    exact List.count_eq_one_of_mem (nodup_map_firsts _ _ _)
      (mem_map_firsts.2 ⟨List.mem_map_of_mem ho, List.not_mem_nil⟩)

/-- A dispatcher with the built-in processors in order. -/
def ordered : Dispatcher where
  registry := .builtin
  settings := {}
  component := { name := "db" }
  workload := { kind := .statefulSet }

/-- A level that asks for one volume at two places, each time with a claim of its own, and for two
secrets of one name. -/
def sharedLevel : Level :=
  let data : StorageEntry := { name := "data", type := "persistent", create := true }
  let agent : SidecarEntry Traits :=
    { name := "DB", image := "agent", traits := { secret := [{}] } }
  { target := "db"
    traits := {
      storage := [data]
      secret := [{}]
      init := [{
        name := "restore"
        properties := { image := "restore" }
        traits := { sidecar := [agent] } }]
      sidecar := [{ name := "backup", image := "backup", traits := { storage := [data] } }] } }

theorem dispatch_flattens_shared :
    ∃ c, (ordered.dispatch sharedLevel).outcome = .ok c ∧
      c.volumes = firsts (·.name) []
        ((ordered.demand (·.volumes)).flatten (ordered.site sharedLevel) sharedLevel.traits) ∧
      c.objects = firsts (·.key) []
        ((ordered.demand (·.objects)).flatten (ordered.site sharedLevel) sharedLevel.traits) ∧
      (∀ v ∈ (ordered.demand (·.volumes)).flatten (ordered.site sharedLevel) sharedLevel.traits,
        (c.volumes.map (·.name)).count v.name = 1) ∧
      ∀ o ∈ (ordered.demand (·.objects)).flatten (ordered.site sharedLevel) sharedLevel.traits,
        (c.objects.map (·.key)).count o.key = 1 :=
  ⟨_, rfl, dispatch_flattens Registry.isBuiltin_builtin rfl rfl⟩

end Dispatcher

end WorkloadTraits
