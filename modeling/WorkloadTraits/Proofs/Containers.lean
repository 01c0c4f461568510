import WorkloadTraits.Proofs.Builtin.Decoration
import WorkloadTraits.Proofs.Placement.Workload

/-!
# Which container gets what

An application with the built-in processors adds one container for each init entry and each sidecar
of the component, and one for each sidecar within an init entry; deeper there are none.  Each added
container holds what its own entry says and what the traits of that entry want for it, and the
component's own container gets what the traits of the component want.  Nothing reaches a container
from the traits of another (`containers_apply`).

The containers of a level are computed from the inside out, for the three ways in which levels can
be barred: below a sidecar, below an init entry, and at the top.
-/

namespace WorkloadTraits

/-- The same component seen from another container. -/
def Site.forTarget (s : Site) (target : String) : Site := { s with target }

namespace Containers

/-- Variables with the values of a map, in the order of their names. -/
def literals (env : StringMap) : List EnvVar :=
  env.entries.map fun (name, value) => { name, value := some value }

/-- The container of an init entry with the traits of the entry. -/
def initOf (site : Site) (e : InitEntry Traits × Nat) : Container :=
  let name := initName site e.2 e.1
  let d := e.1.traits.decoration (site.forTarget name)
  { name
    image := trimmed? e.1.properties.image
    command := given? e.1.properties.command
    env := given? (literals e.1.properties.env ++ d.env)
    envFrom := given? d.envFrom
    volumeMounts := given? d.volumeMounts
    resources := d.resources }

/-- The container of a sidecar with the traits of the sidecar. -/
def sidecarOf (site : Site) (e : SidecarEntry Traits × Nat) : Container :=
  let name := sidecarName site e.2 e.1
  let d := e.1.traits.decoration (site.forTarget name)
  { name
    image := some (Text.trim e.1.image)
    command := given? e.1.command
    args := given? e.1.args
    env := given? (literals e.1.env ++ d.env)
    envFrom := given? d.envFrom
    volumeMounts := given? d.volumeMounts
    resources := d.resources
    livenessProbe := d.livenessProbe
    readinessProbe := d.readinessProbe
    startupProbe := d.startupProbe }

/-- The sidecars that stand directly in the traits of an init entry. -/
def innerSidecars (site : Site) (e : InitEntry Traits × Nat) : List Container :=
  e.1.traits.sidecar.zipIdx.map (sidecarOf (site.forTarget (initName site e.2 e.1)))

end Containers

/-! ## Attaching -/

lemma extendGiven_given? {α : Type} (as bs : List α) :
    extendGiven (· ++ ·) (given? as) bs = given? (as ++ bs) := by
  cases as with
  | nil => cases bs <;> rfl
  | cons a as =>
      cases bs with
      | nil => rw [List.append_nil]; rfl
      | cons b bs => rfl

lemma extendGiven_none {α : Type} {append : List α → List α → List α} {bs : List α}
    (h : append [] bs = bs) : extendGiven append none bs = given? bs := by
  rw [extendGiven, given?]
  split
  · rfl
  · rw [Option.getD_none, h]

/-- The mounts of a decoration have a path each, so none of them is left out. -/
lemma extendGiven_decoration (site : Site) (t : Traits) :
    extendGiven (appendNew (·.mountPath)) none (t.decoration site).volumeMounts =
      given? (t.decoration site).volumeMounts := by
  refine extendGiven_none ?_
  rw [appendNew_eq, List.nil_append]
  exact firsts_firsts (fun m : VolumeMount => m.mountPath) [] _

namespace Containers

variable {site : Site} {n : Contribution}

lemma attach_init {e : InitEntry Traits × Nat} {image : String}
    (himage : trimmed? e.1.properties.image = some image)
    (hn : n.own (initName site e.2 e.1) =
      e.1.traits.decoration (site.forTarget (initName site e.2 e.1))) :
    n.attach true (initContainer (initName site e.2 e.1) image e.1) = initOf site e := by
  have hfields : n.fieldsFor (initName site e.2 e.1) = _ :=
    congrArg Decoration.toContainerFields hn
  have hresources : n.resources = _ := congrArg Decoration.resources hn
  simp only [Contribution.attach, initContainer, ContainerFields.applyTo, initOf, hfields,
    hresources, himage, literalVariables, literals, extendGiven_given?, extendGiven_decoration,
    extendGiven_none (List.nil_append _), Option.or_none, if_true]

lemma attach_sidecar {e : SidecarEntry Traits × Nat}
    (hn : n.own (sidecarName site e.2 e.1) =
      e.1.traits.decoration (site.forTarget (sidecarName site e.2 e.1))) :
    n.attach false (sidecarContainer (sidecarName site e.2 e.1) e.1) = sidecarOf site e := by
  have hfields : n.fieldsFor (sidecarName site e.2 e.1) = _ :=
    congrArg Decoration.toContainerFields hn
  have hresources : n.resources = _ := congrArg Decoration.resources hn
  have hliveness : n.livenessProbe = _ := congrArg Decoration.livenessProbe hn
  have hreadiness : n.readinessProbe = _ := congrArg Decoration.readinessProbe hn
  have hstartup : n.startupProbe = _ := congrArg Decoration.startupProbe hn
  simp only [Contribution.attach, sidecarContainer, ContainerFields.applyTo, sidecarOf, hfields,
    hresources, hliveness, hreadiness, hstartup, literalVariables, literals, extendGiven_given?,
    extendGiven_decoration, extendGiven_none (List.nil_append _), Option.or_none,
    Bool.false_eq_true, if_false]

end Containers

/-! ## The containers of a level -/

/-- Values that are made of others one by one are the same in total. -/
lemma flatMap_eq_of_forall₂ {α β γ : Type} {R : α → β → Prop} {f : α → List γ} {g : β → List γ}
    {as : List α} {bs : List β} (h : List.Forall₂ R as bs)
    (hR : ∀ a b, R a b → g b = f a) : bs.flatMap g = as.flatMap f := by
  induction h with
  | nil => rfl
  | cons hr _ ih => rw [List.flatMap_cons, List.flatMap_cons, ih, hR _ _ hr]

namespace Dispatcher

variable {d : Dispatcher} {l : Level} {c : Contribution}

/-- The containers of a level come of its init entries and sidecars. -/
lemma Contributes.containers_parts (hbuiltin : d.registry = .builtin) (h : d.Contributes l c) :
    ∃ answer part,
      (∀ request n, nestedOutcome answer request = .ok n →
        d.Contributes (Dispatcher.below l request) n) ∧
        d.Parts answer l part ∧
          c.initContainers = (part .init).initContainers ++ (part .sidecar).initContainers ∧
            c.containers = (part .init).containers ++ (part .sidecar).containers := by
  have hregistry : d.registry.IsBuiltin := hbuiltin ▸ Registry.isBuiltin_builtin
  obtain ⟨answer, part, hnested, hparts, rfl⟩ := h.parts hregistry
  have hkinds : d.registry.kinds = TraitKind.all := by
    rw [hbuiltin, Registry.kinds_builtin]
  have hnone : ∀ k, k ≠ .init → k ≠ .sidecar →
      (part k).initContainers = [] ∧ (part k).containers = [] := by
    intro k hinit hsidecar
    have hk : k ∈ d.registry.kinds := hbuiltin ▸ Registry.mem_kinds_builtin k
    cases hbarred : l.barred.contains k with
    | true =>
        rw [hparts.barred k hk hbarred]
        exact ⟨rfl, rfl⟩
    | false =>
        have hdecorates :=
          Contribution.decorates_kindContribution hinit hsidecar (hparts.made k hk hbarred)
        exact ⟨hdecorates.initContainers, hdecorates.containers⟩
  refine ⟨answer, part, hnested, hparts, ?_, ?_⟩
  · rw [Contribution.aggregate_initContainers, hkinds]
    simp [TraitKind.all, hnone]
  · rw [Contribution.aggregate_containers, hkinds]
    simp [TraitKind.all, hnone]

lemma barred_below (request : Nested) (k : TraitKind) :
    (below l request).barred.contains k = (request.barring.contains k || l.barred.contains k) :=
  KindSet.contains_insertAll l.barred request.barring k

lemma barsContainersOnly_below (hbars : BarsContainersOnly l) {request : Nested}
    (hrequest : ∀ k ∈ request.barring, k = .init ∨ k = .sidecar) :
    BarsContainersOnly (below l request) := by
  intro k hk
  rw [barred_below, Bool.or_eq_true, List.contains_iff_mem] at hk
  exact hk.elim (hrequest k) (hbars k)

/-- Below a sidecar no container is added. -/
lemma Contributes.containers_of_barred (hbuiltin : d.registry = .builtin)
    (hinit : l.barred.contains .init = true) (hsidecar : l.barred.contains .sidecar = true)
    (h : d.Contributes l c) : c.initContainers = [] ∧ c.containers = [] := by
  obtain ⟨answer, part, -, hparts, hinits, hcontainers⟩ := h.containers_parts hbuiltin
  have hkinds : ∀ k, k ∈ d.registry.kinds := hbuiltin ▸ Registry.mem_kinds_builtin
  rw [hinits, hcontainers, hparts.barred _ (hkinds _) hinit, hparts.barred _ (hkinds _) hsidecar]
  exact ⟨rfl, rfl⟩

variable {answer : Nested → Except Failure Contribution}

/-- A sidecar adds its own container and no other. -/
lemma containers_sidecarPart (hbuiltin : d.registry = .builtin) (hbars : BarsContainersOnly l)
    (hnested : ∀ request n, nestedOutcome answer request = .ok n →
      d.Contributes (below l request) n)
    (h : kindContribution (d.site l) answer l.traits .sidecar = .ok c) :
    c.initContainers = [] ∧
      c.containers = l.traits.sidecar.zipIdx.map (Containers.sidecarOf (d.site l)) := by
  obtain ⟨-, pieces, hpieces, rfl⟩ := Containers.sidecarContribution_eq_ok.1 h
  have hpiece : ∀ e p, Containers.sidecarPiece (d.site l) answer e = .ok p →
      p.initContainers = [] ∧ p.containers = [Containers.sidecarOf (d.site l) e] := by
    intro e p hp
    obtain ⟨n, hn, rfl⟩ := Containers.sidecarPiece_eq_ok.1 hp
    have hcontributes := hnested _ n hn
    have hbars' : BarsContainersOnly (below l (Containers.sidecarRequest (d.site l) e)) :=
      barsContainersOnly_below hbars (by simp [Containers.sidecarRequest])
    obtain ⟨hinits, hcontainers⟩ := hcontributes.containers_of_barred hbuiltin
      (by rw [barred_below]; rfl) (by rw [barred_below]; rfl)
    refine ⟨hinits, ?_⟩
    show n.containers ++ [_] = _
    rw [hcontainers, Containers.attach_sidecar (hcontributes.own hbuiltin hbars')]
    rfl
  rw [Contribution.aggregate_initContainers, Contribution.aggregate_containers,
    flatMap_eq_of_forall₂ hpieces fun e p hp => (hpiece e p hp).1,
    flatMap_eq_of_forall₂ hpieces fun e p hp => (hpiece e p hp).2]
  exact ⟨List.flatMap_eq_nil_iff.2 fun _ _ => rfl, List.map_eq_flatMap.symm⟩

/-- Below an init entry, each sidecar adds its container. -/
lemma Contributes.containers_of_barred_init (hbuiltin : d.registry = .builtin)
    (hbars : BarsContainersOnly l) (hinit : l.barred.contains .init = true)
    (hsidecar : l.barred.contains .sidecar = false) (h : d.Contributes l c) :
    c.initContainers = [] ∧
      c.containers = l.traits.sidecar.zipIdx.map (Containers.sidecarOf (d.site l)) := by
  obtain ⟨answer, part, hnested, hparts, hinits, hcontainers⟩ := h.containers_parts hbuiltin
  have hkinds : ∀ k, k ∈ d.registry.kinds := hbuiltin ▸ Registry.mem_kinds_builtin
  rw [hinits, hcontainers, hparts.barred _ (hkinds _) hinit]
  exact containers_sidecarPart hbuiltin hbars hnested (hparts.made _ (hkinds _) hsidecar)

/-- An init entry adds its own container, and those of the sidecars that stand in it. -/
lemma containers_initPart (hbuiltin : d.registry = .builtin) (hbars : BarsContainersOnly l)
    (hsidecar : l.barred.contains .sidecar = false)
    (hnested : ∀ request n, nestedOutcome answer request = .ok n →
      d.Contributes (below l request) n)
    (h : kindContribution (d.site l) answer l.traits .init = .ok c) :
    c.initContainers = l.traits.init.zipIdx.map (Containers.initOf (d.site l)) ∧
      c.containers = l.traits.init.zipIdx.flatMap (Containers.innerSidecars (d.site l)) := by
  obtain ⟨pieces, hpieces, rfl⟩ := Containers.initContribution_eq_ok.1 h
  have hpiece : ∀ e p, Containers.initPiece (d.site l) answer e = .ok p →
      p.initContainers = [Containers.initOf (d.site l) e] ∧
        p.containers = Containers.innerSidecars (d.site l) e := by
    intro e p hp
    obtain ⟨image, n, himage, hn, rfl⟩ := Containers.initPiece_eq_ok.1 hp
    have hcontributes := hnested _ n hn
    have hbars' : BarsContainersOnly (below l (Containers.initRequest (d.site l) e)) :=
      barsContainersOnly_below hbars (by simp [Containers.initRequest])
    obtain ⟨hinits, hcontainers⟩ := hcontributes.containers_of_barred_init hbuiltin hbars'
      (by rw [barred_below]; rfl) (by rw [barred_below, hsidecar]; rfl)
    refine ⟨?_, hcontainers⟩
    show n.initContainers ++ [_] = _
    rw [hinits, Containers.attach_init himage (hcontributes.own hbuiltin hbars')]
    rfl
  rw [Contribution.aggregate_initContainers, Contribution.aggregate_containers,
    flatMap_eq_of_forall₂ hpieces fun e p hp => (hpiece e p hp).1,
    flatMap_eq_of_forall₂ hpieces fun e p hp => (hpiece e p hp).2]
  exact ⟨List.map_eq_flatMap.symm, rfl⟩

/-- At the top, init entries add containers first, then sidecars do. -/
theorem Contributes.containers (hbuiltin : d.registry = .builtin)
    (hbarred : l.barred = .empty) (h : d.Contributes l c) :
    c.initContainers = l.traits.init.zipIdx.map (Containers.initOf (d.site l)) ∧
      c.containers = l.traits.init.zipIdx.flatMap (Containers.innerSidecars (d.site l)) ++
        l.traits.sidecar.zipIdx.map (Containers.sidecarOf (d.site l)) := by
  obtain ⟨answer, part, hnested, hparts, hinits, hcontainers⟩ := h.containers_parts hbuiltin
  have hkinds : ∀ k, k ∈ d.registry.kinds := hbuiltin ▸ Registry.mem_kinds_builtin
  have hfree : ∀ k, l.barred.contains k = false := by
    intro k
    rw [hbarred, KindSet.contains_empty]
  have hbars : BarsContainersOnly l := by
    intro k hk
    rw [hfree] at hk
    cases hk
  obtain ⟨hinit₁, hinit₂⟩ := containers_initPart hbuiltin hbars (hfree _) hnested
    (hparts.made _ (hkinds .init) (hfree _))
  obtain ⟨hsidecar₁, hsidecar₂⟩ := containers_sidecarPart hbuiltin hbars hnested
    (hparts.made _ (hkinds .sidecar) (hfree _))
  rw [hinits, hcontainers, hinit₁, hinit₂, hsidecar₁, hsidecar₂, List.append_nil]
  exact ⟨rfl, rfl⟩

end Dispatcher

/-! ## Placing -/

/-- The container with a decoration: lists are extended, a mount whose path is taken apart, limits
are laid over those that are there, and a probe takes the place of a probe. -/
def Decoration.onto (d : Decoration) (k : Container) : Container :=
  { k with
    volumeMounts := extendGiven (appendNew (·.mountPath)) k.volumeMounts d.volumeMounts
    env := extendGiven (· ++ ·) k.env d.env
    envFrom := extendGiven (· ++ ·) k.envFrom d.envFrom
    resources :=
      match d.resources with
      | none => k.resources
      | some requested => some ((k.resources.getD {}).overlay requested)
    livenessProbe := d.livenessProbe.or k.livenessProbe
    readinessProbe := d.readinessProbe.or k.readinessProbe
    startupProbe := d.startupProbe.or k.startupProbe }

namespace Pod

lemma updateContainer_self (p : Pod) (name : String) :
    p.updateContainer name (fun k => k) = p := by
  rw [updateContainer]
  split
  · rw [updateFirst_id]
  · have hid : updateFirst (fun k : Container => k.name == name) (fun k => k) = id :=
      funext updateFirst_id
    rw [hid, Option.map_id]
    rfl

end Pod

namespace Contribution

/-- Values for one container at most come up under one name at most. -/
lemma RoutesOnlyTo.routedNames {c : Contribution} {main : String} (hc : c.RoutesOnlyTo main) :
    c.routedNames = [main] ∨ (c.routedNames = [] ∧ c.fieldsFor main = {}) := by
  have hall : ∀ n ∈ c.routedNames, n = main := by
    intro n hn
    rcases mem_routedNames.1 hn with hn | hn | hn
    · exact hc.volumeMounts n hn
    · exact hc.envVars n hn
    · exact hc.envFrom n hn
  have hnodup := c.nodup_routedNames
  cases hnames : c.routedNames with
  | nil =>
      have hmain : main ∉ c.routedNames := hnames ▸ List.not_mem_nil
      exact .inr ⟨rfl, fieldsFor_of_not_mem hmain⟩
  | cons n rest =>
      rw [hnames] at hall hnodup
      have hrest : rest = [] := by
        refine List.eq_nil_iff_forall_not_mem.2 fun n' hn' => ?_
        have hsame : n' = n :=
          (hall n' (List.mem_cons_of_mem _ hn')).trans (hall n List.mem_cons_self).symm
        exact (List.nodup_cons.1 hnodup).1 (hsame ▸ hn')
      rw [hrest, hall n List.mem_cons_self]
      exact .inl rfl

end Contribution

namespace Pod

/-- If all values are for one container, the walk over the containers is one step. -/
lemma route_eq {c : Contribution} {main : String} (hc : c.RoutesOnlyTo main) (p : Pod) :
    p.route c = p.updateContainer main (c.fieldsFor main).applyTo := by
  rw [route]
  rcases hc.routedNames with hnames | ⟨hnames, hfields⟩
  · rw [hnames]
    rfl
  · rw [hnames, hfields]
    exact (p.updateContainer_self main).symm

/-- The main container is equipped with what its level wants for it, and nothing else is changed. -/
lemma equip_eq {c : Contribution} {main : String} (hc : c.RoutesOnlyTo main) {p : Pod}
    (hmain : p.containers.any (·.name == main) = true) :
    p.equip main c =
      { p with containers := updateFirst (·.name == main) (c.own main).onto p.containers } := by
  have hname : ∀ k : Container, ((k.equip c).name == main) = (k.name == main) := fun _ => rfl
  have hmain' : (updateFirst (·.name == main) (·.equip c) p.containers).any (·.name == main) =
      true := (any_updateFirst hname p.containers).trans hmain
  rw [equip, route_eq hc, updateContainer_of_any hmain, updateContainer_of_any hmain']
  have htwice := updateFirst_updateFirst (p := (·.name == main)) (f := (·.equip c))
    (g := (c.fieldsFor main).applyTo) hname p.containers
  exact congrArg (fun ks => { p with containers := ks }) htwice

end Pod

/-- The containers of a furnished workload. -/
lemma Workload.containers_furnish {w : Workload} {pod : Pod} (hpod : w.pod? = some pod)
    {settings : Settings} {main : String} {c : Contribution} (hc : c.RoutesOnlyTo main)
    (hmain : pod.containers.any (·.name == main) = true) :
    ∃ pod', (w.furnish settings main c).pod? = some pod' ∧
      pod'.inits = pod.inits ++ c.initContainers ∧
        pod'.containers =
          updateFirst (·.name == main) (c.own main).onto pod.containers ++ c.containers := by
  have hreceived : (pod.receive c).containers.any (·.name == main) = true := by
    rw [Pod.containers_receive, List.any_append, hmain, Bool.true_or]
  have hequipped := Pod.equip_eq hc hreceived
  have hcontainers := congrArg Pod.containers hequipped
  have hinits := congrArg Pod.inits hequipped
  rw [Pod.containers_receive, updateFirst_append hmain] at hcontainers
  change ((pod.receive c).equip main c).inits = (pod.receive c).inits at hinits
  rw [Pod.inits_receive] at hinits
  rw [pod?_furnish, hpod]
  refine ⟨_, rfl, ?_⟩
  split
  · obtain ⟨hcontainers', hinits'⟩ :=
      ((pod.receive c).equip main c).containers_uncoverAll (claimTemplates settings c.objects)
    rw [Pod.inits, hcontainers', hinits']
    exact ⟨hinits, hcontainers⟩
  · exact ⟨hinits, hcontainers⟩

namespace Engine

/-- The component's own container, as the traits of the component see it. -/
def site (e : Engine) (c : Component) : Site := ⟨e.settings, c, c.name⟩

/-- **Which container gets what.**  After an application that succeeds, the containers of the pod
are those that it had, with the component's own container decorated by the component's traits, and
then those that the traits add, each as its own entry says. -/
theorem containers_apply {e : Engine} (hbuiltin : e.registry = .builtin) {c : Component}
    {w : Workload} {objects : List Companion} (hok : (e.apply c w).outcome = .ok objects)
    {pod : Pod} (hpod : w.pod? = some pod) :
    ∃ t? pod', traits c = .ok t? ∧ (e.apply c w).workload.pod? = some pod' ∧
      pod'.inits =
        pod.inits ++ (t?.getD {}).init.zipIdx.map (Containers.initOf (e.site c)) ∧
      pod'.containers =
        updateFirst (·.name == c.name) ((t?.getD {}).decoration (e.site c)).onto pod.containers ++
          ((t?.getD {}).init.zipIdx.flatMap (Containers.innerSidecars (e.site c)) ++
            (t?.getD {}).sidecar.zipIdx.map (Containers.sidecarOf (e.site c))) := by
  rcases e.apply_cases c w with ⟨hkept, hnone⟩ |
    ⟨t, contribution, pod', htraits, hcontribution, hpod', hmain, hplaced⟩
  · have hself : (({} : Traits).decoration (e.site c)).onto = fun k => k := rfl
    have hpod' := (congrArg Workload.pod? hkept).trans hpod
    refine ⟨none, pod, hnone objects hok, hpod', ?_, ?_⟩
    · exact (List.append_nil _).symm
    · rw [Option.getD_none, hself, updateFirst_id]
      exact (List.append_nil _).symm
  · obtain rfl := Option.some.inj (hpod'.symm.trans hpod)
    have hcontributes := Dispatcher.contributes_of_dispatch hcontribution
    have hregistry : e.registry.IsBuiltin := hbuiltin ▸ Registry.isBuiltin_builtin
    obtain ⟨hinits, hcontainers⟩ := hcontributes.containers hbuiltin rfl
    have hown := hcontributes.own hbuiltin fun _ hk => absurd hk Bool.false_ne_true
    obtain ⟨furnished, hfurnished, hinits', hcontainers'⟩ :=
      Workload.containers_furnish hpod' (hcontributes.routesOnlyTo hregistry) hmain
    refine ⟨some t, furnished, htraits, hplaced ▸ hfurnished, ?_, ?_⟩
    · rw [hinits', hinits]
      rfl
    · rw [hcontainers', hcontainers, hown]
      rfl

/-- A component with an init entry that has a variable and a sidecar of its own. -/
def nestingComponent : Component :=
  Component.withTraits { name := "web" } {
    envs := [{ name := "MODE", valueFrom := { static := some "live" } }]
    init := [{
      name := "setup"
      properties := { image := "busybox" }
      traits := {
        envs := [{ name := "STAGE", valueFrom := { static := some "first" } }]
        sidecar := [{ name := "proxy", image := "envoy", traits := {} }] } }] }

/-- A pod with the component's own container. -/
def plainPod : Pod where
  containers := [{ name := "web" }]

/-- A deployment with that pod. -/
def plainWorkload : Workload where
  kind := .deployment
  spec := some { template := { pod := some plainPod } }

theorem containers_apply_nesting :
    (builtin.apply nestingComponent plainWorkload).outcome = .ok [] ∧
      ∃ t? pod', traits nestingComponent = .ok t? ∧
        (builtin.apply nestingComponent plainWorkload).workload.pod? = some pod' ∧
        pod'.inits = plainPod.inits ++ (t?.getD {}).init.zipIdx.map
          (Containers.initOf (builtin.site nestingComponent)) ∧
        pod'.containers =
          updateFirst (·.name == nestingComponent.name)
            ((t?.getD {}).decoration (builtin.site nestingComponent)).onto plainPod.containers ++
            ((t?.getD {}).init.zipIdx.flatMap
                (Containers.innerSidecars (builtin.site nestingComponent)) ++
              (t?.getD {}).sidecar.zipIdx.map
                (Containers.sidecarOf (builtin.site nestingComponent))) := by
  have hok : (builtin.apply nestingComponent plainWorkload).outcome = .ok [] := rfl
  have hpod : plainWorkload.pod? = some plainPod := rfl
  exact ⟨hok, containers_apply rfl hok hpod⟩

end Engine

end WorkloadTraits
