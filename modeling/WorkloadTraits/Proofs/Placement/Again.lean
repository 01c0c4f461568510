import WorkloadTraits.Proofs.Claims.Templates
import WorkloadTraits.Proofs.Containers
import WorkloadTraits.Proofs.SortedMap

/-!
# Placing a contribution twice

A component can be applied to a workload that it has been applied to already.  Most rules of placing
have no effect then, because the pod has by now what the contribution wants: a mount of the same
path, an account, limits of the same amounts, a template of the same name.  What grows are the
lists that are extended without a test (`Growth`), and that nothing else changes but the volumes is
`Workload.furnish_furnish`.

With the volumes it depends: a volume that the first placement took away may make room for one of
its name.
-/

namespace WorkloadTraits

/-! ## Containers -/

lemma overlayGiven_twice (base extra : Option StringMap) :
    overlayGiven (overlayGiven base extra) extra = overlayGiven base extra := by
  cases extra with
  | none => rfl
  | some m => exact congrArg some (SortedMap.overlay_overlay _ m)

lemma ResourceRequirements.overlay_twice (base requested : ResourceRequirements) :
    (base.overlay requested).overlay requested = base.overlay requested := by
  rw [overlay, overlay, overlayGiven_twice, overlayGiven_twice]

/-- What is added to a pod without a test: containers at the end, and variables and sources of
variables of its main container. -/
structure Growth where
  containers : List Container := []
  inits : List Container := []
  env : List EnvVar := []
  envFrom : List EnvSource := []

namespace Growth

/-- The main container with what is added. -/
def ofContainer (g : Growth) (k : Container) : Container :=
  { k with
    env := extendGiven (· ++ ·) k.env g.env
    envFrom := extendGiven (· ++ ·) k.envFrom g.envFrom }

/-- The pod with what is added, where `main` is the name of the main container. -/
def ofPod (g : Growth) (main : String) (p : Pod) : Pod :=
  { p with
    containers := updateFirst (·.name == main) g.ofContainer p.containers ++ g.containers
    initContainers := extendGiven (· ++ ·) p.initContainers g.inits }

/-- Where nothing is added, nothing changes. -/
lemma ofPod_empty (main : String) (p : Pod) : ofPod {} main p = p := by
  have hself : ofContainer {} = fun k => k := rfl
  rw [ofPod, hself, updateFirst_id, List.append_nil]
  rfl

end Growth

/-- A container that is decorated again gets nothing but its variables again. -/
lemma Decoration.onto_onto {d : Decoration} {g : Growth} (henv : g.env = d.env)
    (henvFrom : g.envFrom = d.envFrom) (k : Container) :
    d.onto (d.onto k) = g.ofContainer (d.onto k) := by
  have hprobe : ∀ wanted given : Option Probe, wanted.or (wanted.or given) = wanted.or given := by
    intro wanted given
    cases wanted <;> rfl
  obtain ⟨fields, resources, liveness, readiness, startup⟩ := d
  cases resources with
  | none =>
      simp only [onto, Growth.ofContainer, henv, henvFrom, extendGiven_appendNew_twice, hprobe]
  | some requested =>
      simp only [onto, Growth.ofContainer, henv, henvFrom, extendGiven_appendNew_twice, hprobe,
        Option.getD_some, ResourceRequirements.overlay_twice]

/-- What of a contribution is added without a test. -/
def Contribution.growth (c : Contribution) (main : String) : Growth where
  containers := c.containers
  inits := c.initContainers
  env := c.envVars.get main
  envFrom := c.envFrom.get main

/-! ## Pods -/

lemma given?_inj {α : Type} {as bs : List α} : given? as = given? bs ↔ as = bs := by
  cases as <;> cases bs <;> simp [given?]

namespace Pod

variable {p : Pod} {main : String} {c : Contribution} {templates : List Claim}

/-- An account that is bound stays when it is bound again. -/
lemma account_twice (own wanted : Option String) :
    (((own.filter (!·.isEmpty)).or (wanted.or own)).filter (!·.isEmpty)).or
        (wanted.or ((own.filter (!·.isEmpty)).or (wanted.or own))) =
      (own.filter (!·.isEmpty)).or (wanted.or own) := by
  cases hown : own.filter (!·.isEmpty) with
  | some name =>
      have hname : (some name).filter (!·.isEmpty) = some name := by
        obtain ⟨-, hgiven⟩ := Option.filter_eq_some_iff.1 hown
        rw [Option.filter_some, if_pos hgiven]
      rw [Option.some_or, hname, Option.some_or]
  | none =>
      rw [Option.none_or]
      cases wanted with
      | none =>
          rw [Option.none_or, hown, Option.none_or, Option.none_or]
      | some name =>
          rw [Option.some_or, Option.some_or, Option.filter_some]
          split <;> rfl

/-- Where volumes may have been taken away, an empty list is not kept. -/
lemma volumes_uncoverAll (htemplates : templates ≠ []) (p : Pod) :
    (p.uncoverAll templates).volumes = given? (p.uncoverAll templates).volumeList := by
  have hone : ∀ (p : Pod) (template : String),
      (p.uncover template).volumes = given? (p.uncover template).volumeList := by
    intro p template
    rw [volumeList_uncover, uncover, volumeList]
    cases p.volumes with
    | none => rfl
    | some vs =>
        rw [Option.map_some, Option.filter_some, Option.getD_some, given?]
        cases vs.filter (!·.hides template) <;> rfl
  induction templates generalizing p with
  | nil => exact absurd rfl htemplates
  | cons k rest ih =>
      cases rest with
      | nil => exact hone p k.templateName
      | cons k' rest => exact ih (List.cons_ne_nil _ _) (p.uncover k.templateName)

/-- What a pod becomes where a contribution is placed that has values for its main container
only. -/
lemma furnished_eq (hc : c.RoutesOnlyTo main) (hmain : p.containers.any (·.name == main) = true) :
    ((p.receive c).equip main c).uncoverAll templates =
      { p.receive c with
        containers := updateFirst (·.name == main) (c.own main).onto p.containers ++ c.containers
        volumes := (((p.receive c).equip main c).uncoverAll templates).volumes } := by
  have hreceived : (p.receive c).containers.any (·.name == main) = true := by
    rw [containers_receive, List.any_append, hmain, Bool.true_or]
  rw [uncoverAll_eq, equip_eq hc hreceived, containers_receive, updateFirst_append hmain]

/-- A pod on which a contribution is placed again grows, and nothing else of it changes but its
volumes. -/
lemma furnished_again (hc : c.RoutesOnlyTo main)
    (hmain : p.containers.any (·.name == main) = true) {q : Pod}
    (hq : ((p.receive c).equip main c).uncoverAll templates = q) :
    ((q.receive c).equip main c).uncoverAll templates =
      { (c.growth main).ofPod main q with
        volumes := (((q.receive c).equip main c).uncoverAll templates).volumes } := by
  have hshape := hq.symm.trans (furnished_eq hc hmain)
  have hcontainers : q.containers =
      updateFirst (·.name == main) (c.own main).onto p.containers ++ c.containers :=
    congrArg Pod.containers hshape
  have hname : ∀ k : Container, (((c.own main).onto k).name == main) = (k.name == main) :=
    fun _ => rfl
  have hdecorated := (any_updateFirst hname p.containers).trans hmain
  have hany : q.containers.any (·.name == main) = true := by
    rw [hcontainers, List.any_append, hdecorated, Bool.true_or]
  have hgrown : updateFirst (·.name == main) (c.own main).onto q.containers =
      updateFirst (·.name == main) (c.growth main).ofContainer q.containers := by
    rw [hcontainers, updateFirst_append hdecorated, updateFirst_append hdecorated,
      updateFirst_updateFirst hname, updateFirst_updateFirst hname]
    have hsame : ∀ k, (c.own main).onto ((c.own main).onto k) =
        (c.growth main).ofContainer ((c.own main).onto k) := Decoration.onto_onto rfl rfl
    simp only [hsame]
  have haccount : (q.receive c).serviceAccountName = q.serviceAccountName := by
    have hbound : q.serviceAccountName = _ := congrArg Pod.serviceAccountName hshape
    rw [receive, bindAccount, extend, hbound]
    exact account_twice _ _
  have htoken : (q.receive c).automountToken = q.automountToken := by
    have hbound : q.automountToken = _ := congrArg Pod.automountToken hshape
    rw [receive, bindAccount, extend, hbound]
    show (p.automountToken.or c.automountToken).or c.automountToken = _
    rw [Option.or_assoc, Option.or_self]
    rfl
  rw [furnished_eq hc hany, hgrown, Growth.ofPod, Pod.mk.injEq]
  exact ⟨rfl, rfl, rfl, haccount, htoken⟩

/-- The volumes stay as they are when a contribution is placed again, unless one of them comes back
that had been taken away: a volume that hides nothing, and whose name only volumes had that were
taken away. -/
lemma volumes_again_iff {q : Pod} (hq : ((p.receive c).equip main c).uncoverAll templates = q) :
    (((q.receive c).equip main c).uncoverAll templates).volumes = q.volumes ↔
      ∀ v ∈ firsts (·.name) [] c.volumes, v.hidesAny templates = false →
        v.name ∈ p.volumeList.map (·.name) →
          ∃ u ∈ p.volumeList, u.name = v.name ∧ u.hidesAny templates = false := by
  by_cases htemplates : templates = []
  · subst htemplates
    have hkept : q.volumes = extendGiven (appendNew (·.name)) p.volumes c.volumes := by
      rw [← hq]
      exact volumes_equip (p.receive c) main c
    have hagain : ((q.receive c).equip main c).volumes =
        extendGiven (appendNew (·.name)) q.volumes c.volumes := volumes_equip (q.receive c) main c
    refine iff_of_true ?_ fun v _ _ hold => ?_
    · show ((q.receive c).equip main c).volumes = q.volumes
      rw [hagain, hkept, extendGiven_appendNew_twice]
    · obtain ⟨u, hu, hname⟩ := List.mem_map.1 hold
      exact ⟨u, hu, hname, rfl⟩
  · have hfirst : q.volumes = given? q.volumeList := by
      rw [← hq]
      exact volumes_uncoverAll htemplates _
    have hlist : q.volumeList =
        (p.volumeList ++ firsts (·.name) (p.volumeList.map (·.name)) c.volumes).filter
          (!·.hidesAny templates) := by
      rw [← hq, volumeList_uncoverAll, volumeList_equip_receive]
    have hsettled : q.volumeList.filter (!·.hidesAny templates) = q.volumeList := by
      rw [hlist, List.filter_filter]
      simp only [Bool.and_self]
    rw [volumes_uncoverAll htemplates, hfirst, given?_inj, volumeList_uncoverAll,
      volumeList_equip_receive, List.filter_append, hsettled, List.append_right_eq_self,
      List.filter_eq_nil_iff, hlist, ← firsts_again]
    simp only [Bool.not_eq_true', Bool.not_eq_false]

end Pod

/-! ## Workloads -/

namespace WorkloadSpec

/-- The specification with its pod changed. -/
def mapPod (f : Pod → Pod) (s : WorkloadSpec) : WorkloadSpec :=
  { s with template := { s.template with pod := s.template.pod.map f } }

lemma mapPod_mapPod (s : WorkloadSpec) (f g : Pod → Pod) :
    (s.mapPod f).mapPod g = s.mapPod fun p => g (f p) := by
  simp only [mapPod, Option.map_map]
  rfl

/-- A claim that is a template already takes volumes away only. -/
lemma bindClaim_known {s : WorkloadSpec} {k : Claim} {name : String}
    (hname : k.metadata.name = some name) (hknown : some name ∈ s.templateNames) :
    s.bindClaim k = s.mapPod (·.uncover k.templateName) := by
  obtain ⟨t, ht, htname⟩ := List.mem_map.1 hknown
  obtain ⟨templates, htemplates, hmem⟩ : ∃ templates, s.claimTemplates = some templates ∧
      t ∈ templates := by
    cases hgiven : s.claimTemplates with
    | none => rw [hgiven] at ht; cases ht
    | some templates => exact ⟨templates, rfl, by rwa [hgiven] at ht⟩
  have hany : templates.any (·.metadata.name == some name) = true :=
    List.any_eq_true.2 ⟨t, hmem, beq_iff_eq.2 htname⟩
  simp only [bindClaim, mapPod, Claim.templateName, htemplates, hname, Option.getD_some, hany,
    if_true]

lemma bindClaims_known {s : WorkloadSpec} {templates : List Claim}
    (hknown : ∀ k ∈ templates, ∃ name, k.metadata.name = some name ∧
      some name ∈ s.templateNames) :
    s.bindClaims templates = s.mapPod (·.uncoverAll templates) := by
  induction templates generalizing s with
  | nil =>
      have hsame : (fun p : Pod => p.uncoverAll []) = id := rfl
      rw [hsame, mapPod, Option.map_id]
      rfl
  | cons k rest ih =>
      rw [List.forall_mem_cons] at hknown
      obtain ⟨⟨name, hname, hfirst⟩, hrest⟩ := hknown
      have hrest' : ∀ k' ∈ rest, ∃ name, k'.metadata.name = some name ∧
          some name ∈ (s.mapPod (·.uncover k.templateName)).templateNames := hrest
      rw [bindClaims, List.foldl_cons, ← bindClaims, bindClaim_known hname hfirst, ih hrest',
        mapPod_mapPod]
      rfl

end WorkloadSpec

namespace Workload

variable {w : Workload}

lemma mapPod_mapPod (w : Workload) (f g : Pod → Pod) :
    (w.mapPod f).mapPod g = w.mapPod fun p => g (f p) := by
  obtain ⟨kind, metadata, spec⟩ := w
  cases spec with
  | none => rfl
  | some s => exact congrArg (fun s => Workload.mk kind metadata (some s)) (s.mapPod_mapPod f g)

/-- Two changes that come to the same pod come to the same workload. -/
lemma mapPod_congr {f g : Pod → Pod} (h : ∀ p, w.pod? = some p → f p = g p) :
    w.mapPod f = w.mapPod g := by
  obtain ⟨kind, metadata, spec⟩ := w
  cases spec with
  | none => rfl
  | some s =>
      have hpods : s.template.pod.map f = s.template.pod.map g :=
        Option.map_congr fun p hp => h p hp
      simp only [mapPod, Option.map_some, hpods]

lemma mapPod_self (w : Workload) : w.mapPod (fun p => p) = w := by
  obtain ⟨kind, metadata, spec⟩ := w
  simp only [mapPod, Option.map_id']

/-- A workload of which all claims are templates already loses volumes only, if it is stateful, and
nothing otherwise. -/
lemma bindClaims_known {templates : List Claim}
    (hknown : ∀ k ∈ templates, ∃ name, k.metadata.name = some name ∧
      (w.isStateful = true → some name ∈ w.templateNames)) :
    w.bindClaims templates = w.mapPod (·.uncoverAll (if w.isStateful then templates else [])) := by
  rw [bindClaims]
  by_cases hstateful : w.isStateful = true
  · rw [if_pos hstateful, if_pos hstateful]
    obtain ⟨kind, metadata, spec⟩ := w
    cases spec with
    | none => rfl
    | some s =>
        have hbound : s.bindClaims templates = s.mapPod (·.uncoverAll templates) := by
          refine WorkloadSpec.bindClaims_known fun k hk => ?_
          obtain ⟨name, hname, hmem⟩ := hknown k hk
          have htemplate := hmem hstateful
          rw [templateNames, if_pos hstateful] at htemplate
          exact ⟨name, hname, htemplate⟩
        exact congrArg (fun s => Workload.mk kind metadata (some s)) hbound
  · rw [if_neg hstateful, if_neg hstateful]
    exact w.mapPod_self.symm

section Furnish

variable {settings : Settings} {main : String} {c : Contribution}

/-- The templates that the workload takes of a contribution. -/
def takenTemplates (w : Workload) (settings : Settings) (c : Contribution) : List Claim :=
  if w.isStateful then claimTemplates settings c.objects else []

/-- Where all templates of a contribution are known, placing it changes the pod only. -/
lemma furnish_known
    (hknown : ∀ k ∈ claimTemplates settings c.objects, ∃ name, k.metadata.name = some name ∧
      (w.isStateful = true → some name ∈ w.templateNames)) :
    w.furnish settings main c = w.mapPod fun p =>
      ((p.receive c).equip main c).uncoverAll (w.takenTemplates settings c) := by
  have hknown' : ∀ k ∈ claimTemplates settings c.objects, ∃ name, k.metadata.name = some name ∧
      (((w.mapPod (·.receive c)).mapPod (·.equip main c)).isStateful = true →
        some name ∈ ((w.mapPod (·.receive c)).mapPod (·.equip main c)).templateNames) := by
    simp only [templateNames_mapPod]
    exact hknown
  rw [furnish, bindClaims_known hknown', mapPod_mapPod, mapPod_mapPod]
  rfl

/-- All templates of a contribution are known once it has been placed. -/
lemma known_furnish {pod : Pod} (hpod : w.pod? = some pod)
    (hnamed : ∀ k ∈ claimTemplates settings c.objects, ∃ name, k.metadata.name = some name) :
    ∀ k ∈ claimTemplates settings c.objects, ∃ name, k.metadata.name = some name ∧
      ((w.furnish settings main c).isStateful = true →
        some name ∈ (w.furnish settings main c).templateNames) := by
  intro k hk
  obtain ⟨name, hname⟩ := hnamed k hk
  refine ⟨name, hname, fun hstateful => ?_⟩
  rw [isStateful_furnish] at hstateful
  exact name_mem_templateNames_bindClaims (w := (w.mapPod (·.receive c)).mapPod (·.equip main c))
    hstateful (pod?_equip_receive hpod main c) hk hname

/-- **Placing twice.**  A workload on which a contribution is placed again grows, and nothing else
of it changes but its volumes.  These stay as they are exactly if no volume comes back that had been
taken away. -/
theorem furnish_furnish {pod : Pod} (hpod : w.pod? = some pod) (hc : c.RoutesOnlyTo main)
    (hmain : pod.containers.any (·.name == main) = true)
    (hnamed : ∀ k ∈ claimTemplates settings c.objects, ∃ name, k.metadata.name = some name) :
    ∃ volumes, (w.furnish settings main c).furnish settings main c =
        ((w.furnish settings main c).mapPod
          fun p => { (c.growth main).ofPod main p with volumes }) ∧
      (volumes = (w.furnish settings main c).pod?.bind (·.volumes) ↔
        ∀ v ∈ firsts (·.name) [] c.volumes, v.hidesAny (w.takenTemplates settings c) = false →
          v.name ∈ w.volumes.map (·.name) → ∃ u ∈ w.volumes, u.name = v.name ∧
            u.hidesAny (w.takenTemplates settings c) = false) := by
  obtain ⟨q, hq⟩ : ∃ q,
      ((pod.receive c).equip main c).uncoverAll (w.takenTemplates settings c) = q := ⟨_, rfl⟩
  have honce : (w.furnish settings main c).pod? = some q := by
    rw [pod?_furnish, hpod, Option.map_some, ← hq, takenTemplates]
    split <;> rfl
  have htaken : (w.furnish settings main c).takenTemplates settings c =
      w.takenTemplates settings c := by
    rw [takenTemplates, takenTemplates, isStateful_furnish]
  have hvolumes : w.volumes = pod.volumeList := by
    rw [volumes, hpod]
    rfl
  have hgrown := Pod.furnished_again hc hmain hq
  refine ⟨(((q.receive c).equip main c).uncoverAll (w.takenTemplates settings c)).volumes, ?_, ?_⟩
  · rw [furnish_known (known_furnish hpod hnamed), htaken]
    refine mapPod_congr fun p hp => ?_
    obtain rfl := Option.some.inj (honce.symm.trans hp)
    exact hgrown
  · rw [honce, Option.bind_some, hvolumes]
    exact Pod.volumes_again_iff hq

end Furnish

end Workload

end WorkloadTraits
