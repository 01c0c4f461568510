import WorkloadTraits.Engine
import WorkloadTraits.Proofs.Dispatch.Outcome
import WorkloadTraits.Proofs.Placement.Pod

/-!
# What an application does to a workload

`Engine.apply_outcome` says once what an application can do: leave the workload as it is, or place
what the traits of the component contribute.  A contribution is placed in three steps, on the pod,
on its containers, and on the templates of claims.  The last step is the only one that takes
something away, and the equations for it say exactly what.
-/

namespace WorkloadTraits

/-- The name under which a claim becomes a template; empty when it has none. -/
def Claim.templateName (c : Claim) : String := c.metadata.name.getD ""

/-- Whether some template among those of a list would be hidden by the volume. -/
def Volume.hidesAny (v : Volume) (templates : List Claim) : Bool :=
  templates.any (v.hides ·.templateName)

namespace Pod

@[simp] lemma volumeList_uncover (p : Pod) (template : String) :
    (p.uncover template).volumeList = p.volumeList.filter (!·.hides template) := by
  simp only [uncover, volumeList]
  cases p.volumes with
  | none => rfl
  | some vs =>
      rw [Option.map_some, Option.filter_some, Option.getD_some]
      cases vs.filter (!·.hides template) <;> rfl

/-- The pod without the volumes that would hide claims of any of some templates. -/
def uncoverAll (p : Pod) (templates : List Claim) : Pod :=
  templates.foldl (fun p c => p.uncover c.templateName) p

@[simp] lemma volumeList_uncoverAll (p : Pod) (templates : List Claim) :
    (p.uncoverAll templates).volumeList = p.volumeList.filter (!·.hidesAny templates) := by
  induction templates generalizing p with
  | nil => exact (List.filter_eq_self.2 fun _ _ => rfl).symm
  | cons c rest ih =>
      rw [uncoverAll, List.foldl_cons, ← uncoverAll, ih, volumeList_uncover, List.filter_filter]
      refine List.filter_congr fun v _ => ?_
      rw [Volume.hidesAny, Volume.hidesAny, List.any_cons, Bool.not_or, Bool.and_comm]

/-- Only volumes are taken away. -/
lemma uncoverAll_eq (p : Pod) (templates : List Claim) :
    p.uncoverAll templates = { p with volumes := (p.uncoverAll templates).volumes } := by
  induction templates generalizing p with
  | nil => rfl
  | cons k rest ih => exact ih (p.uncover k.templateName)

lemma containers_uncoverAll (p : Pod) (templates : List Claim) :
    (p.uncoverAll templates).containers = p.containers ∧
      (p.uncoverAll templates).initContainers = p.initContainers := by
  rw [uncoverAll_eq]
  exact ⟨rfl, rfl⟩

lemma allContainers_uncoverAll (p : Pod) (templates : List Claim) :
    (p.uncoverAll templates).allContainers = p.allContainers := by
  obtain ⟨hcontainers, hinits⟩ := p.containers_uncoverAll templates
  rw [allContainers, allContainers, inits, inits, hcontainers, hinits]

end Pod

/-! ## Templates of claims -/

namespace WorkloadSpec

/-- The names of the templates of claims. -/
def templateNames (s : WorkloadSpec) : List (Option String) :=
  (s.claimTemplates.getD []).map (·.metadata.name)

lemma pod_bindClaim (s : WorkloadSpec) (c : Claim) :
    (s.bindClaim c).template.pod = s.template.pod.map (·.uncover c.templateName) := rfl

lemma mem_templateNames_bindClaim {s : WorkloadSpec} {n : Option String} (c : Claim)
    (h : n ∈ s.templateNames) : n ∈ (s.bindClaim c).templateNames := by
  simp only [templateNames, bindClaim, Option.getD_some] at h ⊢
  split
  · exact h
  · rw [List.map_append]
    exact List.mem_append_left _ h

lemma name_mem_templateNames_bindClaim {s : WorkloadSpec} {c : Claim} {name : String}
    (hname : c.metadata.name = some name) : some name ∈ (s.bindClaim c).templateNames := by
  simp only [templateNames, bindClaim, Option.getD_some, hname]
  split
  · rename_i hknown
    obtain ⟨t, ht, heq⟩ := List.any_eq_true.1 hknown
    exact List.mem_map.2 ⟨t, ht, beq_iff_eq.1 heq⟩
  · rw [List.map_append]
    exact List.mem_append_right _ (List.mem_singleton.2 rfl)

/-- The specification with some more templates. -/
def bindClaims (s : WorkloadSpec) (templates : List Claim) : WorkloadSpec :=
  templates.foldl bindClaim s

lemma pod_bindClaims (s : WorkloadSpec) (templates : List Claim) :
    (s.bindClaims templates).template.pod = s.template.pod.map (·.uncoverAll templates) := by
  induction templates generalizing s with
  | nil => exact Option.map_id'.symm
  | cons c rest ih =>
      rw [bindClaims, List.foldl_cons, ← bindClaims, ih, pod_bindClaim, Option.map_map]
      rfl

/-- A template is not lost. -/
lemma mem_templateNames_bindClaims {s : WorkloadSpec} {n : Option String} {templates : List Claim}
    (h : n ∈ s.templateNames) : n ∈ (s.bindClaims templates).templateNames := by
  induction templates generalizing s with
  | nil => exact h
  | cons c rest ih => exact ih (mem_templateNames_bindClaim c h)

/-- A claim that is bound is a template afterwards. -/
lemma name_mem_templateNames_bindClaims {s : WorkloadSpec} {templates : List Claim} {c : Claim}
    (hc : c ∈ templates) {name : String} (hname : c.metadata.name = some name) :
    some name ∈ (s.bindClaims templates).templateNames := by
  induction templates generalizing s with
  | nil => cases hc
  | cons c' rest ih =>
      rw [bindClaims, List.foldl_cons, ← bindClaims]
      rcases List.mem_cons.1 hc with rfl | hc
      · exact mem_templateNames_bindClaims (name_mem_templateNames_bindClaim hname)
      · exact ih hc

end WorkloadSpec

namespace Workload

/-- The names of the templates of claims that belong to the workload. -/
def templateNames (w : Workload) : List (Option String) :=
  if w.isStateful then w.claimTemplateList.map (·.metadata.name) else []

@[simp] lemma pod?_mapPod (w : Workload) (f : Pod → Pod) : (w.mapPod f).pod? = w.pod?.map f := by
  obtain ⟨kind, metadata, spec⟩ := w
  cases spec <;> rfl

@[simp] lemma templateNames_mapPod (w : Workload) (f : Pod → Pod) :
    (w.mapPod f).templateNames = w.templateNames := by
  obtain ⟨kind, metadata, spec⟩ := w
  cases spec <;> rfl

@[simp] lemma isStateful_bindClaims (w : Workload) (templates : List Claim) :
    (w.bindClaims templates).isStateful = w.isStateful := by
  rw [bindClaims]
  split <;> rfl

/-- A stateful workload loses the volumes that would hide claims, any other nothing. -/
lemma pod?_bindClaims (w : Workload) (templates : List Claim) :
    (w.bindClaims templates).pod? =
      if w.isStateful then w.pod?.map (·.uncoverAll templates) else w.pod? := by
  rw [bindClaims]
  split
  · obtain ⟨kind, metadata, spec⟩ := w
    cases spec with
    | none => rfl
    | some s => exact s.pod_bindClaims templates
  · rfl

lemma mem_templateNames_bindClaims {w : Workload} {n : Option String} {templates : List Claim}
    (h : n ∈ w.templateNames) : n ∈ (w.bindClaims templates).templateNames := by
  rw [templateNames, isStateful_bindClaims] at *
  by_cases hstateful : w.isStateful = true
  · rw [if_pos hstateful] at h ⊢
    rw [bindClaims, if_pos hstateful]
    obtain ⟨kind, metadata, spec⟩ := w
    cases spec with
    | none => cases h
    | some s => exact WorkloadSpec.mem_templateNames_bindClaims h
  · rw [if_neg hstateful] at h
    cases h

lemma name_mem_templateNames_bindClaims {w : Workload} (hstateful : w.isStateful = true)
    {pod : Pod} (hpod : w.pod? = some pod) {templates : List Claim} {c : Claim}
    (hc : c ∈ templates) {name : String} (hname : c.metadata.name = some name) :
    some name ∈ (w.bindClaims templates).templateNames := by
  rw [templateNames, isStateful_bindClaims, if_pos hstateful, bindClaims, if_pos hstateful]
  obtain ⟨kind, metadata, spec⟩ := w
  cases spec with
  | none => cases hpod
  | some s => exact WorkloadSpec.name_mem_templateNames_bindClaims hc hname

/-! ## Placing -/

/-- The workload with a contribution placed on it, where `main` is the name of the main
container. -/
def furnish (w : Workload) (settings : Settings) (main : String) (c : Contribution) : Workload :=
  ((w.mapPod (·.receive c)).mapPod (·.equip main c)).bindClaims (claimTemplates settings c.objects)

lemma pod?_furnish (w : Workload) (settings : Settings) (main : String) (c : Contribution) :
    (w.furnish settings main c).pod? = w.pod?.map fun p =>
      if w.isStateful then
        ((p.receive c).equip main c).uncoverAll (claimTemplates settings c.objects)
      else (p.receive c).equip main c := by
  rw [furnish, pod?_bindClaims, pod?_mapPod, pod?_mapPod]
  cases w.pod? with
  | none => exact ite_self _
  | some p => exact (apply_ite some _ _ _).symm

/-- The pod of a workload that is furnished, before any volumes are taken away. -/
lemma pod?_equip_receive {w : Workload} {pod : Pod} (hpod : w.pod? = some pod) (main : String)
    (c : Contribution) :
    ((w.mapPod (·.receive c)).mapPod (·.equip main c)).pod? =
      some ((pod.receive c).equip main c) := by
  rw [pod?_mapPod, pod?_mapPod, hpod]
  rfl

lemma isStateful_furnish (w : Workload) (settings : Settings) (main : String) (c : Contribution) :
    (w.furnish settings main c).isStateful = w.isStateful := by
  rw [furnish, isStateful_bindClaims]
  rfl

/-- What placing comes to on a workload with a main container.  It was there before, so it is there
when it is looked for again. -/
lemma place_eq {w : Workload} {pod : Pod} (hpod : w.pod? = some pod) {main : String}
    (hmain : pod.containers.any (·.name == main) = true) (settings : Settings)
    (c : Contribution) :
    w.place settings main c =
      { workload := w.furnish settings main c
        outcome := .ok (freeObjects settings c.objects)
        warnings := pod.receiveWarnings main c ++ (pod.receive c).equipWarnings c ++
          w.claimWarnings main (claimTemplates settings c.objects) } := by
  obtain ⟨k, hk⟩ : ∃ k, w.container? main = some k := by
    rw [container?, hpod, Option.bind_some]
    exact Option.isSome_iff_exists.1 (List.find?_isSome.2 (List.any_eq_true.1 hmain))
  have hkept := Pod.hasContainer_receive c hmain
  simp only [place, hk, hpod, hkept, if_true]
  rfl

/-- Placing leaves the workload as it is, and fails, unless it has a pod with a main container. -/
lemma place_cases {w : Workload} {settings : Settings} {main : String} {c : Contribution} :
    (∃ pod, w.pod? = some pod ∧ pod.containers.any (·.name == main) = true ∧
      (w.place settings main c).workload = w.furnish settings main c ∧
      (w.place settings main c).outcome = .ok (freeObjects settings c.objects)) ∨
    ((w.place settings main c).workload = w ∧
      (w.place settings main c).outcome = .error (.mainContainerNotFound main)) := by
  cases hpod : w.pod? with
  | none =>
      have hnone : w.container? main = none := by
        rw [container?, hpod, Option.bind_none]
      rw [place, hnone]
      exact .inr ⟨rfl, rfl⟩
  | some pod =>
      by_cases hmain : pod.containers.any (·.name == main) = true
      · refine .inl ⟨pod, rfl, hmain, ?_⟩
        rw [place_eq hpod hmain]
        exact ⟨rfl, rfl⟩
      · have hnone : w.container? main = none := by
          rw [container?, hpod, Option.bind_some, List.find?_eq_none]
          exact fun k hk hname => hmain (List.any_eq_true.2 ⟨k, hk, hname⟩)
        rw [place, hnone]
        exact .inr ⟨rfl, rfl⟩

end Workload

namespace Engine

/-- An application places what the traits contribute and succeeds, or leaves the workload as it
is: without objects when there are no traits, or with a failure. -/
theorem apply_outcome (e : Engine) (c : Component) (w : Workload) :
    (∃ t contribution pod,
      traits c = .ok (some t) ∧ (e.contribute c w t).outcome = .ok contribution ∧
        w.pod? = some pod ∧ pod.containers.any (·.name == c.name) = true ∧
          (e.apply c w).workload = w.furnish e.settings c.name contribution ∧
            (e.apply c w).outcome = .ok (freeObjects e.settings contribution.objects)) ∨
    ((e.apply c w).workload = w ∧
      ((traits c = .ok none ∧ (e.apply c w).outcome = .ok []) ∨
        ∃ failure, (e.apply c w).outcome = .error failure)) := by
  rw [apply]
  cases htraits : traits c with
  | error failure => exact .inr ⟨rfl, .inr ⟨failure, rfl⟩⟩
  | ok t? =>
      cases t? with
      | none => exact .inr ⟨rfl, .inl ⟨rfl, rfl⟩⟩
      | some t =>
          dsimp only
          cases houtcome : (e.contribute c w t).outcome with
          | error failure => exact .inr ⟨rfl, .inr ⟨failure, rfl⟩⟩
          | ok contribution =>
              rcases w.place_cases with
                ⟨pod, hpod, hmain, hworkload, hplaced⟩ | ⟨hworkload, hfailed⟩
              · exact .inl ⟨t, contribution, pod, rfl, houtcome, hpod, hmain, hworkload, hplaced⟩
              · exact .inr ⟨hworkload, .inr ⟨_, hfailed⟩⟩

/-- An application leaves the workload as it is or places what the traits contribute. -/
theorem apply_cases (e : Engine) (c : Component) (w : Workload) :
    ((e.apply c w).workload = w ∧
      ∀ objects, (e.apply c w).outcome = .ok objects → traits c = .ok none) ∨
    ∃ t contribution pod,
      traits c = .ok (some t) ∧ (e.contribute c w t).outcome = .ok contribution ∧
        w.pod? = some pod ∧ pod.containers.any (·.name == c.name) = true ∧
          (e.apply c w).workload = w.furnish e.settings c.name contribution := by
  rcases e.apply_outcome c w with
    ⟨t, contribution, pod, htraits, hcontribution, hpod, hmain, hworkload, -⟩ |
      ⟨hkept, ⟨hnone, -⟩ | ⟨failure, hfailed⟩⟩
  · exact .inr ⟨t, contribution, pod, htraits, hcontribution, hpod, hmain, hworkload⟩
  · exact .inl ⟨hkept, fun _ _ => hnone⟩
  · exact .inl ⟨hkept, fun objects hok => nomatch hfailed.symm.trans hok⟩

/-- The objects that stand beside the workload after an application that succeeds. -/
theorem apply_eq_ok {e : Engine} {c : Component} {w : Workload} {objects : List Companion}
    (hok : (e.apply c w).outcome = .ok objects) :
    (traits c = .ok none ∧ (e.apply c w).workload = w ∧ objects = []) ∨
    ∃ t contribution,
      traits c = .ok (some t) ∧ (e.contribute c w t).outcome = .ok contribution ∧
        (e.apply c w).workload = w.furnish e.settings c.name contribution ∧
          objects = freeObjects e.settings contribution.objects := by
  rcases e.apply_outcome c w with
    ⟨t, contribution, -, htraits, hcontribution, -, -, hworkload, hplaced⟩ |
      ⟨hkept, ⟨hnone, hnothing⟩ | ⟨failure, hfailed⟩⟩
  · have hobjects := Except.ok.inj (hok.symm.trans hplaced)
    exact .inr ⟨t, contribution, htraits, hcontribution, hworkload, hobjects⟩
  · exact .inl ⟨hnone, hkept, Except.ok.inj (hok.symm.trans hnothing)⟩
  · cases hfailed.symm.trans hok

/-- An application that succeeds has processed the traits. -/
lemma contribute_of_apply {e : Engine} {c : Component} {w : Workload} {t : Traits}
    {objects : List Companion} (htraits : traits c = .ok (some t))
    (hok : (e.apply c w).outcome = .ok objects) :
    ∃ contribution, (e.contribute c w t).outcome = .ok contribution := by
  rcases apply_eq_ok hok with ⟨hnone, -⟩ | ⟨t', contribution, htraits', hcontribution, -⟩
  · cases htraits.symm.trans hnone
  · obtain rfl := Option.some.inj (Except.ok.inj (htraits.symm.trans htraits'))
    exact ⟨contribution, hcontribution⟩

end Engine

end WorkloadTraits
