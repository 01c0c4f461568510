import WorkloadTraits.Proofs.Claims.Creations
import WorkloadTraits.Proofs.Placement.Atomicity
import WorkloadTraits.Proofs.Placement.Warnings
import WorkloadTraits.Proofs.Volumes

/-!
# What becomes of created claims

A claim that a component creates never stands beside the workload.  A stateful workload takes it as
a template, in no namespace, unless it has a template of that name already, and the pod has no
volume left that would stand in for the claim.  Any other workload has no place for it, and there is
one warning for each name.  All other objects stand beside the workload as they were collected, and
these do not depend on the workload at all (`places_claims`).

Everything rests on two facts: the claims among the collected objects are the first created ones of
each name (`claims_firsts_flatten`), and binding templates one by one is appending the new ones
(`WorkloadSpec.claimTemplates_bindClaims`).
-/

namespace WorkloadTraits

/-- The claim as a template, which is in no namespace. -/
def Claim.asTemplate (k : Claim) : Claim :=
  { k with metadata := { k.metadata with ns := none } }

/-! ## Binding -/

namespace WorkloadSpec

/-- A claim with a name becomes a template unless there is one of its name. -/
lemma claimTemplates_bindClaim (s : WorkloadSpec) {k : Claim} {name : String}
    (hname : k.metadata.name = some name) :
    (s.bindClaim k).claimTemplates.getD [] =
      appendNew (·.metadata.name) (s.claimTemplates.getD []) [k.asTemplate] := by
  have hkey : k.asTemplate.metadata.name = some name := hname
  have hknown : (s.claimTemplates.getD []).any (·.metadata.name == some name) = true ↔
      some name ∈ (s.claimTemplates.getD []).map (·.metadata.name) := by
    simp only [List.any_eq_true, beq_iff_eq, List.mem_map]
  rw [appendNew_cons, appendNew_nil, hkey, appendNew_nil]
  simp only [bindClaim, Claim.asTemplate, hname, Option.getD_some, hknown]

/-- Binding claims one by one is appending the new ones. -/
theorem claimTemplates_bindClaims (s : WorkloadSpec) {templates : List Claim}
    (hnamed : ∀ k ∈ templates, ∃ name, k.metadata.name = some name) :
    (s.bindClaims templates).claimTemplates.getD [] =
      appendNew (·.metadata.name) (s.claimTemplates.getD []) (templates.map .asTemplate) := by
  induction templates generalizing s with
  | nil => rfl
  | cons k rest ih =>
      rw [List.forall_mem_cons] at hnamed
      obtain ⟨⟨name, hname⟩, hrest⟩ := hnamed
      rw [bindClaims, List.foldl_cons, ← bindClaims, ih _ hrest, claimTemplates_bindClaim s hname,
        appendNew_append]
      rfl

end WorkloadSpec

namespace Workload

variable {w : Workload} {settings : Settings} {main : String} {c : Contribution}

/-- The templates of a furnished workload are its own and then the new ones. -/
lemma claimTemplateList_furnish {pod : Pod} (hpod : w.pod? = some pod)
    (hstateful : w.isStateful = true)
    (hnamed : ∀ k ∈ claimTemplates settings c.objects, ∃ name, k.metadata.name = some name) :
    (w.furnish settings main c).claimTemplateList =
      w.claimTemplateList ++ firsts (·.metadata.name) (w.claimTemplateList.map (·.metadata.name))
        ((claimTemplates settings c.objects).map .asTemplate) := by
  rw [← appendNew_eq]
  obtain ⟨kind, metadata, spec⟩ := w
  cases spec with
  | none => cases hpod
  | some s =>
      have hkind : kind = .statefulSet := beq_iff_eq.1 hstateful
      subst hkind
      exact WorkloadSpec.claimTemplates_bindClaims _ hnamed

end Workload

/-! ## The workload has no say in what is collected -/

namespace Dispatcher

/-- The built-in processors do not look at the workload. -/
lemma outcomeWithin_workload {d : Dispatcher} (hbuiltin : d.registry.IsBuiltin) (w : Workload)
    (room : Nat) (l : Level) :
    { d with workload := w }.outcomeWithin room l = d.outcomeWithin room l := by
  have hlevel : ∀ answer l, { d with workload := w }.levelOutcome answer l =
      d.levelOutcome answer l := by
    intro answer l
    have hbuiltin' : { d with workload := w }.registry.IsBuiltin := hbuiltin
    rw [levelOutcome_builtin hbuiltin, levelOutcome_builtin hbuiltin']
    rfl
  induction room generalizing l with
  | zero =>
      rw [outcomeWithin, outcomeWithin]
      exact hlevel _ l
  | succ room ih =>
      rw [outcomeWithin, outcomeWithin, hlevel]
      simp only [ih]

end Dispatcher

namespace Engine

variable {e : Engine} {c : Component}

/-- What the traits of a component come to does not depend on the workload. -/
lemma contribute_workload (hbuiltin : e.registry.IsBuiltin) (w w' : Workload) (t : Traits) :
    (e.contribute c w' t).outcome = (e.contribute c w t).outcome := by
  rw [contribute, contribute, Dispatcher.dispatch, Dispatcher.dispatch,
    Dispatcher.dispatchWithin_outcome, Dispatcher.dispatchWithin_outcome]
  exact Dispatcher.outcomeWithin_workload
    (d := ⟨e.registry, e.settings, c, w⟩) hbuiltin w' _ _

/-- The objects that the traits of a component come to; none if they come to nothing. -/
def collectedObjects (e : Engine) (c : Component) (w : Workload) : List Companion :=
  match traits c with
  | .ok (some t) =>
    match (e.contribute c w t).outcome with
    | .ok contribution => contribution.objects
    | .error _ => []
  | _ => []

/-- The creations of a component. -/
def creations (e : Engine) (c : Component) (t? : Option Traits) : List Creation :=
  WorkloadTraits.creations e.registry.kinds (e.site c) (t?.getD {})

/-- What becomes of the claims that a component creates. -/
structure PlacesClaims (e : Engine) (c : Component) (w : Workload) (objects : List Companion)
    (xs : List Creation) (claims : List Claim) : Prop where
  /-- Each creation makes a claim. -/
  made : List.Forall₂ (fun x k => x.claim = .ok k) xs claims
  /-- No claim stands beside the workload. -/
  none_beside : ∀ k, .claim k ∉ objects
  /-- All other objects stand beside it as they were collected. -/
  others_beside : objects = (e.collectedObjects c w).filter (·.claim?.isNone)
  /-- The templates of a stateful workload are the old ones and the first new one of each name. -/
  templates : w.isStateful = true → (e.apply c w).workload.claimTemplateList =
    w.claimTemplateList ++ firsts (·.metadata.name) (w.claimTemplateList.map (·.metadata.name))
      (claims.map .asTemplate)
  /-- No volume stands in for a created claim. -/
  uncovered : w.isStateful = true → ∀ v ∈ (e.apply c w).workload.volumes,
    v.claimName.isSome = true → v.name ∉ xs.map (·.name)
  /-- Any other workload drops the claims, with one warning for each name. -/
  dropped : w.isStateful = false → (e.apply c w).warnings.filter (·.isOfDroppedClaim) =
    (firsts id [] (xs.map (·.name))).map (.claimDropped c.name w.kind.name)
  /-- The objects are the same beside every workload with the component's container. -/
  same_beside : ∀ w', (e.apply c w').outcome = .ok objects ∨
    (e.apply c w').outcome = .error (.mainContainerNotFound c.name) ∧
      ¬ w'.HasApplicationContainer c.name

/-- What holds of the creations of a payload and of the objects it comes to. -/
lemma claimTemplates_contribute (hbuiltin : e.registry.IsBuiltin) {w : Workload} {t : Traits}
    {contribution : Contribution}
    (hcontribution : (e.contribute c w t).outcome = .ok contribution) :
    ∃ claims, List.Forall₂ (fun x k => x.claim = .ok k) (e.creations c (some t)) claims ∧
      (∀ o ∈ contribution.objects, o.template? e.settings = o.claim?) ∧
      claimTemplates e.settings contribution.objects = firsts (·.metadata.name) [] claims := by
  have hcontributes := Dispatcher.contributes_of_dispatch hcontribution
  have hclaims := hcontributes.follows (Creation.follows_demand e.registry.kinds) rfl hbuiltin rfl
  have htemplate : ∀ o ∈ contribution.objects, o.template? e.settings = o.claim? := by
    intro o ho
    rw [hcontributes.objects_eq hbuiltin rfl] at ho
    exact template?_of_mem_flatten ((firsts_sublist _ _ _).subset ho)
  refine ⟨_, mapM_eq_ok.1 (mapM_eq_ok_filterMap.2 ⟨hclaims, rfl⟩), htemplate, ?_⟩
  rw [claimTemplates, List.filterMap_congr htemplate, hcontributes.objects_eq hbuiltin rfl]
  exact claims_firsts_flatten _ _ _

/-- A claim has the name of its creation. -/
lemma map_name_of_made {xs : List Creation} {claims : List Claim}
    (hmade : List.Forall₂ (fun x k => x.claim = .ok k) xs claims) :
    claims.map (·.metadata.name) = xs.map fun x => some x.name := by
  induction hmade with
  | nil => rfl
  | cons hclaim _ ih =>
      rw [List.map_cons, List.map_cons, ih, Creation.metadata_of_claim_eq_ok hclaim]
      rfl

lemma exists_name_of_made {xs : List Creation} {claims : List Claim}
    (hmade : List.Forall₂ (fun x k => x.claim = .ok k) xs claims) :
    ∀ k ∈ claims, ∃ name, k.metadata.name = some name := by
  intro k hk
  obtain ⟨x, -, hclaim⟩ := exists_of_mem_forall₂ hmade hk
  exact ⟨x.name, by rw [Creation.metadata_of_claim_eq_ok hclaim, Creation.metadata]⟩

/-- The warnings for the first claims of each name, one for each name. -/
lemma claimWarnings_firsts {w : Workload} {main : String} {xs : List Creation}
    {claims : List Claim} (hmade : List.Forall₂ (fun x k => x.claim = .ok k) xs claims)
    (hstateful : w.isStateful = false) :
    w.claimWarnings main (firsts (·.metadata.name) [] claims) =
      (firsts id [] (xs.map (·.name))).map (.claimDropped main w.kind.name) := by
  have hnames : claims.filterMap (·.metadata.name) = xs.map (·.name) := by
    have hsome : (claims.map (·.metadata.name)).filterMap id = xs.map (·.name) := by
      rw [map_name_of_made hmade, List.filterMap_map]
      exact congrFun List.filterMap_eq_map xs
    rwa [List.filterMap_map] at hsome
  have hkeys : (firsts (·.metadata.name) [] claims).filterMap (·.metadata.name) =
      firsts id [] (xs.map (·.name)) := by
    rw [← hnames]
    refine filterMap_firsts (fun k _ name hname k' _ => ?_) fun _ _ _ _ => by simp
    simp [hname]
  have hnamed : (firsts (·.metadata.name) [] claims).filterMap (·.metadata.name) =
      (firsts (·.metadata.name) [] claims).map Claim.templateName := by
    rw [← List.filterMap_eq_map]
    refine List.filterMap_congr fun k hk => ?_
    obtain ⟨name, hname⟩ := exists_name_of_made hmade k ((firsts_sublist _ _ _).subset hk)
    rw [Function.comp_apply, Claim.templateName, hname]
    rfl
  rw [Workload.claimWarnings, hstateful, if_neg Bool.false_ne_true, ← hkeys, hnamed, List.map_map]
  rfl

section Placed

variable {w : Workload} {t : Traits} {contribution : Contribution} {pod : Pod}
variable {xs : List Creation} {claims : List Claim}

/-- A volume hides created claims if it has the name of one and refers to a claim itself. -/
lemma hidesAny_firsts (hmade : List.Forall₂ (fun x k => x.claim = .ok k) xs claims) (v : Volume) :
    v.hidesAny (firsts (·.metadata.name) [] claims) = true ↔
      v.claimName.isSome = true ∧ v.name ∈ xs.map (·.name) := by
  have hnames : some v.name ∈ (firsts (·.metadata.name) [] claims).map (·.metadata.name) ↔
      v.name ∈ xs.map (·.name) := by
    rw [mem_map_firsts, map_name_of_made hmade]
    simp
  rw [← hnames, Volume.hidesAny, List.any_eq_true]
  constructor
  · rintro ⟨k, hk, hhides⟩
    obtain ⟨name, hname⟩ := exists_name_of_made hmade k ((firsts_sublist _ _ _).subset hk)
    simp only [Volume.hides, Claim.templateName, hname, Option.getD_some, Bool.and_eq_true,
      beq_iff_eq] at hhides
    exact ⟨hhides.2, List.mem_map.2 ⟨k, hk, hname.trans (congrArg some hhides.1.symm)⟩⟩
  · rintro ⟨hclaim, hname⟩
    obtain ⟨k, hk, hkname⟩ := List.mem_map.1 hname
    refine ⟨k, hk, ?_⟩
    simp [Volume.hides, Claim.templateName, hkname, hclaim]

/-- A volume that refers to a claim is left only if its name is not that of a created claim. -/
lemma uncovered_furnish (hpod : w.pod? = some pod) (hstateful : w.isStateful = true)
    (hmade : List.Forall₂ (fun x k => x.claim = .ok k) xs claims)
    (htemplates : claimTemplates e.settings contribution.objects =
      firsts (·.metadata.name) [] claims) :
    ∀ v ∈ (w.furnish e.settings c.name contribution).volumes,
      v.claimName.isSome = true → v.name ∉ xs.map (·.name) := by
  intro v hv hclaim hcreated
  rw [Workload.volumes_furnish hpod, hstateful, htemplates, List.mem_filter,
    (hidesAny_firsts hmade v).2 ⟨hclaim, hcreated⟩] at hv
  exact absurd hv.2 Bool.false_ne_true

/-- The warnings about dropped claims are those of the placement. -/
lemma droppedClaims_apply (hbuiltin : e.registry.IsBuiltin) {objects : List Companion}
    (hok : (e.apply c w).outcome = .ok objects) (htraits : traits c = .ok (some t))
    (hcontribution : (e.contribute c w t).outcome = .ok contribution) :
    (e.apply c w).warnings.filter (·.isOfDroppedClaim) =
      w.claimWarnings c.name (claimTemplates e.settings contribution.objects) := by
  have hnone : (e.contribute c w t).warnings.filter (·.isOfDroppedClaim) = [] := by
    refine List.filter_eq_nil_iff.2 fun warning hwarning hdropped => ?_
    have hsort := Dispatcher.warnings_dispatch hbuiltin _ warning hwarning
    cases warning <;> simp [Warning.isOfDroppedClaim, Warning.isOfProcessor,
      Warning.isOfBarredKind] at hdropped hsort
  have hplaced : (w.place e.settings c.name contribution).outcome = .ok objects := by
    simpa only [apply, htraits, hcontribution] using hok
  rw [warnings_apply w htraits, hcontribution, List.filter_append, hnone, List.nil_append]
  exact Workload.droppedClaims_place hplaced

/-- Whatever workload traits are applied to, they come to the same objects, unless the container of
the component is missing. -/
lemma apply_workload (hbuiltin : e.registry.IsBuiltin) {objects : List Companion}
    (hok : (e.apply c w).outcome = .ok objects) (w' : Workload) :
    (e.apply c w').outcome = .ok objects ∨
      (e.apply c w').outcome = .error (.mainContainerNotFound c.name) ∧
        ¬ w'.HasApplicationContainer c.name := by
  rcases apply_eq_ok hok with ⟨htraits, -, rfl⟩ | ⟨t, contribution, htraits, hcontribution, -, rfl⟩
  · simp only [apply, htraits, true_or]
  · have hcontribution' := (contribute_workload hbuiltin w w' t).trans hcontribution
    simp only [apply, htraits, hcontribution']
    rcases @Workload.place_cases w' e.settings c.name contribution with
      ⟨-, -, -, -, hplaced⟩ | ⟨-, hfailed⟩
    · exact .inl hplaced
    · exact .inr ⟨hfailed, (Workload.place_eq_error_iff.1 hfailed).2⟩

/-- Without traits there are no claims. -/
lemma placesClaims_of_none (hbuiltin : e.registry.IsBuiltin) (htraits : traits c = .ok none) :
    e.PlacesClaims c w [] (e.creations c none) [] := by
  have hcreations : e.creations c none = [] :=
    Demand.flatten_of_nothing (fun _ k => by cases k <;> rfl) (e.site c)
  have happly : e.apply c w = ⟨w, .ok [], []⟩ := by
    simp only [apply, htraits]
  have hnothing : (e.apply c w).outcome = .ok [] := by rw [happly]
  rw [hcreations]
  refine ⟨.nil, fun k => List.not_mem_nil, ?_, ?_, ?_, ?_, apply_workload hbuiltin hnothing⟩
  · simp only [collectedObjects, htraits]
    rfl
  · intro _
    rw [happly]
    exact (List.append_nil _).symm
  · exact fun _ _ _ _ => List.not_mem_nil
  · intro _
    rw [happly]
    rfl

end Placed

/-- **Where created claims go.**  This holds for every component and every workload for which an
application of built-in processors succeeds, whatever the settings are. -/
theorem places_claims (hbuiltin : e.registry.IsBuiltin) {w : Workload} {objects : List Companion}
    (hok : (e.apply c w).outcome = .ok objects) :
    ∃ t? claims, traits c = .ok t? ∧ e.PlacesClaims c w objects (e.creations c t?) claims := by
  rcases e.apply_outcome c w with
    ⟨t, contribution, pod, htraits, hcontribution, hpod, -, hworkload, hplaced⟩ |
      ⟨-, ⟨htraits, hnothing⟩ | ⟨failure, hfailed⟩⟩
  · obtain ⟨claims, hmade, htemplate, htemplates⟩ :=
      claimTemplates_contribute hbuiltin hcontribution
    have hnamed : ∀ k ∈ claimTemplates e.settings contribution.objects,
        ∃ name, k.metadata.name = some name := by
      intro k hk
      rw [htemplates] at hk
      exact exists_name_of_made hmade k ((firsts_sublist _ _ _).subset hk)
    have hfree : objects = contribution.objects.filter (·.claim?.isNone) := by
      rw [Except.ok.inj (hok.symm.trans hplaced), freeObjects]
      exact List.filter_congr fun o ho => by rw [htemplate o ho]
    refine ⟨some t, claims, htraits, hmade, ?_, ?_, ?_, ?_, ?_, apply_workload hbuiltin hok⟩
    · intro k hk
      rw [hfree] at hk
      exact absurd (List.mem_filter.1 hk).2 Bool.false_ne_true
    · simp only [collectedObjects, htraits, hcontribution]
      exact hfree
    · intro hstateful
      -- What was left out at the collection is left out for the old templates as well.
      have hagain := firsts_firsts_of_subset (fun k : Claim => k.metadata.name)
        (List.nil_subset (w.claimTemplateList.map (·.metadata.name))) claims
      rw [hworkload, Workload.claimTemplateList_furnish hpod hstateful hnamed, htemplates,
        firsts_map, firsts_map]
      exact congrArg (fun ks => w.claimTemplateList ++ ks.map Claim.asTemplate) hagain
    · intro hstateful
      rw [hworkload]
      exact uncovered_furnish hpod hstateful hmade htemplates
    · intro hstateful
      rw [droppedClaims_apply hbuiltin hok htraits hcontribution, htemplates]
      exact claimWarnings_firsts hmade hstateful
  · obtain rfl := Except.ok.inj (hnothing.symm.trans hok)
    exact ⟨none, [], htraits, placesClaims_of_none hbuiltin htraits⟩
  · cases hfailed.symm.trans hok

/-- A component that creates a claim at two levels, and whose account is marked like a template. -/
def hoardingComponent : Component :=
  let data : StorageEntry := { name := "data", type := "persistent", create := true }
  let marked : StringMap := .ofList [(builtin.settings.templateKey, Settings.templateMark)]
  Component.withTraits { name := "web" } {
    storage := [data]
    rbac := [{ serviceAccountAnnotations := marked }]
    sidecar := [{ name := "agent", image := "agent", traits := { storage := [data] } }] }

/-- A stateful workload without volumes and templates. -/
def statefulWorkload : Workload := { plainWorkload with kind := .statefulSet }

theorem places_claims_hoarding :
    ∃ objects, (builtin.apply hoardingComponent statefulWorkload).outcome = .ok objects ∧
      objects ≠ [] ∧ ∃ t? claims, traits hoardingComponent = .ok t? ∧
        builtin.PlacesClaims hoardingComponent statefulWorkload objects
          (builtin.creations hoardingComponent t?) claims :=
  ⟨_, rfl, by decide +kernel, places_claims Registry.isBuiltin_builtin rfl⟩

end Engine

end WorkloadTraits
