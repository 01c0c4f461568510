import WorkloadTraits.Builtin.Access
import WorkloadTraits.Builtin.Environment
import WorkloadTraits.Builtin.Probes
import WorkloadTraits.Builtin.Resources
import WorkloadTraits.Proofs.Contribution.Merge
import WorkloadTraits.Proofs.Dispatch.Outcome

/-!
# Variables, limits, probes and policies

For each of these kinds, when its entries succeed and what becomes of them.  Both are said without
the loops of the processors: a condition on every entry, one between entries where there is one,
and the outcome as a list or map made of the entries.
-/

namespace WorkloadTraits

/-! ## Environment -/

namespace Environment

/-- The sources that some entries name. -/
def sources (entries : List EnvSourceEntry) : List EnvSource :=
  entries.filterMap fun e => e.source.toOption

/-- The variables that some entries set. -/
def assigned (entries : List EnvEntry) : List EnvVar :=
  entries.filterMap fun e => e.toVariable.toOption

lemma sourceContribution_eq_ok {site : Site} {entries : List EnvSourceEntry} {c : Contribution} :
    sourceContribution site entries = .ok c ↔
      (∀ e ∈ entries, ∃ s, e.source = .ok s) ∧
        { envFrom := .single site.target (sources entries) } = c :=
  mapM_bind_pure_eq_ok

lemma variableContribution_eq_ok {site : Site} {entries : List EnvEntry} {c : Contribution} :
    variableContribution site entries = .ok c ↔
      (∀ e ∈ entries, ∃ v, e.toVariable = .ok v) ∧
        { envVars := .single site.target (assigned entries) } = c :=
  mapM_bind_pure_eq_ok

end Environment

/-! ## Resources -/

namespace Resources

/-- The limits of an entry that are given, under their keys. -/
def given (site : Site) (e : ResourceEntry) : List (String × String) :=
  [("cpu", e.cpu), ("memory", e.memory), (site.settings.gpuResource, e.gpu)].filter
    fun limit => !Text.isBlankText limit.2

/-- The limits of an entry, without the blanks around them. -/
def limitMap (site : Site) (e : ResourceEntry) : StringMap :=
  .ofList ((given site e).map fun limit => (limit.1, Text.trim limit.2))

lemma readQuantity_eq_ok {field raw q : String} :
    readQuantity field raw = .ok q ↔ (∃ q', Quantity.read raw = .ok q') ∧ Text.trim raw = q := by
  rw [readQuantity, mapError_eq_ok, Quantity.read, bind_eq_ok]
  simp only [bind_eq_ok, pure, Except.pure, Except.ok.injEq]
  constructor
  · rintro ⟨u, hcheck, hq⟩
    exact ⟨⟨q, u, hcheck, hq⟩, hq⟩
  · rintro ⟨⟨_, u, hcheck, -⟩, hq⟩
    exact ⟨u, hcheck, hq⟩

/-- A limit that is not blank has to be an amount, and is inserted without blanks around it. -/
lemma addLimit_eq_ok {limits m : StringMap} {field key raw : String} :
    addLimit limits field key raw = .ok m ↔
      if Text.isBlankText raw then limits = m
      else (∃ q, Quantity.read raw = .ok q) ∧ limits.insert key (Text.trim raw) = m := by
  rw [addLimit]
  split
  · exact ⟨Except.ok.inj, congrArg Except.ok⟩
  · rw [map_eq_ok]
    simp only [readQuantity_eq_ok]
    constructor
    · rintro ⟨_, ⟨hread, rfl⟩, hm⟩
      exact ⟨hread, hm⟩
    · rintro ⟨hread, hm⟩
      exact ⟨_, ⟨hread, rfl⟩, hm⟩

/-- The limits of an entry succeed when every given one is an amount. -/
theorem limits_eq_ok {site : Site} {e : ResourceEntry} {m : StringMap} :
    limits site e = .ok m ↔
      (∀ limit ∈ given site e, ∃ q, Quantity.read limit.2 = .ok q) ∧ limitMap site e = m := by
  rw [limits, limitMap, given, bind_eq_ok]
  simp only [bind_eq_ok, addLimit_eq_ok]
  by_cases hcpu : Text.isBlankText e.cpu = true <;>
    by_cases hmemory : Text.isBlankText e.memory = true <;>
      by_cases hgpu : Text.isBlankText e.gpu = true <;>
        simp [hcpu, hmemory, hgpu, SortedMap.ofList, and_assoc, and_left_comm]

end Resources

/-! ## Probes -/

namespace Probes

/-- The kind that an entry is for, if it is for any. -/
def kind? (e : ProbeEntry) : Option ProbeKind := (ProbeKind.read e.type).toOption

/-- The probe of a kind among some entries. -/
def asked (entries : List ProbeEntry) (k : ProbeKind) : Option Probe :=
  entries.findSome? fun e => if kind? e = some k then e.probe.toOption else none

/-- The contribution with a probe of each kind for which there is one. -/
def withProbes (c : Contribution) (probe? : ProbeKind → Option Probe) : Contribution :=
  { c with
    livenessProbe := (probe? .liveness).or c.livenessProbe
    readinessProbe := (probe? .readiness).or c.readinessProbe
    startupProbe := (probe? .startup).or c.startupProbe }

/-- An entry for one of the kinds, with one thing to do. -/
def Sound (e : ProbeEntry) : Prop :=
  (∃ k, ProbeKind.read e.type = .ok k) ∧ ∃ p, e.probe = .ok p

lemma get?_set (c : Contribution) (p : Probe) (k k' : ProbeKind) :
    k'.get? (k.set c p) = if k' = k then some p else k'.get? c := by
  cases k <;> cases k' <;> rfl

lemma kind?_eq_some {e : ProbeEntry} {k : ProbeKind} :
    kind? e = some k ↔ ProbeKind.read e.type = .ok k := by
  rw [kind?]
  cases ProbeKind.read e.type <;> simp [Except.toOption]

lemma addProbe_eq_ok {target : String} {c c' : Contribution} {e : ProbeEntry} :
    addProbe target c e = .ok c' ↔
      ∃ k p, ProbeKind.read e.type = .ok k ∧ k.get? c = none ∧ e.probe = .ok p ∧
        k.set c p = c' := by
  rw [addProbe, bind_eq_ok]
  constructor
  · rintro ⟨k, hk, h⟩
    cases hget : k.get? c with
    | some p =>
        simp only [hget, Option.isSome_some, if_true] at h
        cases h
    | none =>
        simp only [hget, Option.isSome_none, Bool.false_eq_true, if_false] at h
        obtain ⟨p, hp, h⟩ := bind_eq_ok.1 h
        exact ⟨k, p, hk, hget, hp, Except.ok.inj h⟩
  · rintro ⟨k, p, hk, hget, hp, rfl⟩
    refine ⟨k, hk, ?_⟩
    simp only [hget, Option.isSome_none, Bool.false_eq_true, if_false]
    exact bind_eq_ok.2 ⟨p, hp, rfl⟩

lemma asked_cons {e : ProbeEntry} {rest : List ProbeEntry} {k : ProbeKind} {p : Probe}
    (hk : ProbeKind.read e.type = .ok k) (hp : e.probe = .ok p) (k' : ProbeKind) :
    asked (e :: rest) k' = if k' = k then some p else asked rest k' := by
  rw [asked, List.findSome?_cons, kind?, hk, hp]
  by_cases h : k' = k
  · subst h
    simp [Except.toOption]
  · rw [if_neg h]
    simp [Except.toOption, Ne.symm h, asked]

lemma asked_eq_none {entries : List ProbeEntry} {k : ProbeKind}
    (h : some k ∉ entries.map kind?) : asked entries k = none := by
  rw [asked, List.findSome?_eq_none_iff]
  intro e he
  exact if_neg fun hk => h (List.mem_map.2 ⟨e, he, hk⟩)

lemma withProbes_set {c : Contribution} {rest : List ProbeEntry} {e : ProbeEntry} {k : ProbeKind}
    {p : Probe} (hk : ProbeKind.read e.type = .ok k) (hp : e.probe = .ok p)
    (hrest : asked rest k = none) :
    withProbes (k.set c p) (asked rest) = withProbes c (asked (e :: rest)) := by
  simp only [withProbes, asked_cons hk hp]
  cases k <;> simp [ProbeKind.set, hrest]

/-- Probes succeed when every entry does and no kind comes up twice, here or before. -/
theorem foldlM_addProbe_eq_ok {target : String} {c c' : Contribution}
    {entries : List ProbeEntry} :
    entries.foldlM (addProbe target) c = .ok c' ↔
      (∀ e ∈ entries, Sound e ∧ ∀ k, kind? e = some k → k.get? c = none) ∧
        (entries.map kind?).Nodup ∧ withProbes c (asked entries) = c' := by
  induction entries generalizing c with
  | nil =>
      rw [List.foldlM_nil]
      simp [pure, Except.pure, withProbes, asked]
  | cons e rest ih =>
      rw [List.foldlM_cons, bind_eq_ok, List.forall_mem_cons, List.map_cons, List.nodup_cons]
      constructor
      · rintro ⟨c₁, hadd, h⟩
        obtain ⟨k, p, hk, hfree, hp, rfl⟩ := addProbe_eq_ok.1 hadd
        obtain ⟨hall, hnodup, rfl⟩ := ih.1 h
        have hnew : ∀ e' ∈ rest, kind? e' ≠ some k := by
          intro e' he' hk'
          have htaken := (hall e' he').2 k hk'
          rw [get?_set, if_pos rfl] at htaken
          cases htaken
        have hfresh : some k ∉ rest.map kind? := by
          intro hmem
          obtain ⟨e', he', hk'⟩ := List.mem_map.1 hmem
          exact hnew e' he' hk'
        have hkind : kind? e = some k := kind?_eq_some.2 hk
        refine ⟨⟨⟨⟨⟨k, hk⟩, p, hp⟩, fun k' hk' => ?_⟩, fun e' he' => ?_⟩, ⟨?_, hnodup⟩, ?_⟩
        · obtain rfl := Option.some.inj (hkind.symm.trans hk')
          exact hfree
        · refine ⟨(hall e' he').1, fun k' hk' => ?_⟩
          have hother := (hall e' he').2 k' hk'
          rw [get?_set] at hother
          split at hother
          · cases hother
          · exact hother
        · rw [hkind]
          exact hfresh
        · exact (withProbes_set hk hp (asked_eq_none hfresh)).symm
      · rintro ⟨⟨⟨⟨⟨k, hk⟩, p, hp⟩, hfree⟩, hall⟩, ⟨hfresh, hnodup⟩, rfl⟩
        have hkind : kind? e = some k := kind?_eq_some.2 hk
        rw [hkind] at hfresh
        refine ⟨k.set c p, addProbe_eq_ok.2 ⟨k, p, hk, hfree k hkind, hp, rfl⟩,
          ih.2 ⟨fun e' he' => ⟨(hall e' he').1, fun k' hk' => ?_⟩, hnodup, ?_⟩⟩
        · have hne : k' ≠ k := fun heq => hfresh (List.mem_map.2 ⟨e', he', heq ▸ hk'⟩)
          rw [get?_set, if_neg hne]
          exact (hall e' he').2 k' hk'
        · exact withProbes_set hk hp (asked_eq_none hfresh)

/-- The probes of a level. -/
theorem contribution_eq_ok {site : Site} {entries : List ProbeEntry} {c : Contribution} :
    contribution site entries = .ok c ↔
      (∀ e ∈ entries, Sound e) ∧ (entries.map kind?).Nodup ∧
        withProbes .empty (asked entries) = c := by
  rw [contribution, foldlM_addProbe_eq_ok]
  have hfree : ∀ k : ProbeKind, k.get? .empty = none := by
    intro k
    cases k <;> rfl
  simp only [hfree, implies_true, and_true]

end Probes

/-! ## Access -/

namespace Access

/-- Rules succeed when each has verbs. -/
lemma policyRules_eq_ok {account : String} {index : Nat} {rules : List AccessRule}
    {rs : List PolicyRule} :
    AccessPolicy.policyRules account index rules = .ok rs ↔
      (∀ r ∈ rules, r.verbs ≠ []) ∧ rules.map AccessPolicy.policyRule = rs := by
  induction rules generalizing index rs with
  | nil => simp [AccessPolicy.policyRules]
  | cons r rest ih =>
      rw [AccessPolicy.policyRules, List.forall_mem_cons]
      by_cases hverbs : r.verbs = []
      · simp [hverbs]
      · have hgiven : r.verbs.isEmpty = false := by simpa using hverbs
        simp only [hgiven, Bool.false_eq_true, if_false, bind_eq_ok, ih]
        constructor
        · rintro ⟨_, ⟨hrest, rfl⟩, h⟩
          exact ⟨⟨hverbs, hrest⟩, Except.ok.inj h⟩
        · rintro ⟨⟨-, hrest⟩, rfl⟩
          exact ⟨_, ⟨hrest, rfl⟩, rfl⟩

/-- The objects of a policy at an index. -/
def policyObjects (site : Site) (p : AccessPolicy × Nat) : List Companion :=
  p.1.objects (p.1.accountName site.target p.2) (namespaceOr p.1.ns site)
    (p.1.rules.map AccessPolicy.policyRule)

/-- Policies succeed when every rule of theirs has verbs. -/
theorem objects_eq_ok {site : Site} {index : Nat} {policies : List AccessPolicy}
    {os : List Companion} :
    objects site index policies = .ok os ↔
      (∀ p ∈ policies, ∀ r ∈ p.rules, r.verbs ≠ []) ∧
        (policies.zipIdx index).flatMap (policyObjects site) = os := by
  induction policies generalizing index os with
  | nil => simp [objects]
  | cons p rest ih =>
      rw [objects, List.forall_mem_cons, List.zipIdx_cons, List.flatMap_cons]
      simp only [bind_eq_ok, policyRules_eq_ok, ih]
      constructor
      · rintro ⟨_, ⟨hrules, rfl⟩, _, ⟨hrest, rfl⟩, h⟩
        exact ⟨⟨hrules, hrest⟩, Except.ok.inj h⟩
      · rintro ⟨⟨hrules, hrest⟩, rfl⟩
        exact ⟨_, ⟨hrules, rfl⟩, _, ⟨hrest, rfl⟩, rfl⟩

/-- A policy makes no claims. -/
lemma ne_claim_of_mem_policyObjects {site : Site} {p : AccessPolicy × Nat} {o : Companion}
    (h : o ∈ policyObjects site p) (c : Claim) : o ≠ .claim c := by
  rintro rfl
  simp only [policyObjects, AccessPolicy.objects] at h
  split at h <;> simp at h

end Access

end WorkloadTraits
