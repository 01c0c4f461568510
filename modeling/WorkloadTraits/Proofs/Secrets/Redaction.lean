import WorkloadTraits.Placement.Basic
import WorkloadTraits.Proofs.Builtin.Besides

/-!
# Traits without the data of secrets

`Traits.redact` empties the data of every secret entry, at every depth, and `Companion.redacted`
those of a secret that is there already.  The two belong together: redacted entries contribute just
what the entries do, redacted (`Secret.contribution_redacted`).  Everything that is done with
contributions afterwards can be done with redacted ones as well.  They are merged under keys, which
the data have no part in (`Companion.key_redacted`), and placing them on a workload reads
nothing of a secret at all (`Workload.place_redacted`).
-/

namespace WorkloadTraits

/-! ## Traits -/

/-- The entry without its data. -/
def SecretEntry.redacted (e : SecretEntry) : SecretEntry := { e with data := .empty }

namespace Traits

mutual

/-- The traits with the data of their secrets emptied, at every depth. -/
def redact : Traits → Traits
  | ⟨init, storage, secret, sidecar, envFrom, envs, probes, rbac, ingress, resources⟩ =>
    ⟨redactInits init, storage, secret.map .redacted, redactSidecars sidecar, envFrom, envs, probes,
      rbac, ingress, resources⟩

/-- Init entries with redacted traits. -/
def redactInits : List (InitEntry Traits) → List (InitEntry Traits)
  | [] => []
  | ⟨name, properties, traits⟩ :: rest => ⟨name, properties, traits.redact⟩ :: redactInits rest

/-- Sidecars with redacted traits. -/
def redactSidecars : List (SidecarEntry Traits) → List (SidecarEntry Traits)
  | [] => []
  | ⟨name, image, command, args, env, traits⟩ :: rest =>
    ⟨name, image, command, args, env, traits.redact⟩ :: redactSidecars rest

end

end Traits

/-- The entry with redacted traits. -/
def InitEntry.redacted (e : InitEntry Traits) : InitEntry Traits :=
  { e with traits := e.traits.redact }

/-- The sidecar with redacted traits. -/
def SidecarEntry.redacted (e : SidecarEntry Traits) : SidecarEntry Traits :=
  { e with traits := e.traits.redact }

/-- The data of a kind, redacted. -/
def TraitData.redacted : TraitData → TraitData
  | init entries => init (entries.map .redacted)
  | secret entries => secret (entries.map .redacted)
  | sidecar entries => sidecar (entries.map .redacted)
  | data => data

namespace Traits

lemma redactInits_eq (es : List (InitEntry Traits)) : redactInits es = es.map .redacted := by
  induction es with
  | nil => rw [redactInits, List.map_nil]
  | cons e rest ih =>
      obtain ⟨name, properties, traits⟩ := e
      rw [redactInits, ih, List.map_cons]
      rfl

lemma redactSidecars_eq (es : List (SidecarEntry Traits)) :
    redactSidecars es = es.map .redacted := by
  induction es with
  | nil => rw [redactSidecars, List.map_nil]
  | cons e rest ih =>
      obtain ⟨name, image, command, args, env, traits⟩ := e
      rw [redactSidecars, ih, List.map_cons]
      rfl

/-- Only secrets are redacted, those of the traits and those of the entries in them. -/
lemma redact_eq (t : Traits) :
    t.redact = { t with
      init := t.init.map .redacted
      secret := t.secret.map .redacted
      sidecar := t.sidecar.map .redacted } := by
  obtain ⟨init, storage, secret, sidecar, envFrom, envs, probes, rbac, ingress, resources⟩ := t
  rw [redact, redactInits_eq, redactSidecars_eq]

/-- What redacted traits say about a kind is what the traits say, redacted. -/
lemma data?_redact (t : Traits) (k : TraitKind) :
    t.redact.data? k = (t.data? k).map .redacted := by
  rw [redact_eq]
  cases k
  case init =>
    rw [data?, data?]
    cases t.init <;> rfl
  case secret =>
    rw [data?, data?]
    cases t.secret <;> rfl
  case sidecar =>
    rw [data?, data?]
    cases t.sidecar <;> rfl
  all_goals
    rw [data?, data?, Option.map_map]
    rfl

lemma isEmpty_sidecar_redact (t : Traits) :
    t.redact.sidecar.isEmpty = t.sidecar.isEmpty := by
  rw [redact_eq, List.isEmpty_map]

/-- Whether traits say anything does not depend on the data of secrets. -/
lemma isEmpty_redact (t : Traits) : t.redact.isEmpty = t.isEmpty := by
  simp only [isEmpty, kinds, data?_redact, Option.isSome_map]

end Traits

/-! ## Objects -/

/-- The secret without its data. -/
def SecretObject.redacted (o : SecretObject) : SecretObject :=
  { o with stringData := o.stringData.map fun _ => .empty }

namespace Companion

/-- The object as a secret, if it is one. -/
def secret? : Companion → Option SecretObject
  | secret o => some o
  | _ => none

lemma secret?_eq_some {o : Companion} {s : SecretObject} : o.secret? = some s ↔ o = .secret s := by
  cases o <;> simp [secret?]

/-- The object without the data that it holds as a secret. -/
def redacted : Companion → Companion
  | secret o => secret o.redacted
  | o => o

lemma redacted_of_secret?_eq_none {o : Companion} (h : o.secret? = none) : o.redacted = o := by
  cases o with
  | secret s => cases h
  | _ => rfl

lemma secret?_redacted (o : Companion) : o.redacted.secret? = o.secret?.map .redacted := by
  cases o <;> rfl

lemma key_redacted (o : Companion) : o.redacted.key = o.key := by
  cases o <;> rfl

lemma template?_redacted (settings : Settings) (o : Companion) :
    o.redacted.template? settings = o.template? settings := by
  cases o <;> rfl

/-- Two objects are the same, or secrets that differ in nothing but their data. -/
inductive SameButData : Companion → Companion → Prop
  | same (o : Companion) : SameButData o o
  | secret (o : SecretObject) (data : Option StringMap) :
      SameButData (.secret o) (.secret { o with stringData := data })

lemma sameButData_of_redacted_eq {o o' : Companion} (h : o.redacted = o'.redacted) :
    SameButData o o' := by
  have hsecrets := congrArg secret? h
  rw [secret?_redacted, secret?_redacted] at hsecrets
  cases hs : o.secret? with
  | none =>
      rw [hs, Option.map_none, eq_comm, Option.map_eq_none_iff] at hsecrets
      rw [redacted_of_secret?_eq_none hs, redacted_of_secret?_eq_none hsecrets] at h
      exact h ▸ .same o
  | some s =>
      rw [hs, Option.map_some, eq_comm, Option.map_eq_some_iff] at hsecrets
      obtain ⟨s', hs', heq⟩ := hsecrets
      obtain ⟨metadata, type, data⟩ := s
      obtain ⟨metadata', type', data'⟩ := s'
      obtain ⟨rfl, rfl, -⟩ := SecretObject.mk.inj heq
      rw [secret?_eq_some.1 hs, secret?_eq_some.1 hs']
      exact .secret ⟨metadata', type', data⟩ data'

end Companion

lemma claimTemplates_redacted (settings : Settings) (objects : List Companion) :
    claimTemplates settings (objects.map .redacted) = claimTemplates settings objects := by
  rw [claimTemplates, claimTemplates, List.filterMap_map]
  exact congrArg (List.filterMap · objects) (funext (Companion.template?_redacted settings))

lemma freeObjects_redacted (settings : Settings) (objects : List Companion) :
    freeObjects settings (objects.map .redacted) =
      (freeObjects settings objects).map .redacted := by
  rw [freeObjects, freeObjects, List.filter_map]
  simp only [Function.comp_def, Companion.template?_redacted]

/-! ## Contributions -/

/-- The contribution without the data of its secrets. -/
def Contribution.redacted (c : Contribution) : Contribution := c.mapObjects .redacted

/-- Redacted entries contribute what the entries do, without their data. -/
theorem Secret.contribution_redacted (site : Site) (entries : List SecretEntry) :
    contribution site (entries.map .redacted) = (contribution site entries).redacted := by
  have hobjects : ∀ names : List String,
      (names.zip (entries.map SecretEntry.redacted)).map
          (fun p => Companion.secret (object site p.1 p.2)) =
        ((names.zip entries).map fun p => Companion.secret (object site p.1 p.2)).map
          .redacted := by
    intro names
    rw [List.zip_map_right, List.map_map, List.map_map]
    rfl
  rw [contribution, contribution, List.length_map]
  exact congrArg (fun objects => ({ ({} : Contribution) with
    volumes := ((List.range entries.length).map (name site)).map (volume site)
    volumeMounts := .single site.target (((List.range entries.length).map (name site)).map mount)
    objects := objects } : Contribution)) (hobjects _)

namespace Besides

/-- No kind but that of secrets asks for secrets. -/
lemma secret?_of_mem_ofKind {s : Site} {t : Traits} {k : TraitKind} (hsecret : k ≠ .secret)
    {o : Companion} (ho : o ∈ (Besides.ofKind s t k).objects) : o.secret? = none := by
  cases k
  case secret => exact absurd rfl hsecret
  case storage =>
    obtain ⟨claim, -, rfl⟩ := List.mem_map.1 ho
    rfl
  case rbac =>
    obtain ⟨p, -, ho⟩ := List.mem_flatMap.1 ho
    simp only [Access.policyObjects, AccessPolicy.objects] at ho
    split at ho
    all_goals
      simp only [List.mem_cons, List.not_mem_nil, or_false] at ho
      rcases ho with rfl | rfl | rfl <;> rfl
  case ingress =>
    obtain ⟨i, rfl⟩ := Ingresses.exists_ingress_of_mem_made ho
    rfl
  all_goals exact (List.not_mem_nil ho).elim

end Besides

/-- What the other kinds contribute holds no data of secrets. -/
lemma redacted_kindContribution {s : Site} {answer : Nested → Except Failure Contribution}
    {t : Traits} {k : TraitKind} {c : Contribution} (hinit : k ≠ .init) (hsecret : k ≠ .secret)
    (hsidecar : k ≠ .sidecar) (h : kindContribution s answer t k = .ok c) : c.redacted = c := by
  have hobjects : c.objects = (Besides.ofKind s t k).objects :=
    congrArg Besides.objects (Contribution.besides_kindContribution hinit hsidecar h)
  have hkept : c.objects.map .redacted = c.objects := by
    rw [hobjects, List.map_congr_left fun o ho =>
      Companion.redacted_of_secret?_eq_none (Besides.secret?_of_mem_ofKind hsecret ho)]
    exact List.map_id' _
  rw [Contribution.redacted, Contribution.mapObjects, hkept]

/-! ## Placing -/

/-- Placing reads no data of secrets. -/
theorem Workload.place_redacted (w : Workload) (settings : Settings) (main : String)
    (c : Contribution) :
    w.place settings main c.redacted =
      { workload := (w.place settings main c).workload
        outcome := (w.place settings main c).outcome.map (·.map .redacted)
        warnings := (w.place settings main c).warnings } := by
  have hhas : ∀ p : Pod, (p.receive c.redacted).hasContainer main =
      (p.receive c).hasContainer main := fun _ => rfl
  have htemplates : claimTemplates settings c.redacted.objects =
      claimTemplates settings c.objects := claimTemplates_redacted _ _
  have hfree : freeObjects settings c.redacted.objects =
      (freeObjects settings c.objects).map .redacted := freeObjects_redacted _ _
  rw [place, place]
  cases w.container? main with
  | none => rfl
  | some k =>
      cases w.pod? with
      | none => rfl
      | some pod =>
          simp only [hhas, htemplates, hfree]
          split <;> rfl

/-- Contributions that differ in the data of secrets alone are placed alike. -/
lemma Workload.place_of_redacted_eq {c c' : Contribution} (h : c'.redacted = c.redacted)
    (w : Workload) (settings : Settings) (main : String) :
    (w.place settings main c').workload = (w.place settings main c).workload ∧
      (w.place settings main c').outcome.map (·.map Companion.redacted) =
        (w.place settings main c).outcome.map (·.map Companion.redacted) ∧
      (w.place settings main c').warnings = (w.place settings main c).warnings := by
  have hplaced := w.place_redacted settings main c
  rw [← h, w.place_redacted settings main c'] at hplaced
  exact Placement.mk.inj hplaced

end WorkloadTraits
