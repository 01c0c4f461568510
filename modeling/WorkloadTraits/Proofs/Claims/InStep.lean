import WorkloadTraits.Proofs.Acceptance.Entries
import WorkloadTraits.Proofs.Claims.Creations

/-!
# Volumes, mounts and claims in step

A stateful set finds the claims of its pods by the names of its templates, a pod finds the volume of
a claim by the claim's name, and a container finds what it mounts by the volume's name.  A storage
entry asks for all three at once, and what it asks for goes three ways: the volume to the pod, the
mount to the container, the claim to the objects beside the workload.

Whatever the entries are, if they succeed the three lists are in step (`Storage.process_in_step`):
one volume and one mount for each entry that counts, one claim for each of those that creates one,
in the order of the entries and under the same name, which is a label that no other of them has.
-/

namespace WorkloadTraits

/-- The amount of storage that a claim requests, if it does. -/
def Claim.storage? (k : Claim) : Option String :=
  ((k.spec.bind (·.resources)).bind (·.requests)).bind (·.get? "storage")

namespace Storage

/-- The volume of an entry under a name.  Only the volume of a persistent entry refers to a claim:
to the one that the entry creates, or else to the one that it names, if it names any. -/
structure IsVolumeOf (e : String × StorageEntry) (v : Volume) : Prop where
  name : v.name = e.1
  created : StorageKind.read e.2.type = .ok .persistent → e.2.create = true →
    v.claimName = some e.1
  existing : StorageKind.read e.2.type = .ok .persistent → e.2.create = false →
    v.claimName = some (if Text.isBlankText e.2.claimName then e.1 else Text.trim e.2.claimName)
  other : StorageKind.read e.2.type ≠ .ok .persistent → v.claimName = none

/-- The claim that an entry creates under a name: marked as a template, and of the size that the
entry gives, or of the default size. -/
structure IsClaimOf (site : Site) (e : String × StorageEntry) (k : Claim) : Prop where
  name : k.metadata.name = some e.1
  mark : k.metadata.annotationValue? site.settings.templateKey = some Settings.templateMark
  size : k.storage? = some (if Text.isBlankText e.2.size
    then Text.trim site.settings.defaultClaimSize else Text.trim e.2.size)

/-- Volumes, mounts and claims that are in step with the entries that count. -/
structure InStep (site : Site) (entries : List StorageEntry) (c : Contribution) : Prop where
  labels : ∀ e ∈ counted site entries, Label.IsLabel e.1
  distinct : ((counted site entries).map Prod.fst).Nodup
  volumes : List.Forall₂ IsVolumeOf (counted site entries) c.volumes
  mounts : (c.volumeMounts.get site.target).map (·.name) = (counted site entries).map Prod.fst
  /-- No other container gets a mount. -/
  target : ∀ name ∈ c.volumeMounts.names, name = site.target
  claims : ∃ ks, c.objects = ks.map .claim ∧
    List.Forall₂ (IsClaimOf site) ((counted site entries).filter (·.2.creates)) ks
  /-- Nothing else is wanted. -/
  alone : c = { volumes := c.volumes, volumeMounts := c.volumeMounts, objects := c.objects }

/-! ## Single entries -/

lemma isVolumeOf_volume {site : Site} {kind : StorageKind} {e : StorageEntry} (name : String)
    (hkind : StorageKind.read e.type = .ok kind) :
    IsVolumeOf (name, e) (e.volume site kind name) where
  name := name_volume site kind e name
  created hpersistent hcreate := by
    obtain rfl := Except.ok.inj (hkind.symm.trans hpersistent)
    exact congrArg some (if_pos hcreate)
  existing hpersistent hcreate := by
    obtain rfl := Except.ok.inj (hkind.symm.trans hpersistent)
    have hskip : ¬ e.create = true := Bool.eq_false_iff.1 hcreate
    exact congrArg some ((if_neg hskip).trans (Text.firstNonEmpty_trim e.claimName name))
  other hother := by
    cases kind with
    | persistent => exact absurd hkind hother
    | ephemeral | hostMounted | config | secret => rfl

lemma isClaimOf_claim {site : Site} {e : StorageEntry} {name : String} {k : Claim}
    (h : e.claim site name = .ok k) : IsClaimOf site (name, e) k := by
  have hmetadata := Creation.metadata_of_claim_eq_ok (x := ⟨site, name, e⟩) h
  obtain ⟨size, hsize, hk⟩ := bind_eq_ok.1 h
  have hrequest : k.storage? = some size := by
    rw [← Except.ok.inj hk]
    exact SortedMap.get?_insert _ _ _ _
  refine ⟨?_, ?_, ?_⟩
  · rw [hmetadata]
    rfl
  · rw [hmetadata]
    simp [Creation.metadata, Metadata.annotationValue?, SortedMap.ofList, SortedMap.get?_insert]
  · have hread := (Resources.readQuantity_eq_ok.1 hsize).2
    rw [hrequest, ← hread, Text.firstNonEmpty_trim, apply_ite Text.trim, Text.trim_trim]

/-- The claims of entries that count are those of the entries that create one. -/
lemma forall₂_claims {site : Site} {es : List (String × StorageEntry)} {ps : List StoragePart}
    (h : List.Forall₂ (Becomes site) es ps) :
    List.Forall₂ (IsClaimOf site) (es.filter (·.2.creates)) (ps.filterMap (·.claim)) := by
  induction h with
  | nil => exact .nil
  | @cons e p es ps hbecomes _ ih =>
      obtain ⟨kind, hkind, hpart⟩ := hbecomes
      obtain ⟨claim?, hclaim, rfl⟩ := part_eq_ok.1 hpart
      have hcreates := creates_of_read hkind
      by_cases hcreate : kind = .persistent ∧ e.2.create = true
      · rw [if_pos hcreate] at hclaim
        obtain ⟨k, hk, rfl⟩ := map_eq_ok.1 hclaim
        rw [decide_eq_true hcreate] at hcreates
        rw [List.filter_cons, hcreates, if_pos rfl]
        exact .cons (isClaimOf_claim hk) ih
      · rw [if_neg hcreate] at hclaim
        obtain rfl := Except.ok.inj hclaim
        rw [decide_eq_false hcreate] at hcreates
        rw [List.filter_cons, hcreates, if_neg Bool.false_ne_true]
        exact ih

/-! ## All entries -/

lemma inStep_contribution {site : Site} {entries : List StorageEntry} {c : Contribution}
    (h : contribution site entries = .ok c) : InStep site entries c := by
  obtain ⟨ps, hps, hc⟩ := bind_eq_ok.1 h
  obtain rfl := Except.ok.inj hc
  obtain ⟨hchecked, hbecomes⟩ := parts_eq_ok.1 hps
  rw [← counted] at hbecomes
  constructor
  case labels =>
    intro e he
    exact Label.fault?_eq_none.1 (hchecked e ((firsts_sublist _ _ _).subset he)).2
  case distinct => exact nodup_map_firsts Prod.fst [] _
  case volumes =>
    refine List.forall₂_map_right_iff.2 (hbecomes.imp fun e p hp => ?_)
    obtain ⟨kind, hkind, hpart⟩ := hp
    obtain ⟨claim?, -, rfl⟩ := part_eq_ok.1 hpart
    exact isVolumeOf_volume e.1 hkind
  case mounts =>
    show ((Routing.single site.target (ps.map (·.mount))).get site.target).map (·.name) = _
    rw [Routing.get_single, if_pos rfl, mounts_eq hps, Storage.mounts, List.map_map]
    rfl
  case target => exact fun name hname => Routing.eq_of_mem_names_single hname
  case claims => exact ⟨_, rfl, forall₂_claims hbecomes⟩
  case alone => rfl

/-- **Volume, mount and claim stay in step.**  Whenever the storage processor succeeds, the entries
that count are under distinct labels, and each has a volume and a mount of its name, and a claim of
its name if it creates one. -/
theorem process_in_step {context : Context} {entries : List StorageEntry}
    (hdata : context.data = .storage entries) {answer : Nested → Run Contribution}
    {c? : Option Contribution}
    (hok : ((processor.process context).run answer).outcome = .ok c?) :
    ∃ c, c? = some c ∧ InStep context.toSite entries c := by
  have hprocess : processor.process context =
      .ofExcept ((contribution context.toSite entries).map some) := by
    simp only [processor, hdata]
  rw [Plan.run_outcome, hprocess, Plan.eval_ofExcept] at hok
  obtain ⟨c, hc, rfl⟩ := map_eq_ok.1 hok
  exact ⟨c, rfl, inStep_contribution hc⟩

/-- Entries of which the third is under the name of the first, and the second under a name that is
made for it. -/
def steppedEntries : List StorageEntry := [
  { name := " Data ", type := "persistent", create := true, size := " 2Gi " },
  { type := "ephemeral" },
  { name := "data", type := "secret" },
  { name := "logs", type := "pvc", claimName := " shared " }]

/-- A context with these entries. -/
def steppedContext : Context where
  settings := {}
  component := { name := "web" }
  target := "web"
  workload := { kind := .statefulSet }
  data := .storage steppedEntries
  depth := 0
  barred := .empty

theorem process_in_step_four_entries :
    ∃ c, ((processor.process steppedContext).run fun _ => ⟨[], .ok .empty⟩).outcome =
        .ok (some c) ∧
      c.volumes.map (·.name) = ["data", "web-storage-1", "logs"] ∧
      InStep steppedContext.toSite steppedEntries c := by
  have hok : ((processor.process steppedContext).run fun _ => ⟨[], .ok .empty⟩).outcome =
      .ok (some _) := rfl
  obtain ⟨c, hc, hstep⟩ := process_in_step rfl hok
  obtain rfl := Option.some.inj hc
  exact ⟨_, hok, rfl, hstep⟩

end Storage

end WorkloadTraits
