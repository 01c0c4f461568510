import WorkloadTraits.Proofs.Flattening

/-!
# The claims that are created

A storage entry creates a claim if it is for a persistent volume, asks for one, and is the first of
its name at its level.  Which claims there are in the end is not decided at the level: entries of
different levels can create claims of one name, and claims are collected together with objects of
all other kinds.

The claims among the objects that count are nevertheless the claims that count
(`claims_firsts_flatten`).  All claims of a component are in one namespace and have names, so two of
them are the same object exactly if they have one name, and no other object is the same as a claim.
-/

namespace WorkloadTraits

/-- Whether the entry creates a claim when it counts. -/
def StorageEntry.creates (e : StorageEntry) : Bool :=
  decide ((StorageKind.read e.type).toOption = some .persistent) && e.create

/-- A storage entry that creates a claim, under its name and for the container where it stands. -/
structure Creation where
  site : Site
  name : String
  entry : StorageEntry

namespace Creation

/-- The claim. -/
def claim (x : Creation) : Except Failure Claim := x.entry.claim x.site x.name

/-- The metadata of the claim: its name, the namespace of the component, and the mark by which it
is known as a template. -/
def metadata (x : Creation) : Metadata where
  name := some x.name
  ns := some x.site.ns
  annotations := some (.ofList [(x.site.settings.templateKey, Settings.templateMark)])

lemma metadata_of_claim_eq_ok {x : Creation} {k : Claim} (h : x.claim = .ok k) :
    k.metadata = x.metadata := by
  obtain ⟨size, -, h⟩ := bind_eq_ok.1 h
  rw [← Except.ok.inj h]
  rfl

/-- The creations of a single level, in the order of the entries. -/
def ofEntries (s : Site) (entries : List StorageEntry) : List Creation :=
  ((Storage.counted s entries).filter (·.2.creates)).map fun e => ⟨s, e.1, e.2⟩

/-- The creations of each level. -/
def demand (kinds : List TraitKind) : Demand Creation where
  kinds := kinds
  ofKind s t
    | .storage => ofEntries s t.storage
    | _ => []

end Creation

/-- The creations of a level and of all levels in it, in order. -/
def creations (kinds : List TraitKind) (s : Site) (t : Traits) : List Creation :=
  (Creation.demand kinds).flatten s t

/-! ## Each creation makes a claim -/

namespace Storage

lemma creates_of_read {e : StorageEntry} {kind : StorageKind}
    (hkind : StorageKind.read e.type = .ok kind) :
    e.creates = decide (kind = .persistent ∧ e.create = true) := by
  rw [StorageEntry.creates, hkind]
  simp [Except.toOption]

/-- The claim among what becomes of an entry, which is there if the entry creates one. -/
lemma claim_part (site : Site) (e : StorageEntry) (name : String) :
    (StorageKind.read e.type >>= fun kind => part site kind e name).toOption.bind (·.claim) =
      if e.creates then (e.claim site name).toOption else none := by
  cases hkind : StorageKind.read e.type with
  | error failure =>
      have hnot : e.creates = false := by
        rw [StorageEntry.creates, hkind]
        rfl
      rw [hnot]
      rfl
  | ok kind =>
      rw [creates_of_read hkind]
      show (part site kind e name).toOption.bind _ = _
      by_cases hcreate : kind = .persistent ∧ e.create = true
      · rw [decide_eq_true hcreate, if_pos rfl, part, if_pos hcreate]
        cases e.claim site name <;> rfl
      · rw [decide_eq_false hcreate, part, if_neg hcreate]
        rfl

/-- The claims of storage entries are those of their creations. -/
lemma filterMap_claim_made (site : Site) (entries : List StorageEntry) :
    (made site entries).filterMap (·.claim) =
      (Creation.ofEntries site entries).filterMap (·.claim.toOption) := by
  rw [made, Creation.ofEntries, List.filterMap_filterMap, List.filterMap_map,
    ← List.filterMap_eq_filter, List.filterMap_filterMap]
  refine List.filterMap_congr fun e _ => ?_
  rw [claim_part]
  cases hcreates : e.2.creates <;> simp [hcreates, Creation.claim, Option.guard]

/-- Where storage entries succeed, each creation makes its claim. -/
lemma exists_claim {site : Site} {entries : List StorageEntry} {ps : List StoragePart}
    (h : parts site 0 [] entries = .ok ps) :
    ∀ x ∈ Creation.ofEntries site entries, ∃ k, x.claim = .ok k := by
  intro x hx
  obtain ⟨e, he, rfl⟩ := List.mem_map.1 hx
  obtain ⟨hcounted, hcreates⟩ := List.mem_filter.1 he
  have hbecomes := exists_forall₂.1 ⟨ps, (parts_eq_ok.1 h).2⟩ e hcounted
  obtain ⟨p, kind, hkind, hpart⟩ := hbecomes
  rw [creates_of_read hkind, decide_eq_true_eq] at hcreates
  rw [part, if_pos hcreates] at hpart
  obtain ⟨k?, hk, -⟩ := bind_eq_ok.1 hpart
  obtain ⟨k, hk, -⟩ := map_eq_ok.1 hk
  exact ⟨k, hk⟩

end Storage

/-- With the built-in processors, wherever a level succeeds each of its creations makes its
claim. -/
lemma Creation.follows_demand (kinds : List TraitKind) :
    (Creation.demand kinds).Follows fun _ xs => ∀ x ∈ xs, ∃ k, x.claim = .ok k where
  aggregate cs ass h := by
    intro x hx
    obtain ⟨xs, hxs, hx⟩ := List.mem_flatten.1 hx
    obtain ⟨c, -, hc⟩ := exists_of_mem_forall₂ h hxs
    exact hc x hx
  aroundInit _ _ _ h := h
  aroundSidecar _ _ _ h := h
  ofKind {s answer t k c} _ _ h := by
    cases k
    case storage =>
      obtain ⟨ps, hps, -⟩ := bind_eq_ok.1 h
      exact Storage.exists_claim hps
    all_goals exact fun x hx => (List.not_mem_nil hx).elim

/-! ## The claims among all objects -/

/-- The object as a claim, if it is one. -/
def Companion.claim? : Companion → Option Claim
  | claim k => some k
  | _ => none

lemma Companion.claim?_eq_some {o : Companion} {k : Claim} :
    o.claim? = some k ↔ o = .claim k := by
  cases o <;> simp [claim?]

/-- Only storage asks for claims. -/
lemma filterMap_claim?_ofKind (kinds : List TraitKind) (s : Site) (t : Traits) (k : TraitKind) :
    (Besides.ofKind s t k).objects.filterMap Companion.claim? =
      ((Creation.demand kinds).ofKind s t k).filterMap (·.claim.toOption) := by
  have hnothing : ∀ os : List Companion, (∀ o ∈ os, ∀ k, o ≠ .claim k) →
      os.filterMap Companion.claim? = [] := by
    intro os hos
    refine List.filterMap_eq_nil_iff.2 fun o ho => ?_
    exact Option.eq_none_iff_forall_ne_some.2 fun k hk =>
      hos o ho k (Companion.claim?_eq_some.1 hk)
  cases k
  case storage =>
    have hclaims : Companion.claim? ∘ Companion.claim = some := rfl
    rw [Besides.ofKind, List.filterMap_map, hclaims, List.filterMap_some,
      Storage.filterMap_claim_made]
    rfl
  case secret =>
    refine hnothing _ fun o ho k heq => ?_
    obtain ⟨e, -, rfl⟩ := List.mem_map.1 ho
    cases heq
  case rbac =>
    refine hnothing _ fun o ho k => ?_
    obtain ⟨p, -, hp⟩ := List.mem_flatMap.1 ho
    exact Access.ne_claim_of_mem_policyObjects hp k
  case ingress =>
    refine hnothing _ fun o ho k heq => ?_
    obtain ⟨i, rfl⟩ := Ingresses.exists_ingress_of_mem_made ho
    cases heq
  all_goals rfl

variable {kinds : List TraitKind} {s : Site} {t : Traits}

/-- The claims that are asked for are those of the creations. -/
lemma filterMap_claim?_flatten (kinds : List TraitKind) (s : Site) (t : Traits) :
    ((Besides.demand kinds (·.objects)).flatten s t).filterMap Companion.claim? =
      (creations kinds s t).filterMap (·.claim.toOption) := by
  refine Demand.filterMap_flatten ?_ (fun s t k => ?_) s t
  · rfl
  · exact filterMap_claim?_ofKind kinds s t k

/-- All creations are for containers of one component, under the same settings. -/
lemma site_of_mem_creations {x : Creation} (hx : x ∈ creations kinds s t) :
    x.site.settings = s.settings ∧ x.site.ns = s.ns := by
  refine Demand.forall_mem_flatten
    (Q := fun s' => s'.settings = s.settings ∧ s'.ns = s.ns)
    (P := fun x : Creation => x.site.settings = s.settings ∧ x.site.ns = s.ns)
    (fun _ _ h => h) (fun s' t' k hs' x hx => ?_) ⟨rfl, rfl⟩ t x hx
  cases k
  case storage =>
    obtain ⟨e, -, rfl⟩ := List.mem_map.1 hx
    exact hs'
  all_goals exact (List.not_mem_nil hx).elim

/-- A claim that is asked for has a name, the namespace of the component, and the mark. -/
lemma metadata_of_mem_flatten {k : Claim}
    (hk : .claim k ∈ (Besides.demand kinds (·.objects)).flatten s t) :
    ∃ x ∈ creations kinds s t, x.claim = .ok k ∧ k.metadata =
      { name := some x.name, ns := some s.ns,
        annotations := some (.ofList [(s.settings.templateKey, Settings.templateMark)]) } := by
  have hmem : k ∈ (creations kinds s t).filterMap (·.claim.toOption) := by
    rw [← filterMap_claim?_flatten]
    exact List.mem_filterMap.2 ⟨.claim k, hk, rfl⟩
  obtain ⟨x, hx, hclaim⟩ := List.mem_filterMap.1 hmem
  have hok : x.claim = .ok k := by
    cases h : x.claim with
    | error failure => rw [h] at hclaim; cases hclaim
    | ok k' => rw [h] at hclaim; exact congrArg _ (Option.some.inj hclaim)
  obtain ⟨hsettings, hns⟩ := site_of_mem_creations hx
  refine ⟨x, hx, hok, ?_⟩
  rw [Creation.metadata_of_claim_eq_ok hok, Creation.metadata, hsettings, hns]

/-- Every claim that is asked for is marked as a template, and nothing else is a template. -/
lemma template?_of_mem_flatten {o : Companion}
    (ho : o ∈ (Besides.demand kinds (·.objects)).flatten s t) :
    o.template? s.settings = o.claim? := by
  cases o
  case claim k =>
    obtain ⟨x, -, -, hmetadata⟩ := metadata_of_mem_flatten ho
    have hmark : k.metadata.annotationValue? s.settings.templateKey =
        some Settings.templateMark := by
      rw [hmetadata]
      simp [Metadata.annotationValue?, SortedMap.ofList, SortedMap.get?_insert]
    rw [Companion.template?, if_pos hmark]
    rfl
  all_goals rfl

/-- **Claims count by their names.**  Of the objects that count, those that are claims are the first
claims of each name. -/
theorem claims_firsts_flatten (kinds : List TraitKind) (s : Site) (t : Traits) :
    (firsts (·.key) [] ((Besides.demand kinds (·.objects)).flatten s t)).filterMap
        Companion.claim? =
      firsts (·.metadata.name) [] ((creations kinds s t).filterMap (·.claim.toOption)) := by
  rw [← filterMap_claim?_flatten]
  refine filterMap_firsts (fun o ho k hk o' ho' => ?_) fun _ _ _ _ => by simp
  obtain rfl := Companion.claim?_eq_some.1 hk
  obtain ⟨x, -, -, hmetadata⟩ := metadata_of_mem_flatten ho
  constructor
  · intro hkey
    have hkind : o'.kind = "PersistentVolumeClaim" := congrArg Companion.Key.kind hkey
    cases o'
    case claim k' =>
      refine ⟨k', rfl, ?_⟩
      obtain ⟨x', -, -, hmetadata'⟩ := metadata_of_mem_flatten ho'
      have hname : (Companion.claim k').name = (Companion.claim k).name :=
        congrArg Companion.Key.name hkey
      simp only [Companion.name, Companion.metadata, hmetadata, hmetadata'] at hname ⊢
      exact congrArg some hname
    all_goals exact absurd hkind (by simp only [Companion.kind]; decide)
  · rintro ⟨k', hk', hname⟩
    obtain rfl := Companion.claim?_eq_some.1 hk'
    obtain ⟨x', -, -, hmetadata'⟩ := metadata_of_mem_flatten ho'
    rw [hmetadata, hmetadata'] at hname
    simp only [Companion.key, Companion.kind, Companion.ns, Companion.name, Companion.metadata,
      hmetadata, hmetadata', Metadata.anyName]
    rw [Option.some.inj hname]

end WorkloadTraits
