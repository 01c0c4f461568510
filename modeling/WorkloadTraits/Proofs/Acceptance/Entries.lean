import WorkloadTraits.Proofs.Builtin.Ingress
import WorkloadTraits.Proofs.Builtin.Kinds
import WorkloadTraits.Proofs.Builtin.Level
import WorkloadTraits.Proofs.Builtin.Storage
import WorkloadTraits.Proofs.Text.Trimming

/-!
# Valid entries

For each kind of trait, what an author has to get right, said in terms of the payload alone: which
spellings of a type are known, which texts must not be blank, what must be given exactly once.
Every condition comes with the proof that the processor of the kind asks for just that.
-/

namespace WorkloadTraits

/-! ## Texts -/

lemma trimmed?_eq_some {s t : String} :
    trimmed? s = some t ↔ Text.isBlankText s = false ∧ Text.trim s = t := by
  rw [trimmed?, Text.given?]
  by_cases hblank : Text.isBlankText s = true
  · simp [hblank, Text.trim_eq_empty.2 hblank]
  · have htrim : ¬ Text.trim s = "" := fun h => hblank (Text.trim_eq_empty.1 h)
    simp [hblank, htrim]

namespace Label

/-- A label in the sense of RFC 1123. -/
structure IsLabel (name : String) : Prop where
  nonempty : name.toList ≠ []
  /-- The size is counted in UTF-8 bytes. -/
  size : name.utf8ByteSize ≤ 63
  chars : ∀ c ∈ name.toList, isLabelChar c = true
  head : name.toList.head? ≠ some '-'
  last : name.toList.getLast? ≠ some '-'

lemma fault?_eq_none {name : String} : fault? name = none ↔ IsLabel name := by
  rw [fault?]
  constructor
  · intro h
    split at h
    · cases h
    · rename_i hnonempty
      split at h
      · cases h
      · rename_i hsize
        split at h
        · cases h
        · rename_i hchars
          split at h
          · cases h
          · rename_i hends
            simp only [Bool.or_eq_true, beq_iff_eq, not_or] at hends
            simp only [Bool.not_eq_true', Bool.not_eq_false, List.all_eq_true] at hchars
            exact ⟨hnonempty, Nat.not_lt.1 hsize, hchars, hends.1, hends.2⟩
  · rintro ⟨hnonempty, hsize, hchars, hhead, hlast⟩
    have hall : name.toList.all isLabelChar = true := List.all_eq_true.2 hchars
    simp [hnonempty, Nat.not_lt.2 hsize, hall, hhead, hlast]

end Label

/-! ## Storage -/

namespace StorageKind

/-- The known types of storage, as they are compared. -/
def known : List String :=
  ["persistent", "pvc", "ephemeral", "emptydir", "host-mounted", "hostpath", "config",
    "configmap", "secret"]

/-- The types of storage that stand for a persistent volume. -/
def persistentTypes : List String := ["persistent", "pvc"]

lemma read_succeeds {raw : String} :
    (∃ kind, read raw = .ok kind) ↔ TraitKind.keyword raw ∈ known := by
  have hknown : TraitKind.keyword raw ∈ known ↔
      ∃ k ∈ all, k.spellings.contains (TraitKind.keyword raw) = true := by
    have hspellings : known = all.flatMap spellings := rfl
    simp only [hspellings, List.mem_flatMap, List.contains_iff_mem]
  rw [read, hknown, ← List.find?_isSome]
  cases all.find? fun k => k.spellings.contains (TraitKind.keyword raw) <;> simp

lemma read_eq_persistent {raw : String} :
    read raw = .ok .persistent ↔ TraitKind.keyword raw ∈ persistentTypes := by
  have hfirst : persistentTypes = persistent.spellings := rfl
  rw [read, all, hfirst, ← List.contains_iff_mem, List.find?_cons]
  cases persistent.spellings.contains (TraitKind.keyword raw) with
  | true => simp
  | false =>
      dsimp only
      split
      · rename_i kind hfind
        have hrest := List.mem_of_find?_eq_some hfind
        refine ⟨fun h => ?_, nofun⟩
        rw [Except.ok.inj h] at hrest
        revert hrest
        decide
      · exact ⟨nofun, nofun⟩

end StorageKind

namespace Storage

/-- Valid storage entries: each has a known type and a name that is a label, and the first entry
of each name, if it creates a persistent volume, has a size. -/
structure Valid (site : Site) (entries : List StorageEntry) : Prop where
  types : ∀ e ∈ entries, TraitKind.keyword e.type ∈ StorageKind.known
  names : ∀ e ∈ named site 0 entries, Label.IsLabel e.1
  sizes : ∀ e ∈ counted site entries,
    TraitKind.keyword e.2.type ∈ StorageKind.persistentTypes → e.2.create = true →
      ∃ q, Quantity.read
        (Text.firstNonEmpty [Text.trim e.2.size, site.settings.defaultClaimSize]) = .ok q

lemma forall_named {site : Site} {index : Nat} {entries : List StorageEntry}
    {P : StorageEntry → Prop} : (∀ e ∈ named site index entries, P e.2) ↔ ∀ e ∈ entries, P e := by
  have hentries : (named site index entries).map Prod.snd = entries := by
    rw [named, List.map_map]
    exact List.zipIdx_map_fst index entries
  rw [← List.forall_mem_map (P := P) (f := Prod.snd), hentries]

lemma claim_succeeds {site : Site} {e : StorageEntry} (name : String) :
    (∃ c, e.claim site name = .ok c) ↔
      ∃ q, Quantity.read
        (Text.firstNonEmpty [Text.trim e.size, site.settings.defaultClaimSize]) = .ok q := by
  simp only [StorageEntry.claim, exists_bind_pure_ok, Resources.readQuantity_eq_ok,
    exists_and_left, exists_eq', and_true]

/-- Of the types, only that of a persistent volume can make an entry fail that has been checked. -/
lemma becomes_succeeds {site : Site} {e : String × StorageEntry} (he : Checked e) :
    (∃ p, Becomes site e p) ↔
      (TraitKind.keyword e.2.type ∈ StorageKind.persistentTypes → e.2.create = true →
        ∃ q, Quantity.read
          (Text.firstNonEmpty [Text.trim e.2.size, site.settings.defaultClaimSize]) = .ok q) := by
  obtain ⟨⟨kind, hkind⟩, -⟩ := he
  rw [← StorageKind.read_eq_persistent, hkind, ← claim_succeeds e.1]
  simp only [Becomes, hkind, part_eq_ok, Except.ok.injEq]
  by_cases hcreate : kind = .persistent ∧ e.2.create = true
  · obtain ⟨rfl, hcreate⟩ := hcreate
    simp [hcreate, map_eq_ok]
  · have hskip : kind = .persistent → ¬ e.2.create = true := fun hk hc => hcreate ⟨hk, hc⟩
    refine ⟨fun _ hk hc => absurd hc (hskip hk), fun _ => ⟨_, kind, rfl, none, ?_, rfl⟩⟩
    rw [if_neg hcreate]

theorem contribution_succeeds {site : Site} {entries : List StorageEntry} :
    (∃ c, contribution site entries = .ok c) ↔ Valid site entries := by
  simp only [contribution, exists_bind_pure_ok, parts_eq_ok, exists_and_left, exists_forall₂]
  have hchecked : (∀ e ∈ named site 0 entries, Checked e) ↔
      (∀ e ∈ entries, TraitKind.keyword e.type ∈ StorageKind.known) ∧
        ∀ e ∈ named site 0 entries, Label.IsLabel e.1 := by
    simp only [Checked, StorageKind.read_succeeds, Label.fault?_eq_none]
    rw [← forall_named, ← forall₂_and]
  rw [hchecked]
  constructor
  · rintro ⟨⟨htypes, hnames⟩, hbecomes⟩
    refine ⟨htypes, hnames, fun e he => (becomes_succeeds ?_).1 (hbecomes e he)⟩
    exact hchecked.2 ⟨htypes, hnames⟩ e ((firsts_sublist _ _ _).subset he)
  · rintro ⟨htypes, hnames, hsizes⟩
    refine ⟨⟨htypes, hnames⟩, fun e he => (becomes_succeeds ?_).2 (hsizes e he)⟩
    exact hchecked.2 ⟨htypes, hnames⟩ e ((firsts_sublist _ _ _).subset he)

end Storage

/-! ## Environment -/

/-- A source of variables with a name and a known type. -/
def EnvSourceEntry.Valid (e : EnvSourceEntry) : Prop :=
  Text.isBlankText e.sourceName = false ∧
    TraitKind.keyword e.type ∈ ["configmap", "config", "secret"]

lemma EnvSourceEntry.source_succeeds {e : EnvSourceEntry} :
    (∃ s, e.source = .ok s) ↔ e.Valid := by
  rw [source, Valid]
  by_cases hblank : Text.isBlankText e.sourceName = true
  · simp [hblank, Text.trim_eq_empty.2 hblank]
  · have hname : ¬ Text.trim e.sourceName = "" := fun h => hblank (Text.trim_eq_empty.1 h)
    by_cases hconfig : TraitKind.keyword e.type = "configmap" ∨
        TraitKind.keyword e.type = "config"
    · rcases hconfig with hconfig | hconfig <;> simp [hblank, hname, hconfig]
    · by_cases hsecret : TraitKind.keyword e.type = "secret"
      · simp [hblank, hname, hsecret]
      · rw [not_or] at hconfig
        simp [hname, hconfig.1, hconfig.2, hsecret]

/-- A variable with a name and with exactly one source for its value. -/
def EnvEntry.Valid (e : EnvEntry) : Prop :=
  Text.isBlankText e.name = false ∧
    [e.valueFrom.static.isSome, e.valueFrom.secret.isSome, e.valueFrom.config.isSome,
      e.valueFrom.field.isSome].count true = 1

lemma ValueSource.toVariable?_succeeds (name : String) {v : ValueSource} :
    (∃ x, v.toVariable? name = some x) ↔
      [v.static.isSome, v.secret.isSome, v.config.isSome, v.field.isSome].count true = 1 := by
  obtain ⟨static, secret, config, field⟩ := v
  cases static <;> cases secret <;> cases config <;> cases field <;> simp [toVariable?]

lemma EnvEntry.toVariable_succeeds {e : EnvEntry} : (∃ v, e.toVariable = .ok v) ↔ e.Valid := by
  rw [toVariable, Valid]
  by_cases hblank : Text.isBlankText e.name = true
  · simp [hblank, Text.trim_eq_empty.2 hblank]
  · have hname : ¬ Text.trim e.name = "" := fun h => hblank (Text.trim_eq_empty.1 h)
    rw [← ValueSource.toVariable?_succeeds (Text.trim e.name)]
    cases e.valueFrom.toVariable? (Text.trim e.name) <;> simp [hblank, hname]

/-! ## Resources -/

/-- Limits that are amounts, where they are given. -/
def ResourceEntry.Valid (e : ResourceEntry) : Prop :=
  ∀ raw ∈ [e.cpu, e.memory, e.gpu], Text.isBlankText raw = false →
    ∃ q, Quantity.read raw = .ok q

lemma Resources.contribution_succeeds {site : Site} {e : ResourceEntry} :
    (∃ c, contribution site e = .ok c) ↔ e.Valid := by
  rw [contribution, exists_bind_pure_ok]
  simp [limits_eq_ok, given, ResourceEntry.Valid, List.mem_filter]

/-! ## Probes -/

/-- A probe of a known type with exactly one thing to do. -/
def ProbeEntry.Valid (e : ProbeEntry) : Prop :=
  TraitKind.keyword e.type ∈ ["liveness", "readiness", "startup"] ∧
    [e.exec.isSome, e.httpGet.isSome, e.tcpSocket.isSome].count true = 1

namespace Probes

/-- The kind that a keyword names. -/
def kindOf? (word : String) : Option ProbeKind :=
  [ProbeKind.liveness, .readiness, .startup].find? (·.name == word)

lemma kind?_eq (e : ProbeEntry) : kind? e = kindOf? (TraitKind.keyword e.type) := by
  rw [kind?, ProbeKind.read, ← kindOf?]
  cases kindOf? (TraitKind.keyword e.type) <;> rfl

lemma kindOf?_eq_some {word : String} {k : ProbeKind} : kindOf? word = some k ↔ k.name = word := by
  constructor
  · intro h
    exact beq_iff_eq.1 (List.find?_some (p := fun k : ProbeKind => k.name == word) h)
  · rintro rfl
    cases k <;> decide

lemma exists_kindOf? {word : String} :
    (∃ k, kindOf? word = some k) ↔ word ∈ ["liveness", "readiness", "startup"] := by
  simp only [kindOf?_eq_some]
  constructor
  · rintro ⟨k, rfl⟩
    cases k <;> decide
  · intro h
    simp only [List.mem_cons, List.not_mem_nil, or_false] at h
    rcases h with rfl | rfl | rfl
    · exact ⟨.liveness, rfl⟩
    · exact ⟨.readiness, rfl⟩
    · exact ⟨.startup, rfl⟩

lemma sound_iff {e : ProbeEntry} : Sound e ↔ e.Valid := by
  have hkind : (∃ k, ProbeKind.read e.type = .ok k) ↔
      TraitKind.keyword e.type ∈ ["liveness", "readiness", "startup"] := by
    simp only [← kind?_eq_some, kind?_eq, exists_kindOf?]
  have hprobe : (∃ p, e.probe = .ok p) ↔
      [e.exec.isSome, e.httpGet.isSome, e.tcpSocket.isSome].count true = 1 := by
    rw [ProbeEntry.probe, ← ProbeEntry.actionCount]
    by_cases hcount : e.actionCount = 1 <;> simp [hcount]
  rw [Sound, ProbeEntry.Valid, hkind, hprobe]

/-- Different known types stand for different kinds. -/
lemma nodup_map_kind? {entries : List ProbeEntry} (h : ∀ e ∈ entries, e.Valid) :
    (entries.map kind?).Nodup ↔ (entries.map fun e => TraitKind.keyword e.type).Nodup := by
  have hmap : entries.map kind? =
      (entries.map fun e => TraitKind.keyword e.type).map kindOf? := by
    simp only [List.map_map, Function.comp_def, ← kind?_eq]
  rw [hmap]
  refine ⟨List.Nodup.of_map _, fun hnodup => hnodup.map_on fun word hword word' _ heq => ?_⟩
  obtain ⟨e, he, rfl⟩ := List.mem_map.1 hword
  obtain ⟨k, hk⟩ := exists_kindOf?.2 (h e he).1
  rw [hk] at heq
  exact (kindOf?_eq_some.1 hk).symm.trans (kindOf?_eq_some.1 heq.symm)

theorem contribution_succeeds {site : Site} {entries : List ProbeEntry} :
    (∃ c, contribution site entries = .ok c) ↔
      (∀ e ∈ entries, e.Valid) ∧ (entries.map fun e => TraitKind.keyword e.type).Nodup := by
  simp only [contribution_eq_ok, exists_and_left, exists_eq', and_true, sound_iff]
  exact and_congr_right fun h => nodup_map_kind? h

end Probes

/-! ## Access -/

lemma Access.contribution_succeeds {site : Site} {policies : List AccessPolicy} :
    (∃ c, contribution site policies = .ok c) ↔
      ∀ p ∈ policies, ∀ r ∈ p.rules, r.verbs ≠ [] := by
  simp only [contribution, exists_bind_pure_ok, objects_eq_ok, exists_and_left, exists_eq',
    and_true]

/-! ## Containers -/

/-- A property of entries does not depend on where they stand. -/
lemma forall_zipIdx {α : Type} (P : α → Prop) {as : List α} {index : Nat} :
    (∀ a ∈ as.zipIdx index, P a.1) ↔ ∀ a ∈ as, P a := by
  have hfst : (as.zipIdx index).map Prod.fst = as := List.zipIdx_map_fst index as
  constructor
  · intro h a ha
    rw [← hfst] at ha
    obtain ⟨e, he, rfl⟩ := List.mem_map.1 ha
    exact h e he
  · intro h e he
    refine h e.1 ?_
    rw [← hfst]
    exact List.mem_map_of_mem he

namespace Containers

variable {site : Site} {answer : Nested → Except Failure Contribution}

lemma initPiece_succeeds {e : InitEntry Traits × Nat} :
    (∃ p, initPiece site answer e = .ok p) ↔
      Text.isBlankText e.1.properties.image = false ∧
        ∃ n, nestedOutcome answer (initRequest site e) = .ok n := by
  constructor
  · rintro ⟨p, h⟩
    obtain ⟨image, n, himage, hn, -⟩ := initPiece_eq_ok.1 h
    exact ⟨(trimmed?_eq_some.1 himage).1, n, hn⟩
  · rintro ⟨hblank, n, hn⟩
    exact ⟨_, initPiece_eq_ok.2 ⟨_, n, trimmed?_eq_some.2 ⟨hblank, rfl⟩, hn, rfl⟩⟩

/-- Init entries need an image each, and that their levels succeed. -/
theorem initContribution_succeeds {entries : List (InitEntry Traits)} :
    (∃ c, initContribution site answer entries = .ok c) ↔
      (∀ e ∈ entries, Text.isBlankText e.properties.image = false) ∧
        ∀ e ∈ entries.zipIdx, ∃ n, nestedOutcome answer (initRequest site e) = .ok n := by
  simp only [initContribution, exists_map_ok, exists_mapM_ok, initPiece_succeeds]
  rw [forall₂_and]
  exact and_congr_left fun _ =>
    forall_zipIdx fun e : InitEntry Traits => Text.isBlankText e.properties.image = false

/-- Sidecars that pass have an image each, and no sidecars of their own. -/
lemma checkSidecars_eq_ok {index : Nat} {entries : List (SidecarEntry Traits)} :
    checkSidecars site index entries = .ok () ↔
      ∀ e ∈ entries, e.traits.sidecar = [] ∧ Text.isBlankText e.image = false := by
  induction entries generalizing index with
  | nil => simp [checkSidecars]
  | cons e rest ih =>
      have hrest : checkSidecars site (index + 1) rest = .ok () ↔ _ := ih
      rw [checkSidecars, List.forall_mem_cons, ← hrest]
      by_cases hnested : e.traits.sidecar = []
      · by_cases himage : Text.isBlankText e.image = true
        · simp [hnested, himage]
        · simp [hnested, himage]
      · simp [hnested]

/-- Sidecars need to pass their check, and that their levels succeed. -/
theorem sidecarContribution_succeeds {entries : List (SidecarEntry Traits)} :
    (∃ c, sidecarContribution site answer entries = .ok c) ↔
      (∀ e ∈ entries, e.traits.sidecar = [] ∧ Text.isBlankText e.image = false) ∧
        ∀ e ∈ entries.zipIdx, ∃ n, nestedOutcome answer (sidecarRequest site e) = .ok n := by
  simp only [sidecarContribution_eq_ok, checkSidecars_eq_ok, exists_and_left]
  refine and_congr_right fun _ => ?_
  constructor
  · rintro ⟨_, pieces, hpieces, -⟩ e he
    exact exists_map_ok.1 (exists_forall₂.1 ⟨pieces, hpieces⟩ e he)
  · intro h
    obtain ⟨pieces, hpieces⟩ := exists_forall₂.2 fun e he => exists_map_ok.2 (h e he)
    exact ⟨_, pieces, hpieces, rfl⟩

end Containers

/-! ## Ingress -/

lemma Ingresses.objects_succeeds {site : Site} {answer : Nested → Except Failure Contribution}
    {entries : List (Option IngressEntry)} :
    (∃ os, (objects site 0 entries).eval answer = .ok os) ↔
      ∀ e ∈ entries, ∃ entry, e = some entry ∧ entry.Sound := by
  simp only [objects_eval_eq_ok, exists_forall₂, exists_becomes]
  exact forall_zipIdx fun e : Option IngressEntry => ∃ entry, e = some entry ∧ entry.Sound

end WorkloadTraits
