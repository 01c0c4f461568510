import WorkloadTraits.Builtin.Storage
import WorkloadTraits.Proofs.Contribution.Merge
import WorkloadTraits.Proofs.Dispatch.Outcome

/-!
# Storage entries and their parts

Every entry has a type and a name, which are checked, and the first entry of each name becomes a
part.  `Storage.parts_eq_ok` says both at once: what has to be the case for all entries, and what
the parts are.  The volume, the mount and the claim of a part have one name.
-/

namespace WorkloadTraits

namespace Storage

/-- The entries from an index on, each under the name of its volume. -/
def named (site : Site) (index : Nat) (entries : List StorageEntry) :
    List (String × StorageEntry) :=
  (entries.zipIdx index).map fun e => (e.1.volumeName site e.2, e.1)

/-- The entries of which something becomes: the first of each name. -/
def counted (site : Site) (entries : List StorageEntry) : List (String × StorageEntry) :=
  firsts Prod.fst [] (named site 0 entries)

/-- An entry with a known type, under a name that is a label. -/
def Checked (e : String × StorageEntry) : Prop :=
  (∃ kind, StorageKind.read e.2.type = .ok kind) ∧ Label.fault? e.1 = none

/-- What becomes of an entry under a name. -/
def Becomes (site : Site) (e : String × StorageEntry) (p : StoragePart) : Prop :=
  ∃ kind, StorageKind.read e.2.type = .ok kind ∧ part site kind e.2 e.1 = .ok p

lemma checkedName_eq_ok {site : Site} {index : Nat} {e : StorageEntry} {name : String} :
    e.checkedName site index = .ok name ↔
      Label.fault? (e.volumeName site index) = none ∧ e.volumeName site index = name := by
  rw [StorageEntry.checkedName]
  cases Label.fault? (e.volumeName site index) <;> simp

/-- Storage entries succeed when all are checked and something becomes of the first of each
name. -/
theorem parts_eq_ok {site : Site} {index : Nat} {seen : List String}
    {entries : List StorageEntry} {ps : List StoragePart} :
    parts site index seen entries = .ok ps ↔
      (∀ e ∈ named site index entries, Checked e) ∧
        List.Forall₂ (Becomes site) (firsts Prod.fst seen (named site index entries)) ps := by
  induction entries generalizing index seen ps with
  | nil =>
      show Except.ok [] = Except.ok ps ↔ _
      rw [named, List.zipIdx_nil, List.map_nil, firsts_nil, List.forall₂_nil_left_iff]
      simp [eq_comm]
  | cons e rest ih =>
      have hnamed : named site index (e :: rest) =
          (e.volumeName site index, e) :: named site (index + 1) rest := rfl
      rw [parts, hnamed, List.forall_mem_cons, firsts, bind_eq_ok]
      constructor
      · rintro ⟨kind, hkind, h⟩
        obtain ⟨name, hname, h⟩ := bind_eq_ok.1 h
        obtain ⟨hlabel, rfl⟩ := checkedName_eq_ok.1 hname
        by_cases hseen : e.volumeName site index ∈ seen
        · rw [if_pos hseen] at h ⊢
          exact ⟨⟨⟨⟨kind, hkind⟩, hlabel⟩, (ih.1 h).1⟩, (ih.1 h).2⟩
        · rw [if_neg hseen] at h ⊢
          obtain ⟨first, hfirst, h⟩ := bind_eq_ok.1 h
          obtain ⟨others, hothers, h⟩ := bind_eq_ok.1 h
          obtain rfl := Except.ok.inj h
          exact ⟨⟨⟨⟨kind, hkind⟩, hlabel⟩, (ih.1 hothers).1⟩,
            .cons ⟨kind, hkind, hfirst⟩ (ih.1 hothers).2⟩
      · rintro ⟨⟨⟨⟨kind, hkind⟩, hlabel⟩, hchecked⟩, hbecomes⟩
        refine ⟨kind, hkind, bind_eq_ok.2 ⟨_, checkedName_eq_ok.2 ⟨hlabel, rfl⟩, ?_⟩⟩
        by_cases hseen : e.volumeName site index ∈ seen
        · rw [if_pos hseen] at hbecomes ⊢
          exact ih.2 ⟨hchecked, hbecomes⟩
        · rw [if_neg hseen] at hbecomes ⊢
          obtain ⟨first, others, ⟨kind', hkind', hfirst⟩, hothers, rfl⟩ :=
            List.forall₂_cons_left_iff.1 hbecomes
          obtain rfl := Except.ok.inj (hkind.symm.trans hkind')
          exact bind_eq_ok.2 ⟨first, hfirst,
            bind_eq_ok.2 ⟨others, ih.2 ⟨hchecked, hothers⟩, rfl⟩⟩

/-! ## Parts -/

/-- The claim of a part, which only a persistent volume that is to be created has. -/
lemma part_eq_ok {site : Site} {kind : StorageKind} {e : StorageEntry} {name : String}
    {p : StoragePart} :
    part site kind e name = .ok p ↔
      ∃ claim, (if kind = .persistent ∧ e.create = true then (e.claim site name).map some
        else .ok none) = .ok claim ∧ ⟨e.volume site kind name, e.mount name, claim⟩ = p := by
  rw [part]
  by_cases hcreate : kind = .persistent ∧ e.create = true
  · rw [if_pos hcreate, if_pos hcreate, bind_eq_ok]
    simp only [pure, Except.pure, Except.ok.injEq]
  · rw [if_neg hcreate, if_neg hcreate, bind_eq_ok]
    simp only [pure, Except.pure, Except.ok.injEq]

/-- The volume of an entry is found under the entry's name, whatever it is made of. -/
@[simp] lemma name_volume (site : Site) (kind : StorageKind) (e : StorageEntry) (name : String) :
    (e.volume site kind name).name = name := by
  cases kind <;> rfl

lemma claim_eq_ok {site : Site} {e : StorageEntry} {name : String} {c : Claim}
    (h : e.claim site name = .ok c) : c.metadata.name = some name := by
  obtain ⟨size, -, h⟩ := bind_eq_ok.1 h
  rw [← Except.ok.inj h]

/-- What becomes of an entry goes by the entry's name. -/
lemma Becomes.names {site : Site} {e : String × StorageEntry} {p : StoragePart}
    (h : Becomes site e p) :
    p.volume.name = e.1 ∧ p.mount = e.2.mount e.1 ∧
      ∀ c, p.claim = some c → c.metadata.name = some e.1 := by
  obtain ⟨kind, -, hpart⟩ := h
  obtain ⟨claim, hclaim, rfl⟩ := part_eq_ok.1 hpart
  refine ⟨name_volume site kind e.2 e.1, rfl, ?_⟩
  rintro c rfl
  split at hclaim
  · obtain ⟨c', hc', hsome⟩ := map_eq_ok.1 hclaim
    obtain rfl := Option.some.inj hsome
    exact claim_eq_ok hc'
  · cases hclaim

/-- The parts of storage entries, one for each name. -/
def made (site : Site) (entries : List StorageEntry) : List StoragePart :=
  (counted site entries).filterMap fun e =>
    (StorageKind.read e.2.type >>= fun kind => part site kind e.2 e.1).toOption

lemma parts_eq_made {site : Site} {entries : List StorageEntry} {ps : List StoragePart}
    (h : parts site 0 [] entries = .ok ps) : made site entries = ps := by
  refine filterMap_eq_of_forall₂ (parts_eq_ok.1 h).2 fun e p hp => ?_
  obtain ⟨kind, hkind, hpart⟩ := hp
  rw [bind_eq_ok.2 ⟨kind, hkind, hpart⟩]
  rfl

/-- The mounts of storage entries, one for each name. -/
def mounts (site : Site) (entries : List StorageEntry) : List VolumeMount :=
  (counted site entries).map fun e => e.2.mount e.1

lemma mounts_eq {site : Site} {entries : List StorageEntry} {ps : List StoragePart}
    (h : parts site 0 [] entries = .ok ps) : ps.map (·.mount) = mounts site entries := by
  obtain ⟨-, hbecomes⟩ := parts_eq_ok.1 h
  clear h
  rw [mounts, counted]
  generalize firsts Prod.fst [] (named site 0 entries) = es at hbecomes ⊢
  induction hbecomes with
  | nil => rfl
  | cons hp _ ih => rw [List.map_cons, List.map_cons, ih, hp.names.2.1]

end Storage

end WorkloadTraits
