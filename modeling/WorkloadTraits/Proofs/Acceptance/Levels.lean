import WorkloadTraits.Proofs.Acceptance.Entries

/-!
# When a payload is accepted

Acceptance is spread over all processors and over all levels of a payload.  Put together, it comes
to this: a payload is accepted if and only if each of its levels is valid, where the levels are
those of the component, of its init entries and sidecars, and of the sidecars within its init
entries (`dispatch_succeeds_iff`).  Neither the order of the processors nor the depth that is
allowed makes a difference, as long as there is room for these levels.

One level is taken apart kind by kind (`levelOutcome_succeeds`); that its nested levels succeed is
then three cases, since every level bars what the level above it bars.
-/

namespace WorkloadTraits

/-- What an author has to get right about a kind at the level of a container. -/
def Traits.ValidFor (site : Site) (t : Traits) : TraitKind → Prop
  | .storage => Storage.Valid site t.storage
  | .secret => True
  | .envFrom => ∀ e ∈ t.envFrom, e.Valid
  | .envs => ∀ e ∈ t.envs, e.Valid
  | .resources => ∀ e, t.resources = some e → e.Valid
  | .probes =>
    (∀ e ∈ t.probes, e.Valid) ∧ (t.probes.map fun e => TraitKind.keyword e.type).Nodup
  | .rbac => ∀ p ∈ t.rbac, ∀ r ∈ p.rules, r.verbs ≠ []
  | .init => ∀ e ∈ t.init, Text.isBlankText e.properties.image = false
  | .sidecar => ∀ e ∈ t.sidecar, e.traits.sidecar = [] ∧ Text.isBlankText e.image = false
  | .ingress => ∀ e ∈ t.ingress, ∃ entry, e = some entry ∧ entry.Sound

/-- What a kind needs of the levels that it opens. -/
def Traits.NestedSucceed (site : Site) (answer : Nested → Except Failure Contribution)
    (t : Traits) : TraitKind → Prop
  | .init => ∀ e ∈ t.init.zipIdx, ∃ n, nestedOutcome answer (Containers.initRequest site e) = .ok n
  | .sidecar =>
    ∀ e ∈ t.sidecar.zipIdx, ∃ n, nestedOutcome answer (Containers.sidecarRequest site e) = .ok n
  | .storage | .secret | .envFrom | .envs | .resources | .probes | .rbac | .ingress => True

/-- Every kind asks for what it says, and that its nested levels succeed. -/
theorem kindContribution_succeeds {site : Site} {answer : Nested → Except Failure Contribution}
    {t : Traits} (k : TraitKind) :
    (∃ c, kindContribution site answer t k = .ok c) ↔
      t.ValidFor site k ∧ t.NestedSucceed site answer k := by
  cases k with
  | storage => exact Storage.contribution_succeeds.trans (and_iff_left trivial).symm
  | secret => exact ⟨fun _ => ⟨trivial, trivial⟩, fun _ => ⟨_, rfl⟩⟩
  | envFrom =>
      simp only [kindContribution, Environment.sourceContribution_eq_ok, exists_and_left,
        exists_eq', and_true, EnvSourceEntry.source_succeeds, Traits.ValidFor,
        Traits.NestedSucceed]
  | envs =>
      simp only [kindContribution, Environment.variableContribution_eq_ok, exists_and_left,
        exists_eq', and_true, EnvEntry.toVariable_succeeds, Traits.ValidFor,
        Traits.NestedSucceed]
  | resources =>
      simp only [kindContribution, Traits.ValidFor, Traits.NestedSucceed, and_true]
      cases t.resources with
      | none => simp
      | some e =>
          simp only [Option.some.injEq, forall_eq']
          exact exists_map_ok.trans Resources.contribution_succeeds
  | probes => exact Probes.contribution_succeeds.trans (and_iff_left trivial).symm
  | rbac => exact Access.contribution_succeeds.trans (and_iff_left trivial).symm
  | init => exact Containers.initContribution_succeeds
  | sidecar => exact Containers.sidecarContribution_succeeds
  | ingress =>
      exact (exists_map_ok.trans Ingresses.objects_succeeds).trans (and_iff_left trivial).symm

namespace Registry

/-- A registry of all built-in processors, in whatever order. -/
def IsComplete (r : Registry) : Prop := r.processors.Perm builtinProcessors

lemma IsComplete.isBuiltin {r : Registry} (h : r.IsComplete) : r.IsBuiltin :=
  fun p hp => isBuiltin_builtin p (h.mem_iff.1 hp)

lemma IsComplete.mem_kinds {r : Registry} (h : r.IsComplete) (k : TraitKind) : k ∈ r.kinds :=
  (h.map (·.kind)).mem_iff.2 (mem_kinds_builtin k)

end Registry

namespace Dispatcher

variable {d : Dispatcher} {l : Level} {answer : Nested → Except Failure Contribution}

/-- A level at which every kind that is not barred is valid. -/
def Valid (d : Dispatcher) (l : Level) : Prop :=
  ∀ k, l.barred.contains k = false → l.traits.ValidFor (d.site l) k

/-- A level succeeds when it is valid and its nested levels succeed. -/
theorem levelOutcome_succeeds (hcomplete : d.registry.IsComplete) :
    (∃ c, d.levelOutcome answer l = .ok c) ↔
      d.Valid l ∧ ∀ k, l.barred.contains k = false →
        l.traits.NestedSucceed (d.site l) answer k := by
  have hkind : ∀ k, (∃ c, d.kindOutcome answer l k = .ok c) ↔
      (l.barred.contains k = false → l.traits.ValidFor (d.site l) k ∧
        l.traits.NestedSucceed (d.site l) answer k) := by
    intro k
    simp only [kindOutcome_eq_ok]
    cases l.barred.contains k with
    | true => simp
    | false =>
        simp only [Bool.false_eq_true, if_false, forall_const]
        exact kindContribution_succeeds k
  rw [levelOutcome_builtin hcomplete.isBuiltin, exists_map_ok, exists_mapM_ok]
  simp only [hkind]
  constructor
  · intro h
    exact ⟨fun k hk => (h k (hcomplete.mem_kinds k) hk).1,
      fun k hk => (h k (hcomplete.mem_kinds k) hk).2⟩
  · exact fun ⟨hvalid, hnested⟩ k _ hk => ⟨hvalid k hk, hnested k hk⟩

/-- Whether a level succeeds with room for so many levels below it. -/
def Succeeds (d : Dispatcher) (room : Nat) (l : Level) : Prop :=
  ∃ c, d.outcomeWithin room l = .ok c

/-- That nested traits which say nothing are not processed makes no difference. -/
lemma nestedOutcome_below (room : Nat) (request : Nested) :
    nestedOutcome (fun request => d.outcomeWithin room (below l request)) request =
      d.outcomeWithin room (below l request) := by
  rw [nestedOutcome]
  split
  · rename_i hempty
    cases room with
    | zero => exact (levelOutcome_of_isEmpty hempty).symm
    | succ room => exact (levelOutcome_of_isEmpty hempty).symm
  · rfl

/-- With room below, a level succeeds when it is valid and its nested levels succeed. -/
lemma succeeds_succ (hcomplete : d.registry.IsComplete) {room : Nat} :
    d.Succeeds (room + 1) l ↔
      d.Valid l ∧
        (l.barred.contains .init = false → ∀ e ∈ l.traits.init.zipIdx,
          d.Succeeds room (below l (Containers.initRequest (d.site l) e))) ∧
        (l.barred.contains .sidecar = false → ∀ e ∈ l.traits.sidecar.zipIdx,
          d.Succeeds room (below l (Containers.sidecarRequest (d.site l) e))) := by
  have hnested : (∀ k, l.barred.contains k = false → l.traits.NestedSucceed (d.site l)
      (fun request => d.outcomeWithin room (below l request)) k) ↔
        (l.barred.contains .init = false → ∀ e ∈ l.traits.init.zipIdx,
          d.Succeeds room (below l (Containers.initRequest (d.site l) e))) ∧
        (l.barred.contains .sidecar = false → ∀ e ∈ l.traits.sidecar.zipIdx,
          d.Succeeds room (below l (Containers.sidecarRequest (d.site l) e))) := by
    constructor
    · intro h
      have hinit := h .init
      have hsidecar := h .sidecar
      simp only [Traits.NestedSucceed, nestedOutcome_below] at hinit hsidecar
      exact ⟨hinit, hsidecar⟩
    · rintro ⟨hinit, hsidecar⟩ k hk
      cases k
      case init =>
        simp only [Traits.NestedSucceed, nestedOutcome_below]
        exact hinit hk
      case sidecar =>
        simp only [Traits.NestedSucceed, nestedOutcome_below]
        exact hsidecar hk
      all_goals exact trivial
  rw [← hnested]
  exact levelOutcome_succeeds hcomplete

/-- Below a sidecar there are no more levels, so no room is needed. -/
lemma succeeds_of_barred (hcomplete : d.registry.IsComplete) {room : Nat}
    (hinit : l.barred.contains .init = true) (hsidecar : l.barred.contains .sidecar = true) :
    d.Succeeds room l ↔ d.Valid l := by
  have hnone : ∀ answer k, l.barred.contains k = false →
      l.traits.NestedSucceed (d.site l) answer k := by
    intro answer k hk
    cases k
    case init =>
      rw [hinit] at hk
      cases hk
    case sidecar =>
      rw [hsidecar] at hk
      cases hk
    all_goals exact trivial
  cases room with
  | zero => exact (levelOutcome_succeeds hcomplete).trans (and_iff_left (hnone _))
  | succ room => exact (levelOutcome_succeeds hcomplete).trans (and_iff_left (hnone _))

/-! ## The levels of a payload -/

/-- The level of a component's own traits. -/
def top (d : Dispatcher) (t : Traits) : Level where
  traits := t
  target := d.component.name

/-- The level of an entry of init traits. -/
def initLevel (d : Dispatcher) (l : Level) (e : InitEntry Traits × Nat) : Level :=
  below l (Containers.initRequest (d.site l) e)

/-- The level of a sidecar. -/
def sidecarLevel (d : Dispatcher) (l : Level) (e : SidecarEntry Traits × Nat) : Level :=
  below l (Containers.sidecarRequest (d.site l) e)

/-- The levels that the entries of a kind open, in order. -/
def openings (d : Dispatcher) (l : Level) : TraitKind → List Nested
  | .init => l.traits.init.zipIdx.map (Containers.initRequest (d.site l))
  | .sidecar => l.traits.sidecar.zipIdx.map (Containers.sidecarRequest (d.site l))
  | .storage | .secret | .envFrom | .envs | .resources | .probes | .rbac | .ingress => []

/-- The levels of a payload: its own, those of its init entries and sidecars, and those of the
sidecars within its init entries. -/
inductive Dispatched (d : Dispatcher) (t : Traits) : Level → Prop where
  | own : Dispatched d t (d.top t)
  | init {e : InitEntry Traits × Nat} (he : e ∈ t.init.zipIdx) :
      Dispatched d t (d.initLevel (d.top t) e)
  | sidecar {e : SidecarEntry Traits × Nat} (he : e ∈ t.sidecar.zipIdx) :
      Dispatched d t (d.sidecarLevel (d.top t) e)
  | inner {e : InitEntry Traits × Nat} (he : e ∈ t.init.zipIdx)
      {s : SidecarEntry Traits × Nat} (hs : s ∈ e.1.traits.sidecar.zipIdx) :
      Dispatched d t (d.sidecarLevel (d.initLevel (d.top t) e) s)

/-- The nested levels of a payload, each init entry followed by the sidecars within it. -/
def nestedLevels (d : Dispatcher) (t : Traits) : List Level :=
  (t.init.zipIdx.flatMap fun e =>
    d.initLevel (d.top t) e ::
      e.1.traits.sidecar.zipIdx.map (d.sidecarLevel (d.initLevel (d.top t) e))) ++
    t.sidecar.zipIdx.map (d.sidecarLevel (d.top t))

/-- The levels of a payload, in the order in which they are come to. -/
def levels (d : Dispatcher) (t : Traits) : List Level := d.top t :: d.nestedLevels t

lemma mem_levels {t : Traits} : l ∈ d.levels t ↔ d.Dispatched t l := by
  rw [levels, nestedLevels, List.mem_cons, List.mem_append, List.mem_flatMap, List.mem_map]
  constructor
  · rintro (rfl | ⟨e, he, hl⟩ | ⟨e, he, rfl⟩)
    · exact .own
    · rcases List.mem_cons.1 hl with rfl | hl
      · exact .init he
      · obtain ⟨s, hs, rfl⟩ := List.mem_map.1 hl
        exact .inner he hs
    · exact .sidecar he
  · intro h
    cases h with
    | own => exact .inl rfl
    | init he => exact .inr (.inl ⟨_, he, List.mem_cons_self⟩)
    | sidecar he => exact .inr (.inr ⟨_, he, rfl⟩)
    | inner he hs =>
        exact .inr (.inl ⟨_, he, List.mem_cons_of_mem _ (List.mem_map.2 ⟨_, hs, rfl⟩)⟩)

/-- The level of an init entry at the top succeeds when it is valid and its sidecars are. -/
lemma succeeds_initLevel (hcomplete : d.registry.IsComplete) {room : Nat} {t : Traits}
    {e : InitEntry Traits × Nat} :
    d.Succeeds (room + 1) (d.initLevel (d.top t) e) ↔
      d.Valid (d.initLevel (d.top t) e) ∧ ∀ s ∈ e.1.traits.sidecar.zipIdx,
        d.Valid (d.sidecarLevel (d.initLevel (d.top t) e) s) := by
  have hinner : ∀ s, d.Succeeds room (d.sidecarLevel (d.initLevel (d.top t) e) s) ↔
      d.Valid (d.sidecarLevel (d.initLevel (d.top t) e) s) :=
    fun _ => succeeds_of_barred hcomplete rfl rfl
  rw [succeeds_succ hcomplete]
  refine and_congr_right fun _ => ⟨fun h s hs => (hinner s).1 (h.2 rfl s hs), fun h => ⟨?_, ?_⟩⟩
  · exact fun hbarred => nomatch hbarred
  · exact fun _ s hs => (hinner s).2 (h s hs)

/-- **Exact acceptance.**  With all built-in processors in any order, and room for two levels below
the component's own, a payload is accepted if and only if each of its levels is valid. -/
theorem dispatch_succeeds_iff (hcomplete : d.registry.IsComplete)
    (hdepth : 2 ≤ d.settings.maxDepth) (t : Traits) :
    (∃ c, (d.dispatch (d.top t)).outcome = .ok c) ↔ ∀ l, d.Dispatched t l → d.Valid l := by
  obtain ⟨room, hroom⟩ := Nat.exists_eq_add_of_le' hdepth
  have hsucceeds : (∃ c, (d.dispatch (d.top t)).outcome = .ok c) ↔
      d.Succeeds (room + 2) (d.top t) := by
    rw [Succeeds, dispatch, dispatchWithin_outcome, hroom]
    rfl
  have hsidecar : ∀ e, d.Succeeds (room + 1) (d.sidecarLevel (d.top t) e) ↔
      d.Valid (d.sidecarLevel (d.top t) e) :=
    fun _ => succeeds_of_barred hcomplete rfl rfl
  rw [hsucceeds, succeeds_succ hcomplete]
  constructor
  · rintro ⟨hown, hinits, hsidecars⟩ l hl
    cases hl with
    | own => exact hown
    | init he => exact ((succeeds_initLevel hcomplete).1 (hinits rfl _ he)).1
    | sidecar he => exact (hsidecar _).1 (hsidecars rfl _ he)
    | inner he hs => exact ((succeeds_initLevel hcomplete).1 (hinits rfl _ he)).2 _ hs
  · intro h
    refine ⟨h _ .own, fun _ e he => ?_, fun _ e he => (hsidecar e).2 (h _ (.sidecar he))⟩
    exact (succeeds_initLevel hcomplete).2 ⟨h _ (.init he), fun s hs => h _ (.inner he hs)⟩

/-- A dispatcher with the built-in processors the other way round. -/
def reversed : Dispatcher where
  registry := ⟨builtinProcessors.reverse, by decide⟩
  settings := { maxDepth := 2 }
  component := { name := "web" }
  workload := { kind := .deployment }

/-- An init entry with a sidecar that has an image and a volume. -/
def sidecarOfInit (image : String) : Traits where
  init := [{
    name := "setup"
    properties := { image := "busybox" }
    traits := {
      sidecar := [{
        name := "proxy"
        image := image
        traits := { storage := [{ name := "cache", type := "ephemeral" }] } }] } }]

theorem dispatch_succeeds_iff_reversed :
    reversed.registry.IsComplete ∧ 2 ≤ reversed.settings.maxDepth ∧
      (∃ c, (reversed.dispatch (reversed.top (sidecarOfInit "envoy"))).outcome = .ok c) ∧
      (∀ l, reversed.Dispatched (sidecarOfInit "envoy") l → reversed.Valid l) ∧
      (¬ ∃ c, (reversed.dispatch (reversed.top (sidecarOfInit ""))).outcome = .ok c) ∧
      ¬ ∀ l, reversed.Dispatched (sidecarOfInit "") l → reversed.Valid l := by
  have hcomplete : reversed.registry.IsComplete := List.reverse_perm _
  have hdepth : 2 ≤ reversed.settings.maxDepth := Nat.le_refl 2
  have haccepted : ∃ c,
      (reversed.dispatch (reversed.top (sidecarOfInit "envoy"))).outcome = .ok c := ⟨_, rfl⟩
  have hrefused : ¬ ∃ c,
      (reversed.dispatch (reversed.top (sidecarOfInit ""))).outcome = .ok c :=
    fun ⟨_, h⟩ => nomatch h
  exact ⟨hcomplete, hdepth, haccepted, (dispatch_succeeds_iff hcomplete hdepth _).1 haccepted,
    hrefused, fun hvalid => hrefused ((dispatch_succeeds_iff hcomplete hdepth _).2 hvalid)⟩

end Dispatcher

end WorkloadTraits
