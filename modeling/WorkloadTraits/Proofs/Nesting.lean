import WorkloadTraits.Proofs.Acceptance.Levels
import WorkloadTraits.Proofs.Containers
import WorkloadTraits.Proofs.Dispatch.Faults
import WorkloadTraits.Proofs.Placement.Atomicity

/-!
# How deep payloads are nested

A payload may have entries within entries without end, but the built-in processors go two levels
deep at most.  What ends them is that kinds are barred: below an init entry no init entries are
processed and below a sidecar neither kind, so each request leaves fewer kinds that can ask for
more (`Dispatcher.Visits.length_add_rank_le`).

So a depth of two is always enough.  Where less is allowed, it is exceeded by those payloads that
have traits to process below the last level, and by no other (`Engine.limit_reached_iff_nested`).
-/

namespace WorkloadTraits

/-! ## Levels and their rank -/

/-- How many levels can still be asked for one below the other, going by the kinds that are
barred. -/
def Level.rank (l : Level) : Nat :=
  (if l.barred.contains .init then 0 else 1) + if l.barred.contains .sidecar then 0 else 1

namespace Dispatcher

variable {d : Dispatcher} {l l' : Level} {request : Nested} {chain : List Nested}

/-- What is asked for bars the kind that asks. -/
lemma rank_below_lt (h : d.Asks l request) : (below l request).rank < l.rank := by
  have hbarred : ∀ k, (below l request).barred.contains k =
      (request.barring.contains k || l.barred.contains k) :=
    fun k => KindSet.contains_insertAll l.barred request.barring k
  unfold Level.rank
  rw [hbarred, hbarred]
  cases h with
  | init _ allowed _ =>
      simp only [Containers.initRequest, allowed]
      simp
  | sidecar _ allowed _ =>
      simp only [Containers.sidecarRequest, allowed]
      simp

/-- A chain of requests is no longer than the rank of the level where it starts. -/
lemma Visits.length_add_rank_le (hbuiltin : d.registry.IsBuiltin) (h : d.Visits l chain l') :
    chain.length + l'.rank ≤ l.rank := by
  induction h with
  | here => simp
  | deeper asked _ _ ih =>
      have hlower := rank_below_lt (asks_of_mem_requests hbuiltin asked)
      rw [List.length_cons]
      omega

/-- From a component's own level, no level below the second is visited. -/
lemma Visits.depth_top_le (hbuiltin : d.registry.IsBuiltin) {t : Traits}
    (h : d.Visits (d.top t) chain l') : l'.depth ≤ 2 := by
  have hrank : (d.top t).rank = 2 := rfl
  have hdepth : (d.top t).depth = 0 := rfl
  have hlength := h.length_add_rank_le hbuiltin
  rw [hrank] at hlength
  rw [h.depth_eq, hdepth]
  omega

end Dispatcher

/-! ## Payloads with nested traits -/

namespace Traits

/-- Some entry has traits that say something. -/
def Nests (t : Traits) : Prop :=
  (∃ e ∈ t.init, e.traits.isEmpty = false) ∨ ∃ s ∈ t.sidecar, s.traits.isEmpty = false

/-- Some init entry has a sidecar with traits that say something. -/
def NestsTwice (t : Traits) : Prop :=
  ∃ e ∈ t.init, ∃ s ∈ e.traits.sidecar, s.traits.isEmpty = false

end Traits

namespace Dispatcher

variable {d : Dispatcher} {l l' : Level} {t : Traits}

lemma nests_of_asks {request : Nested} (h : d.Asks l request) : l.traits.Nests := by
  cases h with
  | init entry _ given => exact .inl ⟨_, List.fst_mem_of_mem_zipIdx entry, given⟩
  | sidecar entry _ given => exact .inr ⟨_, List.fst_mem_of_mem_zipIdx entry, given⟩

/-- At a level that the component's own level asks for, only the sidecars of an init entry ask
again. -/
lemma nestsTwice_of_asks {first second : Nested} (hfirst : d.Asks (d.top t) first)
    (hsecond : d.Asks (below (d.top t) first) second) : t.NestsTwice := by
  cases hfirst with
  | init entry _ _ =>
      cases hsecond with
      | init _ allowed _ => exact nomatch allowed
      | sidecar inner _ given =>
          exact ⟨_, List.fst_mem_of_mem_zipIdx entry, _, List.fst_mem_of_mem_zipIdx inner, given⟩
  | sidecar entry _ _ =>
      cases hsecond with
      | init _ allowed _ => exact nomatch allowed
      | sidecar _ allowed _ => exact nomatch allowed

/-- The limit is reached only below a payload that has more levels than are allowed. -/
lemma nested_of_limit (hbuiltin : d.registry.IsBuiltin) {failure : Failure} {limit : Nat}
    (h : (d.dispatch (d.top t)).outcome = .error failure)
    (hlimit : failure.root = .recursionLimit limit) :
    d.settings.maxDepth = 0 ∧ t.Nests ∨ d.settings.maxDepth = 1 ∧ t.NestsTwice := by
  rcases failure_dispatch hbuiltin h with
    hown | ⟨-, chain, l', hvisits, hdepth, request, hasked⟩
  · rw [← Failure.category_root, hlimit] at hown
    cases hown
  · have hbound := hvisits.length_add_rank_le hbuiltin
    have hlower := rank_below_lt hasked
    have hrank : (d.top t).rank = 2 := rfl
    have htop : (d.top t).depth = 0 := rfl
    rw [hvisits.depth_eq, htop] at hdepth
    cases hvisits with
    | here =>
        rw [List.length_nil] at hdepth
        exact .inl ⟨by omega, nests_of_asks hasked⟩
    | @deeper _ _ first chain asked room rest =>
        rw [List.length_cons] at hbound hdepth
        cases rest with
        | here =>
            rw [List.length_nil] at hdepth
            rw [htop] at room
            exact .inr ⟨by omega, nestsTwice_of_asks (asks_of_mem_requests hbuiltin asked) hasked⟩
        | deeper _ _ _ =>
            rw [List.length_cons] at hbound
            omega

/-- Without room below, a level succeeds only if no entry that is not barred says anything. -/
lemma isEmpty_of_succeeds_zero (hcomplete : d.registry.IsComplete) (h : d.Succeeds 0 l) :
    (l.barred.contains .init = false → ∀ e ∈ l.traits.init, e.traits.isEmpty = true) ∧
      (l.barred.contains .sidecar = false → ∀ s ∈ l.traits.sidecar, s.traits.isEmpty = true) := by
  obtain ⟨-, hnested⟩ := (levelOutcome_succeeds hcomplete).1 h
  have hempty : ∀ request : Nested, (∃ n, nestedOutcome
      (fun _ => .error (.recursionLimit d.settings.maxDepth)) request = .ok n) →
        request.traits.isEmpty = true := by
    rintro request ⟨n, hn⟩
    rw [nestedOutcome] at hn
    split at hn
    · assumption
    · cases hn
  constructor
  · intro hinit
    exact (forall_zipIdx fun e : InitEntry Traits => e.traits.isEmpty = true).1
      fun e he => hempty _ (hnested .init hinit e he)
  · intro hsidecar
    exact (forall_zipIdx fun s : SidecarEntry Traits => s.traits.isEmpty = true).1
      fun s hs => hempty _ (hnested .sidecar hsidecar s hs)

/-- A payload that is accepted has no more levels than are allowed. -/
lemma not_nested_of_ok (hcomplete : d.registry.IsComplete) {c : Contribution}
    (h : (d.dispatch (d.top t)).outcome = .ok c) :
    (d.settings.maxDepth = 0 → ¬ t.Nests) ∧ (d.settings.maxDepth = 1 → ¬ t.NestsTwice) := by
  rw [dispatch, dispatchWithin_outcome] at h
  constructor
  · intro hmax
    rw [hmax] at h
    obtain ⟨hinit, hsidecar⟩ := isEmpty_of_succeeds_zero hcomplete ⟨c, h⟩
    rintro (⟨e, he, hgiven⟩ | ⟨s, hs, hgiven⟩)
    · rw [hinit rfl e he] at hgiven
      cases hgiven
    · rw [hsidecar rfl s hs] at hgiven
      cases hgiven
  · intro hmax
    rw [hmax] at h
    obtain ⟨-, hinits, -⟩ := (succeeds_succ hcomplete).1 ⟨c, h⟩
    rintro ⟨e, he, s, hs, hgiven⟩
    have hbelow : ∀ e ∈ t.init, ∀ s ∈ e.traits.sidecar, s.traits.isEmpty = true :=
      (forall_zipIdx fun e : InitEntry Traits => ∀ s ∈ e.traits.sidecar, s.traits.isEmpty = true).1
        fun e he => (isEmpty_of_succeeds_zero hcomplete (hinits rfl e he)).2 rfl
    rw [hbelow e he s hs] at hgiven
    cases hgiven

end Dispatcher

/-! ## Applications -/

namespace Engine

variable {e : Engine} {c : Component} {w : Workload}

/-- The calls of an application are those of its dispatch. -/
lemma called_apply {name : String} {kind : TraitKind} {context : Context}
    (h : .called name kind context ∈ (e.apply c w).journal) :
    ∃ t, traits c = .ok (some t) ∧ .called name kind context ∈
      ((e.dispatcher c w).dispatch ((e.dispatcher c w).top t)).journal := by
  rw [apply] at h
  cases htraits : traits c with
  | error failure => simp [htraits] at h
  | ok t? =>
      cases t? with
      | none => simp [htraits] at h
      | some t =>
          refine ⟨t, rfl, ?_⟩
          have hcontribute : .called name kind context ∈ (e.contribute c w t).journal := by
            simp only [htraits] at h
            split at h
            · exact h
            · simpa using h
          exact hcontribute

/-- What a payload that cannot be decoded is refused for, when nothing is at work yet. -/
lemma refused_of_traits_eq_error {failure : Failure} (h : traits c = .error failure) :
    failure.path = [] ∧ failure.category = .malformedInput := by
  rw [traits] at h
  split at h
  · obtain rfl := Except.error.inj h
    exact ⟨rfl, rfl⟩
  · rw [Component.readTraits] at h
    split at h
    · obtain rfl := Except.error.inj h
      exact ⟨rfl, rfl⟩
    · cases h

/-- Only the dispatch can reach a limit. -/
lemma limit_of_apply {failure : Failure} {limit : Nat}
    (h : (e.apply c w).outcome = .error failure) (hlimit : failure.root = .recursionLimit limit) :
    ∃ t, traits c = .ok (some t) ∧
      ((e.dispatcher c w).dispatch ((e.dispatcher c w).top t)).outcome = .error failure := by
  rw [apply] at h
  cases htraits : traits c with
  | error own =>
      rw [htraits] at h
      obtain rfl := Except.error.inj h
      have hcategory := (refused_of_traits_eq_error htraits).2
      rw [← Failure.category_root, hlimit] at hcategory
      cases hcategory
  | ok t? =>
      cases t? with
      | none =>
          rw [htraits] at h
          cases h
      | some t =>
          refine ⟨t, rfl, ?_⟩
          simp only [htraits] at h
          cases hrun : (e.contribute c w t).outcome with
          | error own =>
              simp only [hrun] at h
              obtain rfl := Except.error.inj h
              exact hrun
          | ok contribution =>
              simp only [hrun] at h
              obtain ⟨rfl, -⟩ := Workload.place_eq_error_iff.1 h
              cases hlimit

/-- A payload that has more levels than are allowed is refused. -/
lemma exists_failure_of_nested (hcomplete : e.registry.IsComplete) {t : Traits}
    (htraits : traits c = .ok (some t))
    (hnested : e.settings.maxDepth = 0 ∧ t.Nests ∨ e.settings.maxDepth = 1 ∧ t.NestsTwice) :
    ∃ failure, (e.apply c w).outcome = .error failure := by
  cases houtcome : (e.apply c w).outcome with
  | error failure => exact ⟨failure, rfl⟩
  | ok objects =>
      obtain ⟨contribution, hcontribution⟩ := contribute_of_apply htraits houtcome
      obtain ⟨hzero, hone⟩ :=
        Dispatcher.not_nested_of_ok (d := e.dispatcher c w) hcomplete hcontribution
      rcases hnested with ⟨hdepth, hnests⟩ | ⟨hdepth, hnests⟩
      · exact absurd hnests (hzero hdepth)
      · exact absurd hnests (hone hdepth)

/-- **Two levels at most.**  With all built-in processors, in any order, nothing is called below the
second level, however deep a payload is nested; with a depth of two no limit is reached.  With a
depth of one, a payload is refused if a sidecar of an init entry has traits that say something, and
with none if any entry has; and no other payload reaches the limit then. -/
theorem limit_reached_iff_nested (hcomplete : e.registry.IsComplete) (c : Component)
    (w : Workload) :
    (∀ name kind context, .called name kind context ∈ (e.apply c w).journal →
        context.depth ≤ 2) ∧
      (2 ≤ e.settings.maxDepth → ∀ failure, (e.apply c w).outcome = .error failure →
        ∀ limit, failure.root ≠ .recursionLimit limit) ∧
      (e.settings.maxDepth = 1 →
        (∀ t, traits c = .ok (some t) → t.NestsTwice →
          ∃ failure, (e.apply c w).outcome = .error failure) ∧
        ∀ failure limit, (e.apply c w).outcome = .error failure →
          failure.root = .recursionLimit limit → ∃ t, traits c = .ok (some t) ∧ t.NestsTwice) ∧
      (e.settings.maxDepth = 0 →
        (∀ t, traits c = .ok (some t) → t.Nests →
          ∃ failure, (e.apply c w).outcome = .error failure) ∧
        ∀ failure limit, (e.apply c w).outcome = .error failure →
          failure.root = .recursionLimit limit → ∃ t, traits c = .ok (some t) ∧ t.Nests) := by
  have hlimits : ∀ failure limit, (e.apply c w).outcome = .error failure →
      failure.root = .recursionLimit limit → ∃ t, traits c = .ok (some t) ∧
        (e.settings.maxDepth = 0 ∧ t.Nests ∨ e.settings.maxDepth = 1 ∧ t.NestsTwice) := by
    intro failure limit hfailed hlimit
    obtain ⟨t, htraits, hdispatch⟩ := limit_of_apply hfailed hlimit
    exact ⟨t, htraits, Dispatcher.nested_of_limit (d := e.dispatcher c w) hcomplete.isBuiltin
      hdispatch hlimit⟩
  refine ⟨?_, ?_, fun hdepth => ⟨?_, ?_⟩, fun hdepth => ⟨?_, ?_⟩⟩
  · intro name kind context hcalled
    obtain ⟨t, -, hdispatched⟩ := called_apply hcalled
    obtain ⟨chain, l', hvisits, call, hcall, hevent⟩ := Dispatcher.called_dispatch.1 hdispatched
    obtain ⟨-, -, rfl⟩ := Event.called.inj hevent
    rw [(hvisits.bounded hcall).depth_eq, ← hvisits.depth_eq]
    exact hvisits.depth_top_le (d := e.dispatcher c w) hcomplete.isBuiltin
  · intro hdepth failure hfailed limit hlimit
    obtain ⟨t, -, ⟨hmax, -⟩ | ⟨hmax, -⟩⟩ := hlimits failure limit hfailed hlimit
    · omega
    · omega
  · exact fun t htraits hnests => exists_failure_of_nested hcomplete htraits (.inr ⟨hdepth, hnests⟩)
  · intro failure limit hfailed hlimit
    obtain ⟨t, htraits, ⟨hmax, -⟩ | ⟨-, hnests⟩⟩ := hlimits failure limit hfailed hlimit
    · omega
    · exact ⟨t, htraits, hnests⟩
  · exact fun t htraits hnests => exists_failure_of_nested hcomplete htraits (.inl ⟨hdepth, hnests⟩)
  · intro failure limit hfailed hlimit
    obtain ⟨t, htraits, ⟨-, hnests⟩ | ⟨hmax, -⟩⟩ := hlimits failure limit hfailed hlimit
    · exact ⟨t, htraits, hnests⟩
    · omega

/-- A component with a sidecar in an init entry, and variables for the sidecar. -/
def deepComponent : Component :=
  Component.withTraits { name := "web" } {
    init := [{
      name := "setup"
      properties := { image := "busybox" }
      traits := {
        sidecar := [{
          name := "proxy"
          image := "envoy"
          traits := {
            envs := [{ name := "MODE", valueFrom := { static := some "live" } }] } }] } }] }

lemma nodup_names_reverse : (builtinProcessors.reverse.map (·.name)).Nodup := by decide

/-- An engine with all built-in processors the other way round, and a depth of one. -/
def shallowEngine : Engine where
  registry := ⟨builtinProcessors.reverse, nodup_names_reverse⟩
  settings := { maxDepth := 1 }

theorem limit_reached_iff_nested_deep :
    shallowEngine.registry.IsComplete ∧
      (shallowEngine.apply deepComponent plainWorkload).outcome =
        .error (Failure.wrap (.recursionLimit 1) ["sidecar", "init"]) ∧
      (∃ t, traits deepComponent = .ok (some t) ∧ t.NestsTwice) ∧
      ∀ name kind context,
        .called name kind context ∈ (shallowEngine.apply deepComponent plainWorkload).journal →
          context.depth ≤ 2 := by
  have hcomplete : shallowEngine.registry.IsComplete := List.reverse_perm _
  obtain ⟨hdepth, -, hone, -⟩ := limit_reached_iff_nested hcomplete deepComponent plainWorkload
  have hfailed : (shallowEngine.apply deepComponent plainWorkload).outcome =
      .error (Failure.wrap (.recursionLimit 1) ["sidecar", "init"]) := rfl
  exact ⟨hcomplete, hfailed, (hone rfl).2 _ 1 hfailed rfl, hdepth⟩

end Engine

end WorkloadTraits
