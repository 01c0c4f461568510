import WorkloadTraits.Proofs.Counting.Ends

/-!
# The counts balance

Applications are counted one after the other, and each family of counts depends on one thing about
an application: which names it is counted under (`Metrics.Tallies`).  What is counted of a run is
then what is counted of its applications together (`Metrics.Tallies.foldl`), for all families by one
induction.

With the built-in processors these names can be told from what the applications return and from the
payloads (`Engine.metrics_balance`): the failures of processors are the wrappers of the failures
that were returned, and if nothing failed, the calls are the levels that were processed.
-/

namespace WorkloadTraits

/-! ## Names under which is counted -/

lemma SortedMap.count_foldl_increment (names : List String) (m : SortedMap Nat) (x : String) :
    (names.foldl SortedMap.increment m).count x = m.count x + names.count x := by
  induction names generalizing m with
  | nil => rfl
  | cons name rest ih =>
      rw [List.foldl_cons, ih, SortedMap.count_increment, List.count_cons, Nat.add_assoc,
        Nat.add_comm (rest.count x)]
      by_cases hname : x = name
      · simp [hname]
      · simp [hname, Ne.symm hname]

namespace Application

/-- The objects that an application returns. -/
def objects (a : Application) : List Companion := a.outcome.toOption.getD []

/-- The category of the failure of an application. -/
def category? (a : Application) : Option Category :=
  match a.outcome with
  | .ok _ => none
  | .error failure => some failure.category

end Application

namespace Metrics

/-- The ends of calls are all that is counted of a journal. -/
lemma foldl_recordEvent (m : Metrics) (journal : List Event) :
    journal.foldl recordEvent m = { m with
      invocations := (journal.filterMap Event.ended?).foldl SortedMap.increment m.invocations
      failures := (journal.filterMap Event.failed?).foldl SortedMap.increment m.failures } := by
  induction journal generalizing m with
  | nil => rfl
  | cons event rest ih =>
      rw [List.foldl_cons, ih]
      cases event with
      | warned w => rfl
      | called processor kind context => rfl
      | finished processor ok => cases ok <;> rfl

/-- A family counts each application under some names. -/
def Tallies (family : Metrics → SortedMap Nat) (names : Application → List String) : Prop :=
  ∀ m a, family (m.record a) = (names a).foldl SortedMap.increment (family m)

lemma tallies_applies : Tallies (·.applies) fun a => [outcomeLabel a.outcome] := by
  intro m a
  rw [record, foldl_recordEvent]
  rfl

lemma tallies_objects : Tallies (·.objects) fun a => a.objects.map (·.kind) := by
  intro m a
  rw [record, foldl_recordEvent, List.foldl_map]
  rfl

lemma tallies_invocations :
    Tallies (·.invocations) fun a => a.journal.filterMap Event.ended? := by
  intro m a
  rw [record, foldl_recordEvent]
  rfl

lemma tallies_failures : Tallies (·.failures) fun a => a.journal.filterMap Event.failed? := by
  intro m a
  rw [record, foldl_recordEvent]
  rfl

/-- What is counted of a run is what is counted of its applications. -/
theorem Tallies.foldl {family : Metrics → SortedMap Nat} {names : Application → List String}
    (h : Tallies family names) (as : List Application) (m : Metrics) (x : String) :
    (family (as.foldl record m)).count x = (family m).count x + (as.flatMap names).count x := by
  induction as generalizing m with
  | nil => rfl
  | cons a rest ih =>
      rw [List.foldl_cons, ih, h, SortedMap.count_foldl_increment, List.flatMap_cons,
        List.count_append, Nat.add_assoc]

end Metrics

/-- An application is counted under one of three words. -/
lemma outcomeLabel_cases {α : Type} (x : Except Failure α) :
    outcomeLabel x = "success" ∨ outcomeLabel x = "rejected" ∨ outcomeLabel x = "error" := by
  cases x with
  | ok a => exact .inl rfl
  | error failure =>
      rw [outcomeLabel]
      split
      · exact .inr (.inl rfl)
      · exact .inr (.inr rfl)

namespace Application

lemma outcomeLabel_eq_success (a : Application) :
    (outcomeLabel a.outcome == "success") = a.outcome.isOk := by
  cases a.outcome with
  | ok objects => rfl
  | error failure =>
      rw [outcomeLabel]
      split <;> rfl

lemma outcomeLabel_eq_rejected (a : Application) : (outcomeLabel a.outcome == "rejected") =
    a.category?.any fun c => c == .malformedInput || c == .domainViolation := by
  rw [category?]
  cases a.outcome with
  | ok objects => rfl
  | error failure =>
      show _ = failure.isUserError
      rw [outcomeLabel]
      cases failure.isUserError <;> rfl

lemma outcomeLabel_eq_error (a : Application) : (outcomeLabel a.outcome == "error") =
    a.category?.any fun c => !(c == .malformedInput || c == .domainViolation) := by
  rw [category?]
  cases a.outcome with
  | ok objects => rfl
  | error failure =>
      show _ = !failure.isUserError
      rw [outcomeLabel]
      cases failure.isUserError <;> rfl

end Application

namespace Metrics

/-- What is counted balances with what a run of applications returns. -/
structure Balances (m : Metrics) (as : List Application) : Prop where
  success : m.applies.count "success" = as.countP (·.outcome.isOk)
  rejected : m.applies.count "rejected" = as.countP fun a =>
    a.category?.any fun c => c == .malformedInput || c == .domainViolation
  error : m.applies.count "error" = as.countP fun a =>
    a.category?.any fun c => !(c == .malformedInput || c == .domainViolation)
  total : m.applies.count "success" + m.applies.count "rejected" + m.applies.count "error" =
    as.length
  objects : ∀ kind, m.objects.count kind = (as.flatMap (·.objects)).countP (·.kind == kind)
  failures : ∀ processor,
    m.failures.count processor = (as.flatMap fun a => outcomePath a.outcome).count processor
  failures_le : ∀ processor, m.failures.count processor ≤ m.invocations.count processor

/-- How often a word is counted is how many applications it is the word for. -/
lemma count_applies (as : List Application) (label : String) :
    (as.foldl record {}).applies.count label =
      as.countP fun a => outcomeLabel a.outcome == label := by
  rw [tallies_applies.foldl, ← List.map_eq_flatMap, List.count, List.countP_map]
  exact Nat.zero_add _

lemma count_applies_total (as : List Application) :
    (as.foldl record {}).applies.count "success" + (as.foldl record {}).applies.count "rejected" +
      (as.foldl record {}).applies.count "error" = as.length := by
  rw [count_applies, count_applies, count_applies]
  induction as with
  | nil => rfl
  | cons a rest ih =>
      simp only [List.countP_cons, List.length_cons]
      rcases outcomeLabel_cases a.outcome with h | h | h <;> simp [h] <;> omega

/-- Counts balance when each failed call is a wrapper of the failure that is returned. -/
theorem balances_of_failed {as : List Application}
    (hfailed : ∀ a ∈ as, a.journal.filterMap Event.failed? = (outcomePath a.outcome).reverse) :
    (as.foldl record {}).Balances as where
  success := by
    rw [count_applies]
    simp only [Application.outcomeLabel_eq_success]
  rejected := by
    rw [count_applies]
    simp only [Application.outcomeLabel_eq_rejected]
  error := by
    rw [count_applies]
    simp only [Application.outcomeLabel_eq_error]
  total := count_applies_total as
  objects kind := by
    rw [tallies_objects.foldl, ← List.map_flatMap, List.count, List.countP_map]
    exact Nat.zero_add _
  failures processor := by
    rw [tallies_failures.foldl, List.count_flatMap, List.count_flatMap]
    refine (Nat.zero_add _).trans (congrArg List.sum (List.map_congr_left fun a ha => ?_))
    show List.count _ (a.journal.filterMap Event.failed?) = _
    rw [hfailed a ha, List.count_reverse]
    rfl
  failures_le processor := by
    rw [tallies_failures.foldl, tallies_invocations.foldl, ← List.filterMap_flatMap,
      ← List.filterMap_flatMap]
    exact Nat.add_le_add_left ((failed_sublist_ended _).count_le _) _

end Metrics

namespace Engine

/-- The applications of a run, in which an engine is given components with workloads. -/
def applications (e : Engine) (steps : List (Component × Workload)) : List Application :=
  steps.map fun step => e.apply step.1 step.2

/-- What is counted of a run from the start. -/
def metrics (e : Engine) (steps : List (Component × Workload)) : Metrics :=
  (e.applications steps).foldl Metrics.record {}

variable {e : Engine}

/-- Init entries are processed at a component's own level and at no other. -/
lemma barred_init_of_mem_levels {c : Component} {w : Workload} {l : Level}
    (h : l ∈ e.levels c w) : l.barred.contains .init = false ↔ l.depth = 0 := by
  rw [levels] at h
  split at h
  · rcases Dispatcher.mem_levels.1 h with _ | _ | _ | _
    · exact iff_of_true rfl rfl
    all_goals
      simp [Dispatcher.initLevel, Dispatcher.sidecarLevel, Dispatcher.barred_below,
        Containers.initRequest, Containers.sidecarRequest]
  · exact (List.not_mem_nil h).elim

/-- **The counts balance.**  With all built-in processors, what is counted of a run from the start
balances with what the run returns.  If no application of the run failed, the calls of each kind are
the levels of the payloads that say something about the kind and do not bar it; init entries are
barred at all levels but the components' own. -/
theorem metrics_balance (hcomplete : e.registry.IsComplete)
    (steps : List (Component × Workload)) :
    (e.metrics steps).Balances (e.applications steps) ∧
      ((∀ a ∈ e.applications steps, ∃ objects, a.outcome = .ok objects) →
        ∀ k : TraitKind, (e.metrics steps).invocations.count k.name =
          (steps.flatMap fun step => e.levels step.1 step.2).countP (·.processes k)) ∧
      ∀ step ∈ steps, ∀ l ∈ e.levels step.1 step.2,
        l.barred.contains .init = false ↔ l.depth = 0 := by
  refine ⟨Metrics.balances_of_failed fun a ha => ?_, fun hok k => ?_,
    fun step _ l hl => barred_init_of_mem_levels hl⟩
  · obtain ⟨step, -, rfl⟩ := List.mem_map.1 ha
    exact failed_apply hcomplete.isBuiltin step.1 step.2
  · rw [metrics, Metrics.tallies_invocations.foldl, applications, List.flatMap_map,
      List.count_flatMap, List.countP_flatMap]
    refine (Nat.zero_add _).trans (congrArg List.sum (List.map_congr_left fun step hstep => ?_))
    obtain ⟨objects, hobjects⟩ := hok _ (List.mem_map_of_mem hstep)
    exact count_ended_apply hcomplete hobjects k

/-- Variables for the component, an init container and a sidecar of it; the init entries of the
sidecar are ignored. -/
def countedTraits : Traits where
  envs := [{ name := "MODE", valueFrom := { static := some "live" } }]
  init := [{
    name := "setup"
    properties := { image := "busybox" }
    traits := {
      envs := [{ name := "MODE", valueFrom := { static := some "once" } }]
      sidecar := [{
        name := "proxy"
        image := "envoy"
        traits := {
          envs := [{ name := "MODE", valueFrom := { static := some "live" } }]
          init := [{ traits := {} }] } }] } }]

/-- A component with these traits. -/
def countedComponent : Component := Component.withTraits { name := "web" } countedTraits

/-- A component with a sidecar that has nothing to route. -/
def rejectedComponent : Component :=
  Component.withTraits { name := "web" } {
    sidecar := [{ name := "proxy", image := "envoy", traits := { ingress := [none] } }] }

/-- A run in which one component is applied twice. -/
def acceptedRun : List (Component × Workload) :=
  [(countedComponent, plainWorkload), (countedComponent, plainWorkload)]

/-- A run in which an application succeeds, one is rejected, and one has no container to apply
to. -/
def mixedRun : List (Component × Workload) :=
  [(countedComponent, plainWorkload), (rejectedComponent, plainWorkload),
    (countedComponent, { kind := .deployment })]

theorem metrics_balance_two_runs :
    builtin.registry.IsComplete ∧
      (∀ a ∈ builtin.applications acceptedRun, ∃ objects, a.outcome = .ok objects) ∧
      (builtin.metrics acceptedRun).invocations.count "envs" = 6 ∧
      (builtin.metrics acceptedRun).invocations.count "init" = 2 ∧
      (builtin.metrics mixedRun).applies.count "success" = 1 ∧
      (builtin.metrics mixedRun).applies.count "rejected" = 1 ∧
      (builtin.metrics mixedRun).applies.count "error" = 1 ∧
      (builtin.metrics mixedRun).failures.count "sidecar" = 1 ∧
      (builtin.metrics mixedRun).failures.count "init" = 0 := by
  have hcomplete : builtin.registry.IsComplete := .refl _
  have hok : ∀ a ∈ builtin.applications acceptedRun, ∃ objects, a.outcome = .ok objects :=
    List.forall_mem_cons.2 ⟨⟨_, rfl⟩, List.forall_mem_singleton.2 ⟨_, rfl⟩⟩
  have hcalls := (metrics_balance hcomplete acceptedRun).2.1 hok
  have hmixed := (metrics_balance hcomplete mixedRun).1
  exact ⟨hcomplete, hok, hcalls .envs, hcalls .init, hmixed.success, hmixed.rejected, hmixed.error,
    hmixed.failures "sidecar", hmixed.failures "init"⟩

end Engine

end WorkloadTraits
