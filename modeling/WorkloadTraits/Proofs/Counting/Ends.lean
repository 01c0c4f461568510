import WorkloadTraits.Metrics
import WorkloadTraits.Proofs.Dispatch.Faults
import WorkloadTraits.Proofs.Dispatch.Selection
import WorkloadTraits.Proofs.Levels
import WorkloadTraits.Proofs.Nesting

/-!
# The calls that a journal counts

What is counted of an application is what its journal says about the ends of calls.  There are two
ways to tell it without the journal.  A failure is wrapped once at each level on its way up, just
after the end of the call was journaled: so the calls that failed are those that the failure is
wrapped with, the innermost first (`Dispatcher.accounts_dispatch`).  And when a payload is
accepted, each of its levels has called every kind that it says something about and does not bar,
so the calls of a kind are the levels that do (`Engine.count_ended_apply`).
-/

namespace WorkloadTraits

/-- The processor whose call ends. -/
def Event.ended? : Event → Option String
  | .finished processor _ => some processor
  | _ => none

/-- The processor whose call ends with a failure. -/
def Event.failed? : Event → Option String
  | .finished processor ok => if ok then none else some processor
  | _ => none

/-- From warnings nothing is picked that looks at calls only. -/
lemma filterMap_map_warned {γ : Type} {f : Event → Option γ} (hf : ∀ w, f (.warned w) = none)
    (ws : List Warning) : (ws.map .warned).filterMap f = [] := by
  rw [List.filterMap_map]
  exact List.filterMap_eq_nil_iff.2 fun w _ => hf w

lemma quiet_ended? : Quiet Event.ended? := fun _ _ => rfl

/-- Calls that fail are among those that end. -/
lemma failed_sublist_ended (journal : List Event) :
    (journal.filterMap Event.failed?).Sublist (journal.filterMap Event.ended?) := by
  induction journal with
  | nil => exact .slnil
  | cons event rest ih =>
      cases event with
      | warned w => exact ih
      | called processor kind context => exact ih
      | finished processor ok =>
          cases ok with
          | true => exact ih.cons processor
          | false => exact ih.cons_cons processor

/-! ## Calls that fail -/

/-- The processors that the failure of an outcome is wrapped with, the outermost first. -/
def outcomePath {α : Type} : Except Failure α → List String
  | .ok _ => []
  | .error failure => failure.path

@[simp] lemma outcomePath_map {α β : Type} (x : Except Failure α) (f : α → β) :
    outcomePath (x.map f) = outcomePath x := by
  cases x <;> rfl

/-- The calls that fail in a run are those that its failure is wrapped with, the innermost first. -/
def Run.Accounts {α : Type} (r : Run α) : Prop :=
  r.select Event.failed? = (outcomePath r.outcome).reverse

lemma Run.Accounts.bind {α β : Type} {r : Run α} {g : α → Run β} (hr : r.Accounts)
    (hg : ∀ a, (g a).Accounts) : (r.bind g).Accounts := by
  rw [Run.bind]
  rw [Accounts] at hr
  cases houtcome : r.outcome with
  | error failure =>
      rw [houtcome] at hr
      exact hr
  | ok a =>
      rw [houtcome] at hr
      have hselect : r.select Event.failed? ++ (g a).select Event.failed? =
          (outcomePath (g a).outcome).reverse := by
        rw [hr, hg a]
        rfl
      exact (List.filterMap_append).trans hselect

/-- A plan that passes failures on adds nothing to them. -/
lemma Plan.Disciplined.accounts_run {α : Type} {asks : Nested → Prop} {p : Plan α}
    {answer : Nested → Run Contribution} (hp : p.Disciplined asks)
    (hanswer : ∀ request, (answer request).Accounts) : (p.run answer).Accounts := by
  induction p with
  | done a => rfl
  | fail failure =>
      show [] = failure.path.reverse
      rw [hp.1]
      rfl
  | warn w next ih => exact ih hp
  | nested request next ih =>
      obtain ⟨-, hok, herror⟩ := hp
      have hasked := hanswer request
      rw [Run.Accounts] at hasked
      have hselect : ((nested request next).run answer).select Event.failed? =
          (answer request).select Event.failed? ++
            ((next (answer request).outcome).run answer).select Event.failed? :=
        List.filterMap_append
      rw [Run.Accounts, hselect]
      show _ = (outcomePath ((next (answer request).outcome).run answer).outcome).reverse
      cases houtcome : (answer request).outcome with
      | ok c =>
          rw [hasked, houtcome, ih _ (hok c)]
          rfl
      | error failure =>
          rw [hasked, houtcome, herror]
          exact List.append_nil _

namespace Dispatcher

variable {d : Dispatcher} {l : Level} {answer : Nested → Run Contribution}

/-- The name that a failure is wrapped with is that of the call that ends. -/
lemma accounts_framed {name : String} {kind : TraitKind} {context : Context}
    {own : Run (Option Contribution)} (hown : own.Accounts) :
    (framed name kind context own).Accounts := by
  rw [Run.Accounts] at hown
  rw [Run.Accounts, select_framed, hown, framed]
  cases own.outcome with
  | ok c? => rfl
  | error failure => exact List.reverse_cons.symm

lemma accounts_runProcessor {p : Processor} (hp : p = builtinProcessor p.kind)
    (hanswer : ∀ request, (answer request).Accounts) :
    (d.runProcessor answer l p).Accounts := by
  cases hcall : d.call? l p with
  | none =>
      obtain ⟨warnings, hrun⟩ := runProcessor_of_not_called hcall
      rw [hrun]
      exact filterMap_map_warned (fun _ => rfl) warnings
  | some call =>
      rw [runProcessor_of_call? hcall]
      refine accounts_framed ?_
      obtain ⟨hallowed, data, hdata, rfl⟩ := call?_eq_some.1 hcall
      rw [Call.plan, hp]
      exact (disciplined_builtinProcessor hdata hallowed).accounts_run hanswer

lemma accounts_runProcessors {ps : List Processor} (hps : ∀ p ∈ ps, p = builtinProcessor p.kind)
    (hanswer : ∀ request, (answer request).Accounts) :
    (d.runProcessors answer l ps).Accounts := by
  induction ps with
  | nil => rfl
  | cons p rest ih =>
      obtain ⟨hp, hrest⟩ := List.forall_mem_cons.1 hps
      rw [runProcessors_cons]
      refine (accounts_runProcessor hp hanswer).bind fun c? => ?_
      rw [Run.Accounts, outcomePath_map]
      exact ih hrest

/-- **The calls that fail.**  Whatever becomes of a level, the calls that fail are those that its
failure is wrapped with. -/
theorem accounts_dispatch (hbuiltin : d.registry.IsBuiltin) (l : Level) :
    (d.dispatch l).Accounts := by
  induction l using level_induction d.settings.maxDepth with
  | step l ih =>
    rw [dispatch_eq, processLevel, Run.Accounts, outcomePath_map]
    refine accounts_runProcessors hbuiltin fun request => ?_
    by_cases hdepth : d.settings.maxDepth < l.depth + 1
    · rw [answerAt_of_exhausted hdepth]
      rfl
    · rw [answerAt_of_room (Nat.not_lt.1 hdepth)]
      exact ih request (Nat.not_lt.1 hdepth)

end Dispatcher

/-! ## Calls of an accepted payload -/

/-- Whether a level says something about a kind and does not bar it. -/
def Level.processes (l : Level) (k : TraitKind) : Bool :=
  (l.traits.data? k).isSome && !l.barred.contains k

lemma TraitKind.name_injective : Function.Injective TraitKind.name := by
  intro k k' h
  cases k <;> cases k' <;> first | rfl | exact absurd h (by decide)

namespace Dispatcher

variable {d : Dispatcher} {l : Level}

lemma ownMarks_ended (d : Dispatcher) (l : Level) :
    d.ownMarks Event.ended? l = (TraitKind.all.filter l.processes).map (·.name) := by
  have hmarks : ∀ k, d.marks Event.ended? l k = if l.processes k then [k.name] else [] := by
    intro k
    rw [marks, Level.processes]
    cases l.traits.data? k <;> cases l.barred.contains k <;> rfl
  rw [ownMarks, funext hmarks]
  induction TraitKind.all with
  | nil => rfl
  | cons k rest ih =>
      rw [List.flatMap_cons, ih, List.filter_cons]
      cases l.processes k <;> rfl

/-- A level that is accepted calls a kind once, if it says something about it and does not bar
it. -/
lemma count_ownMarks (d : Dispatcher) (l : Level) (k : TraitKind) :
    (d.ownMarks Event.ended? l).count k.name = if l.processes k then 1 else 0 := by
  rw [ownMarks_ended, List.count_map_of_injective _ _ TraitKind.name_injective]
  split
  · rename_i hprocesses
    rw [List.count_filter hprocesses]
    cases k <;> rfl
  · rename_i hprocesses
    exact List.count_eq_zero.2 fun hmem => hprocesses (List.mem_filter.1 hmem).2

lemma count_flatMap_ownMarks (d : Dispatcher) (ls : List Level) (k : TraitKind) :
    (ls.flatMap (d.ownMarks Event.ended?)).count k.name = ls.countP (·.processes k) := by
  induction ls with
  | nil => rfl
  | cons l rest ih =>
      rw [List.flatMap_cons, List.count_append, count_ownMarks, ih, List.countP_cons, Nat.add_comm]

end Dispatcher

/-! ## Applications -/

namespace Engine

variable {e : Engine} {c : Component} {w : Workload}

/-- The calls that fail in an application are those that its failure is wrapped with. -/
theorem failed_apply (hbuiltin : e.registry.IsBuiltin) (c : Component) (w : Workload) :
    (e.apply c w).journal.filterMap Event.failed? =
      (outcomePath (e.apply c w).outcome).reverse := by
  rw [apply]
  cases htraits : traits c with
  | error failure =>
      show [] = failure.path.reverse
      rw [(refused_of_traits_eq_error htraits).1]
      rfl
  | ok t? =>
      cases t? with
      | none => rfl
      | some t =>
          have haccounts : (e.contribute c w t).Accounts :=
            Dispatcher.accounts_dispatch (d := e.dispatcher c w) hbuiltin _
          rw [Run.Accounts, Run.select] at haccounts
          dsimp only
          cases hrun : (e.contribute c w t).outcome with
          | error failure =>
              rw [hrun] at haccounts
              exact haccounts
          | ok contribution =>
              have hplaced : outcomePath (w.place e.settings c.name contribution).outcome = [] := by
                cases houtcome : (w.place e.settings c.name contribution).outcome with
                | ok objects => rfl
                | error failure =>
                    obtain ⟨rfl, -⟩ := Workload.place_eq_error_iff.1 houtcome
                    rfl
              rw [hrun] at haccounts
              dsimp only
              rw [List.filterMap_append, haccounts, filterMap_map_warned fun _ => rfl, hplaced]
              rfl

/-- When an application succeeds, its calls of a kind are the levels that say something about it and
do not bar it. -/
theorem count_ended_apply (hcomplete : e.registry.IsComplete) {objects : List Companion}
    (hok : (e.apply c w).outcome = .ok objects) (k : TraitKind) :
    ((e.apply c w).journal.filterMap Event.ended?).count k.name =
      (e.levels c w).countP (·.processes k) := by
  rw [levels]
  cases htraits : traits c with
  | error failure =>
      rw [apply, htraits] at hok
      cases hok
  | ok t? =>
      cases t? with
      | none =>
          rw [apply, htraits]
          rfl
      | some t =>
          obtain ⟨contribution, hcontribution⟩ := contribute_of_apply htraits hok
          have hperm : ((e.contribute c w t).journal.filterMap Event.ended?).Perm
              (((e.dispatcher c w).levels t).flatMap ((e.dispatcher c w).ownMarks Event.ended?)) :=
            Dispatcher.select_dispatch (d := e.dispatcher c w) hcomplete quiet_ended? hcontribution
          simp only [apply, htraits, hcontribution]
          rw [List.filterMap_append, filterMap_map_warned fun _ => rfl, List.append_nil,
            hperm.count_eq, Dispatcher.count_flatMap_ownMarks]

end Engine

end WorkloadTraits
