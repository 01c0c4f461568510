import WorkloadTraits.Proofs.Builtin.Level

/-!
# What a journal can say

A processor warns about what it was asked and cannot do; a level warns about a kind that it bars.
Which warnings a plan gives itself can be read off the plan, whatever comes of the traits that it
has processed (`Plan.WarnsOnly`), so a property of all of them goes from the processors to whole
levels by one induction (`Dispatcher.warnings_dispatchWithin`).

The built-in processors give two sorts of warnings.  In particular nothing that is processed warns
about the workload: those warnings come of placing alone.
-/

namespace WorkloadTraits

/-- The warnings of a run. -/
def Run.warnings {α : Type} (r : Run α) : List Warning := journalWarnings r.journal

/-! ## Journals -/

@[simp] lemma journalWarnings_nil : journalWarnings [] = [] := rfl

@[simp] lemma journalWarnings_append (es fs : List Event) :
    journalWarnings (es ++ fs) = journalWarnings es ++ journalWarnings fs :=
  List.filterMap_append

@[simp] lemma journalWarnings_warned (w : Warning) (es : List Event) :
    journalWarnings (.warned w :: es) = w :: journalWarnings es := rfl

@[simp] lemma journalWarnings_called (name : String) (k : TraitKind) (c : Context)
    (es : List Event) : journalWarnings (.called name k c :: es) = journalWarnings es := rfl

@[simp] lemma journalWarnings_finished (name : String) (ok : Bool) (es : List Event) :
    journalWarnings (.finished name ok :: es) = journalWarnings es := rfl

/-- Warnings that are journaled are the warnings of the journal. -/
@[simp] lemma journalWarnings_map_warned (ws : List Warning) :
    journalWarnings (ws.map .warned) = ws := by
  induction ws with
  | nil => rfl
  | cons w rest ih => rw [List.map_cons, journalWarnings_warned, ih]

/-! ## Plans -/

/-- One run after another: the second is reached if the first succeeds. -/
def Run.bind {α β : Type} (r : Run α) (f : α → Run β) : Run β :=
  match r.outcome with
  | .ok a => ⟨r.journal ++ (f a).journal, (f a).outcome⟩
  | .error failure => ⟨r.journal, .error failure⟩

namespace Plan

variable {α β : Type} {P : Warning → Prop}

lemma run_bind (answer : Nested → Run Contribution) (p : Plan α) (f : α → Plan β) :
    (p >>= f).run answer = (p.run answer).bind fun a => (f a).run answer := by
  show (p.andThen f).run answer = _
  induction p with
  | done a => rfl
  | fail failure => rfl
  | warn w next ih =>
      rw [andThen, run, run, ih, Run.bind, Run.bind]
      dsimp only
      cases (next.run answer).outcome <;> rfl
  | nested request next ih =>
      rw [andThen, run, run, ih, Run.bind, Run.bind]
      dsimp only
      cases ((next (answer request).outcome).run answer).outcome with
      | error failure => rfl
      | ok a => simp only [List.append_assoc]

@[simp] lemma run_dispatch (answer : Nested → Run Contribution) (request : Nested) :
    (dispatch request).run answer = answer request := by
  have hjournal : ∀ x : Except Failure Contribution, (ofExcept x).run answer = ⟨[], x⟩ := by
    intro x
    cases x <;> rfl
  rw [dispatch, run, hjournal, List.append_nil]

/-- A plan that has no nested traits processed. -/
def AsksNothing : Plan α → Prop
  | done _ => True
  | fail _ => True
  | warn _ next => next.AsksNothing
  | nested _ _ => False

lemma AsksNothing.bind {p : Plan α} {f : α → Plan β} (hp : p.AsksNothing)
    (hf : ∀ a, (f a).AsksNothing) : (p >>= f).AsksNothing := by
  show (p.andThen f).AsksNothing
  induction p with
  | done a => exact hf a
  | fail failure => trivial
  | warn w next ih => exact ih hp
  | nested request next => exact hp.elim

lemma asksNothing_pure (a : α) : (pure a : Plan α).AsksNothing := trivial

lemma asksNothing_ofExcept (x : Except Failure α) : (ofExcept x).AsksNothing := by
  cases x <;> trivial

lemma asksNothing_warnings (ws : List Warning) : (warnings ws).AsksNothing := by
  induction ws with
  | nil => trivial
  | cons w rest ih => exact ih

/-- A plan that asks nothing runs the same whatever the answers are. -/
lemma AsksNothing.run_eq {p : Plan α} (hp : p.AsksNothing)
    (answer answer' : Nested → Run Contribution) : p.run answer = p.run answer' := by
  induction p with
  | done a => rfl
  | fail failure => rfl
  | warn w next ih => rw [run, run, ih hp]
  | nested request next => exact hp.elim

/-- The warnings that a plan gives itself have a property, whatever comes of nested traits. -/
def WarnsOnly (P : Warning → Prop) : Plan α → Prop
  | done _ => True
  | fail _ => True
  | warn w next => P w ∧ next.WarnsOnly P
  | nested _ next => ∀ outcome, (next outcome).WarnsOnly P

lemma WarnsOnly.bind {p : Plan α} {f : α → Plan β} (hp : p.WarnsOnly P)
    (hf : ∀ a, (f a).WarnsOnly P) : (p >>= f).WarnsOnly P := by
  show (p.andThen f).WarnsOnly P
  induction p with
  | done a => exact hf a
  | fail failure => trivial
  | warn w next ih => exact ⟨hp.1, ih hp.2⟩
  | nested request next ih => exact fun outcome => ih outcome (hp outcome)

lemma WarnsOnly.mono {Q : Warning → Prop} {p : Plan α} (hp : p.WarnsOnly P)
    (hPQ : ∀ w, P w → Q w) : p.WarnsOnly Q := by
  induction p with
  | done a => trivial
  | fail failure => trivial
  | warn w next ih => exact ⟨hPQ w hp.1, ih hp.2⟩
  | nested request next ih => exact fun outcome => ih outcome (hp outcome)

lemma warnsOnly_pure (a : α) : (pure a : Plan α).WarnsOnly P := trivial

lemma warnsOnly_ofExcept (x : Except Failure α) : (ofExcept x).WarnsOnly P := by
  cases x <;> trivial

lemma warnsOnly_dispatch (request : Nested) : (dispatch request).WarnsOnly P :=
  fun outcome => warnsOnly_ofExcept outcome

lemma warnsOnly_warnings {ws : List Warning} (h : ∀ w ∈ ws, P w) : (warnings ws).WarnsOnly P := by
  induction ws with
  | nil => trivial
  | cons w rest ih =>
      rw [List.forall_mem_cons] at h
      exact ⟨h.1, ih h.2⟩

/-- What is journaled on the way through a plan are its own warnings, and those of nested
traits. -/
lemma warnings_run {answer : Nested → Run Contribution} {p : Plan α} (hp : p.WarnsOnly P)
    (hanswer : ∀ request, ∀ w ∈ (answer request).warnings, P w) :
    ∀ w ∈ (p.run answer).warnings, P w := by
  induction p with
  | done a => exact fun w hw => (List.not_mem_nil hw).elim
  | fail failure => exact fun w hw => (List.not_mem_nil hw).elim
  | warn w next ih =>
      intro w' hw'
      rcases List.mem_cons.1 hw' with rfl | hw'
      · exact hp.1
      · exact ih hp.2 w' hw'
  | nested request next ih =>
      intro w hw
      have happend : ((nested request next).run answer).warnings =
          (answer request).warnings ++
            ((next (answer request).outcome).run answer).warnings :=
        journalWarnings_append _ _
      rw [happend, List.mem_append] at hw
      rcases hw with hw | hw
      · exact hanswer request w hw
      · exact ih _ (hp _) w hw

end Plan

/-! ## Levels -/

namespace Dispatcher

variable {d : Dispatcher} {P : Warning → Prop}

/-- The run of a processor's plan between its two marks, with its failure marked as well. -/
def framed (name : String) (kind : TraitKind) (context : Context)
    (own : Run (Option Contribution)) : Run (Option Contribution) where
  journal := .called name kind context :: (own.journal ++ [.finished name own.outcome.isOk])
  outcome := own.outcome.mapError (.inTrait name)

@[simp] lemma warnings_framed (name : String) (kind : TraitKind) (context : Context)
    (own : Run (Option Contribution)) : (framed name kind context own).warnings = own.warnings := by
  simp [Run.warnings, framed]

/-- What one processor does at a level. -/
def runProcessor (d : Dispatcher) (answer : Nested → Run Contribution) (l : Level) (p : Processor) :
    Run (Option Contribution) :=
  match l.traits.data? p.kind with
  | none => ⟨[], .ok none⟩
  | some data =>
    if l.barred.contains p.kind then
      ⟨[.warned (.kindIgnored d.component.name l.target l.depth p.kind)], .ok none⟩
    else
      framed p.name p.kind (d.context l data) ((p.process (d.context l data)).run answer)

/-- Processors run one after the other. -/
lemma runProcessors_cons (answer : Nested → Run Contribution) (l : Level) (p : Processor)
    (ps : List Processor) :
    d.runProcessors answer l (p :: ps) = (d.runProcessor answer l p).bind fun c? =>
      ⟨(d.runProcessors answer l ps).journal,
        (d.runProcessors answer l ps).outcome.map (c?.toList ++ ·)⟩ := by
  have hmap : ∀ x : Except Failure (List Contribution), x.map (Option.none.toList ++ ·) = x := by
    intro x
    cases x <;> rfl
  rw [runProcessors, runProcessor]
  cases l.traits.data? p.kind with
  | none => simp only [Run.bind, hmap, List.nil_append]
  | some data =>
      dsimp only
      split
      · simp only [Run.bind, hmap, List.singleton_append]
      · cases houtcome : ((p.process (d.context l data)).run answer).outcome with
        | error failure =>
            simp [framed, Run.bind, houtcome, Except.mapError, Except.isOk, Except.toBool]
        | ok c? => simp [framed, Run.bind, houtcome, Except.mapError, Except.isOk, Except.toBool]

lemma warnings_bind {α β : Type} {r : Run α} {f : α → Run β} (hr : ∀ w ∈ r.warnings, P w)
    (hf : ∀ a, ∀ w ∈ (f a).warnings, P w) : ∀ w ∈ (r.bind f).warnings, P w := by
  intro w hw
  rw [Run.bind] at hw
  split at hw
  · rename_i a _
    rw [Run.warnings, journalWarnings_append, List.mem_append] at hw
    exact hw.elim (hr w) (hf a w)
  · exact hr w hw

lemma warnings_runProcessor {answer : Nested → Run Contribution} {l : Level} {p : Processor}
    (hanswer : ∀ request, ∀ w ∈ (answer request).warnings, P w)
    (hbarred : ∀ k, P (.kindIgnored d.component.name l.target l.depth k))
    (hp : ∀ context, (p.process context).WarnsOnly P) :
    ∀ w ∈ (d.runProcessor answer l p).warnings, P w := by
  rw [runProcessor]
  split
  · exact fun w hw => (List.not_mem_nil hw).elim
  · rename_i data _
    split
    · intro w hw
      rw [List.mem_singleton.1 hw]
      exact hbarred p.kind
    · rw [warnings_framed]
      exact Plan.warnings_run (hp (d.context l data)) hanswer

lemma warnings_runProcessors {answer : Nested → Run Contribution} {l : Level}
    (hanswer : ∀ request, ∀ w ∈ (answer request).warnings, P w)
    (hbarred : ∀ k, P (.kindIgnored d.component.name l.target l.depth k)) {ps : List Processor}
    (hps : ∀ p ∈ ps, ∀ context, (p.process context).WarnsOnly P) :
    ∀ w ∈ (d.runProcessors answer l ps).warnings, P w := by
  induction ps with
  | nil => exact fun w hw => (List.not_mem_nil hw).elim
  | cons p rest ih =>
      rw [List.forall_mem_cons] at hps
      rw [runProcessors_cons]
      exact warnings_bind (warnings_runProcessor hanswer hbarred hps.1) fun _ => ih hps.2

/-- What a level and the levels below it warn about is what its processors warn about, and that
kinds are barred. -/
theorem warnings_dispatchWithin
    (hps : ∀ p ∈ d.registry.processors, ∀ context, (p.process context).WarnsOnly P)
    (hbarred : ∀ target depth k, P (.kindIgnored d.component.name target depth k))
    (room : Nat) (l : Level) : ∀ w ∈ (d.dispatchWithin room l).warnings, P w := by
  induction room generalizing l with
  | zero =>
      exact warnings_runProcessors (fun _ w hw => (List.not_mem_nil hw).elim)
        (hbarred l.target l.depth) hps
  | succ room ih =>
      exact warnings_runProcessors (fun request => ih (below l request))
        (hbarred l.target l.depth) hps

end Dispatcher

/-! ## The built-in processors -/

/-- Whether a warning is about something that a processor was asked for. -/
def Warning.isOfProcessor : Warning → Bool
  | initProbesIgnored _ | impliedOverridden _ => true
  | _ => false

/-- Whether a warning is about a barred kind. -/
def Warning.isOfBarredKind : Warning → Bool
  | kindIgnored .. => true
  | _ => false

namespace Containers

open Plan

lemma warnsOnly_decorate (container : Container) (traits : Traits) (barring : List TraitKind)
    (isInit : Bool) :
    (decorate container traits barring isInit).WarnsOnly (·.isOfProcessor = true) := by
  rw [decorate]
  split
  · trivial
  · refine (warnsOnly_dispatch _).bind fun c => ?_
    split
    · exact WarnsOnly.bind ⟨rfl, trivial⟩ fun _ => warnsOnly_pure _
    · exact warnsOnly_pure _

lemma warnsOnly_inits (site : Site) (index : Nat) (before : Contribution)
    (entries : List (InitEntry Traits)) :
    (inits site index before entries).WarnsOnly (·.isOfProcessor = true) := by
  induction entries generalizing index before with
  | nil => trivial
  | cons e rest ih =>
      rw [inits]
      dsimp only
      split
      · trivial
      · exact (warnsOnly_decorate _ _ _ _).bind fun _ => ih _ _

lemma warnsOnly_sidecars (site : Site) (index : Nat) (before : Contribution)
    (entries : List (SidecarEntry Traits)) :
    (sidecars site index before entries).WarnsOnly (·.isOfProcessor = true) := by
  induction entries generalizing index before with
  | nil => trivial
  | cons e rest ih =>
      rw [sidecars]
      exact (warnsOnly_decorate _ _ _ _).bind fun _ => ih _ _

end Containers

namespace Ingresses

open Plan

lemma warnsOnly_objects (site : Site) (index : Nat) (entries : List (Option IngressEntry)) :
    (objects site index entries).WarnsOnly (·.isOfProcessor = true) := by
  induction entries generalizing index with
  | nil => trivial
  | cons e? rest ih =>
      cases e? with
      | none => trivial
      | some e =>
          rw [objects]
          have hbuild : (e.build site index).WarnsOnly (·.isOfProcessor = true) := by
            refine (warnsOnly_ofExcept _).bind fun _ => WarnsOnly.bind ?_ fun _ =>
              warnsOnly_ofExcept _
            refine warnsOnly_warnings fun w hw => ?_
            obtain ⟨key, -, rfl⟩ := List.mem_map.1 hw
            rfl
          split
          · trivial
          · exact hbuild.bind fun _ => (ih _).bind fun _ => trivial

lemma asksNothing_objects (site : Site) (index : Nat) (entries : List (Option IngressEntry)) :
    (objects site index entries).AsksNothing := by
  induction entries generalizing index with
  | nil => trivial
  | cons e? rest ih =>
      cases e? with
      | none => trivial
      | some e =>
          rw [objects]
          have hbuild : (e.build site index).AsksNothing :=
            (asksNothing_ofExcept _).bind fun _ =>
              (asksNothing_warnings _).bind fun _ => asksNothing_ofExcept _
          split
          · trivial
          · exact hbuild.bind fun _ => (ih _).bind fun _ => asksNothing_pure _

end Ingresses

/-- The built-in processors warn about nothing else than what they were asked for. -/
theorem warnsOnly_builtinProcessor (k : TraitKind) (context : Context) :
    ((builtinProcessor k).process context).WarnsOnly (·.isOfProcessor = true) := by
  obtain ⟨site, workload, data, depth, barred⟩ := context
  cases k <;> cases data
  case init.init => exact (Containers.warnsOnly_inits _ _ _ _).bind fun _ => trivial
  case sidecar.sidecar =>
    exact (Plan.warnsOnly_ofExcept _).bind fun _ =>
      (Containers.warnsOnly_sidecars _ _ _ _).bind fun _ => trivial
  case ingress.ingress => exact (Ingresses.warnsOnly_objects _ _ _).bind fun _ => trivial
  all_goals first | exact Plan.warnsOnly_ofExcept _ | trivial

/-- Only the processors that add containers have nested traits processed. -/
theorem asksNothing_builtinProcessor {k : TraitKind} (hinit : k ≠ .init) (hsidecar : k ≠ .sidecar)
    (context : Context) : ((builtinProcessor k).process context).AsksNothing := by
  obtain ⟨site, workload, data, depth, barred⟩ := context
  cases k <;> cases data
  case init.init => exact absurd rfl hinit
  case sidecar.sidecar => exact absurd rfl hsidecar
  case ingress.ingress =>
    exact (Ingresses.asksNothing_objects _ _ _).bind fun _ => Plan.asksNothing_pure _
  all_goals first | exact Plan.asksNothing_ofExcept _ | trivial

namespace Dispatcher

/-- Under the built-in processors, everything that a dispatch warns about is something that a
processor was asked for, or a barred kind. -/
theorem warnings_dispatch {d : Dispatcher} (hbuiltin : d.registry.IsBuiltin) (l : Level) :
    ∀ w ∈ (d.dispatch l).warnings, w.isOfProcessor = true ∨ w.isOfBarredKind = true := by
  refine warnings_dispatchWithin (fun p hp context => ?_) (fun _ _ _ => .inr rfl) _ l
  have hown : (p.process context).WarnsOnly (·.isOfProcessor = true) := by
    rw [hbuiltin p hp]
    exact warnsOnly_builtinProcessor p.kind context
  exact hown.mono fun _ => .inl

end Dispatcher

end WorkloadTraits
