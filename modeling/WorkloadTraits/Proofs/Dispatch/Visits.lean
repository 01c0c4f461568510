import WorkloadTraits.Proofs.Dispatch.Journal

/-!
# The levels that are visited

A processor may ask for any traits at all, also for those of its own kind again.  What it is called
with is then up to the chain of requests that leads to it.  This file follows these chains:
`Plan.requests` lists what a plan asks for on its way, `Dispatcher.calls` the processors that are
called at a level, and `Dispatcher.Visits` relates a level to the levels below it that a chain of
requests leads to.  The calls of a journal are those of the levels that are visited
(`called_dispatch`).

`Dispatcher.Processed` says what it means to process a level to an end, by the rules for requests
alone and without counting the levels that there is room for.  Every level is processed to exactly
one end, for every set of processors (`processed_iff`), as each request leads one level deeper and
none is accepted below the greatest depth.
-/

namespace WorkloadTraits

/-! ## Requests -/

namespace Plan

variable {α : Type} {answer answer' : Nested → Run Contribution} {p : Plan α}

/-- What a plan asks for on its way. -/
def requests (answer : Nested → Run Contribution) : Plan α → List Nested
  | done _ => []
  | fail _ => []
  | warn _ next => next.requests answer
  | nested request next => request :: (next (answer request).outcome).requests answer

/-- Of the answers, a plan sees those to its requests. -/
lemma run_congr (h : ∀ request ∈ p.requests answer, answer' request = answer request) :
    p.run answer' = p.run answer := by
  induction p with
  | done a => rfl
  | fail failure => rfl
  | warn w next ih =>
      rw [run, run, ih h]
  | nested request next ih =>
      rw [requests, List.forall_mem_cons] at h
      rw [run, run, h.1, ih _ h.2]

/-- A plan calls no processor itself: the calls on its way are those of the levels that it asks
for. -/
lemma called_run {name : String} {kind : TraitKind} {context : Context} :
    .called name kind context ∈ (p.run answer).journal ↔
      ∃ request ∈ p.requests answer, .called name kind context ∈ (answer request).journal := by
  induction p with
  | done a => simp [run, requests]
  | fail failure => simp [run, requests]
  | warn w next ih => simpa [run, requests] using ih
  | nested request next ih =>
      simp only [run, requests, List.mem_append, List.exists_mem_cons_iff, ih]

end Plan

/-! ## Calls -/

/-- A processor with what it is given. -/
structure Call where
  processor : Processor
  context : Context

namespace Call

/-- What the processor does. -/
def plan (call : Call) : Plan (Option Contribution) := call.processor.process call.context

/-- The mark that the call leaves in a journal. -/
def event (call : Call) : Event :=
  .called call.processor.name call.processor.kind call.context

end Call

lemma mem_journal_bind {α β : Type} {r : Run α} {f : α → Run β} {event : Event} :
    event ∈ (r.bind f).journal ↔
      event ∈ r.journal ∨ ∃ a, r.outcome = .ok a ∧ event ∈ (f a).journal := by
  rw [Run.bind]
  cases r.outcome with
  | error failure => simp
  | ok a => simp

namespace Dispatcher

variable {d : Dispatcher} {l l' : Level} {answer answer' : Nested → Run Contribution}

/-- The call of a processor at a level, which must say something about the processor's kind and
not bar it. -/
def call? (d : Dispatcher) (l : Level) (p : Processor) : Option Call :=
  if l.barred.contains p.kind then none
  else (l.traits.data? p.kind).map fun data => ⟨p, d.context l data⟩

/-- The calls of some processors at a level, up to the first that fails. -/
def callsOf (d : Dispatcher) (answer : Nested → Run Contribution) (l : Level) :
    List Processor → List Call
  | [] => []
  | p :: rest =>
    (d.call? l p).toList ++
      if (d.runProcessor answer l p).outcome.isOk then d.callsOf answer l rest else []

/-- The calls at a level. -/
def calls (d : Dispatcher) (answer : Nested → Run Contribution) (l : Level) : List Call :=
  d.callsOf answer l d.registry.processors

/-- What is asked for at a level. -/
def requests (d : Dispatcher) (answer : Nested → Run Contribution) (l : Level) : List Nested :=
  (d.calls answer l).flatMap (·.plan.requests answer)

lemma call?_eq_some {p : Processor} {call : Call} :
    d.call? l p = some call ↔ l.barred.contains p.kind = false ∧
      ∃ data, l.traits.data? p.kind = some data ∧ call = ⟨p, d.context l data⟩ := by
  rw [call?]
  cases l.barred.contains p.kind with
  | true => simp
  | false => simp [eq_comm]

lemma runProcessor_of_call? {p : Processor} {call : Call} (h : d.call? l p = some call) :
    d.runProcessor answer l p =
      framed p.name p.kind call.context (call.plan.run answer) := by
  obtain ⟨hallowed, data, hdata, rfl⟩ := call?_eq_some.1 h
  simp only [runProcessor, hdata, hallowed, Bool.false_eq_true, if_false]
  rfl

/-- A processor that is not called does nothing but warn, and does not fail. -/
lemma runProcessor_of_not_called {p : Processor} (h : d.call? l p = none) :
    ∃ warnings : List Warning, ∀ answer,
      d.runProcessor answer l p = ⟨warnings.map .warned, .ok none⟩ := by
  rw [call?] at h
  split at h
  · rename_i hbarred
    simp only [runProcessor, hbarred, if_true]
    cases l.traits.data? p.kind with
    | none => exact ⟨[], fun _ => rfl⟩
    | some data => exact ⟨[_], fun _ => rfl⟩
  · rw [Option.map_eq_none_iff] at h
    simp only [runProcessor, h]
    exact ⟨[], fun _ => rfl⟩

lemma exists_of_mem_callsOf {ps : List Processor} {call : Call}
    (h : call ∈ d.callsOf answer l ps) : ∃ p ∈ ps, d.call? l p = some call := by
  induction ps with
  | nil => exact (List.not_mem_nil h).elim
  | cons p rest ih =>
      rw [callsOf, List.mem_append, Option.mem_toList] at h
      rcases h with h | h
      · exact ⟨p, List.mem_cons_self, h⟩
      · split at h
        · obtain ⟨q, hq, hcall⟩ := ih h
          exact ⟨q, List.mem_cons_of_mem _ hq, hcall⟩
        · exact (List.not_mem_nil h).elim

/-- Of the answers, a processor sees those to its requests. -/
lemma runProcessor_congr {p : Processor} (h : ∀ call, d.call? l p = some call →
      ∀ request ∈ call.plan.requests answer, answer' request = answer request) :
    d.runProcessor answer' l p = d.runProcessor answer l p := by
  cases hcall : d.call? l p with
  | none =>
      obtain ⟨warnings, hrun⟩ := runProcessor_of_not_called hcall
      rw [hrun, hrun]
  | some call =>
      rw [runProcessor_of_call? hcall, runProcessor_of_call? hcall,
        Plan.run_congr (h call hcall)]

/-- So do several processors, one after the other. -/
lemma runProcessors_congr {ps : List Processor}
    (h : ∀ call ∈ d.callsOf answer l ps, ∀ request ∈ call.plan.requests answer,
      answer' request = answer request) :
    d.runProcessors answer' l ps = d.runProcessors answer l ps := by
  induction ps with
  | nil => rfl
  | cons p rest ih =>
      have hown : d.runProcessor answer' l p = d.runProcessor answer l p :=
        runProcessor_congr fun call hcall =>
          h call (List.mem_append_left _ (Option.mem_toList.2 hcall))
      rw [runProcessors_cons, runProcessors_cons, hown, Run.bind, Run.bind]
      cases houtcome : (d.runProcessor answer l p).outcome with
      | error failure => rfl
      | ok c? =>
          have hrest : d.callsOf answer l (p :: rest) =
              (d.call? l p).toList ++ d.callsOf answer l rest := by
            rw [callsOf, houtcome]
            rfl
          rw [hrest] at h
          rw [ih fun call hcall => h call (List.mem_append_right _ hcall)]

lemma processLevel_congr
    (h : ∀ request ∈ d.requests answer l, answer' request = answer request) :
    d.processLevel answer' l = d.processLevel answer l := by
  rw [processLevel, processLevel, runProcessors_congr fun call hcall request hrequest =>
    h request (List.mem_flatMap.2 ⟨call, hcall, hrequest⟩)]

/-! ## The calls of a journal -/

section Journal

variable {name : String} {kind : TraitKind} {context : Context}

/-- The calls that a processor's run journals are its own and those of its requests. -/
lemma called_runProcessor {p : Processor} :
    .called name kind context ∈ (d.runProcessor answer l p).journal ↔
      ∃ call, d.call? l p = some call ∧ (call.event = .called name kind context ∨
        ∃ request ∈ call.plan.requests answer,
          .called name kind context ∈ (answer request).journal) := by
  cases hcall : d.call? l p with
  | none =>
      obtain ⟨warnings, hrun⟩ := runProcessor_of_not_called hcall
      simp [hrun]
  | some call =>
      obtain ⟨-, data, -, rfl⟩ := call?_eq_some.1 hcall
      rw [runProcessor_of_call? hcall]
      simp [framed, Call.event, Plan.called_run, eq_comm]

lemma called_runProcessors {ps : List Processor} :
    .called name kind context ∈ (d.runProcessors answer l ps).journal ↔
      ∃ call ∈ d.callsOf answer l ps, call.event = .called name kind context ∨
        ∃ request ∈ call.plan.requests answer,
          .called name kind context ∈ (answer request).journal := by
  induction ps with
  | nil => simp [runProcessors, callsOf]
  | cons p rest ih =>
      rw [runProcessors_cons, mem_journal_bind, called_runProcessor, callsOf]
      cases (d.runProcessor answer l p).outcome with
      | error failure => simp [Except.isOk, Except.toBool]
      | ok c? =>
          simp only [ih, Except.ok.injEq, exists_eq_left', List.mem_append, Option.mem_toList,
            Except.isOk, Except.toBool, if_true, or_and_right, exists_or]

/-- The calls that a level journals are its own and those of the levels that it asks for. -/
theorem called_processLevel :
    .called name kind context ∈ (d.processLevel answer l).journal ↔
      (∃ call ∈ d.calls answer l, call.event = .called name kind context) ∨
        ∃ request ∈ d.requests answer l,
          .called name kind context ∈ (answer request).journal := by
  refine called_runProcessors.trans ?_
  constructor
  · rintro ⟨call, hcall, hevent | ⟨request, hrequest, hjournal⟩⟩
    · exact .inl ⟨call, hcall, hevent⟩
    · exact .inr ⟨request, List.mem_flatMap.2 ⟨call, hcall, hrequest⟩, hjournal⟩
  · rintro (⟨call, hcall, hevent⟩ | ⟨request, hrequest, hjournal⟩)
    · exact ⟨call, hcall, .inl hevent⟩
    · obtain ⟨call, hcall, hrequest⟩ := List.mem_flatMap.1 hrequest
      exact ⟨call, hcall, .inr ⟨request, hrequest, hjournal⟩⟩

end Journal

/-! ## Levels below -/

@[simp] lemma depth_below (l : Level) (request : Nested) :
    (below l request).depth = l.depth + 1 := rfl

/-- What goes up from the levels that are accepted below a level holds of every level: each request
leads one level deeper, and none is accepted below the greatest depth. -/
theorem level_induction (maxDepth : Nat) {P : Level → Prop}
    (step : ∀ l, (∀ request, l.depth + 1 ≤ maxDepth → P (below l request)) → P l) (l : Level) :
    P l := by
  induction hroom : maxDepth - l.depth using Nat.strong_induction_on generalizing l with
  | _ room ih =>
    refine step l fun request hdepth => ih _ ?_ _ rfl
    rw [depth_below]
    omega

/-- What the requests of a level are answered: below the greatest depth nothing is processed. -/
def answerAt (d : Dispatcher) (l : Level) (request : Nested) : Run Contribution :=
  if d.settings.maxDepth < l.depth + 1 then ⟨[], .error (.recursionLimit d.settings.maxDepth)⟩
  else d.dispatch (below l request)

lemma answerAt_of_exhausted (hdepth : d.settings.maxDepth < l.depth + 1) (request : Nested) :
    d.answerAt l request = ⟨[], .error (.recursionLimit d.settings.maxDepth)⟩ :=
  if_pos hdepth

lemma answerAt_of_room (hdepth : l.depth + 1 ≤ d.settings.maxDepth) (request : Nested) :
    d.answerAt l request = d.dispatch (below l request) :=
  if_neg (Nat.not_lt.2 hdepth)

/-- A level is processed with these answers, and the room for levels is forgotten. -/
theorem dispatch_eq (d : Dispatcher) (l : Level) :
    d.dispatch l = d.processLevel (d.answerAt l) l := by
  cases hroom : d.settings.maxDepth - l.depth with
  | zero =>
      have hdepth : d.settings.maxDepth < l.depth + 1 := by omega
      rw [dispatch, hroom, dispatchWithin, funext (answerAt_of_exhausted hdepth)]
  | succ room =>
      have hdepth : l.depth + 1 ≤ d.settings.maxDepth := by omega
      have hbelow : ∀ request, d.dispatchWithin room (below l request) = d.answerAt l request := by
        intro request
        have hroom' : d.settings.maxDepth - (below l request).depth = room := by
          rw [depth_below]
          omega
        rw [answerAt_of_room hdepth, dispatch, hroom']
      rw [dispatch, hroom, dispatchWithin, funext hbelow]

/-- A level is processed to an end, by the rules for the requests of each level alone: below the
greatest depth a request is refused, and else the level that it asks for is processed to an end as
well. -/
inductive Processed (d : Dispatcher) : Level → Run Contribution → Prop where
  | intro {l : Level} (answer : Nested → Run Contribution)
      (refused : ∀ request ∈ d.requests answer l, d.settings.maxDepth < l.depth + 1 →
        answer request = ⟨[], .error (.recursionLimit d.settings.maxDepth)⟩)
      (processed : ∀ request ∈ d.requests answer l, l.depth + 1 ≤ d.settings.maxDepth →
        Processed d (below l request) (answer request)) :
      Processed d l (d.processLevel answer l)

/-- Every level is processed to an end, whatever the processors are. -/
lemma processed_dispatch (d : Dispatcher) (l : Level) : d.Processed l (d.dispatch l) := by
  induction l using level_induction d.settings.maxDepth with
  | step l ih =>
      rw [dispatch_eq]
      refine .intro _ (fun request _ hdepth => answerAt_of_exhausted hdepth request) ?_
      intro request _ hdepth
      rw [answerAt_of_room hdepth]
      exact ih request hdepth

/-- **Termination.**  A level is processed to one end. -/
theorem processed_iff {run : Run Contribution} : d.Processed l run ↔ run = d.dispatch l := by
  constructor
  · intro h
    induction h with
    | @intro l answer refused _ ih =>
        rw [dispatch_eq]
        refine (processLevel_congr fun request hrequest => ?_).symm
        by_cases hdepth : d.settings.maxDepth < l.depth + 1
        · rw [answerAt_of_exhausted hdepth, refused request hrequest hdepth]
        · have hdepth : l.depth + 1 ≤ d.settings.maxDepth := Nat.not_lt.1 hdepth
          rw [answerAt_of_room hdepth, ih request hrequest hdepth]
  · rintro rfl
    exact d.processed_dispatch l

/-! ## Chains of requests -/

/-- The levels that chains of requests lead to from a level. -/
inductive Visits (d : Dispatcher) : Level → List Nested → Level → Prop where
  | here {l : Level} : Visits d l [] l
  | deeper {l l' : Level} {request : Nested} {chain : List Nested}
      (asked : request ∈ d.requests (d.answerAt l) l) (room : l.depth + 1 ≤ d.settings.maxDepth)
      (rest : Visits d (below l request) chain l') : Visits d l (request :: chain) l'

namespace Visits

variable {chain : List Nested}

lemma depth_eq (h : d.Visits l chain l') : l'.depth = l.depth + chain.length := by
  induction h with
  | here => rfl
  | deeper _ _ _ ih =>
      rw [ih, List.length_cons, depth_below]
      omega

/-- No request leads below the greatest depth. -/
lemma depth_le (h : d.Visits l chain l') : l'.depth ≤ max l.depth d.settings.maxDepth := by
  induction h with
  | here => exact Nat.le_max_left _ _
  | deeper _ room _ ih =>
      rw [depth_below, Nat.max_eq_right room] at ih
      exact ih.trans (Nat.le_max_right _ _)

/-- What is barred are the kinds that were barred at the start and those that the requests bar. -/
lemma barred_iff (h : d.Visits l chain l') {k : TraitKind} :
    l'.barred.contains k = true ↔
      l.barred.contains k = true ∨ ∃ request ∈ chain, k ∈ request.barring := by
  induction h with
  | here => simp
  | deeper _ _ _ ih =>
      rw [ih, Dispatcher.below, KindSet.contains_insertAll, Bool.or_eq_true, List.contains_iff_mem,
        List.exists_mem_cons_iff, or_assoc, or_left_comm]

end Visits

/-- The calls of a journal are those of the levels that are visited. -/
theorem called_dispatch {name : String} {kind : TraitKind} {context : Context} :
    .called name kind context ∈ (d.dispatch l).journal ↔
      ∃ chain l', d.Visits l chain l' ∧
        ∃ call ∈ d.calls (d.answerAt l') l', call.event = .called name kind context := by
  constructor
  · intro h
    induction l using level_induction d.settings.maxDepth with
    | step l ih =>
      rw [dispatch_eq, called_processLevel] at h
      rcases h with hown | ⟨request, hrequest, hjournal⟩
      · exact ⟨[], l, .here, hown⟩
      · by_cases hdepth : d.settings.maxDepth < l.depth + 1
        · rw [answerAt_of_exhausted hdepth] at hjournal
          exact (List.not_mem_nil hjournal).elim
        · have hdepth : l.depth + 1 ≤ d.settings.maxDepth := Nat.not_lt.1 hdepth
          rw [answerAt_of_room hdepth] at hjournal
          obtain ⟨chain, l', hvisits, hcalls⟩ := ih request hdepth hjournal
          exact ⟨request :: chain, l', .deeper hrequest hdepth hvisits, hcalls⟩
  · rintro ⟨chain, l', hvisits, hcalls⟩
    induction hvisits with
    | here =>
        rw [dispatch_eq, called_processLevel]
        exact .inl hcalls
    | deeper hrequest hdepth _ ih =>
        rw [dispatch_eq, called_processLevel]
        refine .inr ⟨_, hrequest, ?_⟩
        rw [answerAt_of_room hdepth]
        exact ih hcalls

/-- What is certain about a call that a chain of requests leads to from a level. -/
structure Bounded (d : Dispatcher) (l : Level) (chain : List Nested) (call : Call) : Prop where
  depth_eq : call.context.depth = l.depth + chain.length
  depth_le : call.context.depth ≤ max l.depth d.settings.maxDepth
  barred : ∀ k, call.context.barred.contains k = true ↔
    l.barred.contains k = true ∨ ∃ request ∈ chain, k ∈ request.barring
  allowed : call.context.barred.contains call.processor.kind = false

lemma Visits.bounded {chain : List Nested} (h : d.Visits l chain l') {call : Call}
    (hcall : call ∈ d.calls answer l') : d.Bounded l chain call := by
  obtain ⟨p, -, hp⟩ := exists_of_mem_callsOf hcall
  obtain ⟨hallowed, data, -, rfl⟩ := call?_eq_some.1 hp
  exact ⟨h.depth_eq, h.depth_le, fun _ => h.barred_iff, hallowed⟩

/-- **Bounded recursion.**  Whatever the processors ask for, a level is processed to one end.  The
calls that are made are those at the levels that chains of requests lead to; none of them is below
the greatest depth, unless the start is, each is given all the kinds that were barred on the way,
and none is for such a kind.  Where there is no room for another level, every request is refused,
and nothing is called for it. -/
theorem recursion_bounded (d : Dispatcher) (l : Level) :
    (∀ run, d.Processed l run ↔ run = d.dispatch l) ∧
      (∀ name kind context, .called name kind context ∈ (d.dispatch l).journal ↔
        ∃ chain l', d.Visits l chain l' ∧
          ∃ call ∈ d.calls (d.answerAt l') l', call.event = .called name kind context) ∧
      (∀ chain l', d.Visits l chain l' →
        ∀ call ∈ d.calls (d.answerAt l') l', d.Bounded l chain call) ∧
      ∀ l', d.settings.maxDepth < l'.depth + 1 → d.dispatch l' =
        d.processLevel (fun _ => ⟨[], .error (.recursionLimit d.settings.maxDepth)⟩) l' := by
  refine ⟨fun _ => processed_iff, fun _ _ _ => called_dispatch,
    fun _ _ hvisits _ hcall => hvisits.bounded hcall, fun l' hdepth => ?_⟩
  rw [dispatch_eq, funext (answerAt_of_exhausted hdepth)]

/-- Variables, for a processor to ask for. -/
def moreTraits : Traits where
  envs := [{ name := "MODE", valueFrom := { static := some "live" } }]

/-- A processor of variables that asks for variables again. -/
def asksAgain : Processor where
  name := "again"
  kind := .envs
  process := fun c => do return some (← Plan.dispatch ⟨moreTraits, c.target ++ "-again", [.init]⟩)

/-- A dispatcher with that processor and two levels below the first. -/
def endless : Dispatcher where
  registry := ⟨[asksAgain], by decide⟩
  settings := { maxDepth := 2 }
  component := { name := "web" }
  workload := { kind := .deployment }

/-- A level for it, at which a kind is barred. -/
def endlessStart : Level where
  traits := moreTraits
  target := "web"
  barred := .ofList [.rbac]

theorem recursion_bounded_endless :
    (endless.dispatch endlessStart).outcome =
        .error (Failure.wrap (.recursionLimit 2) ["again", "again", "again"]) ∧
      (∃ context, context.depth = 2 ∧
        .called "again" .envs context ∈ (endless.dispatch endlessStart).journal) ∧
      ∀ context, .called "again" .envs context ∈ (endless.dispatch endlessStart).journal →
        context.depth ≤ 2 ∧ context.barred.contains .rbac = true := by
  refine ⟨rfl, ⟨_, ?_, List.mem_iff_getElem?.2 ⟨2, rfl⟩⟩, fun context hcalled => ?_⟩
  · rfl
  · obtain ⟨-, hjournal, hbounded, -⟩ := recursion_bounded endless endlessStart
    obtain ⟨chain, l', hvisits, call, hcall, hevent⟩ := (hjournal _ _ _).1 hcalled
    obtain ⟨-, -, rfl⟩ := Event.called.inj hevent
    have hcertain := hbounded chain l' hvisits call hcall
    exact ⟨hcertain.depth_le, (hcertain.barred .rbac).2 (.inl rfl)⟩

end Dispatcher

end WorkloadTraits
