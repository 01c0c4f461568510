import WorkloadTraits.Proofs.Dispatch.Faults
import WorkloadTraits.Proofs.Dispatch.Selection

/-!
# Failures name the way to the first failure

A failure is wrapped once at each level on its way up, so its wrappers spell a way down: at every
level the processor that was at work, and at the end what went wrong there.  This is the way to the
first failure.  Where it passes, and where it ends, all processors that ran before have succeeded,
and so have all levels that were visited off the way (`Dispatcher.failure_names_first`).

What carries it is that the plans of the built-in processors are disciplined: a nested level that
fails ends the plan with its failure, so among the requests of a level there is at most one that
failed, and everything else that was asked for succeeded.
-/

namespace WorkloadTraits

/-! ## Plans -/

namespace Plan

variable {α β : Type} {asks : Nested → Prop} {p : Plan α} {answer : Nested → Run Contribution}

lemma requests_bind (p : Plan α) (f : α → Plan β) :
    (p >>= f).requests answer = p.requests answer ++
      match (p.run answer).outcome with
      | .ok a => (f a).requests answer
      | .error _ => [] := by
  show (p.andThen f).requests answer = _
  induction p with
  | done a => rfl
  | fail failure => rfl
  | warn w next ih => exact ih
  | nested request next ih =>
      rw [andThen, requests, requests, ih, List.cons_append]
      rfl

lemma mem_requests_bind {f : α → Plan β} {request : Nested} :
    request ∈ (p >>= f).requests answer ↔ request ∈ p.requests answer ∨
      ∃ a, (p.run answer).outcome = .ok a ∧ request ∈ (f a).requests answer := by
  rw [requests_bind, List.mem_append]
  cases (p.run answer).outcome <;> simp

/-- One plan after another fails where the first does, or else the second. -/
lemma failure_bind {f : α → Plan β} {failure : Failure} :
    ((p >>= f).run answer).outcome = .error failure ↔ (p.run answer).outcome = .error failure ∨
      ∃ a, (p.run answer).outcome = .ok a ∧ ((f a).run answer).outcome = .error failure := by
  rw [run_bind, Run.bind]
  cases (p.run answer).outcome <;> simp

lemma failure_bind_pure {f : α → β} {failure : Failure} :
    ((p >>= fun a => pure (f a)).run answer).outcome = .error failure ↔
      (p.run answer).outcome = .error failure := by
  simp [failure_bind, pure, run]

lemma AsksNothing.requests_eq (hp : p.AsksNothing) : p.requests answer = [] := by
  induction p with
  | done a => rfl
  | fail failure => rfl
  | warn w next ih => exact ih hp
  | nested request next => exact hp.elim

/-- A nested level that fails ends the plan with its failure. -/
lemma Disciplined.run_of_failed (hp : p.Disciplined asks) {request : Nested}
    (hrequest : request ∈ p.requests answer) {failure : Failure}
    (h : (answer request).outcome = .error failure) : (p.run answer).outcome = .error failure := by
  induction p with
  | done a => exact (List.not_mem_nil hrequest).elim
  | fail failure => exact (List.not_mem_nil hrequest).elim
  | warn w next ih => exact ih hp hrequest
  | nested request' next ih =>
      obtain ⟨-, hok, herror⟩ := hp
      show ((next (answer request').outcome).run answer).outcome = .error failure
      cases houtcome : (answer request').outcome with
      | ok c =>
          rcases List.mem_cons.1 hrequest with rfl | hrequest
          · cases h.symm.trans houtcome
          · rw [houtcome] at hrequest
            exact ih _ (hok c) hrequest
      | error failure' =>
          rcases List.mem_cons.1 hrequest with rfl | hrequest
          · obtain rfl := Except.error.inj (h.symm.trans houtcome)
            rw [herror]
            rfl
          · rw [houtcome, herror] at hrequest
            exact (List.not_mem_nil hrequest).elim

/-- All that a plan which succeeds has asked for has succeeded. -/
lemma Disciplined.succeeds_of_mem (hp : p.Disciplined asks) {a : α}
    (hok : (p.run answer).outcome = .ok a) {request : Nested}
    (hrequest : request ∈ p.requests answer) : ∃ c, (answer request).outcome = .ok c := by
  cases houtcome : (answer request).outcome with
  | ok c => exact ⟨c, rfl⟩
  | error failure => cases (hp.run_of_failed hrequest houtcome).symm.trans hok

/-- Each request of a plan that is followed by another one has succeeded. -/
lemma Disciplined.pairwise_requests (hp : p.Disciplined asks) :
    (p.requests answer).Pairwise fun request _ => ∃ c, (answer request).outcome = .ok c := by
  induction p with
  | done a => exact .nil
  | fail failure => exact .nil
  | warn w next ih => exact ih hp
  | nested request next ih =>
      obtain ⟨-, hok, herror⟩ := hp
      rw [requests, List.pairwise_cons]
      cases houtcome : (answer request).outcome with
      | ok c => exact ⟨fun _ _ => ⟨c, rfl⟩, ih _ (hok c)⟩
      | error failure =>
          rw [herror]
          exact ⟨fun _ h => (List.not_mem_nil h).elim, .nil⟩

end Plan

/-! ## Entries -/

namespace Containers

variable {answer : Nested → Run Contribution} {s : Site}

/-- A container cannot be decorated only because its nested traits fail, which were asked for. -/
lemma failure_decorate {container : Container} {traits : Traits} {barring : List TraitKind}
    {isInit : Bool} {failure : Failure}
    (h : ((decorate container traits barring isInit).run answer).outcome = .error failure) :
    ⟨traits, container.name, barring⟩ ∈
        (decorate container traits barring isInit).requests answer ∧
      (answer ⟨traits, container.name, barring⟩).outcome = .error failure := by
  rw [decorate_run, nestedRun] at h
  rw [decorate]
  split at h
  · cases h
  · rename_i hgiven
    rw [if_neg hgiven, Plan.requests_bind]
    refine ⟨List.mem_append_left _ List.mem_cons_self, ?_⟩
    rw [Run.bind] at h
    split at h
    · cases h
    · rename_i nested hnested
      obtain rfl := Except.error.inj h
      exact hnested

lemma succeeds_decorate {container : Container} {traits : Traits} {barring : List TraitKind}
    {isInit : Bool} {made : Container × Contribution}
    (h : ((decorate container traits barring isInit).run answer).outcome = .ok made) :
    ∃ c, (nestedRun answer ⟨traits, container.name, barring⟩).outcome = .ok c := by
  rw [decorate_run] at h
  cases houtcome : (nestedRun answer ⟨traits, container.name, barring⟩).outcome with
  | ok c => exact ⟨c, rfl⟩
  | error failure =>
      rw [Run.bind, houtcome] at h
      cases h

/-- Init entries fail for something of their own, or with the nested traits of the first entry whose
nested traits fail. -/
lemma failure_inits {index : Nat} {before : Contribution} {entries : List (InitEntry Traits)}
    {failure : Failure}
    (h : ((inits s index before entries).run answer).outcome = .error failure) :
    failure.IsOwn ∨ ∃ earlier e later, entries.zipIdx index = earlier ++ e :: later ∧
      (∀ e' ∈ earlier, ∃ c, (nestedRun answer (initRequest s e')).outcome = .ok c) ∧
      initRequest s e ∈ (inits s index before entries).requests answer ∧
      (answer (initRequest s e)).outcome = .error failure := by
  induction entries generalizing index before with
  | nil => cases h
  | cons e rest ih =>
      rw [inits] at h ⊢
      dsimp only at h ⊢
      cases himage : trimmed? e.properties.image with
      | none =>
          rw [himage] at h
          obtain rfl := Except.error.inj h
          exact .inl ⟨rfl, rfl⟩
      | some image =>
          rw [himage] at h
          dsimp only at h ⊢
          rw [List.zipIdx_cons]
          rcases Plan.failure_bind.1 h with hnested | ⟨made, hmade, hrest⟩
          · obtain ⟨hasked, hfailed⟩ := failure_decorate hnested
            exact .inr ⟨[], (e, index), _, rfl, fun _ he => (List.not_mem_nil he).elim,
              Plan.mem_requests_bind.2 (.inl hasked), hfailed⟩
          · refine (ih hrest).imp_right ?_
            rintro ⟨earlier, e', later, hentries, hearlier, hasked, hfailed⟩
            refine ⟨(e, index) :: earlier, e', later, by rw [hentries, List.cons_append], ?_,
              Plan.mem_requests_bind.2 (.inr ⟨made, hmade, hasked⟩), hfailed⟩
            exact List.forall_mem_cons.2 ⟨succeeds_decorate hmade, hearlier⟩

/-- Sidecars that have passed their check fail with the nested traits of the first one whose nested
traits fail. -/
lemma failure_sidecars {index : Nat} {before : Contribution} {entries : List (SidecarEntry Traits)}
    {failure : Failure}
    (h : ((sidecars s index before entries).run answer).outcome = .error failure) :
    ∃ earlier e later, entries.zipIdx index = earlier ++ e :: later ∧
      (∀ e' ∈ earlier, ∃ c, (nestedRun answer (sidecarRequest s e')).outcome = .ok c) ∧
      sidecarRequest s e ∈ (sidecars s index before entries).requests answer ∧
      (answer (sidecarRequest s e)).outcome = .error failure := by
  induction entries generalizing index before with
  | nil => cases h
  | cons e rest ih =>
      rw [sidecars] at h ⊢
      dsimp only at h ⊢
      rw [List.zipIdx_cons]
      rcases Plan.failure_bind.1 h with hnested | ⟨made, hmade, hrest⟩
      · obtain ⟨hasked, hfailed⟩ := failure_decorate hnested
        exact ⟨[], (e, index), _, rfl, fun _ he => (List.not_mem_nil he).elim,
          Plan.mem_requests_bind.2 (.inl hasked), hfailed⟩
      · obtain ⟨earlier, e', later, hentries, hearlier, hasked, hfailed⟩ := ih hrest
        refine ⟨(e, index) :: earlier, e', later, by rw [hentries, List.cons_append], ?_,
          Plan.mem_requests_bind.2 (.inr ⟨made, hmade, hasked⟩), hfailed⟩
        exact List.forall_mem_cons.2 ⟨succeeds_decorate hmade, hearlier⟩

end Containers

/-! ## Levels -/

namespace Dispatcher

variable {d : Dispatcher} {l l' : Level} {answer : Nested → Run Contribution}

/-- A call that fails ends its level with its failure. -/
lemma runProcessors_of_failed {ps : List Processor} {call : Call}
    (hcall : call ∈ d.callsOf answer l ps) {failure : Failure}
    (h : (call.plan.run answer).outcome = .error failure) :
    (d.runProcessors answer l ps).outcome = .error (.inTrait call.processor.name failure) := by
  induction ps with
  | nil => exact (List.not_mem_nil hcall).elim
  | cons p rest ih =>
      rw [runProcessors_cons, Run.bind]
      rw [callsOf, List.mem_append, Option.mem_toList] at hcall
      rcases hcall with hown | hrest
      · have hprocessor : call.processor = p := by
          obtain ⟨-, data, -, rfl⟩ := call?_eq_some.1 hown
          rfl
        have hfailed : (d.runProcessor answer l p).outcome =
            .error (.inTrait call.processor.name failure) := by
          rw [runProcessor_of_call? hown, framed, h, hprocessor]
          rfl
        rw [hfailed]
      · cases houtcome : (d.runProcessor answer l p).outcome with
        | error own =>
            rw [houtcome] at hrest
            exact (List.not_mem_nil hrest).elim
        | ok c? =>
            rw [houtcome] at hrest
            exact congrArg (Except.map _) (ih hrest)

lemma processLevel_of_failed {call : Call} (hcall : call ∈ d.calls answer l) {failure : Failure}
    (h : (call.plan.run answer).outcome = .error failure) :
    (d.processLevel answer l).outcome = .error (.inTrait call.processor.name failure) :=
  map_eq_error.2 (runProcessors_of_failed hcall h)

/-- Processors fail with the first of them that fails. -/
lemma exists_first_failed {ps : List Processor} {failure : Failure}
    (h : (d.runProcessors answer l ps).outcome = .error failure) :
    ∃ before p after, ps = before ++ p :: after ∧
      (∀ q ∈ before, ∃ c?, (d.runProcessor answer l q).outcome = .ok c?) ∧
      (d.runProcessor answer l p).outcome = .error failure := by
  induction ps with
  | nil => cases h
  | cons p rest ih =>
      rw [runProcessors_cons, Run.bind] at h
      cases houtcome : (d.runProcessor answer l p).outcome with
      | error own =>
          rw [houtcome] at h
          obtain rfl := Except.error.inj h
          exact ⟨[], p, rest, rfl, fun _ hq => (List.not_mem_nil hq).elim, houtcome⟩
      | ok c? =>
          simp only [houtcome, map_eq_error] at h
          obtain ⟨before, q, after, rfl, hbefore, hfailed⟩ := ih h
          exact ⟨p :: before, q, after, rfl, List.forall_mem_cons.2 ⟨⟨c?, houtcome⟩, hbefore⟩,
            hfailed⟩

lemma mem_callsOf_of_split {before after : List Processor} {p : Processor} {call : Call}
    (hbefore : ∀ q ∈ before, ∃ c?, (d.runProcessor answer l q).outcome = .ok c?)
    (hcall : d.call? l p = some call) : call ∈ d.callsOf answer l (before ++ p :: after) := by
  induction before with
  | nil => exact List.mem_append_left _ (Option.mem_toList.2 hcall)
  | cons q rest ih =>
      obtain ⟨⟨c?, hq⟩, hrest⟩ := List.forall_mem_cons.1 hbefore
      rw [List.cons_append, callsOf, hq]
      exact List.mem_append_right _ (ih hrest)

/-- Each request of a level that is followed by another one has succeeded. -/
lemma pairwise_requests (hbuiltin : d.registry.IsBuiltin) :
    (d.requests answer l).Pairwise fun request _ => ∃ c, (answer request).outcome = .ok c := by
  have hps : ∀ ps : List Processor, (∀ p ∈ ps, p = builtinProcessor p.kind) →
      ((d.callsOf answer l ps).flatMap (·.plan.requests answer)).Pairwise
        fun request _ => ∃ c, (answer request).outcome = .ok c := by
    intro ps hps
    induction ps with
    | nil => exact .nil
    | cons p rest ih =>
        obtain ⟨hp, hrest⟩ := List.forall_mem_cons.1 hps
        rw [callsOf, List.flatMap_append, List.pairwise_append]
        cases hcall : d.call? l p with
        | none =>
            refine ⟨.nil, ?_, fun _ h => (List.not_mem_nil h).elim⟩
            split
            · exact ih hrest
            · exact .nil
        | some call =>
            have hdisciplined : call.plan.Disciplined (d.Asks l) := by
              obtain ⟨hallowed, data, hdata, rfl⟩ := call?_eq_some.1 hcall
              rw [Call.plan, hp]
              exact disciplined_builtinProcessor hdata hallowed
            rw [Option.toList_some, List.flatMap_singleton]
            refine ⟨hdisciplined.pairwise_requests, ?_, ?_⟩
            · split
              · exact ih hrest
              · exact .nil
            · intro request hrequest other hother
              cases houtcome : (call.plan.run answer).outcome with
              | ok c? => exact hdisciplined.succeeds_of_mem houtcome hrequest
              | error failure =>
                  rw [runProcessor_of_call? hcall, framed, houtcome] at hother
                  exact (List.not_mem_nil hother).elim
  exact hps _ hbuiltin

/-- Of the requests of a level at most one fails. -/
lemma eq_of_failed (hbuiltin : d.registry.IsBuiltin) {request request' : Nested}
    (hrequest : request ∈ d.requests answer l) (hrequest' : request' ∈ d.requests answer l)
    (h : ¬ ∃ c, (answer request).outcome = .ok c) (h' : ¬ ∃ c, (answer request').outcome = .ok c) :
    request' = request := by
  by_contra hne
  let either : Nested → Nested → Prop := fun a b =>
    (∃ c, (answer a).outcome = .ok c) ∨ ∃ c, (answer b).outcome = .ok c
  have : Std.Symm either := ⟨fun _ _ => Or.symm⟩
  have hpairwise : (d.requests answer l).Pairwise either := (pairwise_requests hbuiltin).imp .inl
  exact (hpairwise.forall hrequest' hrequest hne).elim h' h

/-- The call of a kind's processor is come to at a level: all processors before it succeed. -/
structure ComesTo (d : Dispatcher) (l : Level) (k : TraitKind) (call : Call) : Prop where
  called : d.call? l (builtinProcessor k) = some call
  first : ∃ before after, d.registry.processors = before ++ builtinProcessor k :: after ∧
    ∀ p ∈ before, ∃ c?, (d.runProcessor (d.answerAt l) l p).outcome = .ok c?

lemma ComesTo.mem_calls {k : TraitKind} {call : Call} (h : d.ComesTo l k call) :
    call ∈ d.calls (d.answerAt l) l := by
  obtain ⟨before, after, hprocessors, hbefore⟩ := h.first
  rw [calls, hprocessors]
  exact mem_callsOf_of_split hbefore h.called

lemma ComesTo.name_eq {k : TraitKind} {call : Call} (h : d.ComesTo l k call) :
    call.processor.name = k.name := by
  obtain ⟨-, data, -, rfl⟩ := call?_eq_some.1 h.called
  exact builtinProcessor_name k

/-- A call fails for something of its own, or with the first level of its entries that fails. -/
lemma failure_call {k : TraitKind} {call : Call}
    (hcall : d.call? l (builtinProcessor k) = some call) {failure : Failure}
    (h : (call.plan.run answer).outcome = .error failure) :
    failure.IsOwn ∨ ∃ before request after, d.openings l k = before ++ request :: after ∧
      (∀ r ∈ before, ∃ c, (nestedRun answer r).outcome = .ok c) ∧
      request ∈ call.plan.requests answer ∧ (answer request).outcome = .error failure := by
  have hother : k ≠ .init → k ≠ .sidecar → failure.IsOwn := by
    intro hinit hsidecar
    obtain ⟨hallowed, data, hdata, rfl⟩ := call?_eq_some.1 hcall
    rw [builtinProcessor_kind] at hallowed hdata
    refine ((disciplined_builtinProcessor hdata hallowed).failure_run h).resolve_right ?_
    rintro ⟨request, hrequest, -⟩
    rw [(asksNothing_builtinProcessor hinit hsidecar _).requests_eq] at hrequest
    exact List.not_mem_nil hrequest
  cases k
  case init =>
    rw [plan_of_call?_init hcall] at h ⊢
    refine (Containers.failure_inits (Plan.failure_bind_pure.1 h)).imp_right ?_
    rintro ⟨earlier, e, later, hsplit, hearlier, hasked, hfailed⟩
    refine ⟨_, _, later.map (Containers.initRequest (d.site l)), ?_,
      List.forall_mem_map.2 hearlier, Plan.mem_requests_bind.2 (.inl hasked), hfailed⟩
    rw [openings, hsplit, List.map_append, List.map_cons]
  case sidecar =>
    rw [plan_of_call?_sidecar hcall] at h ⊢
    cases hcheck : Containers.checkSidecars (d.site l) 0 l.traits.sidecar with
    | error own =>
        rw [hcheck] at h
        obtain rfl := Except.error.inj h
        exact .inl (Containers.blamesPayload_checkSidecars _ _ _ own hcheck)
    | ok _ =>
        rw [hcheck] at h
        obtain ⟨earlier, e, later, hsplit, hearlier, hasked, hfailed⟩ :=
          Containers.failure_sidecars (Plan.failure_bind_pure.1 h)
        refine .inr ⟨_, _, later.map (Containers.sidecarRequest (d.site l)), ?_,
          List.forall_mem_map.2 hearlier, ?_, hfailed⟩
        · rw [openings, hsplit, List.map_append, List.map_cons]
        · exact Plan.mem_requests_bind.2 (.inr ⟨(), rfl, Plan.mem_requests_bind.2 (.inl hasked)⟩)
  all_goals exact .inl (hother (by decide) (by decide))

/-! ## The way to the first failure -/

/-- The way from a level to what has failed first: at each level on it a processor is come to, and
that asks for the next level, where all entries before that one succeed; at the last level the
processor of a kind fails when it is run alone. -/
inductive FailsFirst (d : Dispatcher) (k : TraitKind) (root : Failure) :
    Level → List TraitKind → List Nested → Level → Prop where
  | here {l : Level} {call : Call} (comes : d.ComesTo l k call)
      (fails : (call.plan.run (d.answerAt l)).outcome = .error root) : FailsFirst d k root l [] [] l
  | deeper {l l' : Level} {via : TraitKind} {way : List TraitKind} {call : Call} {request : Nested}
      {chain before after : List Nested} (comes : d.ComesTo l via call)
      (asked : request ∈ call.plan.requests (d.answerAt l))
      (entries : d.openings l via = before ++ request :: after)
      (earlier : ∀ r ∈ before, ∃ c, (d.dispatch (below l r)).outcome = .ok c)
      (room : l.depth + 1 ≤ d.settings.maxDepth)
      (rest : FailsFirst d k root (below l request) way chain l') :
      FailsFirst d k root l (via :: way) (request :: chain) l'

/-- A dispatch that fails has a way to a first failure, and is wrapped once for each level of it. -/
lemma exists_failsFirst (hbuiltin : d.registry.IsBuiltin) {failure : Failure}
    (h : (d.dispatch l).outcome = .error failure) :
    ∃ k root way chain l', d.FailsFirst k root l way chain l' ∧
      (root.IsOwn ∨ root = .recursionLimit d.settings.maxDepth) ∧
      failure = root.wrap ((way ++ [k]).map (·.name)).reverse := by
  induction l using level_induction d.settings.maxDepth generalizing failure with
  | step l ih =>
    rw [dispatch_eq, processLevel, map_eq_error] at h
    obtain ⟨before, p, after, hsplit, hbefore, hfailed⟩ := exists_first_failed h
    have hp : p ∈ d.registry.processors := hsplit ▸ List.mem_append_right _ List.mem_cons_self
    obtain ⟨k, rfl⟩ : ∃ k, p = builtinProcessor k := ⟨p.kind, hbuiltin p hp⟩
    obtain ⟨call, hcall, source, hwrapped, hsource⟩ := failure_runProcessor hfailed
    have hcomes : d.ComesTo l k call := ⟨hcall, before, after, hsplit, hbefore⟩
    rw [hcomes.name_eq] at hwrapped
    subst hwrapped
    rcases failure_call hcall hsource with
      hown | ⟨earlier, request, later, hentries, hearlier, hasked, hnested⟩
    · exact ⟨k, source, [], [], l, .here hcomes hsource, .inl hown, rfl⟩
    · by_cases hdepth : d.settings.maxDepth < l.depth + 1
      · rw [answerAt_of_exhausted hdepth] at hnested
        obtain rfl := Except.error.inj hnested
        exact ⟨k, _, [], [], l, .here hcomes hsource, .inr rfl, rfl⟩
      · have hdepth : l.depth + 1 ≤ d.settings.maxDepth := Nat.not_lt.1 hdepth
        rw [answerAt_of_room hdepth] at hnested
        obtain ⟨k', root, way, chain, l', hfirst, hroot, rfl⟩ := ih request hdepth hnested
        refine ⟨k', root, k :: way, request :: chain, l', ?_, hroot, ?_⟩
        · refine .deeper hcomes hasked hentries (fun r hr => ?_) hdepth hfirst
          obtain ⟨c, hc⟩ := hearlier r hr
          exact ⟨c, nestedRun_answerAt hc ▸ hc⟩
        · rw [List.cons_append, List.map_cons, List.reverse_cons, Failure.wrap, Failure.wrap,
            List.foldl_append]
          rfl

/-- A request that fails ends its level with its failure. -/
lemma processLevel_of_failed_request (hbuiltin : d.registry.IsBuiltin) {request : Nested}
    (hrequest : request ∈ d.requests answer l) {failure : Failure}
    (h : (answer request).outcome = .error failure) :
    ∃ name, (d.processLevel answer l).outcome = .error (.inTrait name failure) := by
  obtain ⟨call, hcall, hasked⟩ := List.mem_flatMap.1 hrequest
  exact ⟨_, processLevel_of_failed hcall
    ((disciplined_of_mem_calls hbuiltin hcall).run_of_failed hasked h)⟩

/-- From a level that succeeds, only levels are visited that succeed. -/
lemma Visits.succeeds (hbuiltin : d.registry.IsBuiltin) {chain : List Nested}
    (h : d.Visits l chain l') (hok : ∃ c, (d.dispatch l).outcome = .ok c) :
    ∃ c, (d.dispatch l').outcome = .ok c := by
  induction h with
  | here => exact hok
  | @deeper l _ request _ asked room _ ih =>
      refine ih ?_
      cases houtcome : (d.dispatch (Dispatcher.below l request)).outcome with
      | ok c => exact ⟨c, rfl⟩
      | error failure =>
          rw [← answerAt_of_room room] at houtcome
          obtain ⟨name, hfailed⟩ := processLevel_of_failed_request hbuiltin asked houtcome
          rw [dispatch_eq, hfailed] at hok
          obtain ⟨c, hc⟩ := hok
          cases hc

namespace FailsFirst

variable {k : TraitKind} {root : Failure} {way : List TraitKind} {chain : List Nested}

lemma fails_start (hbuiltin : d.registry.IsBuiltin) (h : d.FailsFirst k root l way chain l') :
    ∃ name source, (d.dispatch l).outcome = .error (.inTrait name source) := by
  induction h with
  | here comes fails =>
      rw [dispatch_eq]
      exact ⟨_, _, processLevel_of_failed comes.mem_calls fails⟩
  | deeper comes asked _ _ room _ ih =>
      obtain ⟨name, source, hnested⟩ := ih
      rw [← answerAt_of_room room] at hnested
      obtain ⟨name', hfailed⟩ := processLevel_of_failed_request hbuiltin
        (List.mem_flatMap.2 ⟨_, comes.mem_calls, asked⟩) hnested
      rw [dispatch_eq]
      exact ⟨_, _, hfailed⟩

/-- Every level that is visited off the way succeeds. -/
lemma succeeds_off (hbuiltin : d.registry.IsBuiltin) (h : d.FailsFirst k root l way chain l')
    (hroot : root.path = []) {chain' : List Nested} {l'' : Level}
    (hvisits : d.Visits l chain' l'') :
    chain' <+: chain ∨ ∃ c, (d.dispatch l'').outcome = .ok c := by
  induction h generalizing chain' with
  | @here l call comes fails =>
      cases hvisits with
      | here => exact .inl (List.prefix_refl _)
      | @deeper _ _ request _ asked room rest =>
          refine .inr (rest.succeeds hbuiltin ?_)
          cases houtcome : (d.dispatch (Dispatcher.below l request)).outcome with
          | ok c => exact ⟨c, rfl⟩
          | error failure =>
              -- A level that fails would be the root, which is not wrapped.
              exfalso
              obtain ⟨_, _, _, hwrapped, -⟩ := failure_runProcessors
                (map_eq_error.1 (dispatch_eq d _ ▸ houtcome))
              rw [← answerAt_of_room room] at houtcome
              obtain ⟨name, hfailed⟩ := processLevel_of_failed_request hbuiltin asked houtcome
              rw [processLevel_of_failed comes.mem_calls fails] at hfailed
              obtain ⟨-, rfl⟩ := Failure.inTrait.inj (Except.error.inj hfailed)
              rw [hwrapped] at hroot
              cases hroot
  | @deeper l _ _ _ _ request _ _ _ comes asked _ _ room rest ih =>
      cases hvisits with
      | here => exact .inl List.nil_prefix
      | @deeper _ _ request' _ asked' _ rest' =>
          by_cases hrequest : request' = request
          · subst hrequest
            exact (ih rest').imp_left fun h => List.cons_prefix_cons.2 ⟨rfl, h⟩
          · refine .inr (rest'.succeeds hbuiltin ?_)
            rw [← answerAt_of_room room]
            by_contra hfailed
            refine hrequest (eq_of_failed hbuiltin
              (List.mem_flatMap.2 ⟨_, comes.mem_calls, asked⟩) asked' ?_ hfailed)
            obtain ⟨name, source, hnested⟩ := rest.fails_start hbuiltin
            rintro ⟨c, hc⟩
            rw [answerAt_of_room room] at hc
            cases hnested.symm.trans hc

/-- A way leads through entries, whose kinds are barred from then on. -/
lemma via_cases {via : TraitKind} {call : Call} {request : Nested} {before after : List Nested}
    (hcomes : d.ComesTo l via call) (hentries : d.openings l via = before ++ request :: after) :
    l.barred.contains via = false ∧ (via = .init ∧ request.barring = [.init] ∨
      via = .sidecar ∧ request.barring = [.sidecar, .init]) := by
  have hallowed := (call?_eq_some.1 hcomes.called).1
  rw [builtinProcessor_kind] at hallowed
  refine ⟨hallowed, ?_⟩
  have hrequest : request ∈ d.openings l via :=
    hentries ▸ List.mem_append_right _ List.mem_cons_self
  cases via
  case init =>
    obtain ⟨e, -, rfl⟩ := List.mem_map.1 hrequest
    exact .inl ⟨rfl, rfl⟩
  case sidecar =>
    obtain ⟨e, -, rfl⟩ := List.mem_map.1 hrequest
    exact .inr ⟨rfl, rfl⟩
  all_goals exact (List.not_mem_nil hrequest).elim

/-- Below a sidecar no way goes on. -/
lemma way_of_barred (h : d.FailsFirst k root l way chain l')
    (hinit : l.barred.contains .init = true) (hsidecar : l.barred.contains .sidecar = true) :
    way = [] := by
  cases h with
  | here => rfl
  | deeper comes _ entries _ _ _ =>
      obtain ⟨hallowed, ⟨rfl, -⟩ | ⟨rfl, -⟩⟩ := via_cases comes entries
      · exact absurd hallowed (hinit ▸ Bool.noConfusion)
      · exact absurd hallowed (hsidecar ▸ Bool.noConfusion)

/-- Below an init entry a way goes on through a sidecar at most. -/
lemma way_of_barred_init (h : d.FailsFirst k root l way chain l')
    (hinit : l.barred.contains .init = true) : way = [] ∨ way = [.sidecar] := by
  cases h with
  | here => exact .inl rfl
  | deeper comes _ entries _ _ rest =>
      obtain ⟨hallowed, ⟨rfl, -⟩ | ⟨rfl, hbarring⟩⟩ := via_cases comes entries
      · exact absurd hallowed (hinit ▸ Bool.noConfusion)
      · rw [rest.way_of_barred (by simp [barred_below, hbarring])
          (by simp [barred_below, hbarring])]
        exact .inr rfl

/-- A way leads through an init entry at most, and then through a sidecar at most. -/
lemma way_mem (h : d.FailsFirst k root l way chain l') :
    way ∈ [[], [.init], [.sidecar], [.init, .sidecar]] := by
  cases h with
  | here => simp
  | deeper comes _ entries _ _ rest =>
      obtain ⟨-, ⟨rfl, hbarring⟩ | ⟨rfl, hbarring⟩⟩ := via_cases comes entries
      · rcases rest.way_of_barred_init (by simp [barred_below, hbarring]) with rfl | rfl <;> simp
      · rw [rest.way_of_barred (by simp [barred_below, hbarring])
          (by simp [barred_below, hbarring])]
        simp

end FailsFirst

/-- **The way to the first failure.**  With the built-in processors, a failure of a level is a root
that is not wrapped itself, with one wrapper for each step of the way to it: through an init entry
or not, then through a sidecar or not, to the processor that fails for the root.  All processors
that run before, on each level of the way, succeed, and so do all levels that are visited off it.
The root is something that the payload asks for, or the limit; and by category, and by whether a
corrected payload may succeed, the whole failure is what its root is. -/
theorem failure_names_first (hbuiltin : d.registry.IsBuiltin) {failure : Failure}
    (h : (d.dispatch l).outcome = .error failure) :
    ∃ way chain l' k root, d.FailsFirst k root l way chain l' ∧
      (∀ chain' l'', d.Visits l chain' l'' →
        chain' <+: chain ∨ ∃ c, (d.dispatch l'').outcome = .ok c) ∧
      way ∈ [[], [.init], [.sidecar], [.init, .sidecar]] ∧
      failure.path = (way ++ [k]).map (·.name) ∧ failure.root = root ∧ root.path = [] ∧
      (root.category = .domainViolation ∨ root = .recursionLimit d.settings.maxDepth) ∧
      root.category ≠ .typeMismatch ∧ root.category ≠ .environment ∧
      failure.category = root.category ∧ failure.isUserError = root.isUserError := by
  obtain ⟨k, root, way, chain, l', hfirst, hroot, hwrap⟩ := exists_failsFirst hbuiltin h
  have hpath : root.path = [] := by
    rcases hroot with hown | rfl
    · exact hown.1
    · rfl
  have hrest : failure.root = root := by
    have hself : ∀ f : Failure, f.path = [] → f.root = f := by
      intro f hf
      cases f <;> first | rfl | exact absurd hf (List.cons_ne_nil _ _)
    rw [hwrap, Failure.root_wrap, hself root hpath]
  refine ⟨way, chain, l', k, root, hfirst, fun _ _ hvisits =>
    hfirst.succeeds_off hbuiltin hpath hvisits, hfirst.way_mem, ?_, hrest, hpath,
    hroot.imp_left And.right, ?_, ?_, ?_, ?_⟩
  · rw [hwrap, Failure.path_wrap, List.reverse_reverse, hpath, List.append_nil]
  · rcases hroot with hown | rfl
    · rw [hown.2]
      exact nofun
    · exact nofun
  · rcases hroot with hown | rfl
    · rw [hown.2]
      exact nofun
    · exact nofun
  · rw [← hrest, Failure.category_root]
  · rw [← hrest, Failure.isUserError_root]

/-- Traits whose first init entry is fine, and whose second one has a sidecar with an ingress that
has nothing to route. -/
def faultyTraits : Traits where
  envs := [{ name := "MODE", valueFrom := { static := some "live" } }]
  init := [{
      name := "first"
      properties := { image := "busybox" }
      traits := { envs := [{ name := "MODE", valueFrom := { static := some "once" } }] } }, {
      name := "second"
      properties := { image := "busybox" }
      traits := {
        sidecar := [{ name := "proxy", image := "envoy", traits := { ingress := [none] } }] } }]

/-- A dispatcher for them. -/
def faulty : Dispatcher where
  registry := .builtin
  settings := {}
  component := { name := "web" }
  workload := { kind := .deployment }

theorem failure_names_first_twice_nested :
    faulty.registry.IsBuiltin ∧
      (faulty.dispatch (faulty.top faultyTraits)).outcome =
        .error (Failure.wrap (.missingIngressSpec 0) ["ingress", "sidecar", "init"]) ∧
      ∃ way chain l k, faulty.FailsFirst k (.missingIngressSpec 0) (faulty.top faultyTraits)
          way chain l ∧
        (way ++ [k]).map (·.name) = ["init", "sidecar", "ingress"] ∧
        ∀ chain' l', faulty.Visits (faulty.top faultyTraits) chain' l' →
          chain' <+: chain ∨ ∃ c, (faulty.dispatch l').outcome = .ok c := by
  have hfailed : (faulty.dispatch (faulty.top faultyTraits)).outcome =
      .error (Failure.wrap (.missingIngressSpec 0) ["ingress", "sidecar", "init"]) := rfl
  obtain ⟨way, chain, l, k, root, hfirst, hvisits, -, hpath, hroot, -⟩ :=
    failure_names_first (d := faulty) Registry.isBuiltin_builtin hfailed
  obtain rfl : root = .missingIngressSpec 0 := hroot.symm
  exact ⟨Registry.isBuiltin_builtin, hfailed, way, chain, l, k, hfirst, hpath.symm, hvisits⟩

end Dispatcher

end WorkloadTraits
