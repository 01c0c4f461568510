import Mathlib
import WorkloadTraits.Dispatch.Level

/-!
# Outcomes of plans and levels

A run keeps a journal, but what comes of a level of traits does not depend on it.  This file drops
the journal: `Plan.eval` is the outcome of a plan, given the outcomes of nested traits, and
`Dispatcher.levelOutcome` that of a level.  `dispatchWithin_outcome` says that nothing is lost.

On top of that, `Dispatcher.Contributes` relates a level to each contribution that can come of it.
It forgets the room that is left below the level, so that what holds of every contribution is
proved by one induction, over levels and not over numbers.
-/

namespace WorkloadTraits

/-! ## Successful outcomes -/

section Except

variable {ε α β : Type}

lemma bind_eq_ok {x : Except ε α} {f : α → Except ε β} {b : β} :
    (x >>= f) = .ok b ↔ ∃ a, x = .ok a ∧ f a = .ok b := by
  cases x <;> simp [bind, Except.bind]

lemma map_eq_ok {x : Except ε α} {f : α → β} {b : β} :
    x.map f = .ok b ↔ ∃ a, x = .ok a ∧ f a = b := by
  cases x <;> simp [Except.map]

lemma mapError_eq_ok {ε' : Type} {x : Except ε α} {f : ε → ε'} {a : α} :
    x.mapError f = .ok a ↔ x = .ok a := by
  cases x <;> simp [Except.mapError]

lemma map_eq_error {x : Except ε α} {f : α → β} {failure : ε} :
    x.map f = .error failure ↔ x = .error failure := by
  cases x <;> simp [Except.map]

/-- Outcomes that are the same after a map each are the same failure, or values that the maps take
to the same. -/
lemma map_eq_map {x x' : Except ε α} {f f' : α → β} (h : x.map f = x'.map f') :
    (∃ failure, x = .error failure ∧ x' = .error failure) ∨
      ∃ a a', x = .ok a ∧ x' = .ok a' ∧ f a = f' a' := by
  cases x with
  | error failure => exact .inl ⟨failure, rfl, map_eq_error.1 h.symm⟩
  | ok a =>
      obtain ⟨a', ha', hsame⟩ := map_eq_ok.1 h.symm
      exact .inr ⟨a, a', rfl, ha', hsame.symm⟩

lemma mapError_eq_error {ε' : Type} {x : Except ε α} {f : ε → ε'} {failure : ε'} :
    x.mapError f = .error failure ↔ ∃ source, x = .error source ∧ f source = failure := by
  cases x <;> simp [Except.mapError]

lemma exists_map_ok {x : Except ε α} {f : α → β} :
    (∃ b, x.map f = .ok b) ↔ ∃ a, x = .ok a := by
  cases x <;> simp [Except.map]

/-- A step that is followed by nothing that can fail succeeds when it does itself. -/
lemma exists_bind_pure_ok {x : Except ε α} {f : α → β} :
    (∃ b, (x >>= fun a => pure (f a)) = .ok b) ↔ ∃ a, x = .ok a := by
  cases x <;> simp [bind, Except.bind, pure, Except.pure]

/-- A list of steps succeeds with one value for each. -/
lemma mapM_eq_ok {f : α → Except ε β} {as : List α} {bs : List β} :
    as.mapM f = .ok bs ↔ List.Forall₂ (fun a b => f a = .ok b) as bs := by
  induction as generalizing bs with
  | nil =>
      rw [List.mapM_nil, List.forall₂_nil_left_iff]
      exact ⟨fun h => (Except.ok.inj h).symm, fun h => congrArg Except.ok h.symm⟩
  | cons a rest ih =>
      rw [List.mapM_cons, bind_eq_ok, List.forall₂_cons_left_iff]
      constructor
      · rintro ⟨b, hb, h⟩
        obtain ⟨tail, htail, h⟩ := bind_eq_ok.1 h
        exact ⟨b, tail, hb, ih.1 htail, (Except.ok.inj h).symm⟩
      · rintro ⟨b, tail, hb, htail, rfl⟩
        exact ⟨b, hb, bind_eq_ok.2 ⟨tail, ih.2 htail, rfl⟩⟩

/-- The same, with the values as a list made of the steps. -/
lemma mapM_eq_ok_filterMap {f : α → Except ε β} {as : List α} {bs : List β} :
    as.mapM f = .ok bs ↔
      (∀ a ∈ as, ∃ b, f a = .ok b) ∧ as.filterMap (fun a => (f a).toOption) = bs := by
  induction as generalizing bs with
  | nil => simp [pure, Except.pure]
  | cons a rest ih =>
      rw [List.mapM_cons, List.forall_mem_cons, bind_eq_ok]
      constructor
      · rintro ⟨b, hb, h⟩
        obtain ⟨tail, htail, h⟩ := bind_eq_ok.1 h
        obtain rfl := Except.ok.inj h
        obtain ⟨hrest, rfl⟩ := ih.1 htail
        refine ⟨⟨⟨b, hb⟩, hrest⟩, ?_⟩
        rw [List.filterMap_cons, hb]
        rfl
      · rintro ⟨⟨⟨b, hb⟩, hrest⟩, h⟩
        rw [List.filterMap_cons, hb] at h
        exact ⟨b, hb, bind_eq_ok.2 ⟨_, ih.2 ⟨hrest, rfl⟩, congrArg Except.ok h⟩⟩

/-- A list of steps that is followed by nothing that can fail. -/
lemma mapM_bind_pure_eq_ok {γ : Type} {f : α → Except ε β} {g : List β → γ} {as : List α} {c : γ} :
    (as.mapM f >>= fun bs => pure (g bs)) = .ok c ↔
      (∀ a ∈ as, ∃ b, f a = .ok b) ∧ g (as.filterMap fun a => (f a).toOption) = c := by
  simp only [bind_eq_ok, mapM_eq_ok_filterMap, pure, Except.pure, Except.ok.injEq]
  constructor
  · rintro ⟨_, ⟨hall, rfl⟩, hc⟩
    exact ⟨hall, hc⟩
  · rintro ⟨hall, hc⟩
    exact ⟨_, ⟨hall, rfl⟩, hc⟩

/-- Values can be found for a list if one can be found for each. -/
lemma exists_forall₂ {R : α → β → Prop} {as : List α} :
    (∃ bs, List.Forall₂ R as bs) ↔ ∀ a ∈ as, ∃ b, R a b := by
  induction as with
  | nil => exact ⟨fun _ a ha => (List.not_mem_nil ha).elim, fun _ => ⟨[], .nil⟩⟩
  | cons a rest ih =>
      rw [List.forall_mem_cons, ← ih]
      simp only [List.forall₂_cons_left_iff]
      constructor
      · rintro ⟨bs, b, tail, hb, htail, rfl⟩
        exact ⟨⟨b, hb⟩, tail, htail⟩
      · rintro ⟨⟨b, hb⟩, tail, htail⟩
        exact ⟨b :: tail, b, tail, hb, htail, rfl⟩

/-- A list of steps succeeds when every step does. -/
lemma exists_mapM_ok {f : α → Except ε β} {as : List α} :
    (∃ bs, as.mapM f = .ok bs) ↔ ∀ a ∈ as, ∃ b, f a = .ok b := by
  simp only [mapM_eq_ok]
  exact exists_forall₂

/-- A fold succeeds when every step does, if what came before has no say in that. -/
lemma foldlM_succeeds {step : β → α → Except ε β} {ok : α → Prop}
    (hstep : ∀ b a, (∃ b', step b a = .ok b') ↔ ok a) {as : List α} {b : β} :
    (∃ b', as.foldlM step b = .ok b') ↔ ∀ a ∈ as, ok a := by
  induction as generalizing b with
  | nil => exact ⟨fun _ a ha => (List.not_mem_nil ha).elim, fun _ => ⟨b, rfl⟩⟩
  | cons a rest ih =>
      rw [List.forall_mem_cons, ← hstep b a]
      constructor
      · rintro ⟨b', h⟩
        obtain ⟨b₁, h₁, h⟩ := bind_eq_ok.1 h
        exact ⟨⟨b₁, h₁⟩, ih.1 ⟨b', h⟩⟩
      · rintro ⟨⟨b₁, h₁⟩, hrest⟩
        obtain ⟨b', h⟩ := (ih (b := b₁)).2 hrest
        exact ⟨b', bind_eq_ok.2 ⟨b₁, h₁, h⟩⟩

/-- A value that a list of steps succeeds with comes of one of the steps. -/
lemma exists_of_mem_forall₂ {R : α → β → Prop} {as : List α} {bs : List β}
    (h : List.Forall₂ R as bs) {b : β} (hb : b ∈ bs) : ∃ a ∈ as, R a b := by
  induction h with
  | nil => cases hb
  | cons hr _ ih =>
      rcases List.mem_cons.1 hb with rfl | hb
      · exact ⟨_, List.mem_cons_self, hr⟩
      · obtain ⟨a, ha, hr⟩ := ih hb
        exact ⟨a, List.mem_cons_of_mem _ ha, hr⟩

/-- Values that come of others one by one can be computed from them. -/
lemma filterMap_eq_of_forall₂ {R : α → β → Prop} {f : α → Option β} {as : List α} {bs : List β}
    (h : List.Forall₂ R as bs) (hR : ∀ a b, R a b → f a = some b) : as.filterMap f = bs := by
  induction h with
  | nil => rfl
  | cons hr _ ih => rw [List.filterMap_cons, hR _ _ hr, ih]

end Except

/-! ## Plans -/

namespace Plan

variable {α β : Type} {answer : Nested → Except Failure Contribution}

/-- The outcome of a plan, given the outcomes of nested traits. -/
def eval (answer : Nested → Except Failure Contribution) : Plan α → Except Failure α
  | done a => .ok a
  | fail failure => .error failure
  | warn _ next => next.eval answer
  | nested request next => (next (answer request)).eval answer

/-- The journal has no influence on the outcome. -/
theorem run_outcome (answer : Nested → Run Contribution) (p : Plan α) :
    (p.run answer).outcome = p.eval fun request => (answer request).outcome := by
  induction p with
  | done a => rfl
  | fail failure => rfl
  | warn w next ih => exact ih
  | nested request next ih => exact ih (answer request).outcome

@[simp] lemma eval_pure (a : α) : (pure a : Plan α).eval answer = .ok a := rfl

@[simp] lemma eval_bind (p : Plan α) (f : α → Plan β) :
    (p >>= f).eval answer = p.eval answer >>= fun a => (f a).eval answer := by
  show (p.andThen f).eval answer = _
  induction p with
  | done a => rfl
  | fail failure => rfl
  | warn w next ih => exact ih
  | nested request next ih => exact ih (answer request)

@[simp] lemma eval_ofExcept (x : Except Failure α) : (ofExcept x).eval answer = x := by
  cases x <;> rfl

@[simp] lemma eval_dispatch (request : Nested) :
    (dispatch request).eval answer = answer request :=
  eval_ofExcept _

@[simp] lemma eval_warnings (ws : List Warning) : (warnings ws).eval answer = .ok () := by
  induction ws with
  | nil => rfl
  | cons w rest ih => exact ih

end Plan

/-! ## Levels -/

namespace Dispatcher

variable (d : Dispatcher)

/-- What a processor contributes to a level; nothing when the level says nothing about its kind
or bars it. -/
def contributionOf (answer : Nested → Except Failure Contribution) (l : Level) (p : Processor) :
    Except Failure (Option Contribution) :=
  match l.traits.data? p.kind with
  | none => .ok none
  | some data =>
    if l.barred.contains p.kind then .ok none
    else ((p.process (d.context l data)).eval answer).mapError (.inTrait p.name)

/-- The outcome of a level, given the outcomes of nested traits. -/
def levelOutcome (answer : Nested → Except Failure Contribution) (l : Level) :
    Except Failure Contribution :=
  (d.registry.processors.mapM (d.contributionOf answer l)).map
    fun contributions => Contribution.aggregate contributions.reduceOption

/-- The outcome of a level, with room for so many levels below it. -/
def outcomeWithin : Nat → Level → Except Failure Contribution
  | 0, l => d.levelOutcome (fun _ => .error (.recursionLimit d.settings.maxDepth)) l
  | room + 1, l => d.levelOutcome (fun request => outcomeWithin room (below l request)) l

lemma runProcessors_outcome (answer : Nested → Run Contribution) (l : Level)
    (ps : List Processor) :
    (d.runProcessors answer l ps).outcome =
      (ps.mapM (d.contributionOf (fun request => (answer request).outcome) l)).map
        List.reduceOption := by
  induction ps with
  | nil => rfl
  | cons p rest ih =>
      rw [runProcessors, List.mapM_cons, contributionOf]
      cases l.traits.data? p.kind with
      | none =>
          rw [ih]
          cases rest.mapM (d.contributionOf _ l) <;> rfl
      | some data =>
          by_cases hbarred : l.barred.contains p.kind = true
          · simp only [hbarred, if_true]
            rw [ih]
            cases rest.mapM (d.contributionOf _ l) <;> rfl
          · simp only [hbarred, Bool.false_eq_true, if_false]
            rw [← Plan.run_outcome]
            cases ((p.process (d.context l data)).run answer).outcome with
            | error failure => rfl
            | ok contribution? =>
                simp only [ih]
                cases rest.mapM (d.contributionOf _ l) with
                | error failure => rfl
                | ok others => cases contribution? <;> rfl

lemma processLevel_outcome (answer : Nested → Run Contribution) (l : Level) :
    (d.processLevel answer l).outcome =
      d.levelOutcome (fun request => (answer request).outcome) l := by
  rw [processLevel, runProcessors_outcome, levelOutcome]
  cases d.registry.processors.mapM (d.contributionOf _ l) <;> rfl

/-- The outcome of a level and of all levels below it does not depend on the journal. -/
theorem dispatchWithin_outcome (room : Nat) (l : Level) :
    (d.dispatchWithin room l).outcome = d.outcomeWithin room l := by
  induction room generalizing l with
  | zero => exact d.processLevel_outcome _ l
  | succ room ih =>
      rw [dispatchWithin, processLevel_outcome, outcomeWithin]
      simp only [ih]

/-- A contribution that can come of a level, whatever room there is below it. -/
inductive Contributes : Level → Contribution → Prop where
  | intro {l : Level} {c : Contribution} (answer : Nested → Except Failure Contribution)
      (nested : ∀ request n, answer request = .ok n → Contributes (below l request) n)
      (outcome : d.levelOutcome answer l = .ok c) : Contributes l c

variable {d}

theorem contributes_of_outcomeWithin {room : Nat} {l : Level} {c : Contribution}
    (h : d.outcomeWithin room l = .ok c) : d.Contributes l c := by
  induction room generalizing l c with
  | zero => exact .intro _ (fun request n hn => by cases hn) h
  | succ room ih => exact .intro _ (fun request n hn => ih hn) h

/-- What a level is processed to is a contribution of it. -/
theorem contributes_of_dispatch {l : Level} {c : Contribution}
    (h : (d.dispatch l).outcome = .ok c) : d.Contributes l c := by
  rw [dispatch, dispatchWithin_outcome] at h
  exact contributes_of_outcomeWithin h

end Dispatcher

end WorkloadTraits
