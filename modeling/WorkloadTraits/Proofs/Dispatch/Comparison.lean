import WorkloadTraits.Proofs.Builtin.Payload
import WorkloadTraits.Proofs.Contribution.Merge
import WorkloadTraits.Proofs.Dispatch.Journal

/-!
# Two runs side by side

What a part of the payload has no influence on is found by running a level twice, with that part
and without it.  `Run.Mapped` is the relation between two such runs: they fail alike, or the value
of one is that of the other, mapped, and of the warnings that are heard both give the same.

The relation is kept by running one plan after another (`Run.Mapped.bind`), so it goes through
everything that the run of a level is made of without a look at the difference.  If the nested
traits of two levels run alike, then so do the plans that add containers
(`Containers.initPlan_mapped`, `Containers.sidecarPlan_mapped`); if their processors run alike, then
so do the levels (`Dispatcher.processLevel_mapped`).  Of contributions it is only asked that objects
are replaced by objects of the same keys, since that is how they are merged.
-/

namespace WorkloadTraits

variable {heard : Warning → Bool}

/-! ## Runs -/

namespace Run

variable {α β α' β' : Type} {r : Run α} {r' : Run β}

/-- One run is the other with its value mapped: it fails alike, and gives the same of the warnings
that are heard. -/
structure Mapped (heard : Warning → Bool) (f : α → β) (r : Run α) (r' : Run β) : Prop where
  outcome : r'.outcome = r.outcome.map f
  warnings : r'.warnings.filter heard = r.warnings.filter heard

lemma Mapped.refl (r : Run α) : r.Mapped heard id r := by
  refine ⟨?_, rfl⟩
  cases r.outcome <;> rfl

lemma Mapped.ok (f : α → β) (journal : List Event) (a : α) :
    Mapped heard f ⟨journal, .ok a⟩ ⟨journal, .ok (f a)⟩ := ⟨rfl, rfl⟩

/-- A run that has its value already as it is mapped is not changed. -/
lemma mapped_self {f : α → α} (hf : ∀ a, r.outcome = .ok a → f a = a) : r.Mapped heard f r := by
  refine ⟨?_, rfl⟩
  cases hr : r.outcome with
  | error failure => rfl
  | ok a => exact congrArg Except.ok (hf a hr).symm

/-- Where all warnings are heard, both give all the same. -/
lemma Mapped.warnings_eq {f : α → β} (h : r.Mapped (fun _ => true) f r') :
    r'.warnings = r.warnings := by
  have hwarnings := h.warnings
  rwa [List.filter_true, List.filter_true] at hwarnings

lemma Mapped.bind {f : α → β} {g : α' → β'} {k : α → Run α'} {k' : β → Run β'}
    (h : r.Mapped heard f r') (hk : ∀ a, (k a).Mapped heard g (k' (f a))) :
    (r.bind k).Mapped heard g (r'.bind k') := by
  have hwarnings : (journalWarnings r'.journal).filter heard =
      (journalWarnings r.journal).filter heard := h.warnings
  cases hr : r.outcome with
  | error failure =>
      have hr' : r'.outcome = .error failure := by rw [h.outcome, hr, Except.map]
      refine ⟨by simp only [Run.bind, hr, hr', Except.map], ?_⟩
      simpa only [Run.bind, Run.warnings, hr, hr'] using hwarnings
  | ok a =>
      have hr' : r'.outcome = .ok (f a) := by rw [h.outcome, hr, Except.map]
      have hrest : (journalWarnings (k' (f a)).journal).filter heard =
          (journalWarnings (k a).journal).filter heard := (hk a).warnings
      refine ⟨by simp only [Run.bind, hr, hr', (hk a).outcome], ?_⟩
      simp only [Run.bind, Run.warnings, hr, hr', journalWarnings_append, List.filter_append,
        hwarnings, hrest]

end Run

/-! ## Nested traits -/

/-- The request for other traits. -/
def Nested.mapTraits (T : Traits → Traits) (request : Nested) : Nested :=
  { request with traits := T request.traits }

/-- The entry with other traits. -/
def InitEntry.mapTraits (T : Traits → Traits) (e : InitEntry Traits) : InitEntry Traits :=
  { e with traits := T e.traits }

/-- The sidecar with other traits. -/
def SidecarEntry.mapTraits (T : Traits → Traits) (e : SidecarEntry Traits) : SidecarEntry Traits :=
  { e with traits := T e.traits }

/-- The run of nested traits, which are processed only if they say something. -/
def nestedRun (answer : Nested → Run Contribution) (request : Nested) : Run Contribution :=
  if request.traits.isEmpty then ⟨[], .ok .empty⟩ else answer request

namespace Containers

lemma decorate_run (answer : Nested → Run Contribution) (container : Container) (traits : Traits)
    (barring : List TraitKind) (isInit : Bool) :
    (decorate container traits barring isInit).run answer =
      (nestedRun answer ⟨traits, container.name, barring⟩).bind fun c =>
        ⟨if isInit && c.hasProbes then [.warned (.initProbesIgnored container.name)] else [],
          .ok (c.attach isInit container, c.withoutOwn container.name)⟩ := by
  rw [decorate, nestedRun]
  split
  · simp only [Run.bind, attach_empty, withoutOwn_empty]
    cases isInit <;> rfl
  · rw [Plan.run_bind, Plan.run_dispatch]
    congr 1
    funext c
    split <;> rfl

variable {g : Companion → Companion} {T : Traits → Traits}
variable {answer answer' : Nested → Run Contribution} {s : Site} {payload : Option Json}

/-- A container gets the same of nested traits that run alike. -/
lemma decorate_mapped {traits : Traits} {barring : List TraitKind} {container : Container}
    (h : (nestedRun answer ⟨traits, container.name, barring⟩).Mapped heard (.mapObjects g)
      (nestedRun answer' ⟨T traits, container.name, barring⟩)) (isInit : Bool) :
    ((decorate container traits barring isInit).run answer).Mapped heard
      (Prod.map id (Contribution.mapObjects g))
      ((decorate container (T traits) barring isInit).run answer') := by
  rw [decorate_run, decorate_run]
  exact h.bind fun c => .ok _ _ _

/-- Init entries run alike if their nested traits do. -/
lemma inits_mapped (hkey : ∀ o, (g o).key = o.key) {index : Nat} {entries : List (InitEntry Traits)}
    (h : ∀ e ∈ entries.zipIdx index, (nestedRun answer (initRequest s e)).Mapped heard
      (.mapObjects g) (nestedRun answer' ((initRequest s e).mapTraits T)))
    (before : Contribution) :
    ((inits s index before entries).run answer).Mapped heard (.mapObjects g)
      ((inits (s.withPayload payload) index (before.mapObjects g)
        (entries.map (.mapTraits T))).run answer') := by
  induction entries generalizing index before with
  | nil => exact .ok _ [] before
  | cons e rest ih =>
      rw [List.zipIdx_cons, List.forall_mem_cons] at h
      rw [List.map_cons, inits, inits]
      dsimp only
      have himage : (e.mapTraits T).properties.image = e.properties.image := rfl
      rw [himage]
      cases trimmed? e.properties.image with
      | none => exact ⟨rfl, rfl⟩
      | some image =>
          dsimp only
          rw [Plan.run_bind, Plan.run_bind]
          refine Run.Mapped.bind (decorate_mapped h.1 true) fun made => ?_
          have hmerged := Contribution.mapObjects_merge hkey before made.2
          simp only [Prod.map_snd, ← hmerged]
          exact ih h.2 _

/-- Sidecars run alike if their nested traits do. -/
lemma sidecars_mapped (hkey : ∀ o, (g o).key = o.key) {index : Nat}
    {entries : List (SidecarEntry Traits)}
    (h : ∀ e ∈ entries.zipIdx index, (nestedRun answer (sidecarRequest s e)).Mapped heard
      (.mapObjects g) (nestedRun answer' ((sidecarRequest s e).mapTraits T)))
    (before : Contribution) :
    ((sidecars s index before entries).run answer).Mapped heard (.mapObjects g)
      ((sidecars (s.withPayload payload) index (before.mapObjects g)
        (entries.map (.mapTraits T))).run answer') := by
  induction entries generalizing index before with
  | nil => exact .ok _ [] before
  | cons e rest ih =>
      rw [List.zipIdx_cons, List.forall_mem_cons] at h
      rw [List.map_cons, sidecars, sidecars]
      dsimp only
      rw [Plan.run_bind, Plan.run_bind]
      refine Run.Mapped.bind (decorate_mapped h.1 false) fun made => ?_
      have hmerged := Contribution.mapObjects_merge hkey before made.2
      simp only [Prod.map_snd, ← hmerged]
      exact ih h.2 _

/-- The check of sidecars asks of their traits only whether there are sidecars among them. -/
lemma checkSidecars_mapTraits (hT : ∀ t, (T t).sidecar.isEmpty = t.sidecar.isEmpty) (index : Nat)
    (entries : List (SidecarEntry Traits)) :
    checkSidecars s index (entries.map (.mapTraits T)) = checkSidecars s index entries := by
  induction entries generalizing index with
  | nil => rfl
  | cons e rest ih =>
      have hsidecar : (e.mapTraits T).traits.sidecar.isEmpty = e.traits.sidecar.isEmpty :=
        hT e.traits
      rw [List.map_cons, checkSidecars, checkSidecars, hsidecar, ih]
      rfl

/-- So do the plans of the two processors that add containers. -/
lemma initPlan_mapped (hkey : ∀ o, (g o).key = o.key) {entries : List (InitEntry Traits)}
    (h : ∀ e ∈ entries.zipIdx, (nestedRun answer (initRequest s e)).Mapped heard
      (.mapObjects g) (nestedRun answer' ((initRequest s e).mapTraits T))) :
    ((inits s 0 .empty entries >>= fun c => pure (some c)).run answer).Mapped heard
      (Option.map (.mapObjects g))
      ((inits (s.withPayload payload) 0 .empty (entries.map (.mapTraits T)) >>=
        fun c => pure (some c)).run answer') := by
  rw [Plan.run_bind, Plan.run_bind]
  exact (inits_mapped hkey h .empty).bind fun c => .ok _ [] (some c)

lemma sidecarPlan_mapped (hkey : ∀ o, (g o).key = o.key)
    (hT : ∀ t, (T t).sidecar.isEmpty = t.sidecar.isEmpty) {entries : List (SidecarEntry Traits)}
    (h : ∀ e ∈ entries.zipIdx, (nestedRun answer (sidecarRequest s e)).Mapped heard
      (.mapObjects g) (nestedRun answer' ((sidecarRequest s e).mapTraits T))) :
    ((Plan.ofExcept (checkSidecars s 0 entries) >>= fun _ =>
        sidecars s 0 .empty entries >>= fun c => pure (some c)).run answer).Mapped heard
      (Option.map (.mapObjects g))
      ((Plan.ofExcept (checkSidecars (s.withPayload payload) 0 (entries.map (.mapTraits T))) >>=
        fun _ => sidecars (s.withPayload payload) 0 .empty (entries.map (.mapTraits T)) >>=
          fun c => pure (some c)).run answer') := by
  have hcheck := (Plan.asksNothing_ofExcept (checkSidecars s 0 entries)).run_eq answer answer'
  simp only [checkSidecars_withPayload, checkSidecars_mapTraits hT, Plan.run_bind, hcheck]
  exact (Run.Mapped.refl _).bind fun _ =>
    (sidecars_mapped hkey h .empty).bind fun c => .ok _ [] (some c)

end Containers

/-! ## Levels -/

namespace Dispatcher

/-- The dispatcher for the component with another payload. -/
def withPayload (d : Dispatcher) (payload : Option Json) : Dispatcher :=
  { d with component := d.component.withPayload payload }

variable {d : Dispatcher} {l l' : Level} {answer answer' : Nested → Run Contribution}
variable {payload : Option Json} {g : Companion → Companion}

/-- Plans that run alike are framed alike. -/
lemma framed_mapped {f : Option Contribution → Option Contribution}
    {own own' : Run (Option Contribution)} (h : own.Mapped heard f own') (name : String)
    (kind : TraitKind) (context context' : Context) :
    (framed name kind context own).Mapped heard f (framed name kind context' own') := by
  constructor
  · rw [framed, framed, h.outcome]
    cases own.outcome <;> rfl
  · rw [warnings_framed, warnings_framed, h.warnings]

/-- Processors run alike one after the other if each of them does. -/
lemma runProcessors_mapped {ps : List Processor} (hps : ∀ p ∈ ps, p = builtinProcessor p.kind)
    (h : ∀ k, (d.runProcessor answer l (builtinProcessor k)).Mapped heard
      (Option.map (.mapObjects g))
      ((d.withPayload payload).runProcessor answer' l' (builtinProcessor k))) :
    (d.runProcessors answer l ps).Mapped heard (List.map (.mapObjects g))
      ((d.withPayload payload).runProcessors answer' l' ps) := by
  induction ps with
  | nil => exact .ok _ [] []
  | cons p rest ih =>
      rw [List.forall_mem_cons] at hps
      rw [runProcessors_cons, runProcessors_cons, hps.1]
      refine (h p.kind).bind fun c? => ?_
      have hrest := ih hps.2
      refine ⟨?_, hrest.warnings⟩
      show Except.map _ _ = _
      rw [hrest.outcome]
      cases (d.runProcessors answer l rest).outcome with
      | error failure => rfl
      | ok others => cases c? <;> rfl

/-- Levels run alike if all their processors do. -/
lemma processLevel_mapped (hbuiltin : d.registry.IsBuiltin) (hkey : ∀ o, (g o).key = o.key)
    (h : ∀ k, (d.runProcessor answer l (builtinProcessor k)).Mapped heard
      (Option.map (.mapObjects g))
      ((d.withPayload payload).runProcessor answer' l' (builtinProcessor k))) :
    (d.processLevel answer l).Mapped heard (.mapObjects g)
      ((d.withPayload payload).processLevel answer' l') := by
  have hps : (d.runProcessors answer l d.registry.processors).Mapped heard
      (List.map (.mapObjects g))
      ((d.withPayload payload).runProcessors answer' l'
        (d.withPayload payload).registry.processors) :=
    runProcessors_mapped hbuiltin h
  refine ⟨?_, hps.warnings⟩
  rw [processLevel, processLevel]
  dsimp only
  rw [hps.outcome]
  cases (d.runProcessors answer l d.registry.processors).outcome with
  | error failure => rfl
  | ok cs => exact congrArg Except.ok (Contribution.mapObjects_aggregate hkey cs).symm

/-! ## Levels that say nothing -/

/-- A level that says nothing is processed without anything happening. -/
lemma dispatchWithin_of_isEmpty (room : Nat) (hempty : l.traits.isEmpty = true) :
    d.dispatchWithin room l = ⟨[], .ok .empty⟩ := by
  have hdata := Traits.data?_of_isEmpty hempty
  have hnothing : ∀ answer ps, d.runProcessors answer l ps = ⟨[], .ok []⟩ := by
    intro answer ps
    induction ps with
    | nil => rfl
    | cons p rest ih =>
        rw [runProcessors, hdata]
        exact ih
  cases room with
  | zero =>
      rw [dispatchWithin, processLevel, hnothing]
      rfl
  | succ room =>
      rw [dispatchWithin, processLevel, hnothing]
      rfl

end Dispatcher

end WorkloadTraits
