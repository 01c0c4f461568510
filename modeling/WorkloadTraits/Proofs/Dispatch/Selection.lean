import WorkloadTraits.Proofs.Acceptance.Levels
import WorkloadTraits.Proofs.Containers
import WorkloadTraits.Proofs.Dispatch.Comparison
import WorkloadTraits.Proofs.Dispatch.Visits

/-!
# What is picked out of a journal

Warnings are read off a journal, and so is what is counted.  `Run.select` picks out of a journal
what a partial function makes of its events.  Where that function does not look at what processors
warn about, all that there is to pick in a level that succeeds are the marks of its kinds
(`Dispatcher.marks`) and what its entries' levels have (`Dispatcher.select_dispatch_level`).  The
levels of an accepted payload are known, so one has to pick at these, one after the other
(`Dispatcher.select_dispatch`).
-/

namespace WorkloadTraits

variable {γ : Type} {f : Event → Option γ}

/-- What processors warn about is not picked. -/
def Quiet (f : Event → Option γ) : Prop :=
  ∀ w : Warning, w.isOfProcessor = true → f (.warned w) = none

namespace Run

variable {α β : Type}

/-- What is picked out of the journal of a run. -/
def select (f : Event → Option γ) (r : Run α) : List γ := r.journal.filterMap f

lemma select_bind {r : Run α} {g : α → Run β} {b : β} (h : (r.bind g).outcome = .ok b) :
    ∃ a, r.outcome = .ok a ∧ (g a).outcome = .ok b ∧
      (r.bind g).select f = r.select f ++ (g a).select f := by
  rw [bind] at h
  split at h
  · rename_i a ha
    refine ⟨a, ha, h, ?_⟩
    simp only [select, bind, ha, List.filterMap_append]
  · cases h

end Run

/-! ## Plans -/

/-- A plan that has nothing processed has nothing to pick but what it warns about. -/
lemma Plan.select_of_asksNothing {α : Type} {p : Plan α} {answer : Nested → Run Contribution}
    (hquiet : Quiet f) (hasks : p.AsksNothing) (hwarns : p.WarnsOnly (·.isOfProcessor = true)) :
    (p.run answer).select f = [] := by
  induction p with
  | done a => rfl
  | fail failure => rfl
  | warn w next ih =>
      have hskip : ((warn w next).run answer).select f = (next.run answer).select f :=
        List.filterMap_cons_none (hquiet w hwarns.1)
      rw [hskip, ih hasks hwarns.2]
  | nested request next => exact hasks.elim

namespace Containers

variable {answer : Nested → Run Contribution} {s : Site}

lemma select_decorate (hquiet : Quiet f) {container : Container} {traits : Traits}
    {barring : List TraitKind} {isInit : Bool} {made : Container × Contribution}
    (hok : ((decorate container traits barring isInit).run answer).outcome = .ok made) :
    ((decorate container traits barring isInit).run answer).select f =
      (nestedRun answer ⟨traits, container.name, barring⟩).select f := by
  rw [decorate_run] at hok ⊢
  obtain ⟨c, -, -, hselect⟩ := Run.select_bind (f := f) hok
  have hown : Run.select (α := Container × Contribution) f
      ⟨if isInit && c.hasProbes then [.warned (.initProbesIgnored container.name)] else [],
        .ok (c.attach isInit container, c.withoutOwn container.name)⟩ = [] := by
    rw [Run.select]
    dsimp only
    split
    · exact List.filterMap_cons_none (hquiet _ rfl)
    · rfl
  rw [hselect, hown, List.append_nil]

/-- Init entries have what their nested levels have. -/
lemma select_inits (hquiet : Quiet f) {index : Nat} {before c : Contribution}
    {entries : List (InitEntry Traits)}
    (hok : ((inits s index before entries).run answer).outcome = .ok c) :
    ((inits s index before entries).run answer).select f =
      (entries.zipIdx index).flatMap fun e => (nestedRun answer (initRequest s e)).select f := by
  induction entries generalizing index before with
  | nil => rfl
  | cons e rest ih =>
      rw [inits] at hok ⊢
      dsimp only at hok ⊢
      cases himage : trimmed? e.properties.image with
      | none =>
          rw [himage] at hok
          cases hok
      | some image =>
          rw [himage] at hok
          dsimp only at hok ⊢
          rw [Plan.run_bind] at hok ⊢
          obtain ⟨made, hmade, hrest, hselect⟩ := Run.select_bind (f := f) hok
          rw [hselect, select_decorate hquiet hmade, ih hrest, List.zipIdx_cons,
            List.flatMap_cons]
          rfl

/-- Sidecars have what their nested levels have. -/
lemma select_sidecars (hquiet : Quiet f) {index : Nat} {before c : Contribution}
    {entries : List (SidecarEntry Traits)}
    (hok : ((sidecars s index before entries).run answer).outcome = .ok c) :
    ((sidecars s index before entries).run answer).select f =
      (entries.zipIdx index).flatMap fun e => (nestedRun answer (sidecarRequest s e)).select f := by
  induction entries generalizing index before with
  | nil => rfl
  | cons e rest ih =>
      rw [sidecars] at hok ⊢
      dsimp only at hok ⊢
      rw [Plan.run_bind] at hok ⊢
      obtain ⟨made, hmade, hrest, hselect⟩ := Run.select_bind (f := f) hok
      rw [hselect, select_decorate hquiet hmade, ih hrest, List.zipIdx_cons, List.flatMap_cons]
      rfl

end Containers

/-! ## One level -/

namespace Dispatcher

variable {d : Dispatcher} {l : Level} {answer : Nested → Run Contribution}

/-- What the init entries of a level are called to do. -/
lemma plan_of_call?_init {call : Call} (h : d.call? l (builtinProcessor .init) = some call) :
    call.plan = Containers.inits (d.site l) 0 .empty l.traits.init >>= fun c => pure (some c) := by
  obtain ⟨-, data, hdata, rfl⟩ := call?_eq_some.1 h
  obtain ⟨entries, hentries, rfl⟩ := Option.map_eq_some_iff.1 hdata
  obtain rfl := eq_of_entries?_eq_some hentries
  rfl

/-- What the sidecars of a level are called to do. -/
lemma plan_of_call?_sidecar {call : Call} (h : d.call? l (builtinProcessor .sidecar) = some call) :
    call.plan = Plan.ofExcept (Containers.checkSidecars (d.site l) 0 l.traits.sidecar) >>= fun _ =>
      Containers.sidecars (d.site l) 0 .empty l.traits.sidecar >>= fun c => pure (some c) := by
  obtain ⟨-, data, hdata, rfl⟩ := call?_eq_some.1 h
  obtain ⟨entries, hentries, rfl⟩ := Option.map_eq_some_iff.1 hdata
  obtain rfl := eq_of_entries?_eq_some hentries
  rfl

/-- A call that succeeds has what the levels of its entries have. -/
lemma select_call (hquiet : Quiet f) {k : TraitKind} {call : Call}
    (hcall : d.call? l (builtinProcessor k) = some call) {c? : Option Contribution}
    (hok : (call.plan.run answer).outcome = .ok c?) :
    (call.plan.run answer).select f =
      (d.openings l k).flatMap fun request => (nestedRun answer request).select f := by
  have hpure : ∀ {p : Plan Contribution},
      ((p >>= fun c => pure (some c)).run answer).outcome = .ok c? →
        (∃ c, (p.run answer).outcome = .ok c) ∧
          ((p >>= fun c => pure (some c)).run answer).select f = (p.run answer).select f := by
    intro p h
    rw [Plan.run_bind] at h ⊢
    obtain ⟨c, hc, -, hselect⟩ := Run.select_bind (f := f) h
    exact ⟨⟨c, hc⟩, hselect.trans (List.append_nil _)⟩
  have hother : k ≠ .init → k ≠ .sidecar → (call.plan.run answer).select f = [] := by
    intro hinit hsidecar
    obtain ⟨-, data, -, rfl⟩ := call?_eq_some.1 hcall
    exact Plan.select_of_asksNothing hquiet (asksNothing_builtinProcessor hinit hsidecar _)
      (warnsOnly_builtinProcessor _ _)
  cases k
  case init =>
    rw [plan_of_call?_init hcall] at hok ⊢
    obtain ⟨⟨c, hc⟩, hselect⟩ := hpure hok
    rw [hselect, Containers.select_inits hquiet hc, openings, List.flatMap_map]
  case sidecar =>
    rw [plan_of_call?_sidecar hcall] at hok ⊢
    cases hcheck : Containers.checkSidecars (d.site l) 0 l.traits.sidecar with
    | error failure =>
        rw [hcheck] at hok
        cases hok
    | ok _ =>
        rw [hcheck] at hok
        obtain ⟨⟨c, hc⟩, hselect⟩ := hpure hok
        refine hselect.trans ?_
        rw [Containers.select_sidecars hquiet hc, openings, List.flatMap_map]
  all_goals exact hother (by decide) (by decide)

/-- What there is to pick of the marks that a kind itself leaves, at a level that succeeds. -/
def marks (d : Dispatcher) (f : Event → Option γ) (l : Level) (k : TraitKind) : List γ :=
  match l.traits.data? k with
  | none => []
  | some data =>
    if l.barred.contains k then
      (f (.warned (.kindIgnored d.component.name l.target l.depth k))).toList
    else (f (.called k.name k (d.context l data))).toList ++ (f (.finished k.name true)).toList

/-- The levels that are opened by the entries of a kind, which must not be barred. -/
def opened (d : Dispatcher) (l : Level) (k : TraitKind) : List Nested :=
  if l.barred.contains k then [] else d.openings l k

lemma openings_of_data?_eq_none {k : TraitKind} (h : l.traits.data? k = none) :
    d.openings l k = [] := by
  cases k
  case init =>
    rw [Traits.data?, Option.map_eq_none_iff] at h
    rw [openings]
    cases hentries : l.traits.init with
    | nil => rfl
    | cons e rest =>
        rw [hentries] at h
        cases h
  case sidecar =>
    rw [Traits.data?, Option.map_eq_none_iff] at h
    rw [openings]
    cases hentries : l.traits.sidecar with
    | nil => rfl
    | cons e rest =>
        rw [hentries] at h
        cases h
  all_goals rfl

lemma select_framed (name : String) (kind : TraitKind) (context : Context)
    (own : Run (Option Contribution)) :
    (framed name kind context own).select f = (f (.called name kind context)).toList ++
      (own.select f ++ (f (.finished name own.outcome.isOk)).toList) := by
  simp only [Run.select, framed, List.filterMap_eq_flatMap_toList, List.flatMap_cons,
    List.flatMap_append, List.flatMap_nil, List.append_nil]

/-- A processor that succeeds leaves the marks of its kind, between which its entries' levels have
theirs. -/
lemma select_runProcessor (hquiet : Quiet f) {k : TraitKind} {c? : Option Contribution}
    (hok : (d.runProcessor answer l (builtinProcessor k)).outcome = .ok c?) :
    ((d.runProcessor answer l (builtinProcessor k)).select f).Perm (d.marks f l k ++
      (d.opened l k).flatMap fun request => (nestedRun answer request).select f) := by
  rw [marks, opened]
  cases hdata : l.traits.data? k with
  | none =>
      rw [openings_of_data?_eq_none hdata, ite_self]
      rw [runProcessor, builtinProcessor_kind, hdata]
      exact .refl _
  | some data =>
      dsimp only
      cases hbarred : l.barred.contains k with
      | true =>
          rw [runProcessor, builtinProcessor_kind, hdata]
          simp only [hbarred, if_true, List.flatMap_nil, List.append_nil, Run.select,
            List.filterMap_eq_flatMap_toList, List.flatMap_singleton]
          exact .refl _
      | false =>
          have hcall : d.call? l (builtinProcessor k) =
              some ⟨builtinProcessor k, d.context l data⟩ :=
            call?_eq_some.2 ⟨by rwa [builtinProcessor_kind],
              data, by rwa [builtinProcessor_kind], rfl⟩
          rw [runProcessor_of_call? hcall] at hok ⊢
          have hown := mapError_eq_ok.1 hok
          simp only [Bool.false_eq_true, if_false]
          rw [← select_call hquiet hcall hown, select_framed, builtinProcessor_name,
            builtinProcessor_kind, hown, List.append_assoc]
          exact List.perm_append_comm.append_left _

/-- Processors that succeed leave the marks of their kinds and of their entries' levels. -/
lemma select_runProcessors (hquiet : Quiet f) {ps : List Processor}
    (hps : ∀ p ∈ ps, p = builtinProcessor p.kind) {cs : List Contribution}
    (hok : (d.runProcessors answer l ps).outcome = .ok cs) :
    ((d.runProcessors answer l ps).select f).Perm ((ps.map (·.kind)).flatMap fun k =>
      d.marks f l k ++
        (d.opened l k).flatMap fun request => (nestedRun answer request).select f) := by
  induction ps generalizing cs with
  | nil => exact .refl _
  | cons p rest ih =>
      obtain ⟨hp, hrest⟩ := List.forall_mem_cons.1 hps
      rw [runProcessors_cons] at hok ⊢
      obtain ⟨c?, hc, hothers, hselect⟩ := Run.select_bind (f := f) hok
      obtain ⟨others, hothers, -⟩ := map_eq_ok.1 hothers
      rw [hp] at hc
      have hown := select_runProcessor hquiet hc
      rw [← hp] at hown
      rw [hselect, List.map_cons, List.flatMap_cons]
      exact hown.append (ih hrest hothers)

/-- What there is to pick of the marks that a level itself leaves when it succeeds. -/
def ownMarks (d : Dispatcher) (f : Event → Option γ) (l : Level) : List γ :=
  TraitKind.all.flatMap (d.marks f l)

/-- A level that succeeds has its own marks and what the levels of its entries have. -/
theorem select_processLevel (hcomplete : d.registry.IsComplete) (hquiet : Quiet f)
    {c : Contribution} (hok : (d.processLevel answer l).outcome = .ok c) :
    ((d.processLevel answer l).select f).Perm (d.ownMarks f l ++
      (d.opened l .init ++ d.opened l .sidecar).flatMap fun request =>
        (nestedRun answer request).select f) := by
  obtain ⟨cs, hcs, -⟩ := map_eq_ok.1 hok
  have hprocessors := select_runProcessors hquiet hcomplete.isBuiltin hcs
  have hkinds : (d.registry.processors.map (·.kind)).Perm TraitKind.all :=
    hcomplete.map (·.kind)
  have hopened : TraitKind.all.flatMap (fun k => (d.opened l k).flatMap fun request =>
      (nestedRun answer request).select f) =
        (d.opened l .init ++ d.opened l .sidecar).flatMap fun request =>
          (nestedRun answer request).select f := by
    simp [TraitKind.all, opened, openings]
  rw [← hopened]
  exact (hprocessors.trans (hkinds.flatMap_right _)).trans
    (List.flatMap_append_perm _ _ _).symm

/-! ## The levels of a payload -/

/-- A level whose traits are processed to an end where its request stands. -/
lemma nestedRun_answerAt {request : Nested} {c : Contribution}
    (h : (nestedRun (d.answerAt l) request).outcome = .ok c) :
    nestedRun (d.answerAt l) request = d.dispatch (below l request) := by
  rw [nestedRun] at h ⊢
  split
  · rename_i hempty
    exact (dispatchWithin_of_isEmpty _ hempty).symm
  · rename_i hgiven
    rw [if_neg hgiven] at h
    by_cases hdepth : d.settings.maxDepth < l.depth + 1
    · rw [answerAt_of_exhausted hdepth] at h
      cases h
    · exact answerAt_of_room (Nat.not_lt.1 hdepth) request

/-- At a level that succeeds, the levels that are opened succeed as well. -/
lemma succeeds_opened (hcomplete : d.registry.IsComplete) {c : Contribution}
    (hok : (d.processLevel answer l).outcome = .ok c) {k : TraitKind} {request : Nested}
    (hrequest : request ∈ d.opened l k) :
    ∃ n, (nestedRun answer request).outcome = .ok n := by
  rw [processLevel_outcome] at hok
  obtain ⟨-, hnested⟩ := (levelOutcome_succeeds hcomplete).1 ⟨c, hok⟩
  have houtcome : (nestedRun answer request).outcome =
      nestedOutcome (fun request => (answer request).outcome) request := by
    rw [nestedRun, nestedOutcome]
    split <;> rfl
  rw [houtcome]
  rw [opened] at hrequest
  cases hbarred : l.barred.contains k with
  | true =>
      rw [hbarred] at hrequest
      exact (List.not_mem_nil hrequest).elim
  | false =>
      rw [hbarred] at hrequest
      have hentries := hnested k hbarred
      cases k
      case init =>
        obtain ⟨e, he, rfl⟩ := List.mem_map.1 hrequest
        exact hentries e he
      case sidecar =>
        obtain ⟨e, he, rfl⟩ := List.mem_map.1 hrequest
        exact hentries e he
      all_goals exact (List.not_mem_nil hrequest).elim

/-- A level that succeeds has its own marks and what the levels have that it opens, and these
succeed as well. -/
theorem select_dispatch_level (hcomplete : d.registry.IsComplete) (hquiet : Quiet f)
    {c : Contribution} (hok : (d.dispatch l).outcome = .ok c) :
    ((d.dispatch l).select f).Perm (d.ownMarks f l ++
        (d.opened l .init ++ d.opened l .sidecar).flatMap fun request =>
          (d.dispatch (below l request)).select f) ∧
      ∀ k, ∀ request ∈ d.opened l k, ∃ n, (d.dispatch (below l request)).outcome = .ok n := by
  rw [dispatch_eq] at hok
  have hnested : ∀ k, ∀ request ∈ d.opened l k,
      nestedRun (d.answerAt l) request = d.dispatch (below l request) := by
    intro k request hrequest
    obtain ⟨n, hn⟩ := succeeds_opened hcomplete hok hrequest
    exact nestedRun_answerAt hn
  constructor
  · have hopened : (d.opened l .init ++ d.opened l .sidecar).flatMap (fun request =>
        (nestedRun (d.answerAt l) request).select f) =
          (d.opened l .init ++ d.opened l .sidecar).flatMap fun request =>
            (d.dispatch (below l request)).select f := by
      refine List.flatMap_congr fun request hrequest => ?_
      rcases List.mem_append.1 hrequest with hrequest | hrequest
      · rw [hnested .init request hrequest]
      · rw [hnested .sidecar request hrequest]
    rw [← hopened, dispatch_eq]
    exact select_processLevel hcomplete hquiet hok
  · intro k request hrequest
    rw [← hnested k request hrequest]
    exact succeeds_opened hcomplete hok hrequest

/-- The level of a sidecar opens none. -/
lemma select_sidecarLevel (hcomplete : d.registry.IsComplete) (hquiet : Quiet f)
    {e : SidecarEntry Traits × Nat} {c : Contribution}
    (hok : (d.dispatch (d.sidecarLevel l e)).outcome = .ok c) :
    ((d.dispatch (d.sidecarLevel l e)).select f).Perm (d.ownMarks f (d.sidecarLevel l e)) := by
  have hbarred : ∀ k, k = .init ∨ k = .sidecar → d.opened (d.sidecarLevel l e) k = [] := by
    intro k hk
    refine if_pos ?_
    rw [sidecarLevel, barred_below]
    rcases hk with rfl | rfl <;> rfl
  have hperm := (select_dispatch_level hcomplete hquiet hok).1
  rwa [hbarred .init (.inl rfl), hbarred .sidecar (.inr rfl), List.append_nil, List.flatMap_nil,
    List.append_nil] at hperm

/-- The level of an init entry opens those of its sidecars. -/
lemma select_initLevel (hcomplete : d.registry.IsComplete) (hquiet : Quiet f) {t : Traits}
    {e : InitEntry Traits × Nat} {c : Contribution}
    (hok : (d.dispatch (d.initLevel (d.top t) e)).outcome = .ok c) :
    ((d.dispatch (d.initLevel (d.top t) e)).select f).Perm
      (d.ownMarks f (d.initLevel (d.top t) e) ++ e.1.traits.sidecar.zipIdx.flatMap fun s =>
        d.ownMarks f (d.sidecarLevel (d.initLevel (d.top t) e) s)) := by
  obtain ⟨hperm, hopened⟩ := select_dispatch_level hcomplete hquiet hok
  refine hperm.trans (List.Perm.append_left _ ?_)
  show ((e.1.traits.sidecar.zipIdx.map _).flatMap _).Perm _
  rw [List.flatMap_map]
  refine List.Perm.flatMap_left _ fun s hs => ?_
  obtain ⟨n, hn⟩ := hopened .sidecar _ (List.mem_map_of_mem hs)
  exact select_sidecarLevel hcomplete hquiet hn

/-- **What an accepted payload leaves.**  When a payload is accepted, the marks in the journal are
those of its levels. -/
theorem select_dispatch (hcomplete : d.registry.IsComplete) (hquiet : Quiet f) {t : Traits}
    {c : Contribution} (hok : (d.dispatch (d.top t)).outcome = .ok c) :
    ((d.dispatch (d.top t)).select f).Perm ((d.levels t).flatMap (d.ownMarks f)) := by
  obtain ⟨hperm, hopened⟩ := select_dispatch_level hcomplete hquiet hok
  refine hperm.trans ?_
  rw [levels, List.flatMap_cons, nestedLevels, List.flatMap_append, List.flatMap_append]
  refine List.Perm.append_left _ (List.Perm.append ?_ ?_)
  · show ((t.init.zipIdx.map _).flatMap _).Perm _
    rw [List.flatMap_map, List.flatMap_assoc]
    refine List.Perm.flatMap_left _ fun e he => ?_
    obtain ⟨n, hn⟩ := hopened .init _ (List.mem_map_of_mem he)
    rw [List.flatMap_cons, List.flatMap_map]
    exact select_initLevel hcomplete hquiet hn
  · show ((t.sidecar.zipIdx.map _).flatMap _).Perm _
    rw [List.flatMap_map, List.flatMap_map]
    refine List.Perm.flatMap_left _ fun e he => ?_
    obtain ⟨n, hn⟩ := hopened .sidecar _ (List.mem_map_of_mem he)
    exact select_sidecarLevel hcomplete hquiet hn

end Dispatcher

end WorkloadTraits
