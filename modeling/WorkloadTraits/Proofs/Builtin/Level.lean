import WorkloadTraits.Builtin.Registry
import WorkloadTraits.Proofs.Contribution.Merge
import WorkloadTraits.Proofs.Dispatch.Outcome

/-!
# Levels under the built-in processors

A level of traits says something about some of the ten kinds.  With the built-in processors its
contribution is made of ten parts, one for each kind, where a kind that is barred or not mentioned
contributes nothing (`levelOutcome_builtin`).  Eight of the parts depend on the level alone
(`kindContribution`).  The parts of `init` and `sidecar` are made of one piece for each entry: the
entry's container with what the traits of the entry want for it, and what they want besides.

`Contributes.parts` collects this for any contribution that can come of a level.  It is what the
theory knows of the processors; the plans behind them are not opened again.
-/

namespace WorkloadTraits

/-! ## Pieces -/

lemma merge_appendInit (before besides : Contribution) (container : Container) :
    { before.merge besides with
      initContainers := (before.merge besides).initContainers ++ [container] } =
      before.merge { besides with initContainers := besides.initContainers ++ [container] } := by
  simp [Contribution.merge]

lemma merge_appendContainer (before besides : Contribution) (container : Container) :
    { before.merge besides with
      containers := (before.merge besides).containers ++ [container] } =
      before.merge { besides with containers := besides.containers ++ [container] } := by
  simp [Contribution.merge]

/-- The part of a contribution that concerns a container that runs first: the container itself,
supplied with what is wanted for it, and everything that is wanted besides. -/
def Contribution.aroundInit (c : Contribution) (container : Container) : Contribution :=
  let besides := c.withoutOwn container.name
  { besides with initContainers := besides.initContainers ++ [c.attach true container] }

/-- The same for a container that runs beside the others. -/
def Contribution.aroundSidecar (c : Contribution) (container : Container) : Contribution :=
  let besides := c.withoutOwn container.name
  { besides with containers := besides.containers ++ [c.attach false container] }

/-- The outcome of nested traits, which are processed only if they say something. -/
def nestedOutcome (answer : Nested → Except Failure Contribution) (request : Nested) :
    Except Failure Contribution :=
  if request.traits.isEmpty then .ok .empty else answer request

lemma attach_empty (isInit : Bool) (container : Container) :
    Contribution.empty.attach isInit container = container := by
  cases isInit <;> rfl

lemma withoutOwn_empty (name : String) : Contribution.empty.withoutOwn name = .empty := rfl

namespace Containers

variable (site : Site) (answer : Nested → Except Failure Contribution)

/-- The name of the container of the init entry at an index. -/
def initName (index : Nat) (e : InitEntry Traits) : String :=
  nameOr e.name site.target ("-init-" ++ toString index)

/-- The traits of an init entry, for the entry's container. -/
def initRequest (e : InitEntry Traits × Nat) : Nested where
  traits := e.1.traits
  target := initName site e.2 e.1
  barring := [.init]

/-- The traits of a sidecar, for the sidecar. -/
def sidecarRequest (e : SidecarEntry Traits × Nat) : Nested where
  traits := e.1.traits
  target := sidecarName site e.2 e.1
  barring := [.sidecar, .init]

/-- What becomes of one init entry. -/
def initPiece (e : InitEntry Traits × Nat) : Except Failure Contribution :=
  match trimmed? e.1.properties.image with
  | none => .error (.missingImage "init container" (initName site e.2 e.1))
  | some image =>
    (nestedOutcome answer (initRequest site e)).map
      (·.aroundInit (initContainer (initName site e.2 e.1) image e.1))

/-- What becomes of one sidecar, whose check has been passed. -/
def sidecarPiece (e : SidecarEntry Traits × Nat) : Except Failure Contribution :=
  (nestedOutcome answer (sidecarRequest site e)).map
    (·.aroundSidecar (sidecarContainer (sidecarName site e.2 e.1) e.1))

lemma decorate_eval (container : Container) (traits : Traits) (barring : List TraitKind)
    (isInit : Bool) :
    (decorate container traits barring isInit).eval answer =
      (nestedOutcome answer ⟨traits, container.name, barring⟩).map
        fun c => (c.attach isInit container, c.withoutOwn container.name) := by
  rw [decorate, nestedOutcome]
  by_cases hempty : traits.isEmpty = true
  · simp only [hempty, if_true]
    rw [Except.map, attach_empty, withoutOwn_empty]
    rfl
  · simp only [hempty, Bool.false_eq_true, if_false]
    rw [Plan.eval_bind, Plan.eval_dispatch]
    cases answer ⟨traits, container.name, barring⟩ with
    | error failure => rfl
    | ok c =>
        show Plan.eval answer _ = _
        split <;> rfl

/-- Init entries are processed to one piece each, and the pieces are merged. -/
lemma inits_eval (index : Nat) (before : Contribution) (entries : List (InitEntry Traits)) :
    (inits site index before entries).eval answer =
      ((entries.zipIdx index).mapM (initPiece site answer)).map
        (·.foldl Contribution.merge before) := by
  induction entries generalizing index before with
  | nil => rfl
  | cons e rest ih =>
      rw [inits, List.zipIdx_cons, List.mapM_cons, initPiece]
      dsimp only
      cases trimmed? e.properties.image with
      | none => rfl
      | some image =>
          dsimp only
          rw [Plan.eval_bind, decorate_eval]
          show ((nestedOutcome answer (initRequest site (e, index))).map _ >>= _) = _
          cases nestedOutcome answer (initRequest site (e, index)) with
          | error failure => rfl
          | ok c =>
              simp only [Except.map, bind, Except.bind]
              rw [ih, merge_appendInit]
              cases (rest.zipIdx (index + 1)).mapM (initPiece site answer) <;> rfl

/-- Sidecars are processed to one piece each, and the pieces are merged. -/
lemma sidecars_eval (index : Nat) (before : Contribution)
    (entries : List (SidecarEntry Traits)) :
    (sidecars site index before entries).eval answer =
      ((entries.zipIdx index).mapM (sidecarPiece site answer)).map
        (·.foldl Contribution.merge before) := by
  induction entries generalizing index before with
  | nil => rfl
  | cons e rest ih =>
      rw [sidecars, List.zipIdx_cons, List.mapM_cons, sidecarPiece]
      dsimp only
      rw [Plan.eval_bind, decorate_eval]
      show ((nestedOutcome answer (sidecarRequest site (e, index))).map _ >>= _) = _
      cases nestedOutcome answer (sidecarRequest site (e, index)) with
      | error failure => rfl
      | ok c =>
          simp only [Except.map, bind, Except.bind]
          rw [ih, merge_appendContainer]
          cases (rest.zipIdx (index + 1)).mapM (sidecarPiece site answer) <;> rfl

/-- The contribution of init entries. -/
def initContribution (entries : List (InitEntry Traits)) : Except Failure Contribution :=
  (entries.zipIdx.mapM (initPiece site answer)).map Contribution.aggregate

/-- The contribution of sidecars, all of which are checked before any is processed. -/
def sidecarContribution (entries : List (SidecarEntry Traits)) : Except Failure Contribution := do
  checkSidecars site 0 entries
  (entries.zipIdx.mapM (sidecarPiece site answer)).map Contribution.aggregate

variable {site answer}

lemma initPiece_eq_ok {e : InitEntry Traits × Nat} {c : Contribution} :
    initPiece site answer e = .ok c ↔
      ∃ image n, trimmed? e.1.properties.image = some image ∧
        nestedOutcome answer (initRequest site e) = .ok n ∧
          n.aroundInit (initContainer (initName site e.2 e.1) image e.1) = c := by
  rw [initPiece]
  cases trimmed? e.1.properties.image with
  | none => simp
  | some image => simp [map_eq_ok]

lemma sidecarPiece_eq_ok {e : SidecarEntry Traits × Nat} {c : Contribution} :
    sidecarPiece site answer e = .ok c ↔
      ∃ n, nestedOutcome answer (sidecarRequest site e) = .ok n ∧
        n.aroundSidecar (sidecarContainer (sidecarName site e.2 e.1) e.1) = c :=
  map_eq_ok

/-- There is one piece for each init entry. -/
lemma initContribution_eq_ok {entries : List (InitEntry Traits)} {c : Contribution} :
    initContribution site answer entries = .ok c ↔
      ∃ pieces, List.Forall₂ (fun e p => initPiece site answer e = .ok p) entries.zipIdx pieces ∧
        Contribution.aggregate pieces = c := by
  rw [initContribution, map_eq_ok]
  simp only [mapM_eq_ok]

/-- There is one piece for each sidecar. -/
lemma sidecarContribution_eq_ok {entries : List (SidecarEntry Traits)} {c : Contribution} :
    sidecarContribution site answer entries = .ok c ↔
      checkSidecars site 0 entries = .ok () ∧ ∃ pieces,
        List.Forall₂ (fun e p => sidecarPiece site answer e = .ok p) entries.zipIdx pieces ∧
          Contribution.aggregate pieces = c := by
  rw [sidecarContribution, bind_eq_ok]
  simp only [map_eq_ok, mapM_eq_ok]
  exact ⟨fun ⟨_, hcheck, h⟩ => ⟨hcheck, h⟩, fun ⟨hcheck, h⟩ => ⟨(), hcheck, h⟩⟩

section Induction

variable {P : Contribution → Prop} (hempty : P .empty) (hmerge : ∀ a b, P a → P b → P (a.merge b))
include hempty hmerge

/-- What holds of every piece and is kept by merging holds of what init entries contribute. -/
lemma initContribution_induction
    (hpiece : ∀ (e : InitEntry Traits × Nat) image n,
      nestedOutcome answer (initRequest site e) = .ok n →
        P (n.aroundInit (initContainer (initName site e.2 e.1) image e.1)))
    {entries : List (InitEntry Traits)} {c : Contribution}
    (h : initContribution site answer entries = .ok c) : P c := by
  obtain ⟨pieces, hpieces, rfl⟩ := initContribution_eq_ok.1 h
  refine Contribution.aggregate_induction hempty hmerge fun p hp => ?_
  obtain ⟨e, -, he⟩ := exists_of_mem_forall₂ hpieces hp
  obtain ⟨image, n, -, hn, rfl⟩ := initPiece_eq_ok.1 he
  exact hpiece e image n hn

/-- The same for what sidecars contribute. -/
lemma sidecarContribution_induction
    (hpiece : ∀ (e : SidecarEntry Traits × Nat) n,
      nestedOutcome answer (sidecarRequest site e) = .ok n →
        P (n.aroundSidecar (sidecarContainer (sidecarName site e.2 e.1) e.1)))
    {entries : List (SidecarEntry Traits)} {c : Contribution}
    (h : sidecarContribution site answer entries = .ok c) : P c := by
  obtain ⟨-, pieces, hpieces, rfl⟩ := sidecarContribution_eq_ok.1 h
  refine Contribution.aggregate_induction hempty hmerge fun p hp => ?_
  obtain ⟨e, -, he⟩ := exists_of_mem_forall₂ hpieces hp
  obtain ⟨n, hn, rfl⟩ := sidecarPiece_eq_ok.1 he
  exact hpiece e n hn

end Induction

end Containers

/-! ## Kinds -/

/-- What the built-in processor of a kind contributes, given the outcomes of nested traits. -/
def kindContribution (site : Site) (answer : Nested → Except Failure Contribution) (t : Traits) :
    TraitKind → Except Failure Contribution
  | .storage => Storage.contribution site t.storage
  | .secret => .ok (Secret.contribution site t.secret)
  | .envFrom => Environment.sourceContribution site t.envFrom
  | .envs => Environment.variableContribution site t.envs
  | .resources =>
    match t.resources with
    | none => .ok .empty
    | some e => (Resources.contribution site e).map (·.getD .empty)
  | .probes => Probes.contribution site t.probes
  | .rbac => Access.contribution site t.rbac
  | .init => Containers.initContribution site answer t.init
  | .sidecar => Containers.sidecarContribution site answer t.sidecar
  | .ingress =>
    ((Ingresses.objects site 0 t.ingress).eval answer).map fun objects => { objects }

/-- A kind that the traits say nothing about contributes nothing. -/
lemma kindContribution_of_data?_eq_none {site : Site}
    {answer : Nested → Except Failure Contribution} {t : Traits} {k : TraitKind}
    (h : t.data? k = none) : kindContribution site answer t k = .ok .empty := by
  obtain ⟨init, storage, secret, sidecar, envFrom, envs, probes, rbac, ingress, resources⟩ := t
  cases k
  case resources =>
    cases resources with
    | none => rfl
    | some e =>
        have hblank : e.isBlank = true := by simpa [Traits.data?, Option.filter] using h
        simp only [ResourceEntry.isBlank, Bool.and_eq_true] at hblank
        simp only [kindContribution, Resources.contribution, Resources.limits, Resources.addLimit,
          hblank, if_true]
        rfl
  all_goals
    simp only [Traits.data?, Traits.entries?, Option.map_eq_none_iff] at h
    split at h
    · rfl
    · cases h

lemma eq_of_entries?_eq_some {α : Type} {as entries : List α}
    (h : Traits.entries? as = some entries) : entries = as := by
  cases as with
  | nil => cases h
  | cons a rest => exact (Option.some.inj h).symm

lemma eval_ofExcept_map_some (answer : Nested → Except Failure Contribution)
    (x : Except Failure Contribution) :
    ((Plan.ofExcept (x.map some)).eval answer).map (·.getD .empty) = x := by
  rw [Plan.eval_ofExcept]
  cases x <;> rfl

/-- A kind that the traits say something about contributes what its processor makes of it. -/
lemma process_eval {d : Dispatcher} {answer : Nested → Except Failure Contribution} {l : Level}
    {k : TraitKind} {data : TraitData} (h : l.traits.data? k = some data) :
    (((builtinProcessor k).process (d.context l data)).eval answer).map (·.getD .empty) =
      kindContribution (d.context l data).toSite answer l.traits k := by
  cases k
  case resources =>
    obtain ⟨e, he, rfl⟩ := Option.map_eq_some_iff.1 h
    have hgiven : l.traits.resources = some e := (Option.filter_eq_some_iff.1 he).1
    rw [kindContribution, hgiven]
    exact congrArg _ (Plan.eval_ofExcept _)
  all_goals
    obtain ⟨entries, hentries, rfl⟩ := Option.map_eq_some_iff.1 h
    obtain rfl := eq_of_entries?_eq_some hentries
  case secret => rfl
  case init =>
    show (((Containers.inits _ 0 .empty l.traits.init >>= _).eval answer).map _) = _
    rw [Plan.eval_bind, Containers.inits_eval, kindContribution, Containers.initContribution]
    cases l.traits.init.zipIdx.mapM (Containers.initPiece _ answer) <;> rfl
  case sidecar =>
    show (((Plan.ofExcept (Containers.checkSidecars _ 0 l.traits.sidecar) >>= fun _ =>
      Containers.sidecars _ 0 .empty l.traits.sidecar >>= _).eval answer).map _) = _
    rw [Plan.eval_bind, Plan.eval_ofExcept, kindContribution, Containers.sidecarContribution]
    cases Containers.checkSidecars _ 0 l.traits.sidecar with
    | error failure => rfl
    | ok _ =>
        show ((Containers.sidecars _ 0 .empty l.traits.sidecar >>= _).eval answer).map _ = _
        rw [Plan.eval_bind, Containers.sidecars_eval]
        cases l.traits.sidecar.zipIdx.mapM (Containers.sidecarPiece _ answer) <;> rfl
  case ingress =>
    show ((Ingresses.objects _ 0 l.traits.ingress >>= _).eval answer).map _ = _
    rw [Plan.eval_bind, kindContribution]
    cases (Ingresses.objects _ 0 l.traits.ingress).eval answer <;> rfl
  all_goals exact eval_ofExcept_map_some answer _

/-! ## Registries -/

namespace Registry

/-- A registry of built-in processors, in whatever order. -/
def IsBuiltin (r : Registry) : Prop :=
  ∀ p ∈ r.processors, p = builtinProcessor p.kind

/-- The kinds that there is a processor for, in the order of the processors. -/
def kinds (r : Registry) : List TraitKind :=
  r.processors.map (·.kind)

theorem isBuiltin_builtin : builtin.IsBuiltin := by
  intro p hp
  obtain ⟨k, -, rfl⟩ := List.mem_map.1 hp
  rw [builtinProcessor_kind]

theorem kinds_builtin : builtin.kinds = TraitKind.all := rfl

lemma mem_kinds_builtin (k : TraitKind) : k ∈ builtin.kinds := k.mem_all

end Registry

/-! ## Levels -/

/-- Traits that say nothing say nothing about any kind. -/
lemma Traits.data?_of_isEmpty {t : Traits} (hempty : t.isEmpty = true) (k : TraitKind) :
    t.data? k = none := by
  have hkinds : t.kinds = [] := List.isEmpty_iff.1 hempty
  have hk := List.filter_eq_nil_iff.1 hkinds k k.mem_all
  simpa using hk

namespace Dispatcher

/-- The container that a level is for. -/
def site (d : Dispatcher) (l : Level) : Site where
  settings := d.settings
  component := d.component
  target := l.target

/-- The part of a kind in the contribution of a level. -/
def kindOutcome (d : Dispatcher) (answer : Nested → Except Failure Contribution) (l : Level)
    (k : TraitKind) : Except Failure Contribution :=
  if l.barred.contains k then .ok .empty
  else (kindContribution (d.site l) answer l.traits k).mapError (.inTrait k.name)

variable {d : Dispatcher} {answer : Nested → Except Failure Contribution} {l : Level}

lemma contributionOf_builtin (k : TraitKind) :
    (d.contributionOf answer l (builtinProcessor k)).map (·.getD .empty) =
      d.kindOutcome answer l k := by
  rw [contributionOf, kindOutcome, builtinProcessor_kind, builtinProcessor_name]
  cases hdata : l.traits.data? k with
  | none =>
      rw [kindContribution_of_data?_eq_none hdata]
      exact (ite_self _).symm
  | some data =>
      by_cases hbarred : l.barred.contains k = true
      · simp only [hbarred, if_true]
        rfl
      · simp only [hbarred, Bool.false_eq_true, if_false]
        have hsite : d.site l = (d.context l data).toSite := rfl
        rw [hsite, ← process_eval hdata]
        cases ((builtinProcessor k).process (d.context l data)).eval answer <;> rfl

lemma aggregate_map_getD (cs : List (Option Contribution)) :
    Contribution.aggregate (cs.map (·.getD .empty)) =
      Contribution.aggregate cs.reduceOption := by
  have hfold : ∀ a, (cs.map (·.getD .empty)).foldl Contribution.merge a =
      cs.reduceOption.foldl Contribution.merge a := by
    induction cs with
    | nil => exact fun _ => rfl
    | cons c rest ih =>
        intro a
        cases c with
        | none =>
            rw [List.map_cons, List.foldl_cons, Option.getD_none, Contribution.merge_empty,
              List.reduceOption_cons_of_none, ih]
        | some c =>
            rw [List.map_cons, List.foldl_cons, Option.getD_some, List.reduceOption_cons_of_some,
              List.foldl_cons, ih]
  exact hfold .empty

/-- The outcome of a level is merged of one part for each kind that there is a processor for. -/
theorem levelOutcome_builtin (hbuiltin : d.registry.IsBuiltin) :
    d.levelOutcome answer l =
      (d.registry.kinds.mapM (d.kindOutcome answer l)).map Contribution.aggregate := by
  have hmapM : ∀ ps : List Processor, (∀ p ∈ ps, p = builtinProcessor p.kind) →
      (ps.map (·.kind)).mapM (d.kindOutcome answer l) =
        (ps.mapM (d.contributionOf answer l)).map (List.map (·.getD .empty)) := by
    intro ps hps
    induction ps with
    | nil => rfl
    | cons p rest ih =>
        have hp := hps p List.mem_cons_self
        rw [List.map_cons, List.mapM_cons, List.mapM_cons,
          ih fun p' hp' => hps p' (List.mem_cons_of_mem _ hp'), ← contributionOf_builtin, ← hp]
        cases d.contributionOf answer l p with
        | error failure => rfl
        | ok c => cases rest.mapM (d.contributionOf answer l) <;> rfl
  rw [levelOutcome, Registry.kinds, hmapM _ hbuiltin]
  cases d.registry.processors.mapM (d.contributionOf answer l) with
  | error failure => rfl
  | ok cs => exact congrArg Except.ok (aggregate_map_getD cs).symm

/-- A kind that is barred contributes nothing, any other what its data are processed to. -/
lemma kindOutcome_eq_ok {k : TraitKind} {c : Contribution} :
    d.kindOutcome answer l k = .ok c ↔
      if l.barred.contains k then c = .empty
      else kindContribution (d.site l) answer l.traits k = .ok c := by
  rw [kindOutcome]
  split
  · exact ⟨fun h => (Except.ok.inj h).symm, fun h => congrArg Except.ok h.symm⟩
  · exact mapError_eq_ok

/-- A level that says nothing contributes nothing, whatever the processors are. -/
lemma levelOutcome_of_isEmpty (hempty : l.traits.isEmpty = true) :
    d.levelOutcome answer l = .ok .empty := by
  have hdata := Traits.data?_of_isEmpty hempty
  have hnone : d.contributionOf answer l = fun _ => pure none := by
    funext p
    rw [contributionOf, hdata]
    rfl
  rw [levelOutcome, hnone, List.mapM_pure]
  have hreduce : ∀ ps : List Processor,
      (ps.map fun _ => (none : Option Contribution)).reduceOption = [] := by
    intro ps
    induction ps with
    | nil => rfl
    | cons p rest ih => exact ih
  exact congrArg (fun cs => Except.ok (Contribution.aggregate cs)) (hreduce _)

/-- What comes of nested traits is a contribution of their level. -/
lemma contributes_of_nestedOutcome {request : Nested} {n : Contribution}
    (hanswer : ∀ request n, answer request = .ok n → d.Contributes (below l request) n)
    (h : nestedOutcome answer request = .ok n) : d.Contributes (below l request) n := by
  rw [nestedOutcome] at h
  split at h
  · rename_i hempty
    obtain rfl := Except.ok.inj h
    exact .intro (fun _ => .error (.recursionLimit 0)) (fun _ _ hn => nomatch hn)
      (levelOutcome_of_isEmpty hempty)
  · exact hanswer request n h

/-- The parts of a contribution of a level, given the outcomes of nested traits. -/
structure Parts (d : Dispatcher) (answer : Nested → Except Failure Contribution) (l : Level)
    (part : TraitKind → Contribution) : Prop where
  /-- A barred kind has no part. -/
  barred : ∀ k ∈ d.registry.kinds, l.barred.contains k = true → part k = .empty
  /-- The part of any other kind comes of its data. -/
  made : ∀ k ∈ d.registry.kinds, l.barred.contains k = false →
    kindContribution (d.site l) answer l.traits k = .ok (part k)

/-- The outcome of a level is merged of its parts. -/
lemma parts_of_levelOutcome (hbuiltin : d.registry.IsBuiltin) {c : Contribution}
    (h : d.levelOutcome answer l = .ok c) :
    ∃ part, d.Parts answer l part ∧ c = .aggregate (d.registry.kinds.map part) := by
  rw [levelOutcome_builtin hbuiltin] at h
  obtain ⟨cs, hcs, rfl⟩ := map_eq_ok.1 h
  have hall : ∀ k ∈ d.registry.kinds, ∃ c, d.kindOutcome answer l k = .ok c :=
    exists_mapM_ok.1 ⟨cs, hcs⟩
  choose! part hpart using hall
  have hmade : ∀ k ∈ d.registry.kinds, if l.barred.contains k then part k = .empty
      else kindContribution (d.site l) answer l.traits k = .ok (part k) :=
    fun k hk => kindOutcome_eq_ok.1 (hpart k hk)
  refine ⟨part, ⟨fun k hk hbarred => ?_, fun k hk hbarred => ?_⟩, ?_⟩
  · simpa only [hbarred, if_true] using hmade k hk
  · simpa only [hbarred, Bool.false_eq_true, if_false] using hmade k hk
  · have hmap : d.registry.kinds.mapM (d.kindOutcome answer l) =
        .ok (d.registry.kinds.map part) := by
      rw [mapM_eq_ok, List.forall₂_map_right_iff, List.forall₂_same]
      exact hpart
    rw [Except.ok.inj (hcs.symm.trans hmap)]

/-- A contribution of a level is merged of its parts, where nested traits have come to
contributions of their levels. -/
theorem Contributes.parts (hbuiltin : d.registry.IsBuiltin) {c : Contribution}
    (h : d.Contributes l c) :
    ∃ answer part,
      (∀ request n, nestedOutcome answer request = .ok n →
        d.Contributes (Dispatcher.below l request) n) ∧
        d.Parts answer l part ∧ c = .aggregate (d.registry.kinds.map part) := by
  obtain ⟨answer, hanswer, houtcome⟩ := h
  obtain ⟨part, hparts, hc⟩ := parts_of_levelOutcome hbuiltin houtcome
  exact ⟨answer, part, fun _ _ hn => contributes_of_nestedOutcome hanswer hn, hparts, hc⟩

/-- What is true of the contributions of single kinds and is kept, by merging and on the way up
from a nested level, is true of whatever a level contributes.  The property may depend on the
container that the level is for. -/
theorem Contributes.invariant (hbuiltin : d.registry.IsBuiltin)
    {P : String → Contribution → Prop} (hempty : ∀ target, P target .empty)
    (hmerge : ∀ target a b, P target a → P target b → P target (a.merge b))
    (hkind : ∀ site answer t k c, k ≠ .init → k ≠ .sidecar →
      kindContribution site answer t k = .ok c → P site.target c)
    (hinit : ∀ target name image e n, P name n →
      P target (n.aroundInit (Containers.initContainer name image e)))
    (hsidecar : ∀ target name e n, P name n →
      P target (n.aroundSidecar (Containers.sidecarContainer name e)))
    {c : Contribution} (h : d.Contributes l c) : P l.target c := by
  induction h with
  | @intro l c answer _ houtcome ih =>
      have hnested : ∀ request n, nestedOutcome answer request = .ok n → P request.target n := by
        intro request n hn
        rw [nestedOutcome] at hn
        split at hn
        · obtain rfl := Except.ok.inj hn
          exact hempty _
        · exact ih request n hn
      obtain ⟨part, hparts, rfl⟩ := parts_of_levelOutcome hbuiltin houtcome
      refine Contribution.aggregate_induction (hempty _) (hmerge _) fun c hc => ?_
      obtain ⟨k, hkinds, rfl⟩ := List.mem_map.1 hc
      cases hbarred : l.barred.contains k with
      | true =>
          rw [hparts.barred k hkinds hbarred]
          exact hempty _
      | false =>
          have hmade := hparts.made k hkinds hbarred
          by_cases hk : k = .init
          · subst hk
            exact Containers.initContribution_induction (hempty _) (hmerge _)
              (fun _ _ n hn => hinit _ _ _ _ _ (hnested _ n hn)) hmade
          by_cases hk' : k = .sidecar
          · subst hk'
            exact Containers.sidecarContribution_induction (hempty _) (hmerge _)
              (fun _ n hn => hsidecar _ _ _ _ (hnested _ n hn)) hmade
          · exact hkind (d.site l) answer l.traits k _ hk hk' hmade

end Dispatcher

end WorkloadTraits
