import WorkloadTraits.Builtin.Containers
import WorkloadTraits.Proofs.Placement.Effect
import WorkloadTraits.Proofs.SortedMap

/-!
# Resources on both ways

Requested resources reach a container in two ways.  The container of a nested level gets them as
they are (`Contribution.attach`), in place of those that it may have.  On the main container they
are laid over the ones that it has (`ResourceRequirements.overlay`), so that amounts which nobody
asked to change stay.

Neither way loses an amount.  But laying resources over others leaves claims aside, and the main
container gets none of the claims that are requested for it: what is requested is there afterwards
if and only if the claims were there before (`Workload.requirements_place_iff`).
-/

namespace WorkloadTraits

namespace ResourceRequirements

/-- The claims on resources. -/
def claimList (r : ResourceRequirements) : List String := r.claims.getD []

/-- The resources contain all that is wanted: every limit, every request and every claim. -/
structure Covers (r wanted : ResourceRequirements) : Prop where
  limits : ∀ key amount, amount? wanted.limits key = some amount →
    amount? r.limits key = some amount
  requests : ∀ key amount, amount? wanted.requests key = some amount →
    amount? r.requests key = some amount
  claims : wanted.claimList ⊆ r.claimList

/-- The resources contain all of the old ones that the requested ones do not set anew. -/
structure Keeps (r old requested : ResourceRequirements) : Prop where
  limits : ∀ key amount, amount? requested.limits key = none →
    amount? old.limits key = some amount → amount? r.limits key = some amount
  requests : ∀ key amount, amount? requested.requests key = none →
    amount? old.requests key = some amount → amount? r.requests key = some amount
  claims : old.claimList ⊆ r.claimList

variable {requested base result : ResourceRequirements}

lemma covers_refl (r : ResourceRequirements) : r.Covers r :=
  ⟨fun _ _ h => h, fun _ _ h => h, List.Subset.refl _⟩

namespace LaidOver

lemma claimList (h : requested.LaidOver base result) : result.claimList = base.claimList :=
  congrArg (·.getD []) h.claims

lemma keeps (h : requested.LaidOver base result) : result.Keeps base requested where
  limits key amount hnew hold := by rw [h.limits, hnew, hold, Option.none_or]
  requests key amount hnew hold := by rw [h.requests, hnew, hold, Option.none_or]
  claims := (h.claimList).symm ▸ List.Subset.refl _

/-- What is laid over other resources is there afterwards, as far as the claims were before. -/
lemma covers_iff (h : requested.LaidOver base result) :
    result.Covers requested ↔ requested.claimList ⊆ base.claimList := by
  rw [← h.claimList]
  constructor
  · exact Covers.claims
  · intro hclaims
    refine ⟨fun key amount hkey => ?_, fun key amount hkey => ?_, hclaims⟩
    · rw [h.limits, hkey, Option.some_or]
    · rw [h.requests, hkey, Option.some_or]

/-- The amounts never depend on the claims. -/
lemma covers_amounts (h : requested.LaidOver base result) :
    result.Covers { requested with claims := none } := by
  have hamounts : LaidOver { requested with claims := none } base result :=
    ⟨h.limits, h.requests, h.limitsGiven, h.requestsGiven, h.claims⟩
  exact hamounts.covers_iff.2 (List.nil_subset _)

end LaidOver

lemma overlayGiven_none (extra : Option StringMap) : overlayGiven none extra = extra := by
  cases extra with
  | none => rfl
  | some m => exact congrArg some m.empty_overlay

/-- Over no resources, all is laid but the claims. -/
lemma empty_overlay (requested : ResourceRequirements) :
    overlay {} requested = { requested with claims := none } := by
  rw [overlay, overlayGiven_none, overlayGiven_none]

end ResourceRequirements

/-! ## Finding the main container again -/

section ChangeFirsts

variable {α κ : Type} [DecidableEq κ] {key : α → κ} {f : α → α}

lemma take_changeFirsts (seen : List κ) (as : List α) (n : ℕ) :
    (changeFirsts key f seen as).take n = changeFirsts key f seen (as.take n) := by
  induction as generalizing seen n with
  | nil => rw [changeFirsts, List.take_nil, changeFirsts]
  | cons a rest ih =>
      cases n with
      | zero => rfl
      | succ n => rw [changeFirsts, List.take_succ_cons, ih, List.take_succ_cons, changeFirsts]

/-- The value that is found under a key is the one that is changed. -/
lemma find?_changeFirsts (hf : ∀ a, key (f a) = key a) {k : κ} {seen : List κ} (hk : k ∉ seen)
    (as : List α) :
    (changeFirsts key f seen as).find? (key · == k) = (as.find? (key · == k)).map f := by
  induction as generalizing seen with
  | nil => rfl
  | cons a rest ih =>
      rw [changeFirsts, List.find?_cons, List.find?_cons]
      by_cases ha : key a = k
      · have hfresh : key a ∉ seen := ha ▸ hk
        rw [if_neg hfresh, hf, beq_iff_eq.2 ha, Option.map_some]
      · have hkey : key (if key a ∈ seen then a else f a) = key a := by
          split
          · rfl
          · exact hf a
        have hk' : k ∉ key a :: seen := by
          rw [List.mem_cons, not_or]
          exact ⟨fun heq => ha heq.symm, hk⟩
        rw [hkey, beq_eq_false_iff_ne.2 ha, ih hk']

end ChangeFirsts

/-- The containers that run beside each other come first in the walk. -/
lemma Pod.containers_equip (p : Pod) (main : String) (c : Contribution) :
    (p.equip main c).containers = changeFirsts (·.name) (·.provided main c) [] p.containers := by
  have hall := p.allContainers_equip main c
  have htake : ∀ q : Pod, q.containers = q.allContainers.take q.containers.length :=
    fun q => (List.take_left' rfl).symm
  rw [htake (p.equip main c), hall, length_containers_equip, take_changeFirsts, ← htake p]

namespace Workload

variable {w : Workload} {main : String} {k : Container}

lemma main_of_container? (hk : w.container? main = some k) :
    ∃ pod, w.pod? = some pod ∧ pod.containers.find? (·.name == main) = some k ∧
      pod.containers.any (·.name == main) = true ∧ k.name = main := by
  obtain ⟨pod, hpod, hfind⟩ := Option.bind_eq_some_iff.1 hk
  have hname := List.find?_some hfind
  exact ⟨pod, hpod, hfind, List.any_eq_true.2 ⟨k, List.mem_of_find?_eq_some hfind, hname⟩,
    beq_iff_eq.1 hname⟩

/-- Placing provides the container that the component is named after, and no other takes its
place. -/
lemma container?_place (hk : w.container? main = some k) (settings : Settings) (c : Contribution) :
    (w.place settings main c).workload.container? main = some (k.provided main c) := by
  obtain ⟨pod, hpod, hfind, hany, -⟩ := main_of_container? hk
  have hcontainers : (w.place settings main c).workload.pod?.map (·.containers) =
      some ((pod.receive c).equip main c).containers := by
    rw [place_eq hpod hany, pod?_furnish, hpod, Option.map_some, Option.map_some]
    split
    · rw [(Pod.containers_uncoverAll _ _).1]
    · rfl
  obtain ⟨q, hq, hqk⟩ := Option.map_eq_some_iff.1 hcontainers
  rw [container?, hq, Option.bind_some, hqk, Pod.containers_equip, Pod.containers_receive,
    find?_changeFirsts (fun k => (k.provides_provided main c).rest.1) List.not_mem_nil,
    List.find?_append, hfind, Option.some_or, Option.map_some]

/-- The main container has what is requested over what it had. -/
lemma resources_provided {c : Contribution} {requested : ResourceRequirements}
    (hc : c.resources = some requested) (hk : k.name = main) :
    (k.provided main c).resources = some ((k.resources.getD {}).overlay requested) := by
  have hequip : (k.equip c).resources = some ((k.resources.getD {}).overlay requested) := by
    rw [Container.equip, hc]
  rw [← hequip, Container.provided, if_pos hk]
  rfl

/-- **Resources on both ways.**  The container of a nested level gets all that is requested for it.
On the main container nothing is lost of what was there, nor any requested amount; but the requested
claims are only there if they were before, and a container without resources gets the same ones on
both ways if and only if there are none. -/
theorem requirements_place_iff {c : Contribution} {requested : ResourceRequirements}
    (hc : c.resources = some requested) (hk : w.container? main = some k) (settings : Settings) :
    (∀ isInit inner, ∃ r, (c.attach isInit inner).resources = some r ∧ r.Covers requested) ∧
    (∃ objects, (w.place settings main c).outcome = .ok objects) ∧
    ∃ k' r, (w.place settings main c).workload.container? main = some k' ∧
      k'.resources = some r ∧
      r.Keeps (k.resources.getD {}) requested ∧
      r.Covers { requested with claims := none } ∧
      (r.Covers requested ↔ requested.claimList ⊆ (k.resources.getD {}).claimList) ∧
      (k.resources = none → ∀ isInit inner,
        (c.attach isInit inner).resources = some r ↔ requested.claims = none) := by
  have hattach : ∀ isInit inner, (c.attach isInit inner).resources = some requested := by
    intro isInit inner
    have hsupplied : c.resources.or ((c.fieldsFor inner.name).applyTo inner).resources =
        some requested := by rw [hc, Option.some_or]
    cases isInit <;> exact hsupplied
  obtain ⟨pod, hpod, -, hany, hname⟩ := main_of_container? hk
  have hlaid := ResourceRequirements.laidOver_overlay (k.resources.getD {}) requested
  refine ⟨fun isInit inner => ⟨requested, hattach isInit inner, requested.covers_refl⟩,
    ⟨_, congrArg Placement.outcome (place_eq hpod hany settings c)⟩, k.provided main c, _,
    container?_place hk settings c, resources_provided hc hname, hlaid.keeps, hlaid.covers_amounts,
    hlaid.covers_iff, ?_⟩
  intro hnone isInit inner
  rw [hattach, hnone, Option.getD_none, ResourceRequirements.empty_overlay, Option.some.injEq]
  exact ⟨fun h => congrArg (·.claims) h, fun h => by rw [← h]⟩

/-- Amounts and a claim on a device. -/
def deviceRequest : ResourceRequirements where
  limits := some (.ofList [("cpu", "2")])
  claims := some ["gpu"]

/-- A contribution that asks for a device. -/
def deviceContribution : Contribution where
  resources := some deviceRequest

/-- A deployment whose container has amounts and another device. -/
def deviceWorkload : Workload where
  kind := .deployment
  spec := some { template := { pod := some { containers := [{
    name := "web"
    resources := some {
      limits := some (.ofList [("cpu", "1"), ("memory", "1Gi")])
      claims := some ["fpga"] } }] } } }

theorem requirements_place_iff_device :
    deviceContribution.resources = some deviceRequest ∧
    (deviceWorkload.container? "web").isSome = true ∧
    ∃ k r, (deviceWorkload.place {} "web" deviceContribution).workload.container? "web" = some k ∧
      k.resources = some r ∧ amount? r.limits "cpu" = some "2" ∧
      amount? r.limits "memory" = some "1Gi" ∧ "fpga" ∈ r.claimList ∧
      ¬ r.Covers deviceRequest := by
  obtain ⟨-, -, k, r, hk, hr, hkeeps, hamounts, hcovers, -⟩ :=
    requirements_place_iff (c := deviceContribution) rfl (rfl : deviceWorkload.container? "web" = _)
      {}
  refine ⟨rfl, rfl, k, r, hk, hr, hamounts.limits "cpu" "2" rfl,
    hkeeps.limits "memory" "1Gi" rfl rfl, hkeeps.claims List.mem_cons_self, ?_⟩
  rw [hcovers]
  decide

/-- What is lost on a container without resources, where a container of a nested level gets it. -/
theorem requested_claim_lost :
    (Engine.plainWorkload.place {} "web" deviceContribution).outcome = .ok [] ∧
    (∃ k r, (Engine.plainWorkload.place {} "web" deviceContribution).workload.container? "web" =
      some k ∧ k.resources = some r ∧ ¬ r.Covers deviceRequest) ∧
    (deviceContribution.attach false { name := "web" }).resources = some deviceRequest := by
  refine ⟨rfl, ⟨_, _, rfl, rfl, fun hcovers => ?_⟩, rfl⟩
  exact List.not_mem_nil (hcovers.claims List.mem_cons_self)

end Workload

end WorkloadTraits
