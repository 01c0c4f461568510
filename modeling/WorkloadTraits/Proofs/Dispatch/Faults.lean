import WorkloadTraits.Proofs.Dispatch.Visits

/-!
# Where failures come from

A built-in processor asks for the traits of its entries and for nothing else, passes a failure of
nested traits on as it is, and fails itself only for something that the payload asks for and cannot
have (`Plan.Disciplined`).  So a dispatch that fails has one of two things to blame: what a payload
says at a level that was visited, or a request at such a level that there was no room for
(`failure_dispatch`).
-/

namespace WorkloadTraits

/-! ## Outcomes -/

section Outcomes

variable {α β : Type} {x : Except Failure α}

/-- A failure for what the payload asks for, raised where that stands and not passed on. -/
def Failure.IsOwn (failure : Failure) : Prop :=
  failure.path = [] ∧ failure.category = .domainViolation

/-- An outcome that, if it is a failure, is one for what the payload asks for. -/
def BlamesPayload (x : Except Failure α) : Prop :=
  ∀ failure, x = .error failure → failure.IsOwn

lemma blamesPayload_ok (a : α) : BlamesPayload (.ok a) := by
  intro failure h
  cases h

lemma blamesPayload_error {failure : Failure} (h : failure.IsOwn) :
    BlamesPayload (.error failure : Except Failure α) := by
  rintro _ ⟨⟩
  exact h

lemma BlamesPayload.bind {f : α → Except Failure β} (hx : BlamesPayload x)
    (hf : ∀ a, BlamesPayload (f a)) : BlamesPayload (x >>= f) := by
  cases x with
  | error failure => exact blamesPayload_error (hx failure rfl)
  | ok a => exact hf a

lemma BlamesPayload.map {f : α → β} (hx : BlamesPayload x) : BlamesPayload (x.map f) := by
  cases x with
  | error failure => exact blamesPayload_error (hx failure rfl)
  | ok a => exact blamesPayload_ok _

lemma blamesPayload_mapM {f : α → Except Failure β} (hf : ∀ a, BlamesPayload (f a))
    (as : List α) : BlamesPayload (as.mapM f) := by
  induction as with
  | nil => exact blamesPayload_ok []
  | cons a rest ih =>
      rw [List.mapM_cons]
      exact (hf a).bind fun b => ih.bind fun bs => blamesPayload_ok _

lemma blamesPayload_foldlM {f : β → α → Except Failure β} (hf : ∀ b a, BlamesPayload (f b a))
    (as : List α) (b : β) : BlamesPayload (as.foldlM f b) := by
  induction as generalizing b with
  | nil => exact blamesPayload_ok b
  | cons a rest ih => exact (hf b a).bind ih

end Outcomes

/-! ## Plans -/

namespace Plan

variable {α β : Type} {asks : Nested → Prop} {p : Plan α} {answer : Nested → Run Contribution}

/-- A plan that asks only for some levels, passes on their failures, and fails itself only for what
the payload asks for. -/
def Disciplined (asks : Nested → Prop) : Plan α → Prop
  | done _ => True
  | fail failure => failure.IsOwn
  | warn _ next => next.Disciplined asks
  | nested request next =>
    asks request ∧ (∀ c, (next (.ok c)).Disciplined asks) ∧
      ∀ failure, next (.error failure) = .fail failure

lemma Disciplined.bind {f : α → Plan β} (hp : p.Disciplined asks)
    (hf : ∀ a, (f a).Disciplined asks) : (p >>= f).Disciplined asks := by
  show (p.andThen f).Disciplined asks
  induction p with
  | done a => exact hf a
  | fail failure => exact hp
  | warn w next ih => exact ih hp
  | nested request next ih =>
      obtain ⟨hasks, hok, herror⟩ := hp
      refine ⟨hasks, fun c => ih _ (hok c), fun failure => ?_⟩
      simp only [herror failure]
      rfl

lemma disciplined_pure (a : α) : (pure a : Plan α).Disciplined asks := trivial

lemma disciplined_ofExcept {x : Except Failure α} (h : BlamesPayload x) :
    (ofExcept x).Disciplined asks := by
  cases x with
  | error failure => exact h failure rfl
  | ok a => trivial

lemma disciplined_warnings (ws : List Warning) : (warnings ws).Disciplined asks := by
  induction ws with
  | nil => trivial
  | cons w rest ih => exact ih

lemma disciplined_dispatch {request : Nested} (h : asks request) :
    (dispatch request).Disciplined asks :=
  ⟨h, fun _ => trivial, fun _ => rfl⟩

lemma Disciplined.asks_of_mem (hp : p.Disciplined asks) {request : Nested}
    (h : request ∈ p.requests answer) : asks request := by
  induction p with
  | done a => exact (List.not_mem_nil h).elim
  | fail failure => exact (List.not_mem_nil h).elim
  | warn w next ih => exact ih hp h
  | nested request' next ih =>
      obtain ⟨hasks, hok, herror⟩ := hp
      rcases List.mem_cons.1 h with rfl | h
      · exact hasks
      · cases houtcome : (answer request').outcome with
        | ok c =>
            rw [houtcome] at h
            exact ih _ (hok c) h
        | error failure =>
            rw [houtcome, herror] at h
            exact (List.not_mem_nil h).elim

/-- A failure of the plan is its own or one of the levels that it asks for. -/
lemma Disciplined.failure_run (hp : p.Disciplined asks) {failure : Failure}
    (h : (p.run answer).outcome = .error failure) :
    failure.IsOwn ∨
      ∃ request ∈ p.requests answer, (answer request).outcome = .error failure := by
  induction p with
  | done a => cases h
  | fail own =>
      obtain rfl := Except.error.inj h
      exact .inl hp
  | warn w next ih => exact ih hp h
  | nested request next ih =>
      obtain ⟨-, hok, herror⟩ := hp
      rw [requests, List.exists_mem_cons_iff]
      have hrest : ((next (answer request).outcome).run answer).outcome = .error failure := h
      cases houtcome : (answer request).outcome with
      | ok c =>
          rw [houtcome] at hrest
          exact (ih _ (hok c) hrest).imp_right .inr
      | error nested =>
          rw [houtcome, herror] at hrest
          obtain rfl := Except.error.inj hrest
          exact .inr (.inl rfl)

end Plan

/-! ## The built-in processors -/

lemma blamesPayload_readQuantity (field raw : String) : BlamesPayload (readQuantity field raw) := by
  rw [readQuantity]
  cases Quantity.read raw with
  | error fault => exact blamesPayload_error ⟨rfl, rfl⟩
  | ok amount => exact blamesPayload_ok amount

namespace Storage

lemma blamesPayload_part (site : Site) (kind : StorageKind) (e : StorageEntry) (name : String) :
    BlamesPayload (part site kind e name) := by
  have hclaim : BlamesPayload (e.claim site name) :=
    (blamesPayload_readQuantity _ _).bind fun _ => blamesPayload_ok _
  unfold part
  dsimp only
  split
  · exact hclaim.map.bind fun _ => blamesPayload_ok _
  · exact (blamesPayload_ok none).bind fun _ => blamesPayload_ok _

lemma blamesPayload_parts (site : Site) (index : Nat) (seen : List String)
    (entries : List StorageEntry) : BlamesPayload (parts site index seen entries) := by
  induction entries generalizing index seen with
  | nil => exact blamesPayload_ok []
  | cons e rest ih =>
      have hkind : BlamesPayload (StorageKind.read e.type) := by
        rw [StorageKind.read]
        split
        · exact blamesPayload_ok _
        · exact blamesPayload_error ⟨rfl, rfl⟩
      have hname : BlamesPayload (e.checkedName site index) := by
        rw [StorageEntry.checkedName]
        split
        · exact blamesPayload_ok _
        · exact blamesPayload_error ⟨rfl, rfl⟩
      refine hkind.bind fun kind => hname.bind fun name => ?_
      split
      · exact ih _ _
      · exact (blamesPayload_part _ _ _ _).bind fun _ => (ih _ _).bind fun _ => blamesPayload_ok _

end Storage

namespace Environment

lemma blamesPayload_source (e : EnvSourceEntry) : BlamesPayload e.source := by
  rw [EnvSourceEntry.source]
  dsimp only
  split
  · exact blamesPayload_error ⟨rfl, rfl⟩
  · split
    · exact blamesPayload_ok _
    · split
      · exact blamesPayload_ok _
      · exact blamesPayload_error ⟨rfl, rfl⟩

lemma blamesPayload_toVariable (e : EnvEntry) : BlamesPayload e.toVariable := by
  rw [EnvEntry.toVariable]
  split
  · exact blamesPayload_error ⟨rfl, rfl⟩
  · split
    · exact blamesPayload_ok _
    · exact blamesPayload_error ⟨rfl, rfl⟩

end Environment

namespace Resources

lemma blamesPayload_addLimit (limits : StringMap) (field key raw : String) :
    BlamesPayload (addLimit limits field key raw) := by
  rw [addLimit]
  split
  · exact blamesPayload_ok _
  · exact (blamesPayload_readQuantity _ _).map

lemma blamesPayload_contribution (site : Site) (e : ResourceEntry) :
    BlamesPayload (contribution site e) := by
  have hlimits : BlamesPayload (limits site e) :=
    (blamesPayload_addLimit _ _ _ _).bind fun _ =>
      (blamesPayload_addLimit _ _ _ _).bind fun _ => blamesPayload_addLimit _ _ _ _
  exact hlimits.bind fun _ => blamesPayload_ok _

end Resources

namespace Probes

lemma blamesPayload_addProbe (target : String) (c : Contribution) (e : ProbeEntry) :
    BlamesPayload (addProbe target c e) := by
  have hkind : BlamesPayload (ProbeKind.read e.type) := by
    rw [ProbeKind.read]
    split
    · exact blamesPayload_ok _
    · exact blamesPayload_error ⟨rfl, rfl⟩
  have hprobe : BlamesPayload e.probe := by
    rw [ProbeEntry.probe]
    split
    · exact blamesPayload_error ⟨rfl, rfl⟩
    · exact blamesPayload_ok _
  refine hkind.bind fun kind => ?_
  dsimp only
  split
  · exact blamesPayload_error ⟨rfl, rfl⟩
  · exact hprobe.bind fun _ => blamesPayload_ok _

end Probes

namespace Access

lemma blamesPayload_policyRules (account : String) (index : Nat) (rules : List AccessRule) :
    BlamesPayload (AccessPolicy.policyRules account index rules) := by
  induction rules generalizing index with
  | nil => exact blamesPayload_ok []
  | cons r rest ih =>
      rw [AccessPolicy.policyRules]
      split
      · exact blamesPayload_error ⟨rfl, rfl⟩
      · exact (ih _).bind fun _ => blamesPayload_ok _

lemma blamesPayload_objects (site : Site) (index : Nat) (policies : List AccessPolicy) :
    BlamesPayload (objects site index policies) := by
  induction policies generalizing index with
  | nil => exact blamesPayload_ok []
  | cons p rest ih =>
      exact (blamesPayload_policyRules _ _ _).bind fun _ => (ih _).bind fun _ => blamesPayload_ok _

end Access

namespace PathChange

lemma blamesPayload_kind (c : PathChange) : BlamesPayload c.kind := by
  rw [kind]
  split
  · exact blamesPayload_ok _
  · split
    · exact blamesPayload_ok _
    · split
      · exact blamesPayload_ok _
      · exact blamesPayload_error ⟨rfl, rfl⟩

lemma blamesPayload_annotations (r : Route) : BlamesPayload r.annotations := by
  rw [Route.annotations]
  split
  · exact blamesPayload_ok _
  · refine (blamesPayload_kind _).bind fun kind => ?_
    cases kind with
    | replace =>
        dsimp only
        split
        · exact blamesPayload_error ⟨rfl, rfl⟩
        · exact blamesPayload_ok _
    | lead => exact blamesPayload_ok _
    | pattern =>
        dsimp only
        split
        · exact blamesPayload_error ⟨rfl, rfl⟩
        · exact blamesPayload_ok _

lemma blamesPayload_implied (routes : List Route) : BlamesPayload (implied routes) := by
  have hentry : ∀ implied entry, BlamesPayload (addImplied implied entry) := by
    rintro implied ⟨key, value⟩
    rw [addImplied]
    split
    · split
      · exact blamesPayload_ok _
      · exact blamesPayload_error ⟨rfl, rfl⟩
    · exact blamesPayload_ok _
  exact blamesPayload_foldlM
    (fun _ r => (blamesPayload_annotations r).bind fun _ => blamesPayload_foldlM hentry _ _) _ _

end PathChange

namespace Ingresses

open Plan

lemma blamesPayload_object (site : Site) (index : Nat) (e : IngressEntry)
    (annotations : StringMap) : BlamesPayload (e.object site index annotations) := by
  have htype : ∀ own default regex, BlamesPayload (pathType own default regex) := by
    intro own default regex
    rw [pathType]
    repeat' split
    all_goals first | exact blamesPayload_ok _ | exact blamesPayload_error ⟨rfl, rfl⟩
  have hpath : ∀ regex r, BlamesPayload (e.pathOf site regex r) :=
    fun _ _ => (htype _ _ _).bind fun _ => blamesPayload_ok _
  have hpaths : ∀ regex, BlamesPayload (e.hostPaths site regex) :=
    fun regex => blamesPayload_foldlM
      (fun _ r => (hpath regex r).bind fun _ => blamesPayload_ok _) _ _
  exact (hpaths _).bind fun _ => blamesPayload_ok _

lemma disciplined_objects {asks : Nested → Prop} (site : Site) (index : Nat)
    (entries : List (Option IngressEntry)) : (objects site index entries).Disciplined asks := by
  induction entries generalizing index with
  | nil => trivial
  | cons e? rest ih =>
      cases e? with
      | none => exact ⟨rfl, rfl⟩
      | some e =>
          have hbuild : (e.build site index).Disciplined asks :=
            (disciplined_ofExcept (PathChange.blamesPayload_implied _).map).bind fun _ =>
              (disciplined_warnings _).bind fun _ =>
                disciplined_ofExcept (blamesPayload_object _ _ _ _)
          rw [objects]
          split
          · exact ⟨rfl, rfl⟩
          · exact hbuild.bind fun _ => (ih _).bind fun _ => disciplined_pure _

end Ingresses

namespace Containers

open Plan

variable {asks : Nested → Prop} {site : Site}

lemma disciplined_decorate {container : Container} {traits : Traits} {barring : List TraitKind}
    {isInit : Bool} (h : traits.isEmpty = false → asks ⟨traits, container.name, barring⟩) :
    (decorate container traits barring isInit).Disciplined asks := by
  rw [decorate]
  split
  · trivial
  · rename_i hgiven
    refine (disciplined_dispatch (h (Bool.not_eq_true _ ▸ hgiven))).bind fun c => ?_
    split
    · exact Disciplined.bind (p := Plan.warning _) trivial fun _ => disciplined_pure _
    · exact disciplined_pure _

lemma disciplined_inits {entries : List (InitEntry Traits)} {index : Nat} {before : Contribution}
    (h : ∀ e ∈ entries.zipIdx index, e.1.traits.isEmpty = false → asks (initRequest site e)) :
    (inits site index before entries).Disciplined asks := by
  induction entries generalizing index before with
  | nil => trivial
  | cons e rest ih =>
      rw [List.zipIdx_cons, List.forall_mem_cons] at h
      rw [inits]
      dsimp only
      split
      · exact ⟨rfl, rfl⟩
      · exact (disciplined_decorate h.1).bind fun _ => ih h.2

lemma blamesPayload_checkSidecars (site : Site) (index : Nat)
    (entries : List (SidecarEntry Traits)) : BlamesPayload (checkSidecars site index entries) := by
  induction entries generalizing index with
  | nil => exact blamesPayload_ok ()
  | cons e rest ih =>
      rw [checkSidecars]
      split
      · exact blamesPayload_error ⟨rfl, rfl⟩
      · split
        · exact blamesPayload_error ⟨rfl, rfl⟩
        · exact ih _

lemma disciplined_sidecars {entries : List (SidecarEntry Traits)} {index : Nat}
    {before : Contribution}
    (h : ∀ e ∈ entries.zipIdx index, e.1.traits.isEmpty = false → asks (sidecarRequest site e)) :
    (sidecars site index before entries).Disciplined asks := by
  induction entries generalizing index before with
  | nil => trivial
  | cons e rest ih =>
      rw [List.zipIdx_cons, List.forall_mem_cons] at h
      rw [sidecars]
      exact (disciplined_decorate h.1).bind fun _ => ih h.2

end Containers

/-! ## Levels -/

namespace Dispatcher

variable {d : Dispatcher} {l : Level} {answer : Nested → Run Contribution}

/-- A failure of a processor is that of its call, wrapped with the processor's name. -/
lemma failure_runProcessor {p : Processor} {failure : Failure}
    (h : (d.runProcessor answer l p).outcome = .error failure) :
    ∃ call, d.call? l p = some call ∧ ∃ source, failure = .inTrait call.processor.name source ∧
      (call.plan.run answer).outcome = .error source := by
  cases hcall : d.call? l p with
  | none =>
      obtain ⟨warnings, hrun⟩ := runProcessor_of_not_called hcall
      rw [hrun] at h
      cases h
  | some call =>
      have hprocessor : call.processor = p := by
        obtain ⟨-, data, -, rfl⟩ := call?_eq_some.1 hcall
        rfl
      rw [runProcessor_of_call? hcall, framed, mapError_eq_error] at h
      obtain ⟨source, hsource, hwrapped⟩ := h
      exact ⟨call, rfl, source, by rw [hprocessor, hwrapped], hsource⟩

/-- A failure of some processors is that of a call. -/
lemma failure_runProcessors {ps : List Processor} {failure : Failure}
    (h : (d.runProcessors answer l ps).outcome = .error failure) :
    ∃ call ∈ d.callsOf answer l ps, ∃ source, failure = .inTrait call.processor.name source ∧
      (call.plan.run answer).outcome = .error source := by
  induction ps with
  | nil => cases h
  | cons p rest ih =>
      rw [runProcessors_cons, Run.bind] at h
      rw [callsOf]
      cases houtcome : (d.runProcessor answer l p).outcome with
      | ok c? =>
          simp only [houtcome, map_eq_error] at h
          obtain ⟨call, hcall, hsource⟩ := ih h
          exact ⟨call, List.mem_append_right _ hcall, hsource⟩
      | error own =>
          rw [houtcome] at h
          obtain rfl := Except.error.inj h
          obtain ⟨call, hcall, hsource⟩ := failure_runProcessor houtcome
          exact ⟨call, List.mem_append_left _ (Option.mem_toList.2 hcall), hsource⟩

/-- What the built-in processors ask for at a level: the traits of an entry, if they say something
and the entry's kind is not barred. -/
inductive Asks (d : Dispatcher) (l : Level) : Nested → Prop where
  | init {e : InitEntry Traits × Nat} (entry : e ∈ l.traits.init.zipIdx)
      (allowed : l.barred.contains .init = false) (given : e.1.traits.isEmpty = false) :
      Asks d l (Containers.initRequest (d.site l) e)
  | sidecar {e : SidecarEntry Traits × Nat} (entry : e ∈ l.traits.sidecar.zipIdx)
      (allowed : l.barred.contains .sidecar = false) (given : e.1.traits.isEmpty = false) :
      Asks d l (Containers.sidecarRequest (d.site l) e)

lemma disciplined_builtinProcessor {k : TraitKind} {data : TraitData}
    (hdata : l.traits.data? k = some data) (hallowed : l.barred.contains k = false) :
    ((builtinProcessor k).process (d.context l data)).Disciplined (d.Asks l) := by
  cases k
  case resources =>
    obtain ⟨e, -, rfl⟩ := Option.map_eq_some_iff.1 hdata
    exact Plan.disciplined_ofExcept (Resources.blamesPayload_contribution _ _)
  all_goals
    obtain ⟨entries, hentries, rfl⟩ := Option.map_eq_some_iff.1 hdata
    obtain rfl := eq_of_entries?_eq_some hentries
  case storage =>
    exact Plan.disciplined_ofExcept
      ((Storage.blamesPayload_parts _ _ _ _).bind fun _ => blamesPayload_ok _).map
  case secret => trivial
  case envFrom =>
    exact Plan.disciplined_ofExcept
      ((blamesPayload_mapM Environment.blamesPayload_source _).bind fun _ => blamesPayload_ok _).map
  case envs =>
    exact Plan.disciplined_ofExcept
      ((blamesPayload_mapM Environment.blamesPayload_toVariable _).bind
        fun _ => blamesPayload_ok _).map
  case probes =>
    exact Plan.disciplined_ofExcept
      (blamesPayload_foldlM (Probes.blamesPayload_addProbe _) _ _).map
  case rbac =>
    exact Plan.disciplined_ofExcept
      ((Access.blamesPayload_objects _ _ _).bind fun _ => blamesPayload_ok _).map
  case ingress => exact (Ingresses.disciplined_objects _ _ _).bind fun _ => Plan.disciplined_pure _
  case init =>
    exact (Containers.disciplined_inits fun e he hgiven => .init he hallowed hgiven).bind
      fun _ => Plan.disciplined_pure _
  case sidecar =>
    exact (Plan.disciplined_ofExcept (Containers.blamesPayload_checkSidecars _ _ _)).bind fun _ =>
      (Containers.disciplined_sidecars fun e he hgiven => .sidecar he hallowed hgiven).bind
        fun _ => Plan.disciplined_pure _

lemma disciplined_of_mem_calls (hbuiltin : d.registry.IsBuiltin) {call : Call}
    (h : call ∈ d.calls answer l) : call.plan.Disciplined (d.Asks l) := by
  obtain ⟨p, hp, hcall⟩ := exists_of_mem_callsOf h
  obtain ⟨hallowed, data, hdata, rfl⟩ := call?_eq_some.1 hcall
  rw [Call.plan, hbuiltin p hp]
  exact disciplined_builtinProcessor hdata hallowed

lemma asks_of_mem_requests (hbuiltin : d.registry.IsBuiltin) {request : Nested}
    (h : request ∈ d.requests answer l) : d.Asks l request := by
  obtain ⟨call, hcall, hrequest⟩ := List.mem_flatMap.1 h
  exact (disciplined_of_mem_calls hbuiltin hcall).asks_of_mem hrequest

/-- A failure of a level is one for what the payload asks for there, or that of a level that it
asks for. -/
lemma failure_processLevel (hbuiltin : d.registry.IsBuiltin) {failure : Failure}
    (h : (d.processLevel answer l).outcome = .error failure) :
    failure.category = .domainViolation ∨
      ∃ request ∈ d.requests answer l, ∃ source,
        failure.root = source.root ∧ failure.category = source.category ∧
          (answer request).outcome = .error source := by
  rw [processLevel, map_eq_error] at h
  obtain ⟨call, hcall, source, rfl, hsource⟩ := failure_runProcessors h
  rcases (disciplined_of_mem_calls hbuiltin hcall).failure_run hsource with
    hown | ⟨request, hrequest, hnested⟩
  · exact .inl hown.2
  · exact .inr ⟨request, List.mem_flatMap.2 ⟨call, hcall, hrequest⟩, source, rfl, rfl, hnested⟩

/-- **What a dispatch fails for.**  With the built-in processors it is what the payload asks for,
or there is no room for a level that is asked for at a level that is visited. -/
theorem failure_dispatch (hbuiltin : d.registry.IsBuiltin) {failure : Failure}
    (h : (d.dispatch l).outcome = .error failure) :
    failure.category = .domainViolation ∨
      failure.root = .recursionLimit d.settings.maxDepth ∧
        ∃ chain l', d.Visits l chain l' ∧ d.settings.maxDepth < l'.depth + 1 ∧
          ∃ request, d.Asks l' request := by
  induction l using level_induction d.settings.maxDepth generalizing failure with
  | step l ih =>
    rw [dispatch_eq] at h
    rcases failure_processLevel hbuiltin h with
      hown | ⟨request, hrequest, source, hroot, hcategory, hsource⟩
    · exact .inl hown
    rw [hroot, hcategory]
    by_cases hdepth : d.settings.maxDepth < l.depth + 1
    · rw [answerAt_of_exhausted hdepth] at hsource
      obtain rfl := Except.error.inj hsource
      exact .inr ⟨rfl, [], l, .here, hdepth, request, asks_of_mem_requests hbuiltin hrequest⟩
    · have hdepth : l.depth + 1 ≤ d.settings.maxDepth := Nat.not_lt.1 hdepth
      rw [answerAt_of_room hdepth] at hsource
      refine (ih request hdepth hsource).imp_right ?_
      rintro ⟨hlimit, chain, l', hvisits, hasked⟩
      exact ⟨hlimit, request :: chain, l', .deeper hrequest hdepth hvisits, hasked⟩

end Dispatcher

end WorkloadTraits
