import WorkloadTraits.Proofs.Containers
import WorkloadTraits.Proofs.Dispatch.Comparison
import WorkloadTraits.Proofs.Placement.Warnings
import WorkloadTraits.Proofs.Secrets.Decoding

/-!
# Secret data go nowhere else

Two payloads that differ in the data of their secrets alone are applied alike: they fail alike, or
make the same of the workload, with the same warnings, and with objects that differ in the data of
secrets alone (`Engine.secret_data_confined`).  Of a payload that is refused this holds as long as
it is a value and its data are texts.  Otherwise the failure may show something of the data, because
it names what was found and where (`Engine.secret_data_in_refusal`).

Neither of the two is compared with the other.  Both are compared with their redacted form, which
they have in common: the run of a redacted level is the run of the level with its contribution
redacted, whatever warnings are heard (`Dispatcher.dispatchWithin_redacted`).
-/

namespace WorkloadTraits

/-! ## Levels -/

/-- The request for redacted traits. -/
def Nested.redacted (request : Nested) : Nested := request.mapTraits .redact

/-- The level with redacted traits. -/
def Level.redacted (l : Level) : Level := { l with traits := l.traits.redact }

namespace Dispatcher

variable {heard : Warning → Bool} {d : Dispatcher} {l : Level}
variable {answer answer' : Nested → Run Contribution} {payload : Option Json}

lemma below_redacted (l : Level) (request : Nested) :
    below l.redacted request.redacted = (below l request).redacted := rfl

section Level

variable (hnested : ∀ request,
  (nestedRun answer request).Mapped heard .redacted (nestedRun answer' request.redacted))
include hnested

/-- The plan of a processor runs alike for redacted data, if nested traits do. -/
lemma plan_redacted {k : TraitKind} {data : TraitData} (hdata : l.traits.data? k = some data) :
    (((builtinProcessor k).process (d.context l data)).run answer).Mapped heard
      (Option.map .redacted) (((builtinProcessor k).process
        ((d.withPayload payload).context l.redacted data.redacted)).run answer') := by
  have hothers : k ≠ .init → k ≠ .secret → k ≠ .sidecar → data.redacted = data →
      (((builtinProcessor k).process (d.context l data)).run answer).Mapped heard
        (Option.map .redacted) (((builtinProcessor k).process
          ((d.withPayload payload).context l.redacted data.redacted)).run answer') := by
    intro hinit hsecret hsidecar hkept
    have hplan : (builtinProcessor k).process ((d.withPayload payload).context l.redacted data) =
        (builtinProcessor k).process (d.context l data) :=
      process_withPayload hinit hsidecar rfl rfl
    rw [hkept, hplan, (asksNothing_builtinProcessor hinit hsidecar _).run_eq answer' answer]
    refine Run.mapped_self fun c? hok => ?_
    have hmade : (((builtinProcessor k).process (d.context l data)).eval
        fun request => (answer request).outcome).map (·.getD .empty) =
          kindContribution (d.context l data).toSite (fun request => (answer request).outcome)
            l.traits k := process_eval hdata
    rw [← Plan.run_outcome, hok] at hmade
    cases c? with
    | none => rfl
    | some c =>
        exact congrArg some (redacted_kindContribution hinit hsecret hsidecar hmade.symm)
  cases k
  case init =>
    obtain ⟨entries, hentries, rfl⟩ := Option.map_eq_some_iff.1 hdata
    exact Containers.initPlan_mapped Companion.key_redacted fun _ _ => hnested _
  case sidecar =>
    obtain ⟨entries, hentries, rfl⟩ := Option.map_eq_some_iff.1 hdata
    exact Containers.sidecarPlan_mapped Companion.key_redacted
      Traits.isEmpty_sidecar_redact fun _ _ => hnested _
  case secret =>
    obtain ⟨entries, hentries, rfl⟩ := Option.map_eq_some_iff.1 hdata
    refine ⟨?_, rfl⟩
    exact congrArg (fun c => Except.ok (some c)) (Secret.contribution_redacted (d.site l) entries)
  all_goals
    obtain ⟨entries, -, rfl⟩ := Option.map_eq_some_iff.1 hdata
    exact hothers (by decide) (by decide) (by decide) rfl

/-- A processor runs alike for a level and for its redacted form, if nested traits do. -/
lemma runProcessor_redacted (k : TraitKind) :
    (d.runProcessor answer l (builtinProcessor k)).Mapped heard (Option.map .redacted)
      ((d.withPayload payload).runProcessor answer' l.redacted (builtinProcessor k)) := by
  have hbarred : l.redacted.barred = l.barred := rfl
  have htraits : l.redacted.traits = l.traits.redact := rfl
  rw [runProcessor, runProcessor, builtinProcessor_kind, hbarred, htraits, Traits.data?_redact]
  cases hdata : l.traits.data? k with
  | none => exact .ok _ [] none
  | some data =>
      rw [Option.map_some]
      dsimp only
      split
      · exact .ok _ _ none
      · exact framed_mapped (plan_redacted hnested hdata) _ _ _ _

/-- So does the whole level. -/
lemma processLevel_redacted (hbuiltin : d.registry.IsBuiltin) :
    (d.processLevel answer l).Mapped heard .redacted
      ((d.withPayload payload).processLevel answer' l.redacted) :=
  processLevel_mapped hbuiltin Companion.key_redacted (runProcessor_redacted hnested)

end Level

/-- **The run of a redacted level** is that of the level, with its contribution redacted. -/
theorem dispatchWithin_redacted (hbuiltin : d.registry.IsBuiltin) (room : Nat) (l : Level) :
    (d.dispatchWithin room l).Mapped heard .redacted
      ((d.withPayload payload).dispatchWithin room l.redacted) := by
  have hnested : ∀ answer answer' : Nested → Run Contribution,
      (∀ request, (answer request).Mapped heard .redacted (answer' request.redacted)) →
        ∀ request,
          (nestedRun answer request).Mapped heard .redacted
            (nestedRun answer' request.redacted) := by
    intro answer answer' hanswer request
    have hempty : request.redacted.traits.isEmpty = request.traits.isEmpty :=
      request.traits.isEmpty_redact
    rw [nestedRun, nestedRun, hempty]
    split
    · exact .ok _ [] Contribution.empty
    · exact hanswer request
  induction room generalizing l with
  | zero => exact processLevel_redacted (hnested _ _ fun _ => ⟨rfl, rfl⟩) hbuiltin
  | succ room ih =>
      refine processLevel_redacted (hnested _ _ fun request => ?_) hbuiltin
      rw [below_redacted]
      exact ih (below l request)

end Dispatcher

/-! ## Applications -/

namespace Engine

variable {e : Engine} {c c' : Component} {w : Workload} {t t' : Traits} {payload : Option Json}

/-- A component has the redacted traits of its payload, if it has any. -/
lemma map_redact_readTraits (c : Component) :
    c.readTraits.map (·.map Traits.redact) =
      (((Component.decodePayload c.traits).map (·.map Traits.redact)).mapError
        (.malformedTraits c.name)).map (·.filter (!·.isEmpty)) := by
  rw [Component.readTraits]
  cases Component.decodePayload c.traits with
  | error refusal => rfl
  | ok t? =>
      cases t? with
      | none => rfl
      | some t =>
          simp only [Except.map, Except.mapError, Option.map_some, Option.filter_some,
            Traits.isEmpty_redact]
          split <;> rfl

/-- Payloads that differ in the data of secrets alone are decoded to traits that do. -/
lemma map_redact_traits
    (hpayload : Component.SameButSecretData c.traits payload) :
    (traits (c.withPayload payload)).map (·.map Traits.redact) =
      (traits c).map (·.map Traits.redact) := by
  have hname : (c.withPayload payload).name = c.name := rfl
  have hgiven : (c.withPayload payload).traits = payload := rfl
  rw [traits, traits, hname]
  split
  · rfl
  · rw [map_redact_readTraits, map_redact_readTraits, hgiven, hpayload.decodePayload_eq, hname]

/-- Traits that differ in the data of secrets alone are processed alike: both are processed like
the redacted traits. -/
lemma contribute_of_redact_eq (hbuiltin : e.registry.IsBuiltin) (c : Component)
    (payload : Option Json) (w : Workload) (h : t'.redact = t.redact) :
    (e.contribute (c.withPayload payload) w t').outcome.map Contribution.redacted =
        (e.contribute c w t).outcome.map Contribution.redacted ∧
      (e.contribute (c.withPayload payload) w t').warnings = (e.contribute c w t).warnings := by
  have hredacted : (e.contribute c w t).Mapped (fun _ => true) .redacted
      (e.contribute (c.withPayload payload) w t.redact) :=
    Dispatcher.dispatchWithin_redacted (d := e.dispatcher c w) hbuiltin _ _
  have hredacted' : (e.contribute (c.withPayload payload) w t').Mapped (fun _ => true) .redacted
      (e.contribute (c.withPayload payload) w t'.redact) :=
    Dispatcher.dispatchWithin_redacted (d := e.dispatcher (c.withPayload payload) w) hbuiltin _ _
  rw [h] at hredacted'
  exact ⟨hredacted'.outcome.symm.trans hredacted.outcome,
    hredacted'.warnings_eq.symm.trans hredacted.warnings_eq⟩

/-- What is processed alike is applied alike. -/
lemma apply_of_contribute_redacted (hname : c'.name = c.name) (htraits : traits c = .ok (some t))
    (htraits' : traits c' = .ok (some t'))
    (houtcome : (e.contribute c' w t').outcome.map Contribution.redacted =
      (e.contribute c w t).outcome.map Contribution.redacted)
    (hwarnings : (e.contribute c' w t').warnings = (e.contribute c w t).warnings) :
    (e.apply c' w).workload = (e.apply c w).workload ∧
      (e.apply c' w).warnings = (e.apply c w).warnings ∧
      (e.apply c' w).outcome.map (·.map Companion.redacted) =
        (e.apply c w).outcome.map (·.map Companion.redacted) := by
  rw [warnings_apply w htraits, warnings_apply w htraits', hwarnings]
  simp only [apply, htraits, htraits', hname]
  obtain ⟨failure, hfailed', hfailed⟩ | ⟨contribution', contribution, hrun', hrun, hsame⟩ :=
    map_eq_map houtcome
  · rw [hfailed, hfailed']
    exact ⟨rfl, rfl, rfl⟩
  · rw [hrun, hrun']
    obtain ⟨hworkload, hobjects, hplaced⟩ :=
      Workload.place_of_redacted_eq hsame w e.settings c.name
    exact ⟨hworkload, congrArg _ hplaced, hobjects⟩

/-- Outcomes that are the same without the data of secrets are the same failure, or objects that
differ in the data of secrets alone. -/
lemma sameButData_of_map_eq {x x' : Except Failure (List Companion)}
    (h : x'.map (·.map Companion.redacted) = x.map (·.map Companion.redacted)) :
    (∃ failure, x = .error failure ∧ x' = .error failure) ∨
      ∃ objects objects', x = .ok objects ∧ x' = .ok objects' ∧
        List.Forall₂ Companion.SameButData objects objects' := by
  obtain ⟨failure, hfailed', hfailed⟩ | ⟨objects', objects, hok', hok, hobjects⟩ := map_eq_map h
  · exact .inl ⟨failure, hfailed, hfailed'⟩
  · refine .inr ⟨objects, objects', hok, hok', ?_⟩
    have hredacted : List.Forall₂ (· = ·) (objects.map Companion.redacted)
        (objects'.map Companion.redacted) := by
      rw [hobjects]
      exact List.forall₂_same.2 fun _ _ => rfl
    exact (List.forall₂_map_left_iff.1 (List.forall₂_map_right_iff.1 hredacted)).imp
      fun _ _ => Companion.sameButData_of_redacted_eq

/-- **Secret data go nowhere else.**  With built-in processors, two payloads that are the same but
for the contents of the data of their secrets, at every depth, are applied alike.  The workload and
all warnings are the same, and so is the failure, if there is one; otherwise there are equally many
objects, and these are the same place by place, except for the data of secrets. -/
theorem secret_data_confined (hbuiltin : e.registry.IsBuiltin)
    (hpayload : Component.SameButSecretData c.traits payload) (w : Workload) :
    (e.apply (c.withPayload payload) w).workload = (e.apply c w).workload ∧
      (e.apply (c.withPayload payload) w).warnings = (e.apply c w).warnings ∧
      ((∃ failure, (e.apply c w).outcome = .error failure ∧
          (e.apply (c.withPayload payload) w).outcome = .error failure) ∨
        ∃ objects objects', (e.apply c w).outcome = .ok objects ∧
          (e.apply (c.withPayload payload) w).outcome = .ok objects' ∧
          List.Forall₂ Companion.SameButData objects objects') := by
  obtain ⟨failure, hrefused', hrefused⟩ | ⟨t'?, t?, htraits', htraits, hsame⟩ :=
    map_eq_map (map_redact_traits hpayload)
  · simp only [Application.warnings, apply, hrefused, hrefused', true_and]
    exact .inl ⟨failure, rfl, rfl⟩
  cases t? with
  | none =>
      have hnone := Option.map_eq_none_iff.1 hsame
      simp only [Application.warnings, apply, htraits, htraits', hnone, true_and]
      exact .inr ⟨[], [], rfl, rfl, .nil⟩
  | some t =>
      obtain ⟨t', rfl, hredact⟩ := Option.map_eq_some_iff.1 hsame
      obtain ⟨houtcome, hwarnings⟩ := contribute_of_redact_eq hbuiltin c payload w hredact
      have hname : (c.withPayload payload).name = c.name := rfl
      obtain ⟨hworkload, hwarned, hobjects⟩ :=
        apply_of_contribute_redacted hname htraits htraits' houtcome hwarnings
      exact ⟨hworkload, hwarned, sameButData_of_map_eq hobjects⟩

/-- Traits with secrets at three depths, one of them with some data. -/
def secretiveTraits (data : StringMap) : Traits where
  secret := [{ data }, {}]
  init := [{
    name := "setup"
    properties := { image := "busybox" }
    traits := {
      secret := [{ data }]
      sidecar := [{ name := "proxy", image := "envoy", traits := { secret := [{ data }] } }] } }]

/-- A component with a password. -/
def secretiveComponent : Component :=
  Component.withTraits { name := "web" } (secretiveTraits (.ofList [("password", "hunter2")]))

/-- A payload for it with two tokens in place of each password. -/
def otherPayload : Option Json :=
  some (secretiveTraits (.ofList [("token", "a"), ("refresh", "b")])).toJson

/-- A payload with a password, and with a number where a list of volumes belongs. -/
def misfitPayload (password : Json) : Json :=
  .object [("secret", .array [.object [("data", .object [("password", password)])]]),
    ("storage", .int 5)]

/-- A component with the payload. -/
def misfitComponent (payload : Json) : Component := { name := "web", traits := some payload }

/-- Passwords that are texts make no difference to such a payload. -/
lemma sameButSecretData_misfitPayload (password password' : String) :
    Component.SameButSecretData (some (misfitPayload (.string password)))
      (some (misfitPayload (.string password'))) := by
  have htexts : ∀ text : String, ∀ e ∈ [("password", Json.string text)], ∃ s, e.2 = .string s :=
    fun text e he => ⟨text, by rw [List.mem_singleton.1 he]⟩
  have hdata : Json.Fieldwise SecretEntry.schema.names (Json.onlyAt "data" Json.TextsOrSame)
      (.object [("data", .object [("password", .string password)])])
      (.object [("data", .object [("password", .string password')])]) :=
    .object (.cons ⟨rfl, .texts (htexts password) (htexts password')⟩ .nil)
  have hsecret := Json.Itemwise.array (.cons hdata .nil)
  exact .value (n := 1) (.object (.cons ⟨rfl, hsecret⟩ (.cons ⟨rfl, rfl⟩ .nil)))

theorem secret_data_confined_deep :
    builtin.registry.IsBuiltin ∧
      Component.SameButSecretData secretiveComponent.traits otherPayload ∧
      (builtin.apply (secretiveComponent.withPayload otherPayload) plainWorkload).workload =
        (builtin.apply secretiveComponent plainWorkload).workload ∧
      (builtin.apply (secretiveComponent.withPayload otherPayload) plainWorkload).warnings =
        (builtin.apply secretiveComponent plainWorkload).warnings ∧
      (∃ objects objects', (builtin.apply secretiveComponent plainWorkload).outcome = .ok objects ∧
        (builtin.apply (secretiveComponent.withPayload otherPayload) plainWorkload).outcome =
          .ok objects' ∧
        List.Forall₂ Companion.SameButData objects objects' ∧ objects.length = 4 ∧
        objects ≠ objects') ∧
      ∃ failure,
        (builtin.apply (misfitComponent (misfitPayload (.string "a"))) plainWorkload).outcome =
          .error failure ∧
        (builtin.apply (misfitComponent (misfitPayload (.string "abc"))) plainWorkload).outcome =
          .error failure := by
  have hpayload : Component.SameButSecretData secretiveComponent.traits otherPayload :=
    .decoded rfl rfl rfl
  obtain ⟨hworkload, hwarnings, ⟨failure, hfailed, -⟩ | ⟨objects, objects', hok, hok', hsame⟩⟩ :=
    secret_data_confined (e := builtin) Registry.isBuiltin_builtin hpayload plainWorkload
  · cases hfailed
  have hobjects : (builtin.apply secretiveComponent plainWorkload).outcome = .ok _ := rfl
  have hobjects' :
      (builtin.apply (secretiveComponent.withPayload otherPayload) plainWorkload).outcome =
        .ok _ := rfl
  have hdata : objects.length = 4 ∧ objects ≠ objects' := by
    rw [← Except.ok.inj (hobjects.symm.trans hok), ← Except.ok.inj (hobjects'.symm.trans hok')]
    decide +kernel
  obtain ⟨-, -, hrefused | ⟨_, _, haccepted, -⟩⟩ :=
    secret_data_confined (e := builtin) (c := misfitComponent (misfitPayload (.string "a")))
      Registry.isBuiltin_builtin (sameButSecretData_misfitPayload "a" "abc") plainWorkload
  · exact ⟨Registry.isBuiltin_builtin, hpayload, hworkload, hwarnings,
      ⟨objects, objects', hok, hok', hsame, hdata⟩, hrefused⟩
  · cases haccepted

/-- The failure of a component in whose payload a number is out of place. -/
def numberRefused (n : Int) (expected : Schema.Expected) (position : Json.Position) : Failure :=
  .malformedTraits "web" ⟨.wrongType (.number (.integer n)) expected, position⟩

/-- A password that is a number is named by the failure.  In a text, the column of another misfit
tells how long the password is. -/
theorem secret_data_in_refusal :
    (builtin.apply (misfitComponent (misfitPayload (.int 12345))) plainWorkload).outcome =
        .error (numberRefused 12345 .string {}) ∧
      (builtin.apply (misfitComponent (misfitPayload (.int 67890))) plainWorkload).outcome =
        .error (numberRefused 67890 .string {}) ∧
      numberRefused 12345 .string {} ≠ numberRefused 67890 .string {} ∧
      (numberRefused 12345 .string {}).display =
        "failed to parse traits for component web: invalid type: integer \x6012345\x60, " ++
          "expected a string" ∧
      (builtin.apply (misfitComponent (.string (misfitPayload (.string "a")).compact))
        plainWorkload).outcome = .error (numberRefused 5 .sequence ⟨1, 49⟩) ∧
      (builtin.apply (misfitComponent (.string (misfitPayload (.string "abc")).compact))
        plainWorkload).outcome = .error (numberRefused 5 .sequence ⟨1, 51⟩) ∧
      numberRefused 5 .sequence ⟨1, 49⟩ ≠ numberRefused 5 .sequence ⟨1, 51⟩ ∧
      (numberRefused 5 .sequence ⟨1, 49⟩).display =
        "failed to parse traits for component web: invalid type: integer \x605\x60, " ++
          "expected a sequence at line 1 column 49" :=
  ⟨rfl, rfl, by decide, rfl, rfl, rfl, by decide, rfl⟩

end Engine

end WorkloadTraits
