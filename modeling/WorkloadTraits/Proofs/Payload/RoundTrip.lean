import WorkloadTraits.Component
import WorkloadTraits.Proofs.Schema.Restoring

/-!
# Written payloads are read back

A component that is given typed traits keeps them as a JSON value, and whoever needs the traits
decodes that value.  The main result is that nothing is lost on the way, whatever the traits are
(`Component.readTraits_withTraits`).

Each kind of record has one lemma, which goes through the fields of its schema and names for each
the way in which it is written: always, or only when it says something.  The second way needs
the default that reading falls back on to be the very value that is not written.  A payload inside a
payload is decoded by another decoder under a limit that is lower by three, so the last step is an
induction on the payload (`Traits.restores_toJson`).
-/

namespace WorkloadTraits

open Schema

/-! ## Records -/

section

variable (limit : Nat)

lemma StorageEntry.restores_toJson (e : StorageEntry) :
    Restores StorageEntry.schema.decoder limit e.toJson e :=
  Record.restores_ofGiven
    [.always .text, .always .text, .always .text, .text rfl, .always .boolean, .text rfl,
      .always .boolean, .text rfl, .text rfl, .text rfl]
    rfl rfl (by decide) (by simp) (by simp)

lemma SecretEntry.restores_toJson (e : SecretEntry) :
    Restores SecretEntry.schema.decoder limit e.toJson e :=
  Record.restores_ofGiven [.always .map] rfl rfl (by decide) (by simp) (by simp)

lemma EnvSourceEntry.restores_toJson (e : EnvSourceEntry) :
    Restores EnvSourceEntry.schema.decoder limit e.toJson e :=
  Record.restores_ofGiven [.always .text, .always .text] rfl rfl (by decide) (by simp) (by simp)

lemma KeySelector.restores_toJson (e : KeySelector) :
    Restores KeySelector.schema.decoder limit e.toJson e :=
  Record.restores_ofGiven [.always .text, .always .text] rfl rfl (by decide) (by simp) (by simp)

lemma ValueSource.restores_toJson (e : ValueSource) :
    Restores ValueSource.schema.decoder limit e.toJson e :=
  Record.restores_ofGiven
    [.option rfl nofun fun _ => .text, .option rfl nofun (KeySelector.restores_toJson _),
      .option rfl nofun (KeySelector.restores_toJson _), .option rfl nofun fun _ => .text]
    rfl rfl (by decide) (by simp) (by simp)

lemma EnvEntry.restores_toJson (e : EnvEntry) :
    Restores EnvEntry.schema.decoder limit e.toJson e :=
  Record.restores_ofGiven [.always .text, .always (ValueSource.restores_toJson _ _)] rfl rfl
    (by decide) (by simp) (by simp)

lemma ExecCheck.restores_toJson (e : ExecCheck) :
    Restores ExecCheck.schema.decoder limit e.toJson e :=
  Record.restores_ofGiven [.always (.list fun _ _ => .text)] rfl rfl (by decide) (by simp)
    (by simp)

lemma HttpCheck.restores_toJson (e : HttpCheck) :
    Restores HttpCheck.schema.decoder limit e.toJson e :=
  Record.restores_ofGiven [.always .text, .always .int32, .text rfl, .text rfl] rfl rfl
    (by decide) (by simp) (by simp)

lemma TcpCheck.restores_toJson (e : TcpCheck) :
    Restores TcpCheck.schema.decoder limit e.toJson e :=
  Record.restores_ofGiven [.always .int32, .text rfl] rfl rfl (by decide) (by simp) (by simp)

lemma ProbeEntry.restores_toJson (e : ProbeEntry) :
    Restores ProbeEntry.schema.decoder limit e.toJson e :=
  Record.restores_ofGiven
    [.always .text, .always .int32, .always .int32, .always .int32, .always .int32,
      .always .int32, .option rfl nofun (ExecCheck.restores_toJson _),
      .option rfl nofun (HttpCheck.restores_toJson _),
      .option rfl nofun (TcpCheck.restores_toJson _)]
    rfl rfl (by decide) (by simp) (by simp)

lemma ResourceEntry.restores_toJson (e : ResourceEntry) :
    Restores ResourceEntry.schema.decoder limit e.toJson e :=
  Record.restores_ofGiven [.text rfl, .text rfl, .text rfl] rfl rfl (by decide) (by simp)
    (by simp)

lemma AccessRule.restores_toJson (e : AccessRule) :
    Restores AccessRule.schema.decoder limit e.toJson e :=
  Record.restores_ofGiven
    [.items rfl fun _ _ => .text, .items rfl fun _ _ => .text, .items rfl fun _ _ => .text,
      .items rfl fun _ _ => .text, .always (.list fun _ _ => .text)]
    rfl rfl (by decide) (by simp) (by simp)

lemma AccessPolicy.restores_toJson (e : AccessPolicy) :
    Restores AccessPolicy.schema.decoder limit e.toJson e :=
  Record.restores_ofGiven
    [.text rfl, .text rfl, .always .boolean, .text rfl, .text rfl, .entries rfl, .entries rfl,
      .entries rfl, .entries rfl, .always (.list fun _ _ => AccessRule.restores_toJson _ _),
      .option rfl nofun fun _ => .boolean]
    rfl rfl (by decide) (by simp) (by simp)

lemma RouteBackend.restores_toJson (e : RouteBackend) :
    Restores RouteBackend.schema.decoder limit e.toJson e :=
  Record.restores_ofGiven [.always .text, .always .int32] rfl rfl (by decide) (by simp) (by simp)

lemma PathChange.restores_toJson (e : PathChange) :
    Restores PathChange.schema.decoder limit e.toJson e :=
  Record.restores_ofGiven [.always .text, .text rfl, .text rfl] rfl rfl (by decide) (by simp)
    (by simp)

lemma Route.restores_toJson (e : Route) : Restores Route.schema.decoder limit e.toJson e :=
  Record.restores_ofGiven
    [.text rfl, .text rfl, .text rfl, .always (RouteBackend.restores_toJson _ _),
      .option rfl nofun (PathChange.restores_toJson _)]
    rfl rfl (by decide) (by simp) (by simp)

lemma Certificate.restores_toJson (e : Certificate) :
    Restores Certificate.schema.decoder limit e.toJson e :=
  Record.restores_ofGiven [.always .text, .items rfl fun _ _ => .text] rfl rfl (by decide)
    (by simp) (by simp)

lemma IngressEntry.restores_toJson (e : IngressEntry) :
    Restores IngressEntry.schema.decoder limit e.toJson e :=
  Record.restores_ofGiven
    [.text rfl, .text rfl, .items rfl fun _ _ => .text, .entries rfl, .entries rfl, .text rfl,
      .text rfl, .items rfl fun _ _ => Certificate.restores_toJson _ _,
      .always (.list fun _ _ => Route.restores_toJson _ _)]
    rfl rfl (by decide) (by simp) (by simp)

lemma InitProperties.restores_toJson (e : InitProperties) :
    Restores InitProperties.schema.decoder limit e.toJson e :=
  Record.restores_ofGiven [.always .text, .items rfl fun _ _ => .text, .entries rfl] rfl rfl
    (by decide) (by simp) (by simp)

/-- An init entry as it stands in a written payload. -/
def InitEntry.toJson (e : InitEntry Traits) : Json :=
  .ofGiven [
    ("name", some (.string e.name)), ("properties", some e.properties.toJson),
    ("traits", some e.traits.toJson)]

/-- A sidecar entry as it stands in a written payload. -/
def SidecarEntry.toJson (e : SidecarEntry Traits) : Json :=
  .ofGiven [
    ("name", some (.string e.name)), ("image", some (.string e.image)),
    ("command", Written.items (e.command.map .string)),
    ("args", Written.items (e.args.map .string)), ("env", Written.entries e.env),
    ("traits", some e.traits.toJson)]

lemma InitEntry.restores_toJson {nested : Decoder Traits} {e : InitEntry Traits}
    (h : Restores nested (limit - 1) e.traits.toJson e.traits) :
    Restores (InitEntry.schema {} nested).decoder limit e.toJson e :=
  Record.restores_ofGiven
    [.always .text, .always (InitProperties.restores_toJson _ _), .always h]
    rfl rfl (by simp [InitEntry.schema, optionalField]) (by simp) (by simp)

lemma SidecarEntry.restores_toJson {nested : Decoder Traits} {e : SidecarEntry Traits}
    (h : Restores nested (limit - 1) e.traits.toJson e.traits) :
    Restores (SidecarEntry.schema {} nested).decoder limit e.toJson e :=
  Record.restores_ofGiven
    [.always .text, .always .text, .items rfl fun _ _ => .text, .items rfl fun _ _ => .text,
      .entries rfl, .always h]
    rfl rfl (by simp [SidecarEntry.schema, optionalField]) (by simp) (by simp)

end

/-! ## Payloads -/

namespace Traits

lemma initItems_eq (es : List (InitEntry Traits)) : initItems es = es.map InitEntry.toJson := by
  induction es with
  | nil => rfl
  | cons e rest ih => rw [initItems, ih, List.map_cons, InitEntry.toJson]

lemma sidecarItems_eq (es : List (SidecarEntry Traits)) :
    sidecarItems es = es.map SidecarEntry.toJson := by
  induction es with
  | nil => rfl
  | cons e rest ih => rw [sidecarItems, ih, List.map_cons, SidecarEntry.toJson]

/-- An ingress entry as it stands in a written payload. -/
def ingressJson (e? : Option IngressEntry) : Json :=
  match e? with
  | none => .null
  | some e => e.toJson

/-- A written payload, as a record like the others. -/
lemma toJson_eq (t : Traits) : t.toJson = .ofGiven [
    ("init", Written.items (t.init.map InitEntry.toJson)),
    ("storage", Written.items (t.storage.map StorageEntry.toJson)),
    ("secret", Written.items (t.secret.map SecretEntry.toJson)),
    ("sidecar", Written.items (t.sidecar.map SidecarEntry.toJson)),
    ("envFrom", Written.items (t.envFrom.map EnvSourceEntry.toJson)),
    ("envs", Written.items (t.envs.map EnvEntry.toJson)),
    ("probes", Written.items (t.probes.map ProbeEntry.toJson)),
    ("rbac", Written.items (t.rbac.map AccessPolicy.toJson)),
    ("ingress", Written.items (t.ingress.map ingressJson)),
    ("resources", t.resources.map ResourceEntry.toJson)] := by
  cases t
  rw [toJson, initItems_eq, sidecarItems_eq]
  rfl

/-- The decoder of the payloads inside a payload that is decoded under a limit. -/
def inner : Nat → Decoder Traits
  | limit + 3 => fun _ => decoder limit
  | _ => fun _ r => .error (tooDeep r)

lemma decoder_eq (limit : Nat) : decoder limit = (schema (inner limit)).decoder limit := by
  funext r
  match limit with
  | limit + 3 => rw [decoder]; rfl
  | 0 | 1 | 2 => rfl

lemma one_le_depth_toJson (t : Traits) : 1 ≤ t.toJson.depth := by
  cases t
  exact Nat.le_add_left 1 _

/-- Three arrays or objects down, the payloads inside a payload are read back if payloads are. -/
lemma restores_inner {t : Traits} (h : ∀ limit, Restores decoder limit t.toJson t) (limit : Nat) :
    Restores (inner limit) (limit - 3) t.toJson t := by
  match limit with
  | limit + 3 => exact h limit
  | 0 | 1 | 2 => exact .of_lt_depth t.one_le_depth_toJson

/-- A payload is read back if those inside it are. -/
lemma restores_of_nested {t : Traits}
    (hinit : ∀ e ∈ t.init, ∀ limit, Restores decoder limit e.traits.toJson e.traits)
    (hsidecar : ∀ e ∈ t.sidecar, ∀ limit, Restores decoder limit e.traits.toJson e.traits)
    (limit : Nat) : Restores decoder limit t.toJson t := by
  have hingress : ∀ e? : Option IngressEntry, Restores (optional IngressEntry.schema.decoder)
      (limit - 1 - 1) (ingressJson e?) e?
    | none => .null
    | some e => .some nofun (e.restores_toJson _)
  have hrecord : Restores (schema (inner limit)).decoder limit t.toJson t := by
    refine Record.restores_ofGiven
      [.items rfl fun e he => InitEntry.restores_toJson _ (restores_inner (hinit e he) limit),
        .items rfl fun e _ => e.restores_toJson _,
        .items rfl fun e _ => e.restores_toJson _,
        .items rfl fun e he =>
          SidecarEntry.restores_toJson _ (restores_inner (hsidecar e he) limit),
        .items rfl fun e _ => e.restores_toJson _, .items rfl fun e _ => e.restores_toJson _,
        .items rfl fun e _ => e.restores_toJson _, .items rfl fun e _ => e.restores_toJson _,
        .items rfl fun e? _ => hingress e?, .option rfl nofun (ResourceEntry.restores_toJson _)]
      rfl t.toJson_eq ?_ ?_ ?_
    · simp [schema, optionalField]
    · simp
    · cases t
      simp
  intro hdepth
  rw [decoder_eq]
  exact hrecord hdepth

mutual

/-- Payloads are read back, at any depth of nesting. -/
theorem restores_toJson : ∀ (t : Traits) (limit : Nat), Restores decoder limit t.toJson t
  | ⟨init, _, _, sidecar, _, _, _, _, _, _⟩, limit =>
    restores_of_nested (restores_inits init) (restores_sidecars sidecar) limit

theorem restores_inits : ∀ (es : List (InitEntry Traits)), ∀ e ∈ es, ∀ limit,
    Restores decoder limit e.traits.toJson e.traits
  | ⟨_, _, traits⟩ :: rest, e, he, limit => by
    rcases List.mem_cons.1 he with rfl | he
    · exact restores_toJson traits limit
    · exact restores_inits rest e he limit

theorem restores_sidecars : ∀ (es : List (SidecarEntry Traits)), ∀ e ∈ es, ∀ limit,
    Restores decoder limit e.traits.toJson e.traits
  | ⟨_, _, _, _, _, traits⟩ :: rest, e, he, limit => by
    rcases List.mem_cons.1 he with rfl | he
    · exact restores_toJson traits limit
    · exact restores_sidecars rest e he limit

end

/-! ## Payloads that say nothing -/

/-- Nothing is asked for: every list is empty, and limits are absent or hold nothing but blanks. -/
def SaysNothing (t : Traits) : Prop :=
  t.storage = [] ∧ t.secret = [] ∧ t.envFrom = [] ∧ t.envs = [] ∧
    (∀ e, t.resources = some e → Text.isBlankText e.cpu ∧ Text.isBlankText e.memory ∧
      Text.isBlankText e.gpu) ∧
    t.probes = [] ∧ t.rbac = [] ∧ t.init = [] ∧ t.sidecar = [] ∧ t.ingress = []

lemma isEmpty_iff (t : Traits) : t.isEmpty = true ↔ t.SaysNothing := by
  have hentries : ∀ {α : Type} (es : List α), entries? es = none ↔ es = [] := by
    intro α es
    cases es <;> simp [entries?]
  simp [isEmpty, kinds, TraitKind.all, data?, hentries, SaysNothing, ResourceEntry.isBlank,
    and_assoc]

end Traits

namespace Component

/-- **A payload that was written is read back.**  Whatever traits a component is given, to any depth
of nesting, are the traits that are then read from it, in every field at every level; only where
they say nothing are none read. -/
theorem readTraits_withTraits (c : Component) (t : Traits) :
    (c.withTraits t).readTraits = .ok (if t.isEmpty then none else some t) ∧
      (t.isEmpty = true ↔ t.SaysNothing) := by
  have hdecode : Schema.ofJson Traits.decoder t.toJson = .ok t := by
    rw [Schema.ofJson, t.restores_toJson _ le_rfl]
    rfl
  have hpayload : decodePayload (some t.toJson) = .ok (some t) := by
    rw [t.toJson_eq] at hdecode ⊢
    exact congrArg (Except.map some) hdecode
  refine ⟨?_, t.isEmpty_iff⟩
  rw [readTraits, withTraits, hpayload]
  cases hempty : t.isEmpty <;> simp [hempty]

end Component

end WorkloadTraits
