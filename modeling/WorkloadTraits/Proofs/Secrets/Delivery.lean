import WorkloadTraits.Proofs.Levels
import WorkloadTraits.Proofs.Secrets.Redaction

/-!
# Every secret is delivered

A secret entry stands among the traits for some container, at some index, and the name of its secret
is made of these two.  The name determines both, since a number has no hyphen in it
(`Secret.name_inj`).  So where containers have different names, the secrets that all levels ask for
have different names as well, none of them is taken for another one, and all of them are there in
the end, in the order of the levels (`Engine.secrets_delivered`).
-/

namespace WorkloadTraits

/-! ## Names made of a name and a number -/

/-- A text that ends with a number after a hyphen determines the number and what is in front. -/
lemma append_toString_inj {a b : String} {i j : Nat}
    (h : a ++ "-" ++ toString i = b ++ "-" ++ toString j) : a = b ∧ i = j := by
  have hdigits : ∀ n : Nat, ∀ c ∈ Nat.toDigits 10 n, (c != '-') = true := by
    intro n c hc
    have hdigit : c.isDigit = true := Nat.isDigit_of_mem_toDigits (by decide) (by decide) hc
    rw [bne_iff_ne]
    rintro rfl
    exact absurd hdigit (by decide)
  have htail : ∀ (cs : List Char) (n : Nat),
      (cs ++ '-' :: Nat.toDigits 10 n).reverse.takeWhile (· != '-') =
        (Nat.toDigits 10 n).reverse := by
    intro cs n
    rw [List.reverse_append, List.reverse_cons, List.append_assoc, List.takeWhile_append_of_pos
      fun c hc => hdigits n c (List.mem_reverse.1 hc)]
    simp
  have hchars : a.toList ++ '-' :: Nat.toDigits 10 i = b.toList ++ '-' :: Nat.toDigits 10 j := by
    have hlists := congrArg String.toList h
    simpa using hlists
  have hnumbers : Nat.toDigits 10 i = Nat.toDigits 10 j := by
    rw [← List.reverse_inj, ← htail a.toList, ← htail b.toList, hchars]
  rw [hnumbers, List.append_cancel_right_eq, String.toList_inj] at hchars
  refine ⟨hchars, Nat.repr_injective (String.toList_inj.1 ?_)⟩
  rw [Nat.toList_repr, Nat.toList_repr, hnumbers]

/-- The name of a secret determines the container's name, normalized, and the index. -/
lemma Secret.name_inj {s s' : Site} {i j : Nat} (h : name s i = name s' j) :
    Label.normalize s.target = Label.normalize s'.target ∧ i = j := by
  have hsplit : ∀ (s : Site) (i : Nat),
      name s i = Label.normalize s.target ++ "-secret" ++ "-" ++ toString i := by
    intro s i
    have hends : "-secret-" = "-secret" ++ "-" := rfl
    rw [name, hends, ← String.append_assoc]
  rw [hsplit, hsplit] at h
  obtain ⟨hfront, hindex⟩ := append_toString_inj h
  exact ⟨(String.append_left_inj _).1 hfront, hindex⟩

/-! ## Entries where they stand -/

/-- A secret entry where it stands: the container that its traits are for, and its index. -/
structure SecretPlace where
  site : Site
  index : Nat
  entry : SecretEntry

namespace SecretPlace

/-- The name of the secret. -/
def name (p : SecretPlace) : String :=
  Label.normalize p.site.target ++ "-secret-" ++ toString p.index

/-- The secret that is asked for. -/
def object (p : SecretPlace) : SecretObject := Secret.object p.site p.name p.entry

/-- A secret has the name of a place and the data of the entry there. -/
structure Delivered (p : SecretPlace) (o : SecretObject) : Prop where
  name : o.metadata.name = some p.name
  data : o.stringData = some p.entry.data

lemma delivered_object (p : SecretPlace) : p.Delivered p.object := ⟨rfl, rfl⟩

/-- The secret entries of a container's traits. -/
def ofTraits (s : Site) (t : Traits) : List SecretPlace :=
  t.secret.zipIdx.map fun e => ⟨s, e.2, e.1⟩

/-- The secret entries of a level and of all levels in it. -/
def demand : Demand SecretPlace where
  kinds := TraitKind.all
  ofKind s t
    | .secret => ofTraits s t
    | _ => []

/-- Entries ask for their secrets in order, and no other kind asks for secrets. -/
lemma filterMap_secret?_ofKind (s : Site) (t : Traits) (k : TraitKind) :
    (Besides.ofKind s t k).objects.filterMap Companion.secret? =
      (demand.ofKind s t k).filterMap fun p => some p.object := by
  by_cases hk : k = .secret
  · subst hk
    have hnames : ((List.range t.secret.length).map (Secret.name s)).zip t.secret =
        t.secret.zipIdx.map fun e => (Secret.name s e.2, e.1) :=
      List.ext_getElem (by simp) fun i _ _ => by simp
    simp only [Besides.ofKind, Secret.contribution, hnames, demand, ofTraits, List.map_map,
      List.filterMap_map]
    rfl
  · have hnone : (Besides.ofKind s t k).objects.filterMap Companion.secret? = [] :=
      List.filterMap_eq_nil_iff.2 fun o ho => Besides.secret?_of_mem_ofKind hk ho
    rw [hnone]
    cases k <;> first | rfl | exact absurd rfl hk

/-- In the flat list, the secret entries of a level stand where the level stands. -/
lemma flatten_demand (d : Dispatcher) (t : Traits) :
    demand.flatten (d.site (d.top t)) t =
      (d.levels t).flatMap fun l => ofTraits (d.site l) l.traits := by
  have haround : ∀ s t inits sidecars,
      demand.around s t inits sidecars = ofTraits s t ++ (inits ++ sidecars) := by
    intro s t inits sidecars
    simp [Demand.around, demand, TraitKind.all]
  rw [Demand.flatten, haround, Demand.ofInits, Demand.ofSidecars, Dispatcher.levels,
    List.flatMap_cons, Dispatcher.nestedLevels, List.flatMap_append, List.flatMap_assoc,
    List.flatMap_map]
  simp only [Demand.withSidecars, Demand.ofSidecars, Demand.alone, haround, List.flatMap_cons,
    List.flatMap_map, List.nil_append, List.append_nil]
  rfl

/-- The name of a place determines the container's name, normalized. -/
lemma normalize_of_name_eq {s s' : Site} {t t' : Traits} {p p' : SecretPlace}
    (hp : p ∈ ofTraits s t) (hp' : p' ∈ ofTraits s' t') (h : p.name = p'.name) :
    Label.normalize s.target = Label.normalize s'.target := by
  obtain ⟨e, -, rfl⟩ := List.mem_map.1 hp
  obtain ⟨e', -, rfl⟩ := List.mem_map.1 hp'
  exact (Secret.name_inj h).1

/-- Entries of one container have secrets of different names, and so have those of containers whose
names differ when they are normalized. -/
lemma nodup_names {d : Dispatcher} {ls : List Level}
    (h : (ls.map fun l => Label.normalize l.target).Nodup) :
    ((ls.flatMap fun l => ofTraits (d.site l) l.traits).map name).Nodup := by
  rw [List.map_flatMap, List.nodup_flatMap]
  constructor
  · intro l _
    have hindices : (l.traits.secret.zipIdx.map Prod.snd).Nodup := by
      rw [List.zipIdx_map_snd]
      exact List.nodup_range'
    have hnames := hindices.map (f := Secret.name (d.site l)) fun _ _ heq =>
      (Secret.name_inj heq).2
    rw [ofTraits, List.map_map]
    rwa [List.map_map] at hnames
  · refine (List.pairwise_map.1 h).imp fun {l l'} hne => ?_
    intro n hn hn'
    obtain ⟨p, hp, rfl⟩ := List.mem_map.1 hn
    obtain ⟨p', hp', heq⟩ := List.mem_map.1 hn'
    have htarget : Label.normalize (d.site l).target = Label.normalize (d.site l').target :=
      normalize_of_name_eq hp hp' heq.symm
    exact hne htarget

end SecretPlace

/-! ## What is there in the end -/

/-- Secrets are merged with secrets alone. -/
lemma Companion.key_eq_secret_iff {o : Companion} {s : SecretObject} :
    o.key = (secret s).key ↔ ∃ s', o.secret? = some s' ∧ (secret s').key = (secret s).key := by
  constructor
  · intro h
    have hkind : o.kind = (secret s).kind := congrArg Key.kind h
    cases o with
    | secret s' => exact ⟨s', rfl, h⟩
    | _ => exact absurd hkind (by simp only [kind]; decide)
  · rintro ⟨s', hs', h⟩
    rw [secret?_eq_some.1 hs', h]

/-- No secret stands in the way of a template. -/
lemma filterMap_secret?_freeObjects (settings : Settings) (objects : List Companion) :
    (freeObjects settings objects).filterMap Companion.secret? =
      objects.filterMap Companion.secret? := by
  rw [freeObjects, List.filterMap_filter]
  refine List.filterMap_congr fun o _ => ?_
  cases o with
  | claim c => exact ite_self _
  | _ => rfl

/-- The secrets of some contribution are those of the entries at all levels, if all have different
names. -/
lemma Dispatcher.Contributes.secrets {d : Dispatcher} {t : Traits} {c : Contribution}
    (hbuiltin : d.registry = .builtin) (h : d.Contributes (d.top t) c)
    (hdistinct : ((d.levels t).map fun l => Label.normalize l.target).Nodup) :
    c.objects.filterMap Companion.secret? =
      ((d.levels t).flatMap fun l => SecretPlace.ofTraits (d.site l) l.traits).map
        SecretPlace.object := by
  have hregistry : d.registry.IsBuiltin := hbuiltin ▸ Registry.isBuiltin_builtin
  have hkinds : (d.demand (·.objects)).kinds = SecretPlace.demand.kinds := by
    show d.registry.kinds = _
    rw [hbuiltin, Registry.kinds_builtin]
    rfl
  have hasked : ((d.demand (·.objects)).flatten (d.site (d.top t)) t).filterMap Companion.secret? =
      ((d.levels t).flatMap fun l => SecretPlace.ofTraits (d.site l) l.traits).map
        SecretPlace.object := by
    rw [← SecretPlace.flatten_demand, ← List.filterMap_eq_map]
    exact Demand.filterMap_flatten hkinds SecretPlace.filterMap_secret?_ofKind _ _
  have hkeys : ((((d.levels t).flatMap fun l => SecretPlace.ofTraits (d.site l) l.traits).map
      SecretPlace.object).map fun s => (Companion.secret s).key).Nodup := by
    have hnames := SecretPlace.nodup_names (d := d) hdistinct
    refine List.Nodup.of_map Companion.Key.name ?_
    rw [List.map_map, List.map_map]
    exact hnames
  have hfirsts : (firsts (·.key) []
      ((d.demand (·.objects)).flatten (d.site (d.top t)) t)).filterMap Companion.secret? =
        firsts (fun s => (Companion.secret s).key) []
          (((d.demand (·.objects)).flatten (d.site (d.top t)) t).filterMap Companion.secret?) := by
    refine filterMap_firsts (fun o _ s hs o' _ => ?_) fun _ _ _ _ => ?_
    · rw [Companion.secret?_eq_some.1 hs]
      exact Companion.key_eq_secret_iff
    · simp
  rw [h.objects_eq hregistry rfl]
  show (firsts (·.key) [] ((d.demand (·.objects)).flatten (d.site (d.top t)) t)).filterMap _ = _
  rw [hfirsts, hasked, firsts_eq_self (fun _ _ => List.not_mem_nil) hkeys]

namespace Engine

variable {e : Engine} {c : Component} {w : Workload} {objects : List Companion}

/-- The secret entries of a component's traits, in the order of the levels. -/
def secretPlaces (e : Engine) (c : Component) (w : Workload) : List SecretPlace :=
  (e.levels c w).flatMap fun l => SecretPlace.ofTraits ((e.dispatcher c w).site l) l.traits

/-- **Every secret is delivered.**  When an application succeeds, and the container of the component
and those that it adds have names that differ when they are normalized, there is one secret for each
secret entry of each level, in the order of the levels, with the name of the entry's place and the
data of the entry, and no two secrets have one name. -/
theorem secrets_delivered (hbuiltin : e.registry = .builtin)
    (hok : (e.apply c w).outcome = .ok objects)
    (hdistinct : ((e.containerNames c).map Label.normalize).Nodup) :
    List.Forall₂ SecretPlace.Delivered (e.secretPlaces c w)
        (objects.filterMap Companion.secret?) ∧
      ((objects.filterMap Companion.secret?).map (·.metadata.name)).Nodup := by
  rcases apply_eq_ok hok with ⟨htraits, -, rfl⟩ | ⟨t, contribution, htraits, hcontribution, -, rfl⟩
  · rw [secretPlaces, levels, htraits]
    exact ⟨.nil, List.nodup_nil⟩
  · have htargets :
        (((e.dispatcher c w).levels t).map fun l => Label.normalize l.target).Nodup := by
      rw [containerNames, htraits] at hdistinct
      have hperm := ((e.dispatcher c w).map_target_levels t).map Label.normalize
      rw [List.map_map] at hperm
      exact hperm.nodup_iff.2 hdistinct
    have hplaces : e.secretPlaces c w = ((e.dispatcher c w).levels t).flatMap fun l =>
        SecretPlace.ofTraits ((e.dispatcher c w).site l) l.traits := by
      rw [secretPlaces, levels, htraits]
    have hsecrets : (freeObjects e.settings contribution.objects).filterMap Companion.secret? =
        (e.secretPlaces c w).map SecretPlace.object := by
      rw [filterMap_secret?_freeObjects, hplaces]
      exact Dispatcher.Contributes.secrets (d := e.dispatcher c w) hbuiltin
        (Dispatcher.contributes_of_dispatch hcontribution) htargets
    have hnames : ((e.secretPlaces c w).map SecretPlace.name).Nodup := by
      rw [hplaces]
      exact SecretPlace.nodup_names htargets
    rw [hsecrets]
    constructor
    · rw [List.forall₂_map_right_iff]
      exact List.forall₂_same.2 fun p _ => p.delivered_object
    · have hsome := hnames.map (Option.some_injective String)
      rwa [List.map_map] at hsome ⊢

/-- Traits with two secrets for the component and one each for an init container, a sidecar of it
and another sidecar; the init container is named like a secret of the component. -/
def guardedTraits : Traits where
  secret := [{ data := .ofList [("user", "root")] }, {}]
  init := [{
    name := "web-secret-1"
    properties := { image := "busybox" }
    traits := {
      secret := [{ data := .ofList [("token", "a")] }]
      sidecar := [{
        name := "proxy"
        image := "envoy"
        traits := { secret := [{ data := .ofList [("token", "b")] }] } }] } }]
  sidecar := [{
    name := "agent"
    image := "agent"
    traits := { secret := [{ data := .ofList [("token", "c")] }] } }]

/-- A component with these traits. -/
def guardedComponent : Component := Component.withTraits { name := "Web" } guardedTraits

/-- A workload with a container of the component's name. -/
def guardedWorkload : Workload where
  kind := .deployment
  spec := some { template := { pod := some { containers := [{ name := "Web" }] } } }

theorem secrets_delivered_guarded :
    ∃ objects, (builtin.apply guardedComponent guardedWorkload).outcome = .ok objects ∧
      ((builtin.containerNames guardedComponent).map Label.normalize).Nodup ∧
      List.Forall₂ SecretPlace.Delivered
        (builtin.secretPlaces guardedComponent guardedWorkload)
        (objects.filterMap Companion.secret?) ∧
      (objects.filterMap Companion.secret?).map (·.metadata.name) =
        [some "web-secret-0", some "web-secret-1", some "web-secret-1-secret-0",
          some "proxy-secret-0", some "agent-secret-0"] := by
  have hok : (builtin.apply guardedComponent guardedWorkload).outcome = .ok _ := rfl
  have hdistinct : ((builtin.containerNames guardedComponent).map Label.normalize).Nodup := by
    decide +kernel
  exact ⟨_, hok, hdistinct, (secrets_delivered rfl hok hdistinct).1, by decide +kernel⟩

end Engine

end WorkloadTraits
