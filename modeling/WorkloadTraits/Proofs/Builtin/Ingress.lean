import WorkloadTraits.Builtin.Ingress
import WorkloadTraits.Proofs.Dispatch.Outcome

/-!
# Ingress entries

When the routes of an entry can be written into one ingress.  Each route has to have a path of a
known type and, if the path is changed, a sound order for the change; and all orders have to agree
on one target, since the routes of an ingress share the annotation that holds it
(`implied_succeeds`).  The other annotation that a route implies has the same value for every
route, so it never stands in the way (`Regular`).
-/

namespace WorkloadTraits

/-! ## Changes of path -/

namespace Route

/-- A route whose change of path, if it has one, is of a known kind and complete. -/
def ChangeSound (r : Route) : Prop :=
  ∀ change, r.change = some change →
    ∃ kind, change.kind = .ok kind ∧
      (kind = .replace → Text.trim change.replacement ≠ "") ∧
        (kind = .pattern → Text.isBlankText change.pattern = false ∧
          Text.trim change.replacement ≠ "")

/-- What a route's change of path makes the target of the ingress. -/
def target? (r : Route) : Option String :=
  match r.change with
  | none => none
  | some change =>
    match change.kind with
    | .ok .lead => some (Text.dropTrailingChar '/' (Text.trim change.replacement) ++ "/$2")
    | .ok _ => some (Text.trim change.replacement)
    | .error _ => none

end Route

namespace PathChange

/-- Annotations that say of paths at most that they are patterns. -/
def Regular (m : StringMap) : Prop := ∀ v, m.get? regexKey = some v → v = "true"

lemma addImplied_eq_ok {m m' : StringMap} {key value : String} :
    addImplied m (key, value) = .ok m' ↔
      (∀ v, m.get? key = some v → v = value) ∧
        (if (m.get? key).isSome then m else m.insert key value) = m' := by
  rw [addImplied]
  cases m.get? key with
  | none => simp
  | some v =>
      by_cases hv : v = value
      · simp [hv]
      · simp [hv]

lemma targetKey_lt_regexKey : targetKey < regexKey := by decide

lemma targetKey_ne_regexKey : targetKey ≠ regexKey := by decide

lemma entries_single (key value : String) :
    (SortedMap.ofList [(key, value)]).entries = [(key, value)] := rfl

lemma entries_pair (target value : String) :
    (SortedMap.ofList [(targetKey, target), (regexKey, value)]).entries =
      [(targetKey, target), (regexKey, value)] := by
  show SortedMap.insertEntry regexKey value [(targetKey, target)] = _
  rw [SortedMap.insertEntry, if_neg (String.lt_asymm targetKey_lt_regexKey),
    if_neg (Ne.symm targetKey_ne_regexKey)]
  rfl

/-- What a route implies: its target, and whether paths are patterns. -/
def impliedBy (target : String) : PathChangeKind → List (String × String)
  | .replace => [(targetKey, target)]
  | .lead => [(targetKey, target), (regexKey, "true")]
  | .pattern => [(targetKey, target), (regexKey, "true")]

lemma sorted_impliedBy (target : String) (kind : PathChangeKind) :
    SortedEntries (impliedBy target kind) := by
  cases kind with
  | replace => exact List.pairwise_singleton _ _
  | lead | pattern => exact List.pairwise_pair.2 targetKey_lt_regexKey

lemma addImplied_target {m m' : StringMap} {target : String} (hm : Regular m)
    (h : addImplied m (targetKey, target) = .ok m') :
    (∀ v, m.get? targetKey = some v → v = target) ∧ m'.get? targetKey = some target ∧
      Regular m' := by
  obtain ⟨hagree, rfl⟩ := addImplied_eq_ok.1 h
  refine ⟨hagree, ?_, fun v hv => ?_⟩
  · cases htarget : m.get? targetKey with
    | none => simp [SortedMap.get?_insert]
    | some v => simpa [htarget] using hagree v htarget
  · split at hv
    · exact hm v hv
    · rw [SortedMap.get?_insert, if_neg (Ne.symm targetKey_ne_regexKey)] at hv
      exact hm v hv

lemma addImplied_regex {m m' : StringMap} (h : addImplied m (regexKey, "true") = .ok m') :
    m'.get? targetKey = m.get? targetKey ∧ Regular m' := by
  obtain ⟨hregular, rfl⟩ := addImplied_eq_ok.1 h
  split
  · exact ⟨rfl, hregular⟩
  · refine ⟨?_, fun v hv => ?_⟩
    · rw [SortedMap.get?_insert, if_neg targetKey_ne_regexKey]
    · rw [SortedMap.get?_insert, if_pos rfl] at hv
      exact (Option.some.inj hv).symm

/-- What a route implies is added unless another target is known, and then its target is. -/
lemma foldlM_impliedBy {m m' : StringMap} {target : String} {kind : PathChangeKind}
    (hm : Regular m) (h : (impliedBy target kind).foldlM addImplied m = .ok m') :
    (∀ v, m.get? targetKey = some v → v = target) ∧ m'.get? targetKey = some target ∧
      Regular m' := by
  cases kind with
  | replace =>
      obtain ⟨m₁, h₁, h⟩ := bind_eq_ok.1 h
      obtain rfl := Except.ok.inj h
      exact addImplied_target hm h₁
  | lead | pattern =>
      obtain ⟨m₁, h₁, h⟩ := bind_eq_ok.1 h
      obtain ⟨m₂, h₂, h⟩ := bind_eq_ok.1 h
      obtain rfl := Except.ok.inj h
      obtain ⟨hagree, htarget, -⟩ := addImplied_target hm h₁
      exact ⟨hagree, (addImplied_regex h₂).1.trans htarget, (addImplied_regex h₂).2⟩

/-- Nothing but another target stands in the way. -/
lemma exists_foldlM_impliedBy {m : StringMap} {target : String} (kind : PathChangeKind)
    (hm : Regular m) (hagree : ∀ v, m.get? targetKey = some v → v = target) :
    ∃ m', (impliedBy target kind).foldlM addImplied m = .ok m' := by
  obtain ⟨m₁, h₁⟩ : ∃ m₁, addImplied m (targetKey, target) = .ok m₁ :=
    ⟨_, addImplied_eq_ok.2 ⟨hagree, rfl⟩⟩
  have hregular := (addImplied_target hm h₁).2.2
  cases kind with
  | replace => exact ⟨m₁, bind_eq_ok.2 ⟨m₁, h₁, rfl⟩⟩
  | lead | pattern =>
      exact ⟨_, bind_eq_ok.2 ⟨m₁, h₁, bind_eq_ok.2
        ⟨_, addImplied_eq_ok.2 ⟨hregular, rfl⟩, rfl⟩⟩⟩

end PathChange

namespace Route

open PathChange

/-- What the change of a route's path implies, if there is one. -/
lemma annotations_eq_ok {r : Route} {m : StringMap} :
    r.annotations = .ok m ↔
      r.ChangeSound ∧
        ((r.change = none ∧ m.entries = []) ∨
          ∃ change kind target, r.change = some change ∧ change.kind = .ok kind ∧
            r.target? = some target ∧ m.entries = impliedBy target kind) := by
  have hentries : ∀ m' : StringMap, m' = m ↔ m.entries = m'.entries := by
    intro m'
    obtain ⟨entries, _⟩ := m
    obtain ⟨entries', _⟩ := m'
    simp [eq_comm]
  rw [annotations, ChangeSound, target?]
  cases r.change with
  | none => simp [hentries, SortedMap.empty]
  | some change =>
      cases hkind : change.kind with
      | error failure => simp [bind, Except.bind, hkind]
      | ok kind =>
          cases kind with
          | replace =>
              by_cases hrep : Text.trim change.replacement = ""
              · simp [bind, Except.bind, hrep, hkind, throw, throwThe, MonadExceptOf.throw]
              · simp [bind, Except.bind, hrep, hkind, pure, Except.pure, hentries, entries_single,
                  impliedBy]
          | lead =>
              simp [bind, Except.bind, hkind, pure, Except.pure, hentries, entries_pair, impliedBy]
          | pattern =>
              by_cases hrep : Text.trim change.replacement = ""
              · simp [bind, Except.bind, hrep, hkind, throw, throwThe, MonadExceptOf.throw]
              · by_cases hblank : Text.isBlankText change.pattern = true
                · simp [bind, Except.bind, hrep, hblank, hkind, throw, throwThe,
                    MonadExceptOf.throw]
                · simp [bind, Except.bind, hrep, hblank, hkind, pure, Except.pure, hentries,
                    entries_pair, impliedBy]

lemma target?_of_change {r : Route} (h : r.change = none) : r.target? = none := by
  rw [target?, h]

/-- A sound change of path is one whose annotations can be made. -/
lemma exists_annotations {r : Route} (hsound : r.ChangeSound) :
    ∃ own, r.annotations = .ok own := by
  cases hchange : r.change with
  | none => exact ⟨.empty, by rw [annotations, hchange]⟩
  | some change =>
      obtain ⟨kind, hkind, -⟩ := hsound change hchange
      obtain ⟨target, htarget⟩ : ∃ target, r.target? = some target := by
        rw [target?, hchange]
        cases kind <;> simp [hkind]
      exact ⟨⟨_, sorted_impliedBy target kind⟩, annotations_eq_ok.2
        ⟨hsound, .inr ⟨change, kind, target, hchange, hkind, htarget, rfl⟩⟩⟩

end Route

namespace PathChange

/-- A route is added unless its change is unsound or another target is known. -/
lemma addRoute_eq_ok {m m' : StringMap} {r : Route} (hm : Regular m)
    (h : addRoute m r = .ok m') :
    r.ChangeSound ∧ (∀ t v, r.target? = some t → m.get? targetKey = some v → v = t) ∧
      m'.get? targetKey = r.target?.or (m.get? targetKey) ∧ Regular m' := by
  obtain ⟨own, hown, h⟩ := bind_eq_ok.1 h
  obtain ⟨hsound, ⟨hchange, hentries⟩ | ⟨change, kind, target, -, -, htarget, hentries⟩⟩ :=
    Route.annotations_eq_ok.1 hown
  · rw [hentries] at h
    obtain rfl := Except.ok.inj h
    rw [Route.target?_of_change hchange]
    refine ⟨hsound, ?_, rfl, hm⟩
    rintro t v ⟨⟩
  · rw [hentries] at h
    obtain ⟨hagree, hget, hregular⟩ := foldlM_impliedBy hm h
    refine ⟨hsound, fun t v ht hv => ?_, ?_, hregular⟩
    · obtain rfl := Option.some.inj (htarget.symm.trans ht)
      exact hagree v hv
    · rw [hget, htarget]
      rfl

lemma exists_addRoute {m : StringMap} {r : Route} (hm : Regular m) (hsound : r.ChangeSound)
    (hagree : ∀ t v, r.target? = some t → m.get? targetKey = some v → v = t) :
    ∃ m', addRoute m r = .ok m' := by
  obtain ⟨own, hown⟩ := Route.exists_annotations hsound
  obtain ⟨-, ⟨-, hentries⟩ | ⟨change, kind, target, -, -, htarget, hentries⟩⟩ :=
    Route.annotations_eq_ok.1 hown
  · refine ⟨m, bind_eq_ok.2 ⟨own, hown, ?_⟩⟩
    rw [hentries]
    rfl
  · obtain ⟨m', hm'⟩ := exists_foldlM_impliedBy kind hm fun v hv => hagree target v htarget hv
    refine ⟨m', bind_eq_ok.2 ⟨own, hown, ?_⟩⟩
    rw [hentries, hm']

/-- The orders of some routes agree with each other, and with the target that is known. -/
def Agree (known : Option String) (routes : List Route) : Prop :=
  ∀ t ∈ known.toList ++ routes.filterMap Route.target?,
    ∀ t' ∈ known.toList ++ routes.filterMap Route.target?, t = t'

lemma agree_cons_of_none {known : Option String} {r : Route} {rest : List Route}
    (h : r.target? = none) : Agree known (r :: rest) ↔ Agree known rest := by
  rw [Agree, Agree, List.filterMap_cons_none h]

lemma agree_cons_of_some {known : Option String} {r : Route} {rest : List Route} {t : String}
    (h : r.target? = some t) :
    Agree known (r :: rest) ↔ (∀ v, known = some v → v = t) ∧ Agree (some t) rest := by
  rw [Agree, Agree, List.filterMap_cons_some h]
  cases known with
  | none => simp
  | some v =>
      constructor
      · intro hagree
        obtain rfl : v = t := hagree v (by simp) t (by simp)
        refine ⟨fun v' hv' => (Option.some.inj hv').symm, fun t₁ ht₁ t₂ ht₂ => ?_⟩
        exact hagree t₁ (List.mem_cons_of_mem _ ht₁) t₂ (List.mem_cons_of_mem _ ht₂)
      · rintro ⟨hv, hagree⟩
        obtain rfl := hv v rfl
        intro t₁ ht₁ t₂ ht₂
        have hsame : ∀ x, x ∈ [v] ++ v :: rest.filterMap Route.target? →
            x ∈ [v] ++ rest.filterMap Route.target? := by
          intro x hx
          simpa using hx
        exact hagree t₁ (hsame t₁ ht₁) t₂ (hsame t₂ ht₂)

/-- Routes are added to what is known already when each is sound and all orders agree. -/
lemma foldlM_addRoute {m : StringMap} (hm : Regular m) {routes : List Route} :
    (∃ m', routes.foldlM addRoute m = .ok m') ↔
      (∀ r ∈ routes, r.ChangeSound) ∧ Agree (m.get? targetKey) routes := by
  induction routes generalizing m with
  | nil =>
      refine ⟨fun _ => ⟨fun r hr => (List.not_mem_nil hr).elim, ?_⟩, fun _ => ⟨m, rfl⟩⟩
      intro t ht t' ht'
      simp only [List.filterMap_nil, List.append_nil, Option.mem_toList] at ht ht'
      exact Option.some.inj (ht.symm.trans ht')
  | cons r rest ih =>
      rw [List.forall_mem_cons]
      have hsplit : Agree (m.get? targetKey) (r :: rest) ↔
          (∀ t v, r.target? = some t → m.get? targetKey = some v → v = t) ∧
            Agree (r.target?.or (m.get? targetKey)) rest := by
        cases htarget : r.target? with
        | none => simp [agree_cons_of_none htarget]
        | some t =>
            rw [agree_cons_of_some htarget, Option.some_or]
            refine and_congr_left fun _ => ⟨fun h t' v ht hv => ?_, fun h v hv => h t v rfl hv⟩
            obtain rfl := Option.some.inj ht
            exact h v hv
      rw [hsplit]
      constructor
      · rintro ⟨m', h⟩
        obtain ⟨m₁, h₁, h⟩ := bind_eq_ok.1 h
        obtain ⟨hsound, hagree, htarget, hregular⟩ := addRoute_eq_ok hm h₁
        obtain ⟨hrest, hagreeRest⟩ := (ih hregular).1 ⟨m', h⟩
        rw [htarget] at hagreeRest
        exact ⟨⟨hsound, hrest⟩, hagree, hagreeRest⟩
      · rintro ⟨⟨hsound, hrest⟩, hagree, hagreeRest⟩
        obtain ⟨m₁, h₁⟩ := exists_addRoute hm hsound hagree
        obtain ⟨-, -, htarget, hregular⟩ := addRoute_eq_ok hm h₁
        rw [← htarget] at hagreeRest
        obtain ⟨m', h⟩ := (ih hregular).2 ⟨hrest, hagreeRest⟩
        exact ⟨m', bind_eq_ok.2 ⟨m₁, h₁, h⟩⟩

/-- The annotations of an ingress can be made when every change of path is sound and no two routes
need different targets. -/
theorem implied_succeeds {routes : List Route} :
    (∃ m, implied routes = .ok m) ↔
      (∀ r ∈ routes, r.ChangeSound) ∧
        ∀ r ∈ routes, ∀ r' ∈ routes, ∀ t t',
          r.target? = some t → r'.target? = some t' → t = t' := by
  have hempty : Regular .empty := fun v hv => nomatch hv
  rw [implied, foldlM_addRoute hempty]
  refine and_congr_right fun _ => ?_
  simp only [Agree, SortedMap.get?_empty, Option.toList_none, List.nil_append,
    List.mem_filterMap]
  constructor
  · exact fun h r hr r' hr' t t' ht ht' => h t ⟨r, hr, ht⟩ t' ⟨r', hr', ht'⟩
  · rintro h t ⟨r, hr, ht⟩ t' ⟨r', hr', ht'⟩
    exact h r hr r' hr' t t' ht ht'

end PathChange

/-! ## Paths -/

/-- A path type that is known, or left to what goes without one. -/
def PathTypeKnown (own default : String) : Prop :=
  let chosen := Text.firstNonEmpty [Text.trim own, Text.trim default]
  chosen = "" ∨ Text.asciiLower chosen ∈ ["exact", "prefix", "implementationspecific"]

/-- Whether a path has a type does not depend on whether paths are patterns. -/
lemma pathType_succeeds {own default : String} (regex : Bool) :
    (∃ type, pathType own default regex = .ok type) ↔ PathTypeKnown own default := by
  rw [pathType, PathTypeKnown]
  generalize Text.firstNonEmpty [Text.trim own, Text.trim default] = chosen
  by_cases hempty : chosen = ""
  · simp [hempty]
  · by_cases hexact : Text.asciiLower chosen = "exact"
    · simp [hempty, hexact]
    · by_cases hfront : Text.asciiLower chosen = "prefix"
      · simp [hempty, hfront]
      · by_cases hspecific : Text.asciiLower chosen = "implementationspecific"
        · simp [hempty, hspecific]
        · simp [hempty, hexact, hfront, hspecific]

namespace IngressEntry

variable {site : Site} {e : IngressEntry}

lemma pathOf_succeeds (site : Site) (regex : Bool) {r : Route} :
    (∃ path, e.pathOf site regex r = .ok path) ↔ PathTypeKnown r.pathType e.defaultPathType := by
  rw [← pathType_succeeds regex]
  exact exists_bind_pure_ok

/-- An entry whose routes can be written into one ingress. -/
def Sound (e : IngressEntry) : Prop :=
  e.routes ≠ [] ∧ (∀ r ∈ e.routes, PathTypeKnown r.pathType e.defaultPathType) ∧
    (∀ r ∈ e.routes, r.ChangeSound) ∧
      ∀ r ∈ e.routes, ∀ r' ∈ e.routes, ∀ t t',
        r.target? = some t → r'.target? = some t' → t = t'

lemma hostPaths_succeeds (site : Site) (regex : Bool) :
    (∃ hosts, e.hostPaths site regex = .ok hosts) ↔
      ∀ r ∈ e.routes, PathTypeKnown r.pathType e.defaultPathType := by
  refine foldlM_succeeds fun hosts r => ?_
  rw [← pathOf_succeeds site regex]
  exact exists_bind_pure_ok

lemma object_succeeds {index : Nat} {annotations : StringMap} :
    (∃ i, e.object site index annotations = .ok i) ↔
      ∀ r ∈ e.routes, PathTypeKnown r.pathType e.defaultPathType := by
  rw [← hostPaths_succeeds site
    ((annotations.get? PathChange.regexKey).any fun v => Text.asciiLower v == "true")]
  exact exists_bind_pure_ok

lemma sharedAnnotations_eq_ok {m : StringMap} :
    e.sharedAnnotations = .ok m ↔
      ∃ derived, PathChange.implied e.routes = .ok derived ∧ derived.overlay e.annotations = m :=
  map_eq_ok

/-- The annotations can be made if each change of path is sound and all targets agree. -/
lemma exists_sharedAnnotations :
    (∃ m, e.sharedAnnotations = .ok m) ↔
      (∀ r ∈ e.routes, r.ChangeSound) ∧
        ∀ r ∈ e.routes, ∀ r' ∈ e.routes, ∀ t t',
          r.target? = some t → r'.target? = some t' → t = t' := by
  rw [sharedAnnotations, exists_map_ok, PathChange.implied_succeeds]

lemma build_eval {answer : Nested → Except Failure Contribution} (index : Nat) :
    (e.build site index).eval answer = e.sharedAnnotations >>= e.object site index := by
  rw [build, Plan.eval_bind, Plan.eval_ofExcept]
  refine congrArg _ (funext fun annotations => ?_)
  rw [Plan.eval_bind, Plan.eval_warnings]
  exact Plan.eval_ofExcept _

end IngressEntry

namespace Ingresses

variable {site : Site} {answer : Nested → Except Failure Contribution}

/-- What becomes of an entry at an index. -/
def Becomes (site : Site) (e : Option IngressEntry × Nat) (o : Companion) : Prop :=
  ∃ entry annotations i, e.1 = some entry ∧ entry.routes ≠ [] ∧
    entry.sharedAnnotations = .ok annotations ∧
      entry.object site e.2 annotations = .ok i ∧ o = .ingress i

/-- There is one ingress for each entry. -/
theorem objects_eval_eq_ok {index : Nat} {entries : List (Option IngressEntry)}
    {os : List Companion} :
    (objects site index entries).eval answer = .ok os ↔
      List.Forall₂ (Becomes site) (entries.zipIdx index) os := by
  induction entries generalizing index os with
  | nil =>
      rw [List.zipIdx_nil, List.forall₂_nil_left_iff]
      exact ⟨fun h => (Except.ok.inj h).symm, fun h => congrArg Except.ok h.symm⟩
  | cons e rest ih =>
      rw [List.zipIdx_cons, List.forall₂_cons_left_iff]
      cases e with
      | none =>
          constructor
          · intro h
            cases h
          · rintro ⟨_, _, ⟨entry, _, _, hentry, _⟩, _⟩
            cases hentry
      | some entry =>
          rw [objects]
          by_cases hroutes : entry.routes = []
          · simp only [hroutes, List.isEmpty_nil, if_true]
            constructor
            · intro h
              cases h
            · rintro ⟨_, _, ⟨_, _, _, ⟨⟩, hne, _⟩, _⟩
              exact absurd hroutes hne
          · have hgiven : entry.routes.isEmpty = false := by simpa using hroutes
            simp only [hgiven, Bool.false_eq_true, if_false]
            simp only [Plan.eval_bind, Plan.eval_pure, bind_eq_ok, IngressEntry.build_eval, ih]
            constructor
            · rintro ⟨i, ⟨annotations, hannotations, hobject⟩, tail, htail, h⟩
              exact ⟨_, tail, ⟨entry, annotations, i, rfl, hroutes, hannotations, hobject, rfl⟩,
                htail, (Except.ok.inj h).symm⟩
            · rintro ⟨_, tail, ⟨_, annotations, i, ⟨⟩, -, hannotations, hobject, rfl⟩, htail, rfl⟩
              exact ⟨i, ⟨annotations, hannotations, hobject⟩, tail, htail, rfl⟩

/-- The ingresses of some entries. -/
def made (site : Site) (entries : List (Option IngressEntry)) : List Companion :=
  entries.zipIdx.filterMap fun e => do
    let entry ← e.1
    let annotations ← entry.sharedAnnotations.toOption
    let ingress ← (entry.object site e.2 annotations).toOption
    return .ingress ingress

lemma objects_eq_made {entries : List (Option IngressEntry)} {os : List Companion}
    (h : (objects site 0 entries).eval answer = .ok os) : made site entries = os := by
  refine filterMap_eq_of_forall₂ (objects_eval_eq_ok.1 h) fun e o ho => ?_
  obtain ⟨entry, annotations, i, hentry, -, hannotations, hobject, rfl⟩ := ho
  simp only [hentry, hannotations, Except.toOption, Option.bind_eq_bind, Option.bind_some, hobject]
  rfl

/-- Nothing but ingresses is made. -/
lemma exists_ingress_of_mem_made {entries : List (Option IngressEntry)} {o : Companion}
    (h : o ∈ made site entries) : ∃ i, o = .ingress i := by
  obtain ⟨e, -, he⟩ := List.mem_filterMap.1 h
  simp only [Option.bind_eq_bind, Option.bind_eq_some_iff] at he
  obtain ⟨entry, -, annotations, -, i, -, hi⟩ := he
  exact ⟨i, (Option.some.inj hi).symm⟩

/-- Something becomes of an entry that is given and sound. -/
lemma exists_becomes {e : Option IngressEntry × Nat} :
    (∃ o, Becomes site e o) ↔ ∃ entry, e.1 = some entry ∧ entry.Sound := by
  constructor
  · rintro ⟨_, entry, annotations, i, hentry, hroutes, hannotations, hobject, -⟩
    exact ⟨entry, hentry, hroutes, IngressEntry.object_succeeds.1 ⟨i, hobject⟩,
      IngressEntry.exists_sharedAnnotations.1 ⟨annotations, hannotations⟩⟩
  · rintro ⟨entry, hentry, hroutes, hpaths, hchanges⟩
    obtain ⟨annotations, hannotations⟩ := IngressEntry.exists_sharedAnnotations.2 hchanges
    obtain ⟨i, hobject⟩ := IngressEntry.object_succeeds.2 hpaths
    exact ⟨_, entry, annotations, i, hentry, hroutes, hannotations, hobject, rfl⟩

end Ingresses

end WorkloadTraits
