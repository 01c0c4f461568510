import WorkloadTraits.Proofs.Builtin.Ingress
import WorkloadTraits.Proofs.SortedMap

/-!
# Which routes get the change they ask for

The annotations of an ingress hold for all of its routes.  A route that has its path changed asks
for one or two of them, and one whose path is not to be changed asks for none.  That routes ask for
different values is noticed, and the entry is refused.  But an annotation that one route asks for
and another does without is no conflict, so the entry is accepted, and the second route is treated
like the first.

So a route gets what it asks for exactly if no route of the entry asks for more annotations than it
does (`IngressEntry.isHonored_iff`).  This rests on `PathChange.get?_implied`: what has been
collected from accepted routes is what some route asks for, key by key.
-/

namespace WorkloadTraits

open PathChange

namespace Route

/-- What the annotations of an ingress have to be for a route: those that its change of path implies
and no other, or nothing that changes a path if it has none. -/
def IsHonored (r : Route) (i : Ingress) : Prop :=
  match r.change with
  | none => i.metadata.annotationValue? targetKey = none
  | some _ => ∃ own, r.annotations = .ok own ∧
      ∀ key ∈ [targetKey, regexKey], i.metadata.annotationValue? key = own.get? key

/-- How many annotations a route asks for. -/
def demands (r : Route) : Nat :=
  match r.annotations with
  | .ok own => own.entries.length
  | .error _ => 0

end Route

/-! ## What is collected -/

namespace PathChange

lemma get?_addImplied {m m' : StringMap} {key value : String}
    (h : addImplied m (key, value) = .ok m') :
    (∀ v, m.get? key = some v → v = value) ∧
      ∀ x, m'.get? x = if x = key then some value else m.get? x := by
  obtain ⟨hagree, rfl⟩ := addImplied_eq_ok.1 h
  refine ⟨hagree, fun x => ?_⟩
  cases hkey : m.get? key with
  | none => exact SortedMap.get?_insert m key value x
  | some v =>
      rw [Option.isSome_some, if_pos rfl]
      by_cases hx : x = key
      · rw [if_pos hx, hx, hkey, hagree v hkey]
      · rw [if_neg hx]

/-- What is added to a map and what was there do not contradict each other, so it does not matter
which of them is asked first. -/
lemma get?_foldlM_addImplied {entries : List (String × String)} {m m' : StringMap}
    (h : entries.foldlM addImplied m = .ok m') (x : String) :
    m'.get? x = (entries.lookup x).or (m.get? x) ∧
      m'.get? x = (m.get? x).or (entries.lookup x) := by
  induction entries generalizing m with
  | nil =>
      obtain rfl := Except.ok.inj h
      exact ⟨rfl, Option.or_none.symm⟩
  | cons e rest ih =>
      obtain ⟨key, value⟩ := e
      rw [List.foldlM_cons] at h
      obtain ⟨m₁, h₁, hrest⟩ := bind_eq_ok.1 h
      obtain ⟨hagree, hget⟩ := get?_addImplied h₁
      obtain ⟨hfirst, hlast⟩ := ih hrest
      rw [hget] at hfirst hlast
      by_cases hx : x = key
      · subst hx
        rw [if_pos rfl, Option.some_or] at hlast
        rw [hlast, List.lookup_cons_self, Option.some_or]
        refine ⟨rfl, ?_⟩
        cases hold : m.get? x with
        | none => rfl
        | some v => rw [hagree v hold, Option.some_or]
      · rw [if_neg hx] at hfirst hlast
        have hskip : (x == key) = false := beq_eq_false_iff_ne.2 hx
        rw [List.lookup_cons, hskip]
        exact ⟨hfirst, hlast⟩

/-- A route adds what it implies, and nothing is lost. -/
lemma get?_addRoute {m m' : StringMap} {r : Route} (h : addRoute m r = .ok m') :
    ∃ own, r.annotations = .ok own ∧ ∀ x,
      m'.get? x = (own.get? x).or (m.get? x) ∧ m'.get? x = (m.get? x).or (own.get? x) := by
  obtain ⟨own, hown, hfold⟩ := bind_eq_ok.1 h
  exact ⟨own, hown, get?_foldlM_addImplied hfold⟩

/-- An annotation that a route asks for. -/
def AskedBy (r : Route) (x v : String) : Prop :=
  ∃ own, r.annotations = .ok own ∧ own.get? x = some v

lemma get?_foldlM_addRoute {routes : List Route} {m m' : StringMap}
    (h : routes.foldlM addRoute m = .ok m') :
    (∀ r ∈ routes, ∃ own, r.annotations = .ok own) ∧ ∀ x v,
      m'.get? x = some v ↔ m.get? x = some v ∨ ∃ r ∈ routes, AskedBy r x v := by
  induction routes generalizing m with
  | nil =>
      obtain rfl := Except.ok.inj h
      simp
  | cons r rest ih =>
      rw [List.foldlM_cons] at h
      obtain ⟨m₁, h₁, hrest⟩ := bind_eq_ok.1 h
      obtain ⟨own, hown, hget⟩ := get?_addRoute h₁
      obtain ⟨hrestOwn, hrestGet⟩ := ih hrest
      refine ⟨List.forall_mem_cons.2 ⟨⟨own, hown⟩, hrestOwn⟩, fun x v => ?_⟩
      obtain ⟨hfirst, hlast⟩ := hget x
      have hstep : m₁.get? x = some v ↔ m.get? x = some v ∨ AskedBy r x v := by
        constructor
        · intro hv
          rw [hlast, Option.or_eq_some_iff] at hv
          exact hv.imp id fun ⟨_, hv⟩ => ⟨own, hown, hv⟩
        · rintro (hv | ⟨own', hown', hv⟩)
          · rw [hlast, hv, Option.some_or]
          · obtain rfl := Except.ok.inj (hown.symm.trans hown')
            rw [hfirst, hv, Option.some_or]
      simp only [hrestGet, hstep, List.mem_cons, or_and_right, exists_or, exists_eq_left, or_assoc]

/-- **What is collected from the routes** is what some route asks for. -/
theorem get?_implied {routes : List Route} {m : StringMap} (h : implied routes = .ok m) :
    (∀ r ∈ routes, ∃ own, r.annotations = .ok own) ∧ ∀ x v,
      m.get? x = some v ↔ ∃ r ∈ routes, AskedBy r x v := by
  obtain ⟨hown, hget⟩ := get?_foldlM_addRoute h
  refine ⟨hown, fun x v => ?_⟩
  rw [hget, SortedMap.get?_empty, or_iff_right (by simp)]

end PathChange

/-! ## What a route asks for -/

namespace Route

/-- A route asks for nothing, or for a target, or for a target and for patterns. -/
lemma annotations_cases {r : Route} {own : StringMap} (h : r.annotations = .ok own) :
    (r.change = none ∧ own.get? targetKey = none ∧ own.get? regexKey = none ∧ r.demands = 0) ∨
    r.change ≠ none ∧ ∃ t, own.get? targetKey = some t ∧
      ((own.get? regexKey = none ∧ r.demands = 1) ∨
        (own.get? regexKey = some "true" ∧ r.demands = 2)) := by
  have hdemands : r.demands = own.entries.length := by
    rw [demands, h]
  have hne : (regexKey == targetKey) = false :=
    beq_eq_false_iff_ne.2 (Ne.symm targetKey_ne_regexKey)
  obtain ⟨-, ⟨hchange, hentries⟩ | ⟨change, kind, t, hchange, -, -, hentries⟩⟩ :=
    annotations_eq_ok.1 h
  · refine .inl ⟨hchange, ?_, ?_, ?_⟩
    · rw [SortedMap.get?, hentries]
      rfl
    · rw [SortedMap.get?, hentries]
      rfl
    · rw [hdemands, hentries]
      rfl
  · refine .inr ⟨by rw [hchange]; exact Option.some_ne_none _, t, ?_⟩
    rw [SortedMap.get?, SortedMap.get?, hdemands, hentries]
    cases kind with
    | replace =>
        refine ⟨List.lookup_cons_self, .inl ⟨?_, rfl⟩⟩
        rw [impliedBy, List.lookup_cons, hne]
        rfl
    | lead | pattern =>
        refine ⟨List.lookup_cons_self, .inr ⟨?_, rfl⟩⟩
        rw [impliedBy, List.lookup_cons, hne]
        exact List.lookup_cons_self

variable {r : Route} {own : StringMap}

lemma askedBy_iff (hown : r.annotations = .ok own) {x v : String} :
    AskedBy r x v ↔ own.get? x = some v := by
  constructor
  · rintro ⟨own', hown', hv⟩
    obtain rfl := Except.ok.inj (hown.symm.trans hown')
    exact hv
  · exact fun hv => ⟨own, hown, hv⟩

lemma exists_askedBy_target (hown : r.annotations = .ok own) :
    (∃ v, AskedBy r targetKey v) ↔ 0 < r.demands := by
  simp only [askedBy_iff hown]
  obtain ⟨-, htarget, -, hdemands⟩ | ⟨-, t, htarget, ⟨-, hdemands⟩ | ⟨-, hdemands⟩⟩ :=
    annotations_cases hown
  all_goals simp [htarget, hdemands]

lemma exists_askedBy_regex (hown : r.annotations = .ok own) :
    (∃ v, AskedBy r regexKey v) ↔ 1 < r.demands := by
  simp only [askedBy_iff hown]
  obtain ⟨-, -, hregex, hdemands⟩ | ⟨-, t, -, ⟨hregex, hdemands⟩ | ⟨hregex, hdemands⟩⟩ :=
    annotations_cases hown
  all_goals simp [hregex, hdemands]

lemma demands_le_two (hown : r.annotations = .ok own) : r.demands ≤ 2 := by
  obtain ⟨-, -, -, hdemands⟩ | ⟨-, t, -, ⟨-, hdemands⟩ | ⟨-, hdemands⟩⟩ :=
    annotations_cases hown
  all_goals omega

lemma isHonored_iff_of_change (hchange : r.change ≠ none) (hown : r.annotations = .ok own)
    (i : Ingress) :
    r.IsHonored i ↔ i.metadata.annotationValue? targetKey = own.get? targetKey ∧
      i.metadata.annotationValue? regexKey = own.get? regexKey := by
  obtain ⟨change, hsome⟩ := Option.ne_none_iff_exists'.1 hchange
  rw [IsHonored, hsome]
  constructor
  · rintro ⟨own', hown', hkeys⟩
    obtain rfl := Except.ok.inj (hown.symm.trans hown')
    exact ⟨hkeys targetKey (by simp), hkeys regexKey (by simp)⟩
  · rintro ⟨htarget, hregex⟩
    refine ⟨own, hown, fun key hkey => ?_⟩
    rcases List.mem_pair.1 hkey with rfl | rfl
    · exact htarget
    · exact hregex

end Route

/-! ## Entries -/

/-- Whether the paths of an ingress are taken for patterns. -/
def Ingress.takesPatterns (i : Ingress) : Bool :=
  (i.metadata.annotationValue? regexKey).any fun v => Text.asciiLower v == "true"

namespace IngressEntry

variable {site : Site} {index : Nat} {e : IngressEntry} {answer : Nested → Run Contribution}
  {i : Ingress}

/-- What an ingress is made of, whatever was warned of on the way. -/
lemma exists_of_build (hbuild : ((e.build site index).run answer).outcome = .ok i) :
    ∃ derived hosts, implied e.routes = .ok derived ∧
      e.hostPaths site i.takesPatterns = .ok hosts ∧
      i.metadata.annotations = (derived.overlay e.annotations).given? ∧
      i.spec.bind (·.rules) = some (hosts.entries.map fun entry => rule entry.1 entry.2) := by
  rw [Plan.run_outcome, build_eval] at hbuild
  obtain ⟨annotations, hannotations, hobject⟩ := bind_eq_ok.1 hbuild
  obtain ⟨derived, hderived, rfl⟩ := sharedAnnotations_eq_ok.1 hannotations
  obtain ⟨hosts, hhosts, hi⟩ := bind_eq_ok.1 hobject
  obtain rfl := Except.ok.inj hi
  rw [← SortedMap.bind_given?] at hhosts
  exact ⟨derived, hosts, hderived, hhosts, rfl, rfl⟩

/-- An annotation of an ingress is the entry's own, or else one that some route asks for. -/
lemma annotationValue?_build
    (hbuild : ((e.build site index).run answer).outcome = .ok i) :
    ∃ m, implied e.routes = .ok m ∧
      ∀ x, i.metadata.annotationValue? x = (e.annotations.get? x).or (m.get? x) := by
  obtain ⟨m, -, hm, -, hannotations, -⟩ := exists_of_build hbuild
  refine ⟨m, hm, fun x => ?_⟩
  rw [Metadata.annotationValue?, hannotations, SortedMap.bind_given?, SortedMap.get?_overlay]

/-- An annotation that an entry leaves to its routes is there if a route asks for it. -/
lemma annotationValue?_eq_some_iff (hbuild : ((e.build site index).run answer).outcome = .ok i)
    {x v : String} (hx : e.annotations.get? x = none) :
    i.metadata.annotationValue? x = some v ↔ ∃ r ∈ e.routes, AskedBy r x v := by
  obtain ⟨m, hm, hvalue⟩ := annotationValue?_build hbuild
  rw [hvalue, hx, Option.none_or, (get?_implied hm).2]

lemma annotationValue?_eq_none_iff (hbuild : ((e.build site index).run answer).outcome = .ok i)
    {x : String} (hx : e.annotations.get? x = none) :
    i.metadata.annotationValue? x = none ↔ ∀ r ∈ e.routes, ¬ ∃ v, AskedBy r x v := by
  rw [Option.eq_none_iff_forall_ne_some]
  simp only [Ne, annotationValue?_eq_some_iff hbuild hx]
  constructor
  · exact fun h r hr ⟨v, hv⟩ => h v ⟨r, hr, hv⟩
  · exact fun h v ⟨r, hr, hv⟩ => h r hr ⟨v, hv⟩

/-- **Which routes get the change they ask for.**  If an entry is accepted whose own annotations
have no say in changes of path, the target is that of every route whose path is changed.  All of
what it asks for a route gets exactly if no route asks for more annotations. -/
theorem isHonored_iff (hbuild : ((e.build site index).run answer).outcome = .ok i)
    (htarget : e.annotations.get? targetKey = none) (hregex : e.annotations.get? regexKey = none)
    {r : Route} (hr : r ∈ e.routes) :
    ∃ own, r.annotations = .ok own ∧
      (r.change ≠ none → i.metadata.annotationValue? targetKey = own.get? targetKey) ∧
      (r.IsHonored i ↔ ∀ r' ∈ e.routes, r'.demands ≤ r.demands) := by
  have howns : ∀ r' ∈ e.routes, ∃ own, r'.annotations = .ok own := by
    obtain ⟨m, hm, -⟩ := annotationValue?_build hbuild
    exact (get?_implied hm).1
  obtain ⟨own, hown⟩ := howns r hr
  refine ⟨own, hown, ?_⟩
  rcases Route.annotations_cases hown with ⟨hchange, -, -, hdemands⟩ |
    ⟨hchange, t, htargetOwn, hrest⟩
  · -- The route asks for nothing, so nobody may ask for a target.
    refine ⟨fun hne => absurd hchange hne, ?_⟩
    rw [Route.IsHonored, hchange, hdemands]
    refine (annotationValue?_eq_none_iff hbuild htarget).trans (forall₂_congr fun r' hr' => ?_)
    obtain ⟨own', hown'⟩ := howns r' hr'
    rw [Route.exists_askedBy_target hown', Nat.not_lt]
  · have htargetValue : i.metadata.annotationValue? targetKey = own.get? targetKey := by
      rw [htargetOwn]
      exact (annotationValue?_eq_some_iff hbuild htarget).2 ⟨r, hr, own, hown, htargetOwn⟩
    refine ⟨fun _ => htargetValue, ?_⟩
    rw [Route.isHonored_iff_of_change hchange hown, and_iff_right htargetValue]
    rcases hrest with ⟨hregexOwn, hdemands⟩ | ⟨hregexOwn, hdemands⟩
    · -- It asks for a target only, so nobody may ask for patterns.
      rw [hregexOwn, hdemands]
      refine (annotationValue?_eq_none_iff hbuild hregex).trans (forall₂_congr fun r' hr' => ?_)
      obtain ⟨own', hown'⟩ := howns r' hr'
      rw [Route.exists_askedBy_regex hown', Nat.not_lt]
    · rw [hregexOwn, hdemands]
      have hregexValue : i.metadata.annotationValue? regexKey = some "true" :=
        (annotationValue?_eq_some_iff hbuild hregex).2 ⟨r, hr, own, hown, hregexOwn⟩
      refine iff_of_true hregexValue fun r' hr' => ?_
      obtain ⟨own', hown'⟩ := howns r' hr'
      exact Route.demands_le_two hown'

/-- A route whose path is replaced. -/
def replacedRoute : Route where
  path := "/a"
  backend := { serviceName := "web" }
  change := some { type := "replace", replacement := "/x" }

/-- A route whose path is to stay as it is. -/
def plainRoute : Route where
  path := "/b"
  backend := { serviceName := "web" }

/-- An entry with both. -/
def mixedEntry : IngressEntry where
  routes := [replacedRoute, plainRoute]

/-- The component's own container, where nothing is set. -/
def mixedSite : Site where
  settings := {}
  component := { name := "web" }
  target := "web"

/-- The route that asks for most gets it. -/
theorem isHonored_iff_mixed :
    ∃ i, ((mixedEntry.build mixedSite 0).run fun _ => ⟨[], .ok .empty⟩).outcome = .ok i ∧
      replacedRoute.IsHonored i := by
  have hbuild : ((mixedEntry.build mixedSite 0).run fun _ => ⟨[], .ok .empty⟩).outcome =
      .ok _ := rfl
  have hfirst : replacedRoute ∈ mixedEntry.routes := List.mem_cons_self
  obtain ⟨own, -, -, hiff⟩ := isHonored_iff hbuild rfl rfl hfirst
  refine ⟨_, hbuild, hiff.2 ?_⟩
  decide

/-- A route without a change of path is sent elsewhere because of the other route. -/
theorem plain_route_changed :
    ∃ i, ((mixedEntry.build mixedSite 0).run fun _ => ⟨[], .ok .empty⟩).outcome = .ok i ∧
      mixedEntry.annotations.get? targetKey = none ∧
      mixedEntry.annotations.get? regexKey = none ∧
      plainRoute ∈ mixedEntry.routes ∧ plainRoute.change = none ∧
      i.metadata.annotationValue? targetKey = some "/x" ∧ ¬ plainRoute.IsHonored i := by
  have hplain : plainRoute ∈ mixedEntry.routes := List.mem_cons_of_mem _ List.mem_cons_self
  refine ⟨_, rfl, rfl, rfl, hplain, rfl, rfl, ?_⟩
  exact Option.some_ne_none "/x"

end IngressEntry

end WorkloadTraits
