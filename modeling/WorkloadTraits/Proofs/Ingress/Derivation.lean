import WorkloadTraits.Proofs.Ingress.Grouping

/-!
# What the routes make of the annotations and the paths

The changes of path that the routes of an entry ask for are read twice: once for the annotations of
the ingress, where an unsound change is refused, and once for the paths, where it is passed over in
silence.  Both agree, because an entry with an unsound change is never written at all.

The annotations are collected route by route, and each is compared with what was collected before.
Still the order of the routes does not matter, neither for the outcome nor for whether there is
one: it is all said in terms of the routes that there are (`IngressEntry.derivation`).
-/

namespace WorkloadTraits

open PathChange

/-! ## Annotations -/

namespace Route

variable {r : Route}

/-- The target that a sound change derives. -/
lemma askedBy_targetKey_iff (hsound : r.ChangeSound) {t : String} :
    AskedBy r targetKey t ↔ r.target? = some t := by
  obtain ⟨own, hown⟩ := exists_annotations hsound
  rw [askedBy_iff hown, SortedMap.get?]
  obtain ⟨-, ⟨hchange, hentries⟩ | ⟨change, kind, target, -, -, htarget, hentries⟩⟩ :=
    annotations_eq_ok.1 hown
  · rw [hentries, target?_of_change hchange]
    rfl
  · rw [hentries, htarget]
    cases kind <;> rw [impliedBy, List.lookup_cons_self]

end Route

namespace PathChange

lemma implied_of_same_routes {routes routes' : List Route} (h : ∀ r, r ∈ routes ↔ r ∈ routes')
    {m : StringMap} (hm : implied routes = .ok m) : implied routes' = .ok m := by
  obtain ⟨m', hm'⟩ : ∃ m', implied routes' = .ok m' := by
    have hsucceeds := implied_succeeds.1 ⟨m, hm⟩
    simp only [h] at hsucceeds
    exact implied_succeeds.2 hsucceeds
  have hsame : m' = m := by
    refine SortedMap.ext_get? fun x => Option.ext fun v => ?_
    rw [(get?_implied hm').2, (get?_implied hm).2]
    simp only [h]
  rw [hm', hsame]

/-- Neither the order of the routes nor how often they are given matters for what they imply. -/
theorem implied_congr {routes routes' : List Route} (h : ∀ r, r ∈ routes ↔ r ∈ routes')
    {m : StringMap} : implied routes = .ok m ↔ implied routes' = .ok m :=
  ⟨implied_of_same_routes h, implied_of_same_routes fun r => (h r).symm⟩

end PathChange

/-! ## Paths -/

namespace Route

/-- The path of a route without blanks; a route without one is for every path. -/
def ownPath (r : Route) : String :=
  if Text.isBlankText r.path then "/" else Text.trim r.path

/-- The path with which a route is to be written, by how its path is changed. -/
inductive Prescribes (r : Route) : String → Prop
  /-- Without a change of path it is the route's own. -/
  | kept (h : r.change = none) : Prescribes r r.ownPath
  | replaced {change : PathChange} (h : r.change = some change)
      (hkind : change.kind = .ok .replace) : Prescribes r r.ownPath
  /-- Where the front of the path is changed, what follows it is kept by a group. -/
  | grouped {change : PathChange} {base : String} {slashes : Nat} (h : r.change = some change)
      (hkind : change.kind = .ok .lead) (hbase : base ≠ "")
      (hlast : base.toList.getLast? ≠ some '/')
      (hpath : r.ownPath = base ++ String.ofList (List.replicate slashes '/')) :
      Prescribes r (base ++ "(/|$)(.*)")
  | root {change : PathChange} {slashes : Nat} (h : r.change = some change)
      (hkind : change.kind = .ok .lead)
      (hpath : r.ownPath = String.ofList (List.replicate slashes '/')) :
      Prescribes r "/()(.*)"
  /-- The pattern takes the place of the path. -/
  | matched {change : PathChange} (h : r.change = some change)
      (hkind : change.kind = .ok .pattern) (hgiven : Text.isBlankText change.pattern = false) :
      Prescribes r (Text.trim change.pattern)

lemma givenPath_eq (r : Route) : r.givenPath = r.ownPath :=
  Text.firstNonEmpty_trim r.path "/"

/-- A route whose change of path is sound is written with the path that is prescribed. -/
lemma prescribes_writtenPath {r : Route} (hsound : r.ChangeSound) :
    r.Prescribes r.writtenPath := by
  rw [writtenPath, givenPath_eq]
  cases hchange : r.change with
  | none => exact .kept hchange
  | some change =>
      obtain ⟨kind, hkind, -, hpattern⟩ := hsound change hchange
      simp only [hkind]
      cases kind with
      | replace => exact .replaced hchange hkind
      | lead =>
          obtain ⟨n, hpath, hlast⟩ := Text.exists_dropTrailingChar '/' r.ownPath
          rw [groupedPath]
          by_cases hbase : Text.dropTrailingChar '/' r.ownPath = ""
          · rw [hbase, String.empty_append] at hpath
            rw [hbase]
            exact .root hchange hkind hpath
          · rw [if_neg fun hempty => hbase (String.isEmpty_iff.1 hempty)]
            exact .grouped hchange hkind hbase hlast hpath
      | pattern =>
          obtain ⟨hgiven, -⟩ := hpattern rfl
          rw [Text.firstNonEmpty_trim, hgiven]
          exact .matched hchange hkind hgiven

/-- Nothing but the path that is written is prescribed. -/
lemma Prescribes.eq_writtenPath {r : Route} {path : String} (h : r.Prescribes path) :
    path = r.writtenPath := by
  rw [writtenPath, givenPath_eq]
  cases h with
  | kept hchange => rw [hchange]
  | replaced hchange hkind => simp only [hchange, hkind]
  | @grouped change base n hchange hkind hbase hlast hpath =>
      simp only [hchange, hkind]
      rw [groupedPath, hpath, Text.dropTrailingChar_append hlast n,
        if_neg fun hempty => hbase (String.isEmpty_iff.1 hempty)]
  | @root change n hchange hkind hpath =>
      have hnone : "".toList.getLast? ≠ some '/' := nofun
      have hdrop := Text.dropTrailingChar_append hnone n
      rw [String.empty_append, ← hpath] at hdrop
      simp only [hchange, hkind]
      rw [groupedPath, hdrop]
      rfl
  | matched hchange hkind hgiven =>
      simp only [hchange, hkind]
      rw [Text.firstNonEmpty_trim, hgiven]
      rfl

/-- A route whose change of path is sound has one path prescribed, and is written with it. -/
lemma prescribes_iff {r : Route} (hsound : r.ChangeSound) {path : String} :
    r.Prescribes path ↔ path = r.writtenPath :=
  ⟨Prescribes.eq_writtenPath, fun h => h ▸ prescribes_writtenPath hsound⟩

end Route

/-! ## Entries -/

namespace IngressEntry

variable {e : IngressEntry}

lemma mem_routes_of_mem_spread {pair : String × Route} (h : pair ∈ e.spread) :
    pair.2 ∈ e.routes := by
  rw [spread_eq] at h
  obtain ⟨r, hr, hpair⟩ := List.mem_flatMap.1 h
  obtain ⟨host, -, rfl⟩ := List.mem_map.1 hpair
  exact hr

lemma sharedAnnotations_succeeds :
    (∃ m, e.sharedAnnotations = .ok m) ↔
      (∀ r ∈ e.routes, r.ChangeSound) ∧
        ∀ r ∈ e.routes, ∀ r' ∈ e.routes, ∀ t t',
          AskedBy r targetKey t → AskedBy r' targetKey t' → t = t' := by
  rw [exists_sharedAnnotations]
  refine and_congr_right fun hsound => forall₂_congr fun r hr => forall₂_congr fun r' hr' => ?_
  simp only [Route.askedBy_targetKey_iff (hsound r hr), Route.askedBy_targetKey_iff (hsound r' hr')]

lemma get?_sharedAnnotations {m : StringMap} (h : e.sharedAnnotations = .ok m) (x v : String) :
    m.get? x = some v ↔ e.annotations.get? x = some v ∨
      e.annotations.get? x = none ∧ ∃ r ∈ e.routes, AskedBy r x v := by
  obtain ⟨derived, hderived, rfl⟩ := sharedAnnotations_eq_ok.1 h
  rw [SortedMap.get?_overlay, Option.or_eq_some_iff, (get?_implied hderived).2]

lemma sharedAnnotations_perm {routes : List Route} (h : routes.Perm e.routes) {m : StringMap} :
    { e with routes }.sharedAnnotations = .ok m ↔ e.sharedAnnotations = .ok m := by
  rw [sharedAnnotations_eq_ok, sharedAnnotations_eq_ok]
  exact exists_congr fun derived => and_congr_left fun _ => implied_congr fun r => h.mem_iff

/-- **What the routes make of the annotations and the paths.**  The annotations of an entry can be
made exactly if each route's change of path is sound by itself and no two of them derive different
targets.  Its own annotations win, and the others are those that some route asks for; the order of
the routes has no say in this.  And if the ingress of an entry is made, it has these annotations,
and every path in it is the one that is prescribed for its route. -/
theorem derivation (e : IngressEntry) :
    ((∃ m, e.sharedAnnotations = .ok m) ↔
      (∀ r ∈ e.routes, r.ChangeSound) ∧
        ∀ r ∈ e.routes, ∀ r' ∈ e.routes, ∀ t t',
          AskedBy r targetKey t → AskedBy r' targetKey t' → t = t') ∧
    (∀ m, e.sharedAnnotations = .ok m → ∀ x v,
      m.get? x = some v ↔ e.annotations.get? x = some v ∨
        e.annotations.get? x = none ∧ ∃ r ∈ e.routes, AskedBy r x v) ∧
    (∀ routes, routes.Perm e.routes → ∀ m,
      { e with routes }.sharedAnnotations = .ok m ↔ e.sharedAnnotations = .ok m) ∧
    ∀ site index answer i, ((e.build site index).run answer).outcome = .ok i →
      (∃ m, e.sharedAnnotations = .ok m ∧ i.metadata.annotations = m.given?) ∧
      ∀ rules, i.spec.bind (·.rules) = some rules → ∀ rule ∈ rules,
        List.Forall₂ (fun pair p => ∀ path, p.path = some path ↔ pair.2.Prescribes path)
          (e.spread.filter fun pair => Text.given? pair.1 = rule.host) rule.pathList := by
  refine ⟨sharedAnnotations_succeeds, fun m => get?_sharedAnnotations,
    fun routes hperm m => sharedAnnotations_perm hperm, ?_⟩
  intro site index answer i hbuild
  obtain ⟨hosts, hrules, -, hpaths⟩ := exists_groups hbuild
  have hshared : ∃ m, e.sharedAnnotations = .ok m ∧ i.metadata.annotations = m.given? := by
    obtain ⟨derived, -, hderived, -, hannotations, -⟩ := exists_of_build hbuild
    exact ⟨_, sharedAnnotations_eq_ok.2 ⟨derived, hderived, rfl⟩, hannotations⟩
  refine ⟨hshared, fun rules hgiven rule hrule => ?_⟩
  obtain rfl := Option.some.inj (hrules.symm.trans hgiven)
  obtain ⟨host, -, rfl⟩ := List.mem_map.1 hrule
  obtain ⟨hsound, -⟩ := sharedAnnotations_succeeds.1 (hshared.imp fun m hm => hm.1)
  have hroutes : ∀ pair ∈ e.spread.filter (·.1 = host), pair.2.ChangeSound :=
    fun pair hpair => hsound _ (mem_routes_of_mem_spread (List.mem_filter.1 hpair).1)
  have hprescribed := (List.forall₂_and_left _ _).2 ⟨hroutes, hpaths host⟩
  simp only [rule, Text.given?_injective.eq_iff]
  refine hprescribed.imp fun pair p hpair path => ?_
  rw [Route.prescribes_iff hpair.1, hpair.2.path, Option.some.injEq, eq_comm]

/-- A route whose path is changed in front, with slashes at the end of the path. -/
def slashedRoute : Route where
  path := " /api// "
  change := some { type := "Prefix", replacement := "/" }

/-- An entry with routes of several kinds that agree on one target. -/
def agreeingEntry : IngressEntry where
  annotations := .ofList [(regexKey, "True")]
  routes := [
    slashedRoute,
    { path := "//", change := some { type := "prefix" } },
    { change := some { type := "regex", pattern := " /old/(a|b)/(.*) ", replacement := "/$2" } },
    { path := "/docs" }]

theorem derivation_agreeing :
    ∃ m i, agreeingEntry.sharedAnnotations = .ok m ∧
      { agreeingEntry with routes := agreeingEntry.routes.reverse }.sharedAnnotations = .ok m ∧
      m.get? targetKey = some "/$2" ∧ m.get? regexKey = some "True" ∧
      ((agreeingEntry.build mixedSite 0).run fun _ => ⟨[], .ok .empty⟩).outcome = .ok i ∧
      i.metadata.annotations = m.given? ∧
      ∀ rules, i.spec.bind (·.rules) = some rules → ∀ rule ∈ rules, rule.host = none →
        ∃ p ∈ rule.pathList, p.path = some "/api(/|$)(.*)" := by
  obtain ⟨-, hget, hperm, hbuilt⟩ := derivation agreeingEntry
  have hbuild : ((agreeingEntry.build mixedSite 0).run fun _ => ⟨[], .ok .empty⟩).outcome =
      .ok _ := rfl
  obtain ⟨⟨m, hm, hannotations⟩, hpaths⟩ := hbuilt mixedSite 0 _ _ hbuild
  have hasked : AskedBy slashedRoute targetKey "/$2" := ⟨_, rfl, rfl⟩
  refine ⟨m, _, hm, (hperm _ (List.reverse_perm _) m).2 hm, ?_, ?_, hbuild, hannotations, ?_⟩
  · exact (hget m hm _ _).2 (.inr ⟨rfl, slashedRoute, List.mem_cons_self, hasked⟩)
  · exact (hget m hm _ _).2 (.inl rfl)
  · intro rules hrules rule hrule hhost
    have hroute : ("", slashedRoute) ∈
        agreeingEntry.spread.filter fun pair => Text.given? pair.1 = rule.host := by
      rw [hhost]
      exact List.mem_cons_self
    obtain ⟨p, hp, hpath⟩ := exists_of_mem_forall₂ (hpaths rules hrules rule hrule).flip hroute
    have hslashes : slashedRoute.ownPath = "/api" ++ String.ofList (List.replicate 2 '/') := rfl
    have hprescribed : slashedRoute.Prescribes ("/api" ++ "(/|$)(.*)") :=
      .grouped rfl rfl (by decide) (by decide) hslashes
    exact ⟨p, hp, (hpath _).2 hprescribed⟩

end IngressEntry

end WorkloadTraits
