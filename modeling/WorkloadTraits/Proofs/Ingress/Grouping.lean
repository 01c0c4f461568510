import WorkloadTraits.Proofs.Contribution.Regrouping
import WorkloadTraits.Proofs.Ingress.Changes
import WorkloadTraits.Proofs.Text.Trimming

/-!
# Routes under their hosts

The routes of an entry are written into its ingress host by host.  A route can have a host of its
own; the others are for all hosts of the entry, of which the same may be given twice, or for every
host, which is written like the host without a name.  So the routes spread to a list of pairs
(`IngressEntry.spread`), and the rules of the ingress are nothing but these pairs, brought together
by their hosts: none is lost, and among those of one host the order stays
(`IngressEntry.rules_build`).

Two lemmas say what a routing is that values were pushed to one after the other: its names are the
first of each (`Routing.names_pushAll`), and under each name there are the values that came with it
(`Routing.get_pushAll`).
-/

namespace WorkloadTraits

/-! ## Pushing values -/

namespace Routing

variable {α : Type}

/-- The routing with some values pushed to it, each under its name. -/
def pushAll (hosts : Routing α) (pairs : List (String × α)) : Routing α :=
  pairs.foldl (fun hosts pair => hosts.push pair.1 pair.2) hosts

lemma pushAll_append (hosts : Routing α) (pairs more : List (String × α)) :
    hosts.pushAll (pairs ++ more) = (hosts.pushAll pairs).pushAll more :=
  List.foldl_append

lemma names_pushAll (hosts : Routing α) (pairs : List (String × α)) :
    (hosts.pushAll pairs).names = appendNew id hosts.names (pairs.map Prod.fst) := by
  induction pairs generalizing hosts with
  | nil => rfl
  | cons pair rest ih =>
      rw [pushAll, List.foldl_cons, ← pushAll, ih, push, names_update, List.map_cons,
        appendNew_cons, List.map_id, id_eq]
      split <;> rfl

lemma get_pushAll (hosts : Routing α) (pairs : List (String × α)) (x : String) :
    (hosts.pushAll pairs).get x =
      hosts.get x ++ (pairs.filter (·.1 = x)).map Prod.snd := by
  induction pairs generalizing hosts with
  | nil => exact (List.append_nil _).symm
  | cons pair rest ih =>
      rw [pushAll, List.foldl_cons, ← pushAll, ih, get_push]
      by_cases hx : x = pair.1
      · subst hx
        rw [if_pos rfl, List.filter_cons, if_pos (decide_eq_true rfl), List.map_cons,
          List.append_assoc, List.singleton_append]
      · rw [if_neg hx, List.filter_cons, if_neg (fun h => hx (of_decide_eq_true h).symm)]

end Routing

section First

variable {α : Type} [DecidableEq α]

lemma mem_firsts_id {as : List α} {a : α} : a ∈ firsts id [] as ↔ a ∈ as := by
  have hmem : a ∈ (firsts id [] as).map id ↔ a ∈ as.map id ∧ a ∉ [] := mem_map_firsts
  rwa [List.map_id, List.map_id, and_iff_left List.not_mem_nil] at hmem

/-- Each value of a list is counted with the first that is equal to it. -/
lemma sum_count_firsts (as : List α) :
    ((firsts id [] as).map fun a => as.count a).sum = as.length := by
  have hnodup := nodup_map_firsts id [] as
  rw [List.map_id] at hnodup
  have hperm : (firsts id [] as).Perm as.dedup := by
    rw [List.perm_ext_iff_of_nodup hnodup as.nodup_dedup]
    intro a
    rw [mem_firsts_id, List.mem_dedup]
  rw [(hperm.map _).sum_eq, List.sum_map_count_dedup_eq_length]

end First

lemma Text.given?_injective : Function.Injective Text.given? := by
  have hleft : Function.LeftInverse (·.getD "") Text.given? := by
    intro s
    unfold Text.given?
    split
    · rename_i hempty
      exact (String.isEmpty_iff.1 hempty).symm
    · rfl
  exact hleft.injective

/-! ## The routes and their hosts -/

/-- The paths of a rule. -/
def IngressRule.pathList (rule : IngressRule) : List IngressPath := rule.paths.getD []

namespace IngressEntry

/-- The routes of an entry with their hosts: a route is for its own host, or else for those of the
entry, or else for every host, which goes by the empty name. -/
def spread (e : IngressEntry) : List (String × Route) :=
  e.routes.flatMap fun r =>
    if Text.isBlankText r.host then
      match e.hosts with
      | [] => [("", r)]
      | hosts => hosts.map fun host => (host, r)
    else [(Text.trim r.host, r)]

/-- A path is the one that a route is to be written as. -/
structure IsPathOf (site : Site) (e : IngressEntry) (regex : Bool) (r : Route)
    (p : IngressPath) : Prop where
  path : p.path = some r.writtenPath
  type : pathType r.pathType e.defaultPathType regex = .ok p.pathType
  /-- The service is the component's own unless the route names one, and its port is 80 unless the
  route has a positive number. -/
  service : p.service = some {
    name := if Text.isBlankText r.backend.serviceName then site.component.name
      else Text.trim r.backend.serviceName
    portNumber := some (if 0 < r.backend.servicePort then r.backend.servicePort else 80) }

variable {site : Site} {index : Nat} {e : IngressEntry} {regex : Bool}

lemma spread_eq : e.spread = e.routes.flatMap fun r => (e.hostsOf r).map fun host => (host, r) := by
  refine List.flatMap_congr fun r _ => ?_
  rw [hostsOf]
  cases Text.isBlankText r.host with
  | false => rfl
  | true => cases e.hosts <;> rfl

/-- No route is left without a host. -/
lemma exists_mem_spread {r : Route} (hr : r ∈ e.routes) : ∃ host, (host, r) ∈ e.spread := by
  obtain ⟨host, hhost⟩ : ∃ host, host ∈ e.hostsOf r := by
    unfold hostsOf
    split
    · exact ⟨_, List.mem_cons_self⟩
    · split
      · exact ⟨_, List.mem_cons_self⟩
      · rename_i hgiven
        exact List.exists_mem_of_ne_nil _ fun hnone => hgiven (List.isEmpty_iff.2 hnone)
  rw [spread_eq]
  exact ⟨host, List.mem_flatMap.2 ⟨r, hr, List.mem_map_of_mem hhost⟩⟩

lemma isPathOf_of_pathOf {r : Route} {p : IngressPath} (h : e.pathOf site regex r = .ok p) :
    e.IsPathOf site regex r p := by
  obtain ⟨type, htype, hp⟩ := bind_eq_ok.1 h
  obtain rfl := Except.ok.inj hp
  refine ⟨rfl, htype, ?_⟩
  rw [← Text.firstNonEmpty_trim]

/-- A route is written for its host. -/
def WrittenAs (site : Site) (e : IngressEntry) (regex : Bool) (pair : String × Route)
    (q : String × IngressPath) : Prop :=
  pair.1 = q.1 ∧ e.IsPathOf site regex pair.2 q.2

/-- What has been pushed is one path for each pair. -/
lemma written_of_hostPaths {hosts : Routing IngressPath}
    (h : e.hostPaths site regex = .ok hosts) :
    ∃ pairs, List.Forall₂ (e.WrittenAs site regex) e.spread pairs ∧
      hosts = Routing.empty.pushAll pairs := by
  rw [spread_eq]
  unfold hostPaths at h
  -- By induction on the routes, whatever has been pushed for those before.
  generalize e.routes = routes at h ⊢
  generalize Routing.empty = start at h ⊢
  induction routes generalizing start with
  | nil =>
      obtain rfl := Except.ok.inj h
      exact ⟨[], .nil, rfl⟩
  | cons r rest ih =>
      rw [List.foldlM_cons] at h
      obtain ⟨next, hstep, hrest⟩ := bind_eq_ok.1 h
      obtain ⟨p, hp, hnext⟩ := bind_eq_ok.1 hstep
      obtain rfl := Except.ok.inj hnext
      obtain ⟨pairs, hpairs, rfl⟩ := ih _ hrest
      refine ⟨(e.hostsOf r).map (·, p) ++ pairs, ?_, ?_⟩
      · rw [List.flatMap_cons]
        refine List.rel_append ?_ hpairs
        rw [List.forall₂_map_left_iff, List.forall₂_map_right_iff, List.forall₂_same]
        exact fun host _ => ⟨rfl, isPathOf_of_pathOf hp⟩
      · have hpushed : (e.hostsOf r).foldl (fun hosts host => hosts.push host p) start =
            start.pushAll ((e.hostsOf r).map (·, p)) := by
          rw [Routing.pushAll, List.foldl_map]
        rw [hpushed, Routing.pushAll_append]

lemma map_fst_written {pairs : List (String × IngressPath)}
    (h : List.Forall₂ (e.WrittenAs site regex) e.spread pairs) :
    e.spread.map Prod.fst = pairs.map Prod.fst := by
  rw [← List.forall₂_eq_eq_eq, List.forall₂_map_left_iff, List.forall₂_map_right_iff]
  exact h.imp fun _ _ hpair => hpair.1

/-- The paths under a host are those of the pairs of this host. -/
lemma forall₂_get_pushAll {pairs : List (String × IngressPath)}
    (h : List.Forall₂ (e.WrittenAs site regex) e.spread pairs) (host : String) :
    List.Forall₂ (fun pair p => e.IsPathOf site regex pair.2 p) (e.spread.filter (·.1 = host))
      ((Routing.empty.pushAll pairs).get host) := by
  have hsame : ∀ ⦃pair q⦄, e.WrittenAs site regex pair q →
      (decide (pair.1 = host) = true ↔ decide (q.1 = host) = true) := by
    intro pair q hpair
    rw [hpair.1]
  rw [Routing.get_pushAll, Routing.get_empty, List.nil_append, List.forall₂_map_right_iff]
  exact (List.rel_filter hsame h).imp fun _ _ hpair => hpair.2

/-! ## Rules -/

variable {answer : Nested → Run Contribution} {i : Ingress}

/-- The rules of an accepted entry, host by host. -/
lemma exists_groups (hbuild : ((e.build site index).run answer).outcome = .ok i) :
    ∃ hosts : Routing IngressPath,
      i.spec.bind (·.rules) = some (hosts.names.map fun host => rule host (hosts.get host)) ∧
      hosts.names = firsts id [] (e.spread.map Prod.fst) ∧
      ∀ host, List.Forall₂ (fun pair p => e.IsPathOf site i.takesPatterns pair.2 p)
        (e.spread.filter (·.1 = host)) (hosts.get host) := by
  obtain ⟨-, hosts, -, hhosts, -, hrules⟩ := exists_of_build hbuild
  obtain ⟨pairs, hpairs, rfl⟩ := written_of_hostPaths hhosts
  refine ⟨Routing.empty.pushAll pairs, ?_, ?_, forall₂_get_pushAll hpairs⟩
  · rw [hrules, Routing.entries_eq, List.map_map]
    rfl
  · rw [Routing.names_pushAll, appendNew_eq, map_fst_written hpairs]
    rfl

/-- **Grouping loses no route.**  The hosts of an accepted entry stand each once, in the order in
which they come up, and the host without a name is written as none.  The paths of a host are those
of the routes for it, in their order and as often as they are for it.  So every route is found under
some host, and there are as many paths as there are pairs of a host and a route. -/
theorem rules_build (hbuild : ((e.build site index).run answer).outcome = .ok i) :
    ∃ rules, i.spec.bind (·.rules) = some rules ∧
      rules.map (·.host) = (firsts id [] (e.spread.map Prod.fst)).map Text.given? ∧
      (rules.map (·.host)).Nodup ∧
      (∀ rule ∈ rules, rule.paths = some rule.pathList ∧
        List.Forall₂ (fun pair p => e.IsPathOf site i.takesPatterns pair.2 p)
          (e.spread.filter fun pair => Text.given? pair.1 = rule.host) rule.pathList) ∧
      (∀ r ∈ e.routes, ∃ rule ∈ rules, ∃ p ∈ rule.pathList,
        e.IsPathOf site i.takesPatterns r p) ∧
      (rules.map (·.pathList.length)).sum = e.spread.length := by
  obtain ⟨hosts, hrules, hnames, hpaths⟩ := exists_groups hbuild
  have hgroup : ∀ host, List.Forall₂ (fun pair p => e.IsPathOf site i.takesPatterns pair.2 p)
      (e.spread.filter fun pair => Text.given? pair.1 = Text.given? host) (hosts.get host) := by
    intro host
    simp only [Text.given?_injective.eq_iff]
    exact hpaths host
  refine ⟨_, hrules, ?_, ?_, ?_, ?_, ?_⟩
  · rw [List.map_map, ← hnames]
    rfl
  · rw [List.map_map]
    exact hosts.nodup.map Text.given?_injective
  · intro rule hrule
    obtain ⟨host, -, rfl⟩ := List.mem_map.1 hrule
    exact ⟨rfl, hgroup host⟩
  · intro r hr
    obtain ⟨host, hmem⟩ := exists_mem_spread hr
    have hname : host ∈ hosts.names := by
      rw [hnames, mem_firsts_id]
      exact List.mem_map_of_mem hmem
    obtain ⟨p, hp, hpath⟩ := exists_of_mem_forall₂ (hgroup host).flip
      (List.mem_filter.2 ⟨hmem, decide_eq_true rfl⟩)
    exact ⟨_, List.mem_map_of_mem hname, p, hp, hpath⟩
  · have hlength : ∀ host, (hosts.get host).length = (e.spread.map Prod.fst).count host := by
      intro host
      rw [← (hpaths host).length_eq, List.count_eq_countP, List.countP_map,
        List.countP_eq_length_filter]
      rfl
    rw [List.map_map, hnames]
    refine (congrArg List.sum (List.map_congr_left fun host _ => hlength host)).trans ?_
    rw [sum_count_firsts, List.length_map]

/-- An entry that gives a host twice and every host once, with a route for a host of its own, one
for all hosts of the entry, and one for a host that is among them. -/
def spreadEntry : IngressEntry where
  hosts := ["shop.example", "", "shop.example"]
  routes := [
    { path := "/admin", host := " admin.example ", pathType := "Exact" },
    { path := "/", backend := { serviceName := "front", servicePort := 8080 } },
    { path := "/cart", host := "shop.example" }]

theorem rules_build_spread :
    ∃ i rules, ((spreadEntry.build mixedSite 0).run fun _ => ⟨[], .ok .empty⟩).outcome = .ok i ∧
      i.spec.bind (·.rules) = some rules ∧
      rules.map (·.host) = [some "admin.example", some "shop.example", none] ∧
      (rules.map (·.pathList.length)).sum = 5 := by
  have hbuild : ((spreadEntry.build mixedSite 0).run fun _ => ⟨[], .ok .empty⟩).outcome =
      .ok _ := rfl
  obtain ⟨rules, hrules, hhosts, -, -, -, hcount⟩ := rules_build hbuild
  refine ⟨_, rules, hbuild, hrules, hhosts.trans ?_, hcount⟩
  decide

end IngressEntry

end WorkloadTraits
