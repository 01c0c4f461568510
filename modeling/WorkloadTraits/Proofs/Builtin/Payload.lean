import WorkloadTraits.Proofs.Builtin.Level

/-!
# The payload of the component

A processor is given the traits that it is to process, and besides these the component that they
belong to, with its whole payload.  The built-in processors take name, namespace and labels from the
component and never look at the payload, so what they do to the same traits is the same for
components that differ in their payloads alone.
-/

namespace WorkloadTraits

/-- The component with another payload. -/
def Component.withPayload (c : Component) (payload : Option Json) : Component :=
  { c with traits := payload }

/-- The same container of the component with another payload. -/
def Site.withPayload (s : Site) (payload : Option Json) : Site :=
  { s with component := s.component.withPayload payload }

variable (s : Site) (payload : Option Json)

lemma Storage.parts_withPayload (index : Nat) (seen : List String) (entries : List StorageEntry) :
    parts (s.withPayload payload) index seen entries = parts s index seen entries := by
  induction entries generalizing index seen with
  | nil => rfl
  | cons e rest ih =>
      rw [parts, parts]
      simp only [ih]
      rfl

lemma Access.objects_withPayload (index : Nat) (policies : List AccessPolicy) :
    objects (s.withPayload payload) index policies = objects s index policies := by
  induction policies generalizing index with
  | nil => rfl
  | cons p rest ih =>
      rw [objects, objects, ih]
      rfl

lemma Ingresses.objects_withPayload (index : Nat) (entries : List (Option IngressEntry)) :
    objects (s.withPayload payload) index entries = objects s index entries := by
  induction entries generalizing index with
  | nil => rfl
  | cons e? rest ih =>
      cases e? with
      | none => rfl
      | some e =>
          rw [objects, objects, ih]
          rfl

lemma Containers.checkSidecars_withPayload (index : Nat) (entries : List (SidecarEntry Traits)) :
    checkSidecars (s.withPayload payload) index entries = checkSidecars s index entries := by
  induction entries generalizing index with
  | nil => rfl
  | cons e rest ih =>
      rw [checkSidecars, checkSidecars, ih]
      rfl

variable {s payload}

/-- What the processors that add no containers do does not depend on the payload, nor on anything
else but the container and the data. -/
theorem process_withPayload {k : TraitKind} (hinit : k ≠ .init) (hsidecar : k ≠ .sidecar)
    {a b : Context} (hsite : b.toSite = a.toSite.withPayload payload) (hdata : b.data = a.data) :
    (builtinProcessor k).process b = (builtinProcessor k).process a := by
  obtain ⟨site, workload, data, depth, barred⟩ := a
  obtain ⟨site', workload', data', depth', barred'⟩ := b
  obtain rfl : site' = site.withPayload payload := hsite
  obtain rfl : data' = data := hdata
  cases k <;> cases data'
  case init.init => exact absurd rfl hinit
  case sidecar.sidecar => exact absurd rfl hsidecar
  case storage.storage entries =>
    have hparts := Storage.parts_withPayload site payload 0 [] entries
    simp only [builtinProcessor, Storage.processor, Storage.contribution, hparts]
    rfl
  case rbac.rbac policies =>
    have hobjects := Access.objects_withPayload site payload 0 policies
    simp only [builtinProcessor, Access.processor, Access.contribution, hobjects]
    rfl
  case ingress.ingress entries =>
    have hobjects := Ingresses.objects_withPayload site payload 0 entries
    simp only [builtinProcessor, Ingresses.processor, hobjects]
  all_goals rfl

end WorkloadTraits
