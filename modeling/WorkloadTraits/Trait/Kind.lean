import WorkloadTraits.Text.Blank
import WorkloadTraits.Text.Lowercase

/-!
# Kinds of traits

A payload holds ten kinds of traits.  Each has one name, under which it stands in the payload and
in messages, and some other spellings that are understood where a person names a kind.  Nested
payloads may be barred from some kinds; a `KindSet` says from which.
-/

namespace WorkloadTraits

/-- A kind of trait. -/
inductive TraitKind
  | storage
  | secret
  | envFrom
  | envs
  | resources
  | probes
  | rbac
  | init
  | sidecar
  | ingress
deriving DecidableEq

namespace TraitKind

/-- The ten kinds, in the order in which they are processed. -/
def all : List TraitKind :=
  [storage, secret, envFrom, envs, resources, probes, rbac, init, sidecar, ingress]

theorem mem_all (k : TraitKind) : k ∈ all := by
  cases k <;> decide

/-- The name of a kind. -/
def name : TraitKind → String
  | storage => "storage"
  | secret => "secret"
  | envFrom => "envFrom"
  | envs => "envs"
  | resources => "resources"
  | probes => "probes"
  | rbac => "rbac"
  | init => "init"
  | sidecar => "sidecar"
  | ingress => "ingress"

/-- The name of a kind as a heading. -/
def title : TraitKind → String
  | storage => "Storage"
  | secret => "Secret"
  | envFrom => "EnvFrom"
  | envs => "Envs"
  | resources => "Resources"
  | probes => "Probes"
  | rbac => "Rbac"
  | init => "Init"
  | sidecar => "Sidecar"
  | ingress => "Ingress"

/-- Every spelling of a kind, in lower case. -/
def spellings : TraitKind → List String
  | storage => ["storage", "volumes"]
  | secret => ["secret", "secrets"]
  | envFrom => ["envfrom"]
  | envs => ["envs", "env"]
  | resources => ["resources", "resource"]
  | probes => ["probes", "probe"]
  | rbac => ["rbac"]
  | init => ["init", "initcontainers"]
  | sidecar => ["sidecar", "sidecars"]
  | ingress => ["ingress", "ingresses"]

/-- A keyword without the blanks around it and in lower case. -/
def keyword (raw : String) : String :=
  Text.asciiLower (Text.trim raw)

/-- The kind that a person means, if any. -/
def ofSpelling? (raw : String) : Option TraitKind :=
  all.find? fun k => k.spellings.contains (keyword raw)

/-- What a message says of a spelling that means no kind. -/
def unknownMessage (raw : String) : String :=
  "unknown trait kind: " ++ keyword raw

end TraitKind

/-- A set of kinds. -/
structure KindSet where
  contains : TraitKind → Bool

namespace KindSet

/-- The set without kinds. -/
def empty : KindSet := ⟨fun _ => false⟩

/-- The set with one more kind. -/
def insert (s : KindSet) (k : TraitKind) : KindSet := ⟨fun x => x == k || s.contains x⟩

/-- The set with some more kinds. -/
def insertAll (s : KindSet) (ks : List TraitKind) : KindSet := ks.foldl insert s

/-- The set of some kinds. -/
def ofList (ks : List TraitKind) : KindSet := empty.insertAll ks

@[simp]
theorem contains_empty (k : TraitKind) : empty.contains k = false := rfl

@[simp]
theorem contains_insert (s : KindSet) (k x : TraitKind) :
    (s.insert k).contains x = (x == k || s.contains x) := rfl

theorem contains_insertAll (s : KindSet) (ks : List TraitKind) (x : TraitKind) :
    (s.insertAll ks).contains x = (ks.contains x || s.contains x) := by
  induction ks generalizing s with
  | nil => rfl
  | cons k rest ih =>
    rw [show s.insertAll (k :: rest) = (s.insert k).insertAll rest from rfl, ih,
      contains_insert, List.contains_cons]
    cases x == k <;> simp

/-- The kinds in the set, in their order. -/
def toList (s : KindSet) : List TraitKind := TraitKind.all.filter s.contains

/-- How many kinds are in the set. -/
def size (s : KindSet) : Nat := s.toList.length

/-- Whether no kind is in the set. -/
def isEmpty (s : KindSet) : Bool := s.toList.isEmpty

/-- The set as text: the headings of its kinds in braces. -/
def text (s : KindSet) : String :=
  "\x7b" ++ ", ".intercalate (s.toList.map TraitKind.title) ++ "\x7d"

instance : DecidableEq KindSet := fun a b =>
  decidable_of_iff (∀ k ∈ TraitKind.all, a.contains k = b.contains k) <| by
    obtain ⟨f⟩ := a
    obtain ⟨g⟩ := b
    refine ⟨fun h => ?_, fun h _ _ => by rw [h]⟩
    exact congrArg KindSet.mk (funext fun k => h k k.mem_all)

end KindSet

end WorkloadTraits
