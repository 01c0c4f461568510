import WorkloadTraits.Dispatch.Plan

/-!
# Processors and their registry

A processor has a name, under which failures and counts are kept, and a kind of trait, whose data
it is given.  A registry lists processors in the order in which they run; no two have one name,
while several may be for one kind.
-/

namespace WorkloadTraits

/-- A processor of one kind of trait. -/
structure Processor where
  name : String
  kind : TraitKind
  /-- What the processor does; it may contribute nothing at all. -/
  process : Context → Plan (Option Contribution)

/-- Processors in the order in which they run. -/
structure Registry where
  processors : List Processor
  /-- No two processors have one name. -/
  nodup : (processors.map (·.name)).Nodup

namespace Registry

/-- The registry without processors. -/
def empty : Registry := ⟨[], List.nodup_nil⟩

instance : Inhabited Registry := ⟨empty⟩

/-- The names of the processors, in order. -/
def names (r : Registry) : List String :=
  r.processors.map (·.name)

/-- The registry with one more processor at the end. -/
def register (r : Registry) (p : Processor) : Except Failure Registry :=
  if h : p.name ∈ r.names then .error (.duplicateProcessor p.name)
  else
    .ok ⟨r.processors ++ [p], by
      rw [List.map_append, List.nodup_append]
      refine ⟨r.nodup, by simp, fun a ha b hb => ?_⟩
      obtain rfl : b = p.name := by simpa using hb
      exact fun eq => h (eq ▸ ha)⟩

/-- The registry with some more processors at the end. -/
def registerAll (r : Registry) (ps : List Processor) : Except Failure Registry :=
  ps.foldlM register r

/-- The processor of a name. -/
def find? (r : Registry) (name : String) : Option Processor :=
  r.processors.find? (·.name == name)

/-- The registry as text: the names in brackets. -/
def text (r : Registry) : String :=
  "[" ++ ", ".intercalate (r.names.map Text.quoted) ++ "]"

end Registry

end WorkloadTraits
