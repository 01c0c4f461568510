import WorkloadTraits.Engine

/-!
# Counting applications

`Metrics` counts applications by their outcome, calls of processors with those that failed, and
the objects that came of it by kind.  An application is `success`, `rejected` when a corrected
payload may succeed, and `error` otherwise.  Calls are counted where they end, so a call within a
call is counted too.

`Metrics.lines` writes the counts for a collector that reads them as text: family after family,
each with a line of help and a line with its type, the series sorted by their label.  A family that
nothing was counted in is left out.  Of the durations only the number is written, because nothing
here reads a clock.
-/

namespace WorkloadTraits

namespace SortedMap

/-- How often a name was counted. -/
def count (m : SortedMap Nat) (name : String) : Nat :=
  (m.get? name).getD 0

/-- The counts with a name counted once more. -/
def increment (m : SortedMap Nat) (name : String) : SortedMap Nat :=
  m.insert name (m.count name + 1)

theorem count_increment (m : SortedMap Nat) (name x : String) :
    (m.increment name).count x = m.count x + if x = name then 1 else 0 := by
  rw [increment, count, get?_insert]
  split
  · rename_i h
    rw [h]
    rfl
  · rfl

end SortedMap

/-- What was counted so far. -/
structure Metrics where
  /-- Applications by outcome. -/
  applies : SortedMap Nat := .empty
  /-- Measured durations by outcome. -/
  durations : SortedMap Nat := .empty
  /-- Calls by processor. -/
  invocations : SortedMap Nat := .empty
  /-- Calls that failed by processor. -/
  failures : SortedMap Nat := .empty
  /-- Objects by kind. -/
  objects : SortedMap Nat := .empty

/-- The word under which an outcome is counted. -/
def outcomeLabel {α : Type} : Except Failure α → String
  | .ok _ => "success"
  | .error failure => if failure.isUserError then "rejected" else "error"

namespace Metrics

/-- With the end of a call counted. -/
def recordProcessor (m : Metrics) (processor : String) (ok : Bool) : Metrics :=
  { m with
    invocations := m.invocations.increment processor
    failures := if ok then m.failures else m.failures.increment processor }

/-- With an event counted; only the end of a call counts. -/
def recordEvent (m : Metrics) : Event → Metrics
  | .finished processor ok => m.recordProcessor processor ok
  | _ => m

/-- With an outcome counted, and the objects that came of it. -/
def recordOutcome (m : Metrics) (outcome : Except Failure (List Companion)) : Metrics :=
  let label := outcomeLabel outcome
  let objects := outcome.toOption.getD []
  { m with
    applies := m.applies.increment label
    durations := m.durations.increment label
    objects := objects.foldl (fun counts o => counts.increment o.kind) m.objects }

/-- With an application counted. -/
def record (m : Metrics) (a : Application) : Metrics :=
  (a.journal.foldl recordEvent m).recordOutcome a.outcome

/-- With a series for an outcome, at zero when nothing was counted yet. -/
def touch (m : Metrics) (outcome : String) : Metrics :=
  { m with applies := m.applies.insert outcome (m.applies.count outcome) }

/-! ## As text -/

/-- How the series of a family are written. -/
structure Family where
  name : String
  help : String
  type : String
  /-- What the name of a series has at its end besides. -/
  ending : String := ""
  label : String
  counts : SortedMap Nat

/-- The value of a label between its quotes. -/
def labelValue (s : String) : String :=
  String.ofList <| s.toList.flatMap fun
    | '\\' => ['\\', '\\']
    | '"' => ['\\', '"']
    | '\n' => ['\\', 'n']
    | c => [c]

/-- The lines of a family. -/
def Family.lines (f : Family) : List String :=
  let name := "trait_composer_" ++ f.name
  if f.counts.isEmpty then []
  else
    ("# HELP " ++ name ++ " " ++ f.help) :: ("# TYPE " ++ name ++ " " ++ f.type) ::
      f.counts.entries.map fun (value, n) =>
        name ++ f.ending ++ "\x7b" ++ f.label ++ "=\"" ++ labelValue value ++ "\"\x7d " ++
          toString n

/-- All families, in the order of their names. -/
def families (m : Metrics) : List Family := [
  { name := "applies_total", help := "Trait applies by outcome", type := "counter",
    label := "outcome", counts := m.applies },
  { name := "apply_duration_seconds", help := "Duration of one trait apply", type := "histogram",
    ending := "_count", label := "outcome", counts := m.durations },
  { name := "objects_emitted_total", help := "Auxiliary objects returned by kind",
    type := "counter", label := "kind", counts := m.objects },
  { name := "processor_failures_total", help := "Trait processor failures", type := "counter",
    label := "processor", counts := m.failures },
  { name := "processor_invocations_total", help := "Trait processor invocations",
    type := "counter", label := "processor", counts := m.invocations }]

/-- The counts as lines of text. -/
def lines (m : Metrics) : List String :=
  m.families.flatMap Family.lines

end Metrics

/-- Stands for the counts of an engine where the engine is shown as text. -/
def Metrics.mark : String := "Some(EngineMetrics \x7b .. \x7d)"

/-- An engine that counts, on one line. -/
def Engine.text (e : Engine) : String :=
  Failure.labelled "TraitEngine" [
    ("registry", e.registry.text), ("config", e.settings.text), ("metrics", Metrics.mark)]

end WorkloadTraits
