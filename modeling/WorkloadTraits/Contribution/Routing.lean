/-!
# Values on their way to containers

Mounts and variables are collected under the name of the container that they are meant for, long
before the container is looked up.  A `Routing` keeps the names in the order in which they first
came up, each once, and under each name its values in order.

`appendNew` is the rule for things of which only the first with a key counts.
-/

namespace WorkloadTraits

/-- Appends those values whose key is not there yet. -/
def appendNew {α κ : Type} [DecidableEq κ] (key : α → κ) (kept new : List α) : List α :=
  new.foldl (fun kept a => if kept.any (key · == key a) then kept else kept ++ [a]) kept

/-- Values under the names of containers. -/
structure Routing (α : Type) where
  /-- The names with their values. -/
  entries : List (String × List α)
  /-- Each name stands once. -/
  nodup : (entries.map Prod.fst).Nodup

namespace Routing

variable {α : Type}

instance [DecidableEq α] : DecidableEq (Routing α) := fun a b =>
  decidable_of_iff (a.entries = b.entries) <| by
    cases a; cases b; simp

/-- Changes the values under a name; a new name is put at the end. -/
def updateEntries (name : String) (f : List α → List α) :
    List (String × List α) → List (String × List α)
  | [] => [(name, f [])]
  | (n, values) :: rest =>
    if n = name then (n, f values) :: rest else (n, values) :: updateEntries name f rest

theorem mem_names_updateEntries {name : String} {f : List α → List α} {x : String}
    {entries : List (String × List α)} :
    x ∈ (updateEntries name f entries).map Prod.fst ↔ x = name ∨ x ∈ entries.map Prod.fst := by
  induction entries with
  | nil => simp [updateEntries]
  | cons head rest ih =>
    obtain ⟨n, values⟩ := head
    rw [updateEntries]
    split
    · rename_i h
      subst h
      simp
    · simp only [List.map_cons, List.mem_cons, ih]
      exact or_left_comm

theorem nodup_updateEntries (name : String) (f : List α → List α)
    {entries : List (String × List α)} (h : (entries.map Prod.fst).Nodup) :
    ((updateEntries name f entries).map Prod.fst).Nodup := by
  induction entries with
  | nil => simp [updateEntries]
  | cons head rest ih =>
    obtain ⟨n, values⟩ := head
    rw [List.map_cons, List.nodup_cons] at h
    rw [updateEntries]
    split
    · simpa using h
    · rename_i ne
      rw [List.map_cons, List.nodup_cons]
      refine ⟨fun mem => ?_, ih h.2⟩
      exact (mem_names_updateEntries.1 mem).elim ne h.1

/-- The routing without names. -/
def empty : Routing α := ⟨[], List.nodup_nil⟩

instance : Inhabited (Routing α) := ⟨empty⟩

/-- The routing of some values to one name; without values the name does not come up. -/
def single (name : String) (values : List α) : Routing α :=
  match values with
  | [] => empty
  | v :: rest => ⟨[(name, v :: rest)], by simp⟩

/-- The routing with the values under a name changed. -/
def update (r : Routing α) (name : String) (f : List α → List α) : Routing α :=
  ⟨updateEntries name f r.entries, nodup_updateEntries name f r.nodup⟩

/-- The routing with one more value under a name. -/
def push (r : Routing α) (name : String) (value : α) : Routing α :=
  r.update name (· ++ [value])

/-- Both routings together: under each name the values are joined by `join`. -/
def merge (join : List α → List α → List α) (r other : Routing α) : Routing α :=
  other.entries.foldl (fun r (name, values) => r.update name (join · values)) r

/-- The values under a name; none when the name did not come up. -/
def get (r : Routing α) (name : String) : List α :=
  (r.entries.lookup name).getD []

theorem lookup_updateEntries (name : String) (f : List α → List α) (x : String)
    (entries : List (String × List α)) :
    (updateEntries name f entries).lookup x =
      if x = name then some (f ((entries.lookup name).getD [])) else entries.lookup x := by
  induction entries with
  | nil => grind [updateEntries]
  | cons head rest ih => grind [updateEntries]

theorem get_update (r : Routing α) (name : String) (f : List α → List α) (x : String) :
    (r.update name f).get x = if x = name then f (r.get name) else r.get x := by
  rw [get, update, lookup_updateEntries]
  split <;> rfl

theorem get_push (r : Routing α) (name : String) (value : α) (x : String) :
    (r.push name value).get x = if x = name then r.get name ++ [value] else r.get x :=
  get_update r name _ x

/-- The names, in the order in which they came up. -/
def names (r : Routing α) : List String :=
  r.entries.map Prod.fst

/-- The routing without a name. -/
def erase (r : Routing α) (name : String) : Routing α :=
  ⟨r.entries.filter (·.1 != name), r.nodup.sublist (List.filter_sublist.map Prod.fst)⟩

/-- Whether no name came up. -/
def isEmpty (r : Routing α) : Bool :=
  r.entries.isEmpty

/-- The routing of a list of names with their values; of two entries with one name the later
values count, at the place of the earlier. -/
def ofList (entries : List (String × List α)) : Routing α :=
  entries.foldl (fun r (name, values) => r.update name fun _ => values) empty

end Routing

end WorkloadTraits
