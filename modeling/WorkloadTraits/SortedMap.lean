/-!
# Maps from text

Labels, annotations, resource amounts, secret data and environment literals are all maps from
text to text (`StringMap`), and what is counted is counted under names.  All of them are written in
the order of their keys.  `SortedMap` keeps its entries strictly sorted by key, and carries the
proof: two maps with the same entries are equal, and the written order is the stored one.

`insert` replaces, `overlay` lets the second map win, `ofList` lets the later entry win.
-/

namespace WorkloadTraits

/-- Entries in strictly increasing order of their keys. -/
abbrev SortedEntries {α : Type} (entries : List (String × α)) : Prop :=
  entries.Pairwise fun a b => a.1 < b.1

/-- A finite map from text, sorted by key. -/
structure SortedMap (α : Type) where
  /-- The entries, in the order of their keys. -/
  entries : List (String × α)
  /-- Each key stands once, and the keys ascend. -/
  sorted : SortedEntries entries

namespace SortedMap

variable {α : Type}

instance [DecidableEq α] : DecidableEq (SortedMap α) := fun a b =>
  decidable_of_iff (a.entries = b.entries) <| by
    cases a; cases b; simp

/-- Puts an entry at its place, in one pass; an entry of the same key is replaced. -/
def insertEntry (key : String) (value : α) : List (String × α) → List (String × α)
  | [] => [(key, value)]
  | (k, v) :: rest =>
    if key < k then (key, value) :: (k, v) :: rest
    else if key = k then (key, value) :: rest
    else (k, v) :: insertEntry key value rest

theorem mem_insertEntry {key : String} {value : α} {e : String × α}
    {entries : List (String × α)} (h : e ∈ insertEntry key value entries) :
    e = (key, value) ∨ e ∈ entries := by
  induction entries with
  | nil => simpa [insertEntry] using h
  | cons head rest ih =>
    obtain ⟨k, v⟩ := head
    rw [insertEntry] at h
    split at h
    · simpa using h
    · split at h
      · rcases List.mem_cons.1 h with h | h
        · exact .inl h
        · exact .inr (List.mem_cons_of_mem _ h)
      · rcases List.mem_cons.1 h with h | h
        · exact .inr (h ▸ List.mem_cons_self)
        · exact (ih h).imp_right (List.mem_cons_of_mem _)

theorem sorted_insertEntry (key : String) (value : α) {entries : List (String × α)}
    (h : SortedEntries entries) : SortedEntries (insertEntry key value entries) := by
  induction entries with
  | nil => simp [insertEntry, SortedEntries]
  | cons head rest ih =>
    obtain ⟨k, v⟩ := head
    obtain ⟨first, tail⟩ := List.pairwise_cons.1 h
    rw [insertEntry]
    split
    · rename_i lt
      refine List.pairwise_cons.2 ⟨fun e he => ?_, h⟩
      rcases List.mem_cons.1 he with rfl | he
      · exact lt
      · exact String.lt_trans lt (first e he)
    · split
      · rename_i _ eq
        subst eq
        exact List.pairwise_cons.2 ⟨first, tail⟩
      · rename_i nlt ne
        refine List.pairwise_cons.2 ⟨fun e he => ?_, ih tail⟩
        rcases mem_insertEntry he with rfl | he
        · exact Std.lt_of_le_of_ne (Std.not_lt.1 nlt) (Ne.symm ne)
        · exact first e he

theorem lookup_insertEntry (key : String) (value : α) (x : String)
    (entries : List (String × α)) :
    (insertEntry key value entries).lookup x =
      if x = key then some value else entries.lookup x := by
  induction entries with
  | nil => grind [insertEntry]
  | cons head rest ih => grind [insertEntry]

/-- The map without entries. -/
def empty : SortedMap α := ⟨[], .nil⟩

instance : Inhabited (SortedMap α) := ⟨empty⟩
instance : EmptyCollection (SortedMap α) := ⟨empty⟩

/-- The map with `key` set to `value`. -/
def insert (m : SortedMap α) (key : String) (value : α) : SortedMap α :=
  ⟨insertEntry key value m.entries, sorted_insertEntry key value m.sorted⟩

/-- The map of a list of entries; of two entries with one key the later counts. -/
def ofList (entries : List (String × α)) : SortedMap α :=
  entries.foldl (fun m (key, value) => m.insert key value) empty

/-- Both maps together; on a shared key the second wins. -/
def overlay (base extra : SortedMap α) : SortedMap α :=
  extra.entries.foldl (fun m (key, value) => m.insert key value) base

/-- The value of a key. -/
def get? (m : SortedMap α) (key : String) : Option α :=
  m.entries.lookup key

@[simp]
theorem get?_empty (x : String) : (empty : SortedMap α).get? x = none := rfl

theorem get?_insert (m : SortedMap α) (key : String) (value : α) (x : String) :
    (m.insert key value).get? x = if x = key then some value else m.get? x :=
  lookup_insertEntry key value x m.entries

theorem get?_overlay (base extra : SortedMap α) (x : String) :
    (base.overlay extra).get? x = (extra.get? x).or (base.get? x) := by
  obtain ⟨entries, sorted⟩ := extra
  show (entries.foldl (fun m e => m.insert e.1 e.2) base).get? x =
    (entries.lookup x).or (base.get? x)
  induction entries generalizing base with
  | nil => rfl
  | cons head rest ih =>
    obtain ⟨k, v⟩ := head
    obtain ⟨first, tail⟩ := List.pairwise_cons.1 sorted
    rw [List.foldl_cons, ih _ tail, get?_insert, List.lookup_cons]
    by_cases h : x = k
    · subst h
      have absent : rest.lookup x = none := by
        refine List.lookup_eq_none_iff.2 fun e he => ?_
        have lt := first e he
        exact bne_iff_ne.2 fun eq => String.lt_irrefl x (eq ▸ lt)
      rw [absent, beq_self_eq_true, if_pos rfl]
      rfl
    · rw [beq_eq_false_iff_ne.2 h, if_neg h]

/-- Whether the map has no entry. -/
def isEmpty (m : SortedMap α) : Bool :=
  m.entries.isEmpty

/-- A map, or nothing when it has no entry. -/
def given? (m : SortedMap α) : Option (SortedMap α) :=
  if m.isEmpty then none else some m

end SortedMap

/-- A map from text to text. -/
abbrev StringMap := SortedMap String

end WorkloadTraits
