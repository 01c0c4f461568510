import Mathlib
import WorkloadTraits.Schema.Record
import WorkloadTraits.Trait.Written

/-!
# Reading back what was written

A decoder restores a value from a JSON value if it reads the one back from the other (`Restores`).
That is asked for one limit of nesting at a time, and only where the limit reaches as deep as the
JSON value does: a payload inside a payload is decoded under a lower limit by another decoder.

The main result is about records (`Record.restores_ofGiven`).  A written record has its fields in
the order of their names, and those that say nothing are left out, while the schema has an order of
its own.  So it is shown that the order does not matter.  A `Slot` is a field together with how it
is written in one record: what is written for it restores the change that the field makes, and where
nothing is written the change does nothing to the blank record.  Changes of different fields
commute, and all of them together make the record.
-/

namespace WorkloadTraits

namespace Json

lemma depth_le_depthOfFields {name : String} {j : Json} {fields : List (String × Json)}
    (h : (name, j) ∈ fields) : j.depth ≤ depthOfFields fields := by
  induction fields with
  | nil => simp at h
  | cons head rest ih =>
      obtain ⟨n, v⟩ := head
      rw [depthOfFields]
      rcases List.mem_cons.1 h with heq | h
      · obtain ⟨rfl, rfl⟩ := Prod.mk.injEq .. ▸ heq
        exact Nat.le_max_left ..
      · exact (ih h).trans (Nat.le_max_right ..)

lemma readingItems_eq (items : List Json) : readingItems items = items.map reading := by
  induction items with
  | nil => rfl
  | cons j rest ih => rw [readingItems, ih, List.map_cons]

/-! ## Objects of some fields -/

lemma insertField_perm {name : String} (value : Json) {fields : List (String × Json)}
    (h : name ∉ fields.map Prod.fst) :
    (insertField name value fields).Perm ((name, value) :: fields) := by
  induction fields with
  | nil => rfl
  | cons head rest ih =>
      obtain ⟨n, v⟩ := head
      obtain ⟨hne, hrest⟩ := not_or.1 (List.mem_cons.not.1 h)
      rw [insertField]
      split
      · rfl
      · exact ((ih hrest).cons _).trans (.swap ..)

/-- The object of some fields has just these, if no name stands twice. -/
lemma ofFields_perm {fields : List (String × Json)} (h : (fields.map Prod.fst).Nodup) :
    ∃ sorted, ofFields fields = .object sorted ∧ sorted.Perm fields := by
  have hfold : ∀ acc : List (String × Json), ((acc ++ fields).map Prod.fst).Nodup →
      (fields.foldl (fun sorted e => insertField e.1 e.2 sorted) acc).Perm (acc ++ fields) := by
    clear h
    induction fields with
    | nil => simp
    | cons head rest ih =>
        intro acc hnodup
        obtain ⟨name, value⟩ := head
        have hmiddle : (acc ++ (name, value) :: rest).Perm ((name, value) :: (acc ++ rest)) :=
          List.perm_middle
        have hnew : name ∉ acc.map Prod.fst := fun hmem =>
          (List.nodup_cons.1 ((hmiddle.map Prod.fst).nodup_iff.1 hnodup)).1 (by simp_all)
        have hstep := (insertField_perm value hnew).append_right rest
        refine (ih _ ?_).trans (hstep.trans hmiddle.symm)
        exact ((hstep.trans hmiddle.symm).map Prod.fst).nodup_iff.2 hnodup
  exact ⟨_, rfl, by simpa using hfold [] (by simpa using h)⟩

end Json

namespace SortedMap

variable {α : Type}

lemma insertEntry_of_forall_lt {key : String} (value : α) {entries : List (String × α)}
    (h : ∀ e ∈ entries, e.1 < key) :
    insertEntry key value entries = entries ++ [(key, value)] := by
  induction entries with
  | nil => rfl
  | cons head rest ih =>
      obtain ⟨k, v⟩ := head
      have hlt : k < key := h (k, v) List.mem_cons_self
      rw [insertEntry, if_neg (Std.not_lt.2 (Std.le_of_lt hlt)), if_neg (Std.ne_of_lt hlt).symm,
        ih fun e he => h e (List.mem_cons_of_mem _ he), List.cons_append]

end SortedMap

namespace Schema

open Json (Reading Name reading readingItems readingFields)

/-- Under a limit that lets one into all of `j`, the decoder reads `a` from it. -/
def Restores {α : Type} (decode : Decoder α) (limit : Nat) (j : Json) (a : α) : Prop :=
  j.depth ≤ limit → decode limit j.reading = .ok a

/-! ## Scalars, lists and maps -/

namespace Restores

variable {α : Type} {decode : Decoder α} {limit : Nat}

lemma text {s : String} : Restores text limit (.string s) s := fun _ => by
  cases limit <;> rfl

lemma boolean {b : Bool} : Restores boolean limit (.bool b) b := fun _ => by
  cases limit <;> rfl

lemma int32 {n : Int32} : Restores int32 limit (.int32 n) n := fun _ => by
  have hword : Json.Number.word? n.toInt = some n := by
    rw [Json.Number.word?, if_pos ⟨Int32.le_toInt n, Int32.toInt_le n⟩, Int32.ofInt_toInt]
  simp only [Json.int32, Json.int, Json.reading, Schema.int32, hword]

lemma null : Restores (optional decode) limit .null none := fun _ => by
  cases limit <;> rfl

/-- What stands for a value that is given must not be null. -/
lemma some {j : Json} {a : α} (hnull : j ≠ .null) (h : Restores decode limit j a) :
    Restores (optional decode) limit j (some a) := by
  intro hdepth
  have hread := h hdepth
  cases j with
  | null => exact absurd rfl hnull
  | _ => simp only [Json.reading, optional] at hread ⊢; rw [hread]; rfl

/-- A value inside an array or object is out of reach where there is no room for the latter. -/
lemma of_lt_depth {j : Json} {a : α} (h : limit < j.depth) : Restores decode limit j a :=
  fun hdepth => absurd hdepth (Nat.not_le.2 h)

lemma list {write : α → Json} {as : List α}
    (h : ∀ a ∈ as, Restores decode (limit - 1) (write a) a) :
    Restores (list decode) limit (.array (as.map write)) as := by
  intro hdepth
  obtain _ | limit := limit
  · exact absurd hdepth (Nat.not_succ_le_zero _)
  have hdeep := Nat.le_of_succ_le_succ hdepth
  have hitems : readItems (decode limit) (readingItems (as.map write)) = .ok as := by
    rw [Json.readingItems_eq, List.map_map]
    induction as with
    | nil => rfl
    | cons a rest ih =>
        rw [List.map_cons, Json.depthOfItems, Nat.max_le] at hdeep
        have hhead := h a List.mem_cons_self hdeep.1
        have hrest := ih (fun b hb => h b (List.mem_cons_of_mem _ hb))
          (Nat.succ_le_succ hdeep.2) hdeep.2
        rw [List.map_cons, readItems, Function.comp_apply, hrest]
        exact congrArg (· >>= fun value => Except.ok (value :: rest)) hhead
  simp only [Json.reading, Schema.list, hitems]
  rfl

/-- The keys of a map are read in their order, so each entry comes behind those before it. -/
lemma map {m : StringMap} : Restores map limit m.toJson m := by
  intro hdepth
  obtain _ | limit := limit
  · exact absurd hdepth (Nat.not_succ_le_zero _)
  have hentries : ∀ (entries : List (String × String)) (read : StringMap),
      (read.entries ++ entries).Pairwise (fun a b => a.1 < b.1) →
      ∃ whole, readEntries read
        (readingFields (entries.map fun e => (e.1, .string e.2))) = .ok whole ∧
        whole.entries = read.entries ++ entries := by
    intro entries
    induction entries with
    | nil => exact fun read _ => ⟨read, rfl, (List.append_nil _).symm⟩
    | cons head rest ih =>
        obtain ⟨key, value⟩ := head
        intro read hsorted
        have hinsert : (read.insert key value).entries = read.entries ++ [(key, value)] :=
          SortedMap.insertEntry_of_forall_lt value fun e he =>
            (List.pairwise_append.1 hsorted).2.2 e he _ List.mem_cons_self
        obtain ⟨whole, hread, hwhole⟩ := ih (read.insert key value) <| by
          rwa [hinsert, List.append_assoc, List.singleton_append]
        rw [hinsert, List.append_assoc, List.singleton_append] at hwhole
        exact ⟨whole, hread, hwhole⟩
  obtain ⟨whole, hread, hwhole⟩ := hentries m.entries .empty m.sorted
  have heq : whole = m := by
    cases whole
    cases m
    exact (SortedMap.mk.injEq ..).mpr hwhole
  simp only [SortedMap.toJson, Json.reading, Schema.map, hread, heq]
  rfl

end Restores

/-! ## Records -/

/-- A field of a schema as it is written in a record, what is written for it, if anything, and the
change that it makes. -/
structure Slot {ρ : Type} (blank : ρ) (limit : Nat) where
  field : Field ρ
  value? : Option Json
  change : ρ → ρ
  given : ∀ j, value? = some j → j.depth ≤ limit → field.read limit j.reading = .ok change
  absent : value? = none → field.required = false ∧ change blank = blank

namespace Slot

section

variable {ρ α : Type} {blank : ρ} {limit : Nat} {name : String} {required : Bool}
  {decode : Decoder α}

/-- A field that is always written. -/
@[simp]
def always {set : α → ρ → ρ} {j : Json} {a : α} (h : Restores decode limit j a) :
    Slot blank limit where
  field := ⟨name, required, fun limit r => (decode limit r).map set⟩
  value? := some j
  change := set a
  given := by
    rintro _ ⟨⟩ hdepth
    exact congrArg (Except.map set) (h hdepth)
  absent := nofun

/-- A field that is left out when it says nothing: then it is the field of the blank record. -/
@[simp]
def unlessBlank (name : String) (decode : Decoder α) (set : α → ρ → ρ) (value? : Option Json)
    (a : α) (h : (value? = none ∧ set a blank = blank) ∨
      ∃ j, value? = some j ∧ Restores decode limit j a) : Slot blank limit where
  field := optionalField name decode set
  value? := value?
  change := set a
  given := by
    rintro j rfl hdepth
    obtain ⟨hnone, -⟩ | ⟨_, ⟨⟩, hrestores⟩ := h
    · exact absurd hnone nofun
    · exact congrArg (Except.map set) (hrestores hdepth)
  absent := by
    rintro rfl
    obtain ⟨-, hblank⟩ | ⟨_, hsome, -⟩ := h
    · exact ⟨rfl, hblank⟩
    · exact absurd hsome nofun

/-- A text that is left out when it is empty. -/
@[simp]
def text {set : String → ρ → ρ} {s : String} (hblank : set "" blank = blank) :
    Slot blank limit :=
  unlessBlank name Schema.text set (Written.text s) s <| by
    by_cases hs : s = ""
    · subst hs
      exact .inl ⟨rfl, hblank⟩
    · exact .inr ⟨.string s, by simp [Written.text, Text.given?, hs], .text⟩

/-- A list that is left out when it is empty. -/
@[simp]
def items {set : List α → ρ → ρ} {write : α → Json} {as : List α} (hblank : set [] blank = blank)
    (h : ∀ a ∈ as, Restores decode (limit - 1) (write a) a) : Slot blank limit :=
  unlessBlank name (list decode) set (Written.items (as.map write)) as <| by
    cases as with
    | nil => exact .inl ⟨rfl, hblank⟩
    | cons a rest => exact .inr ⟨_, rfl, .list h⟩

/-- A map that is left out when it is empty. -/
@[simp]
def entries {set : StringMap → ρ → ρ} {m : StringMap} (hblank : set .empty blank = blank) :
    Slot blank limit :=
  unlessBlank name Schema.map set (Written.entries m) m <| by
    obtain ⟨_ | ⟨e, rest⟩, hsorted⟩ := m
    · exact .inl ⟨rfl, hblank⟩
    · exact .inr ⟨_, rfl, .map⟩

/-- A value that is left out when it is not given. -/
@[simp]
def option {set : Option α → ρ → ρ} {write : α → Json} {a? : Option α}
    (hblank : set none blank = blank) (hnull : ∀ a, write a ≠ .null)
    (h : ∀ a, Restores decode limit (write a) a) : Slot blank limit :=
  unlessBlank name (optional decode) set (a?.map write) a? <| by
    cases a? with
    | none => exact .inl ⟨rfl, hblank⟩
    | some a => exact .inr ⟨_, rfl, .some (hnull a) (h a)⟩

end

section

variable {ρ : Type} {blank : ρ} {limit : Nat} {slots : List (Slot blank limit)}

/-- What is written of a record: the names of the fields that say something, with their values. -/
def written (slots : List (Slot blank limit)) : List (String × Json) :=
  slots.filterMap fun s => s.value?.map (s.field.name, ·)

/-- The change that the field of a name makes. -/
def changeOf (slots : List (Slot blank limit)) (name : String) : ρ → ρ :=
  ((slots.find? (·.field.name == name)).map Slot.change).getD id

/-- The changes of two fields do not touch each other. -/
@[simp]
def Apart (s t : Slot blank limit) : Prop :=
  ∀ x, s.change (t.change x) = t.change (s.change x)

instance : Std.Symm (@Apart ρ blank limit) :=
  ⟨fun _ _ h x => (h x).symm⟩

lemma find?_of_mem (hnames : (slots.map (·.field.name)).Nodup) {s : Slot blank limit}
    (hs : s ∈ slots) : slots.find? (·.field.name == s.field.name) = some s := by
  induction slots with
  | nil => simp at hs
  | cons head rest ih =>
      obtain ⟨hhead, hrest⟩ := List.nodup_cons.1 hnames
      rcases List.mem_cons.1 hs with rfl | hs
      · simp
      · have hne : head.field.name ≠ s.field.name := fun heq =>
          hhead (List.mem_map.2 ⟨s, hs, heq.symm⟩)
        rw [List.find?_cons_of_neg (by simpa using hne), ih hrest hs]

lemma mem_written {e : String × Json} :
    e ∈ written slots ↔ ∃ s ∈ slots, s.field.name = e.1 ∧ s.value? = some e.2 := by
  obtain ⟨name, j⟩ := e
  simp only [written, List.mem_filterMap, Option.map_eq_some_iff, Prod.mk.injEq]
  exact ⟨fun ⟨s, hs, _, hj, hname, heq⟩ => ⟨s, hs, hname, heq ▸ hj⟩,
    fun ⟨s, hs, hname, hj⟩ => ⟨s, hs, j, hj, hname, rfl⟩⟩

lemma names_written_sublist :
    ((written slots).map Prod.fst).Sublist (slots.map (·.field.name)) := by
  induction slots with
  | nil => exact .slnil
  | cons s rest ih =>
      rw [written, List.filterMap_cons]
      cases s.value? with
      | none => exact ih.cons _
      | some j => exact ih.cons_cons _

lemma changeOf_of_mem (hnames : (slots.map (·.field.name)).Nodup) {s : Slot blank limit}
    (hs : s ∈ slots) : changeOf slots s.field.name = s.change := by
  rw [changeOf, find?_of_mem hnames hs]
  rfl

/-- A change can be made before or after others that do not touch it. -/
lemma change_foldl {s : Slot blank limit} {others : List (Slot blank limit)}
    (h : ∀ t ∈ others, Apart s t) (x : ρ) :
    s.change (others.foldl (fun x t => t.change x) x) =
      others.foldl (fun x t => t.change x) (s.change x) := by
  induction others generalizing x with
  | nil => rfl
  | cons t rest ih =>
      rw [List.foldl_cons, ih fun t' ht' => h t' (List.mem_cons_of_mem _ ht'),
        h t List.mem_cons_self, List.foldl_cons]

/-- The fields that are not written could as well have been: a change that does nothing to the blank
record does nothing behind others either. -/
lemma foldl_written (hnames : (slots.map (·.field.name)).Nodup)
    (hcommute : ∀ s ∈ slots, ∀ t ∈ slots, Apart s t) {part : List (Slot blank limit)}
    (hsubset : part ⊆ slots) :
    (written part).foldl (fun x e => changeOf slots e.1 x) blank =
      part.foldl (fun x s => s.change x) blank := by
  induction part using List.reverseRecOn with
  | nil => rfl
  | append_singleton rest s ih =>
      have hs : s ∈ slots := hsubset (by simp)
      have hrest : rest ⊆ slots := fun t ht => hsubset (List.mem_append_left _ ht)
      have hlast : written (rest ++ [s]) =
          written rest ++ (s.value?.map (s.field.name, ·)).toList := by
        rw [written, List.filterMap_append]
        cases hvalue : s.value? <;> simp [written, hvalue]
      rw [hlast, List.foldl_append, List.foldl_append, ih hrest]
      cases hvalue : s.value? with
      | none =>
          have hpulled := change_foldl (fun t ht => hcommute s hs t (hrest ht)) blank
          rw [(s.absent hvalue).2] at hpulled
          exact hpulled.symm
      | some j =>
          show changeOf slots s.field.name _ = s.change _
          rw [changeOf_of_mem hnames hs]

/-- The order in which fields of a record are read does not matter, and those that are not written
could as well have been. -/
lemma foldl_changeOf (hnames : (slots.map (·.field.name)).Nodup) (hapart : slots.Pairwise Apart)
    {fields : List (String × Json)} (hperm : fields.Perm (written slots)) :
    fields.foldl (fun x e => changeOf slots e.1 x) blank =
      slots.foldl (fun x s => s.change x) blank := by
  have hcommute : ∀ s ∈ slots, ∀ t ∈ slots, Apart s t := fun s hs t ht =>
    hapart.forall_of_forall (fun _ _ _ => rfl) hs ht
  have hsorted : fields.foldl (fun x e => changeOf slots e.1 x) blank =
      (written slots).foldl (fun x e => changeOf slots e.1 x) blank := by
    refine hperm.foldl_eq' (fun e he e' he' x => ?_) blank
    obtain ⟨s, hs, hname, -⟩ := mem_written.1 (hperm.subset he)
    obtain ⟨t, ht, hname', -⟩ := mem_written.1 (hperm.subset he')
    rw [← hname, ← hname', changeOf_of_mem hnames hs, changeOf_of_mem hnames ht]
    exact hcommute t ht s hs x
  exact hsorted.trans (foldl_written hnames hcommute (List.Subset.refl _))

end

end Slot

namespace Record

variable {ρ : Type}

lemma readMembers_eq {fields : List (Field ρ)} {limit : Nat} {changeOf : String → ρ → ρ}
    {members : List (String × Json)} (hnames : (members.map Prod.fst).Nodup)
    (hread : ∀ e ∈ members, ∃ f, fields.find? (·.name == e.1) = some f ∧
      f.read limit e.2.reading = .ok (changeOf e.1)) :
    ∀ (record : ρ) (given : List String), (∀ e ∈ members, e.1 ∉ given) →
      readMembers fields limit record given (readingFields members) =
        .ok (members.foldl (fun x e => changeOf e.1 x) record,
          (members.map Prod.fst).reverse ++ given) := by
  induction members with
  | nil => exact fun _ _ _ => rfl
  | cons head rest ih =>
      obtain ⟨name, j⟩ := head
      intro record given hnew
      obtain ⟨f, hfind, hf⟩ := hread _ List.mem_cons_self
      obtain ⟨hhead, hrest⟩ := List.nodup_cons.1 hnames
      have hgiven : given.contains name = false := by
        simpa using hnew _ List.mem_cons_self
      have hnext : ∀ e ∈ rest, e.1 ∉ name :: given := by
        intro e he hmem
        rcases List.mem_cons.1 hmem with heq | hmem
        · exact hhead (List.mem_map.2 ⟨e, he, heq⟩)
        · exact hnew e (List.mem_cons_of_mem _ he) hmem
      have htail := ih hrest (fun e he => hread e (List.mem_cons_of_mem _ he))
        (changeOf name record) (name :: given) hnext
      simp only at hfind hf
      rw [readingFields, readMembers]
      simp only [readName, Except.mapError, hfind, hgiven, hf, bind, Except.bind, htail]
      simp

/-- **A record is read back from what was written of it.**  The values of its fields need to be, and
the fields must not get in each other's way. -/
theorem restores_ofGiven {schema : Record ρ} {limit : Nat} {j : Json} {r : ρ}
    (slots : List (Slot schema.blank (limit - 1)))
    (hfields : schema.fields = slots.map Slot.field)
    (hj : j = .ofGiven (slots.map fun s => (s.field.name, s.value?)))
    (hnames : (schema.fields.map Field.name).Nodup) (hapart : slots.Pairwise Slot.Apart)
    (hr : slots.foldl (fun x s => s.change x) schema.blank = r) :
    Restores schema.decoder limit j r := by
  rw [hfields, List.map_map] at hnames
  obtain ⟨sorted, hsorted, hperm⟩ :=
    Json.ofFields_perm (Slot.names_written_sublist.nodup hnames)
  have hobject : j = .object sorted := by
    rw [hj, Json.ofGiven, List.filterMap_map]
    exact hsorted
  intro hdepth
  rw [hobject] at hdepth ⊢
  obtain _ | limit := limit
  · exact absurd hdepth (Nat.not_succ_le_zero _)
  have hread : ∀ e ∈ sorted, ∃ f, schema.fields.find? (·.name == e.1) = some f ∧
      f.read limit e.2.reading = .ok (Slot.changeOf slots e.1) := by
    intro e he
    obtain ⟨s, hs, hname, hvalue⟩ := Slot.mem_written.1 (hperm.subset he)
    have hdeep : e.2.depth ≤ limit :=
      (Json.depth_le_depthOfFields he).trans (Nat.le_of_succ_le_succ hdepth)
    have hfind := Slot.find?_of_mem hnames hs
    refine ⟨s.field, ?_, ?_⟩
    · rw [hfields, List.find?_map, ← hname]
      exact congrArg (Option.map Slot.field) hfind
    · rw [Slot.changeOf, ← hname, hfind]
      exact s.given e.2 hvalue hdeep
  have hmembers := readMembers_eq ((hperm.map Prod.fst).nodup_iff.2
    (Slot.names_written_sublist.nodup hnames)) hread schema.blank [] fun _ _ => List.not_mem_nil
  have hrequired : (schema.fields.find? fun f =>
      f.required && !((sorted.map Prod.fst).reverse ++ []).contains f.name) = none := by
    rw [List.find?_eq_none]
    intro f hf
    obtain ⟨s, hs, rfl⟩ := List.mem_map.1 (hfields ▸ hf)
    cases hvalue : s.value? with
    | none => simp [(s.absent hvalue).1]
    | some v =>
        have hmem : (s.field.name, v) ∈ sorted :=
          hperm.symm.subset (Slot.mem_written.2 ⟨s, hs, rfl, hvalue⟩)
        simp [List.mem_map.2 ⟨_, hmem, rfl⟩]
  rw [Slot.foldl_changeOf hnames hapart hperm, hr] at hmembers
  simp only [Json.reading, decoder, ofMembers, hmembers, bind, Except.bind, readClose, hrequired]
  rfl

end Record

end Schema

end WorkloadTraits
