import WorkloadTraits.Proofs.Dispatch.Outcome
import WorkloadTraits.Proofs.Secrets.Redaction

/-!
# Decoding payloads that differ in secret data

Two payloads that are JSON values, and the same but for the contents of the data of their secrets,
are decoded alike: both are refused for the same cause, or both are accepted and the traits differ
in the data of secrets alone (`Component.decodePayload_of_sameButData`).

That asks for one thing about the contents.  Where they differ they have to be texts on both sides,
as the schema has it; anything else is refused, and the refusal tells what it has found.

The relations below hold of every value and itself, so only what may differ has to be followed
through the schema: down the fields `secret` and `data`, and again from the field `traits` of init
entries and sidecars.  For each way to build a decoder there is one lemma about related values, and
the one about records carries the rest (`Record.readsAlike`).
-/

namespace WorkloadTraits

/-! ## Values that differ in secret data -/

/-- The names of the fields of a kind of record, in their order. -/
def Schema.Record.names {ρ : Type} (schema : Record ρ) : List String :=
  schema.fields.map (·.name)

namespace Json

variable {j j' : Json}

/-- Two objects of texts, or a value and itself. -/
inductive TextsOrSame : Json → Json → Prop
  | same (j : Json) : TextsOrSame j j
  | texts {fields fields' : List (String × Json)} (h : ∀ e ∈ fields, ∃ s, e.2 = .string s)
      (h' : ∀ e ∈ fields', ∃ s, e.2 = .string s) :
      TextsOrSame (.object fields) (.object fields')

/-- Two lists whose items are related place by place, or a value and itself. -/
inductive Itemwise (R : Json → Json → Prop) : Json → Json → Prop
  | same (j : Json) : Itemwise R j j
  | array {items items' : List Json} (h : List.Forall₂ R items items') :
      Itemwise R (.array items) (.array items')

/-- Two lists of items whose places have names, related place by place; what comes behind the last
name is the same. -/
inductive Placewise (R : String → Json → Json → Prop) :
    List String → List Json → List Json → Prop
  | nil (names : List String) : Placewise R names [] []
  | cons {name : String} {names : List String} {j j' : Json} {items items' : List Json}
      (head : R name j j') (tail : Placewise R names items items') :
      Placewise R (name :: names) (j :: items) (j' :: items')
  | beyond (items : List Json) : Placewise R [] items items

/-- Two records that are written alike, as objects or as lists of their fields in the order of some
names, and whose values are related name by name; or a value and itself. -/
inductive Fieldwise (names : List String) (R : String → Json → Json → Prop) : Json → Json → Prop
  | same (j : Json) : Fieldwise names R j j
  | object {fields fields' : List (String × Json)}
      (h : List.Forall₂ (fun e e' => e.1 = e'.1 ∧ R e.1 e.2 e'.2) fields fields') :
      Fieldwise names R (.object fields) (.object fields')
  | array {items items' : List Json} (h : Placewise R names items items') :
      Fieldwise names R (.array items) (.array items')

/-- The relation for one name; under every other name the values are the same. -/
def onlyAt (name : String) (R : Json → Json → Prop) (n : String) : Json → Json → Prop :=
  if n = name then R else Eq

lemma onlyAt_of_ne {name n : String} {R : Json → Json → Prop} (h : n ≠ name) :
    onlyAt name R n = Eq := if_neg h

/-- What differs in a payload in which payloads are nested up to `n` deep: the contents of the data
of its secret entries, and what differs in the payloads of its init entries and sidecars. -/
def SameButData : Nat → Json → Json → Prop
  | 0 => Eq
  | n + 1 => Fieldwise (Traits.schema Traits.decoder).names fun name =>
    if name = "secret" then
      Itemwise (Fieldwise SecretEntry.schema.names (onlyAt "data" TextsOrSame))
    else if name = "init" then
      Itemwise (Fieldwise (InitEntry.schema {} Traits.decoder).names
        (onlyAt "traits" (SameButData n)))
    else if name = "sidecar" then
      Itemwise (Fieldwise (SidecarEntry.schema {} Traits.decoder).names
        (onlyAt "traits" (SameButData n)))
    else Eq

/-! Values that differ in secret data are nested equally deep. -/

lemma depthOfFields_texts {fields : List (String × Json)} (h : ∀ e ∈ fields, ∃ s, e.2 = .string s) :
    depthOfFields fields = 0 := by
  induction fields with
  | nil => rfl
  | cons e rest ih =>
      obtain ⟨⟨s, hs⟩, hrest⟩ := List.forall_mem_cons.1 h
      obtain ⟨name, value⟩ := e
      obtain rfl : value = .string s := hs
      rw [depthOfFields, ih hrest]
      rfl

lemma TextsOrSame.depth_eq (h : TextsOrSame j j') : j.depth = j'.depth := by
  cases h with
  | same => rfl
  | texts h h' => rw [depth, depth, depthOfFields_texts h, depthOfFields_texts h']

lemma Itemwise.depth_eq {R : Json → Json → Prop} (hR : ∀ j j', R j j' → j.depth = j'.depth)
    (h : Itemwise R j j') : j.depth = j'.depth := by
  cases h with
  | same => rfl
  | array h =>
      rw [depth, depth]
      refine congrArg (· + 1) ?_
      induction h with
      | nil => rfl
      | cons hj _ ih => rw [depthOfItems, depthOfItems, hR _ _ hj, ih]

lemma Fieldwise.depth_eq {names : List String} {R : String → Json → Json → Prop}
    (hR : ∀ name j j', R name j j' → j.depth = j'.depth) (h : Fieldwise names R j j') :
    j.depth = j'.depth := by
  cases h with
  | same => rfl
  | object h =>
      rw [depth, depth]
      refine congrArg (· + 1) ?_
      induction h with
      | nil => rfl
      | cons he _ ih => rw [depthOfFields, depthOfFields, hR _ _ _ he.2, ih]
  | array h =>
      rw [depth, depth]
      refine congrArg (· + 1) ?_
      induction h with
      | nil | beyond => rfl
      | cons hj _ ih => rw [depthOfItems, depthOfItems, hR _ _ _ hj, ih]

lemma depth_eq_of_onlyAt {name : String} {R : Json → Json → Prop}
    (hR : ∀ j j', R j j' → j.depth = j'.depth) (n : String) (j j' : Json)
    (h : onlyAt name R n j j') : j.depth = j'.depth := by
  rw [onlyAt] at h
  split at h
  · exact hR j j' h
  · rw [h]

lemma SameButData.depth_eq {n : Nat} (h : SameButData n j j') : j.depth = j'.depth := by
  induction n generalizing j j' with
  | zero => rw [show j = j' from h]
  | succ n ih =>
      refine Fieldwise.depth_eq (fun name i i' hi => ?_) h
      have htraits : ∀ n' i i', onlyAt "traits" (SameButData n) n' i i' → i.depth = i'.depth :=
        depth_eq_of_onlyAt fun _ _ => ih
      split at hi
      · exact hi.depth_eq fun _ _ hentry =>
          hentry.depth_eq (depth_eq_of_onlyAt fun _ _ hdata => hdata.depth_eq)
      split at hi
      · exact hi.depth_eq fun _ _ hentry => hentry.depth_eq htraits
      split at hi
      · exact hi.depth_eq fun _ _ hentry => hentry.depth_eq htraits
      · rw [hi]

end Json

namespace Schema

open Json (reading readingItems readingFields Placewise Itemwise Fieldwise TextsOrSame onlyAt
  onlyAt_of_ne SameButData)

/-! ## Decoding alike -/

/-- Related values are refused for the same misfit, or decoded to values with the same image. -/
def ReadsAlike {α β : Type} (R : Json → Json → Prop) (f : α → β) (decode : Decoder α) : Prop :=
  ∀ limit j j', R j j' → (decode limit j.reading).map f = (decode limit j'.reading).map f

section

variable {α : Type} {R : Json → Json → Prop} {f : α → α} {decode : Decoder α}

lemma readsAlike_eq : ReadsAlike Eq f decode := by
  rintro limit j _ rfl
  rfl

lemma ReadsAlike.readItems (h : ReadsAlike R f decode) (limit : Nat) {js js' : List Json}
    (hjs : List.Forall₂ R js js') :
    (readItems (decode limit) (readingItems js)).map (List.map f) =
      (readItems (decode limit) (readingItems js')).map (List.map f) := by
  induction hjs with
  | nil => rfl
  | cons hj _ ih =>
      rw [readingItems, readingItems, Schema.readItems, Schema.readItems]
      obtain ⟨e, he, he'⟩ | ⟨a, a', ha, ha', hsame⟩ := map_eq_map (h limit _ _ hj)
      · rw [he, he']
        rfl
      rw [ha, ha']
      obtain ⟨e, he, he'⟩ | ⟨as, as', has, has', hrest⟩ := map_eq_map ih
      · rw [he, he']
        rfl
      rw [has, has']
      exact congrArg Except.ok (congrArg₂ List.cons hsame hrest)

/-- The items of lists are decoded one by one. -/
lemma ReadsAlike.list (h : ReadsAlike R f decode) :
    ReadsAlike (Itemwise R) (List.map f) (list decode) := by
  intro limit j j' hj
  cases hj with
  | same => rfl
  | array hitems =>
      cases limit with
      | zero => rfl
      | succ limit =>
          rw [reading, reading, Schema.list, Schema.list]
          obtain ⟨e, he, he'⟩ | ⟨as, as', has, has', hsame⟩ :=
            map_eq_map (h.readItems limit hitems)
          · rw [he, he']
          · rw [has, has']
            exact congrArg Except.ok hsame

end

lemma exists_readEntries_texts {fields : List (String × Json)}
    (h : ∀ e ∈ fields, ∃ s, e.2 = .string s) (m : StringMap) :
    ∃ m', readEntries m (readingFields fields) = .ok m' := by
  induction fields generalizing m with
  | nil => exact ⟨m, rfl⟩
  | cons e rest ih =>
      obtain ⟨⟨s, hs⟩, hrest⟩ := List.forall_mem_cons.1 h
      obtain ⟨name, value⟩ := e
      obtain rfl : value = .string s := hs
      exact ih hrest (m.insert name s)

/-- Objects of texts are maps, whatever the texts are. -/
lemma readsAlike_map :
    ReadsAlike TextsOrSame (fun _ : StringMap => (SortedMap.empty : StringMap)) map := by
  intro limit j j' hj
  cases hj with
  | same => rfl
  | texts h h' =>
      cases limit with
      | zero => rfl
      | succ limit =>
          obtain ⟨m, hm⟩ := exists_readEntries_texts h .empty
          obtain ⟨m', hm'⟩ := exists_readEntries_texts h' .empty
          rw [reading, reading, Schema.map, Schema.map, hm, hm']
          rfl

/-! ## Records -/

mutual

/-- A value can be passed over. -/
lemma skip_reading : ∀ j : Json, skip j.reading = .ok ()
  | .null | .bool _ | .number _ | .string _ => rfl
  | .array items => by
      rw [reading, skip, skipItems_reading items]
      rfl
  | .object fields => by
      rw [reading, skip, skipMembers_reading fields]
      rfl

lemma skipItems_reading : ∀ items : List Json, skipItems (readingItems items) = .ok ()
  | [] => rfl
  | j :: rest => by
      rw [readingItems, skipItems, skip_reading j]
      exact skipItems_reading rest

lemma skipMembers_reading : ∀ fields : List (String × Json),
    skipMembers (readingFields fields) = .ok ()
  | [] => rfl
  | (_, j) :: rest => by
      rw [readingFields, skipMembers, skip_reading j]
      exact skipMembers_reading rest

end

section

variable {ρ α : Type} {R : String → Json → Json → Prop} {f : ρ → ρ}
variable {name : String} {decode : Decoder α} {set : α → ρ → ρ}

/-- What a field reads of related values changes records with the same image to such records. -/
def FieldReadsAlike (R : String → Json → Json → Prop) (f : ρ → ρ) (field : Field ρ) : Prop :=
  ∀ limit j j', R field.name j j' → ∀ r r', f r = f r' →
    ((field.read limit j.reading).map fun change => f (change r)) =
      (field.read limit j'.reading).map fun change => f (change r')

/-- The image of a record goes field by field. -/
lemma fieldReadsAlike_optionalField {g : α → α} (hread : ReadsAlike (R name) g decode)
    (hset : ∀ v r, f (set v r) = set (g v) (f r)) :
    FieldReadsAlike R f (optionalField name decode set) := by
  intro limit j j' hj r r' hr
  obtain ⟨e, he, he'⟩ | ⟨v, v', hv, hv', hsame⟩ := map_eq_map (hread limit j j' hj)
  · simp only [optionalField, he, he', Except.map]
  · simp only [optionalField, hv, hv', Except.map, hset, hsame, hr]

/-- A field that the image leaves as it is. -/
lemma fieldReadsAlike_of_eq (hR : R name = Eq) (hset : ∀ v r, f (set v r) = set v (f r)) :
    FieldReadsAlike R f (optionalField name decode set) :=
  fieldReadsAlike_optionalField (g := id) (hR ▸ readsAlike_eq) hset

namespace Record

lemma readMembers_map {fields : List (Field ρ)} (h : ∀ field ∈ fields, FieldReadsAlike R f field)
    (limit : Nat) {ms ms' : List (String × Json)}
    (hms : List.Forall₂ (fun e e' => e.1 = e'.1 ∧ R e.1 e.2 e'.2) ms ms') (r r' : ρ)
    (hr : f r = f r') (given : List String) :
    (readMembers fields limit r given (readingFields ms)).map (Prod.map f id) =
      (readMembers fields limit r' given (readingFields ms')).map (Prod.map f id) := by
  induction hms generalizing r r' given with
  | nil => exact congrArg (fun x => Except.ok (x, given)) hr
  | @cons e e' ms ms' he _ ih =>
      obtain ⟨name, j⟩ := e
      obtain ⟨_, j'⟩ := e'
      obtain ⟨rfl, hj⟩ := he
      simp only [readingFields, readMembers, readName, Except.mapError, bind, Except.bind,
        skip_reading]
      cases hfind : fields.find? (·.name == name) with
      | none => exact ih r r' hr given
      | some field =>
          have hname : field.name = name := by simpa using List.find?_some hfind
          dsimp only
          split
          · rfl
          · obtain ⟨e, he, he'⟩ | ⟨change, change', hchange, hchange', hsame⟩ :=
              map_eq_map (h field (List.mem_of_find?_eq_some hfind) limit j j'
                (hname ▸ hj) r r' hr)
            · rw [he, he']
            · rw [hchange, hchange']
              exact ih (change r) (change' r') hsame (name :: given)

lemma ofMembers_map {schema : Record ρ} (h : ∀ field ∈ schema.fields, FieldReadsAlike R f field)
    (limit : Nat) {ms ms' : List (String × Json)}
    (hms : List.Forall₂ (fun e e' => e.1 = e'.1 ∧ R e.1 e.2 e'.2) ms ms') (stop : Nat) :
    (schema.ofMembers limit (readingFields ms) none stop).map f =
      (schema.ofMembers limit (readingFields ms') none stop).map f := by
  rw [ofMembers, ofMembers]
  obtain ⟨e, he, he'⟩ | ⟨⟨r, given⟩, ⟨r', given'⟩, hr, hr', hsame⟩ :=
    map_eq_map (readMembers_map h limit hms schema.blank schema.blank rfl [])
  · rw [he, he']
  · obtain ⟨hrecord, hgiven⟩ := Prod.mk.inj hsame
    obtain rfl : given = given' := hgiven
    rw [hr, hr']
    simp only [readClose, bind, Except.bind]
    split
    · rfl
    · exact congrArg Except.ok hrecord

lemma readPositions_map {fields : List (Field ρ)}
    (h : ∀ field ∈ fields, FieldReadsAlike R f field) (limit : Nat) {js js' : List Json}
    (hjs : Placewise R (fields.map (·.name)) js js') (r r' : ρ) (hr : f r = f r') (count : Nat) :
    (readPositions limit r count fields (readingItems js)).map (Prod.map f id) =
      (readPositions limit r' count fields (readingItems js')).map (Prod.map f id) := by
  induction fields generalizing js js' r r' count with
  | nil =>
      have hsame : js = js' := by
        cases hjs <;> rfl
      rw [hsame]
      unfold readPositions
      exact congrArg (fun x => Except.ok (x, count, [], readingItems js')) hr
  | cons field fields ih =>
      cases hjs with
      | nil => exact congrArg (fun x => Except.ok (x, count, field :: fields, [])) hr
      | @cons _ _ j j' js js' hj hjs =>
          obtain ⟨hfield, hfields⟩ := List.forall_mem_cons.1 h
          rw [readingItems, readingItems, readPositions, readPositions]
          obtain ⟨e, he, he'⟩ | ⟨change, change', hchange, hchange', hsame⟩ :=
            map_eq_map (hfield limit j j' hj r r' hr)
          · rw [he, he']
            rfl
          · rw [hchange, hchange']
            exact ih hfields hjs (change r) (change' r') hsame (count + 1)

lemma length_readingItems {names : List String} {js js' : List Json}
    (h : Placewise R names js js') : (readingItems js).length = (readingItems js').length := by
  induction h with
  | nil | beyond => rfl
  | cons _ _ ih => rw [readingItems, readingItems, List.length_cons, List.length_cons, ih]

lemma ofItems_map {schema : Record ρ} (h : ∀ field ∈ schema.fields, FieldReadsAlike R f field)
    (limit : Nat) {js js' : List Json} (hjs : Placewise R schema.names js js') (stop : Nat) :
    (schema.ofItems limit (readingItems js) none stop).map f =
      (schema.ofItems limit (readingItems js') none stop).map f := by
  rw [ofItems, ofItems, length_readingItems hjs]
  obtain ⟨e, he, he'⟩ | ⟨⟨r, rest⟩, ⟨r', rest'⟩, hr, hr', hsame⟩ :=
    map_eq_map (readPositions_map h limit hjs schema.blank schema.blank rfl 0)
  · rw [he, he']
  · obtain ⟨hrecord, hrest⟩ := Prod.mk.inj hsame
    obtain rfl : rest = rest' := hrest
    obtain ⟨count, fields, left⟩ := rest
    rw [hr, hr']
    simp only [readClose, readFullClose, bind, Except.bind]
    split
    · rfl
    · exact congrArg Except.ok hrecord
    · split
      · rfl
      · exact congrArg Except.ok hrecord

/-- **Records are decoded alike if their fields are.** -/
theorem readsAlike {schema : Record ρ} {names : List String} (hnames : schema.names = names)
    (h : ∀ field ∈ schema.fields, FieldReadsAlike R f field) :
    ReadsAlike (Fieldwise names R) f schema.decoder := by
  subst hnames
  intro limit j j' hj
  cases limit with
  | zero => cases hj <;> rfl
  | succ limit =>
      cases hj with
      | same => rfl
      | object hms => exact ofMembers_map h limit hms _
      | array hjs => exact ofItems_map h limit hjs _

end Record

end

/-! ## Payloads -/

lemma readsAlike_secretEntry :
    ReadsAlike (Fieldwise SecretEntry.schema.names (onlyAt "data" TextsOrSame))
      SecretEntry.redacted SecretEntry.schema.decoder := by
  refine Record.readsAlike rfl ?_
  simp only [SecretEntry.schema, List.forall_mem_cons, List.not_mem_nil, false_imp_iff,
    implies_true, and_true]
  exact fieldReadsAlike_optionalField readsAlike_map fun _ _ => rfl

section

variable {n : Nat} {nested : Decoder Traits}
variable (h : ReadsAlike (SameButData n) Traits.redact nested)
include h

lemma readsAlike_initEntry :
    ReadsAlike
      (Fieldwise (InitEntry.schema {} Traits.decoder).names (onlyAt "traits" (SameButData n)))
      InitEntry.redacted (InitEntry.schema {} nested).decoder := by
  refine Record.readsAlike rfl ?_
  simp only [InitEntry.schema, List.forall_mem_cons, List.not_mem_nil, false_imp_iff,
    implies_true, and_true]
  exact ⟨fieldReadsAlike_of_eq (onlyAt_of_ne (by decide)) fun _ _ => rfl,
    fieldReadsAlike_of_eq (onlyAt_of_ne (by decide)) fun _ _ => rfl,
    fieldReadsAlike_optionalField h fun _ _ => rfl⟩

lemma readsAlike_sidecarEntry :
    ReadsAlike
      (Fieldwise (SidecarEntry.schema {} Traits.decoder).names (onlyAt "traits" (SameButData n)))
      SidecarEntry.redacted (SidecarEntry.schema {} nested).decoder := by
  refine Record.readsAlike rfl ?_
  simp only [SidecarEntry.schema, List.forall_mem_cons, List.not_mem_nil, false_imp_iff,
    implies_true, and_true]
  refine ⟨?_, ?_, ?_, ?_, ?_, fieldReadsAlike_optionalField h fun _ _ => rfl⟩ <;>
    exact fieldReadsAlike_of_eq (onlyAt_of_ne (by decide)) fun _ _ => rfl

lemma readsAlike_schema :
    ReadsAlike (SameButData (n + 1)) Traits.redact (Traits.schema nested).decoder := by
  refine Record.readsAlike rfl ?_
  simp only [Traits.schema, List.forall_mem_cons, List.not_mem_nil, false_imp_iff,
    implies_true, and_true]
  refine ⟨?init, ?_, ?secret, ?sidecar, ?_, ?_, ?_, ?_, ?_, ?_⟩
  case init =>
    exact fieldReadsAlike_optionalField (readsAlike_initEntry h).list fun v r => by
      rw [Traits.redact_eq, Traits.redact_eq]
  case secret =>
    exact fieldReadsAlike_optionalField readsAlike_secretEntry.list fun v r => by
      rw [Traits.redact_eq, Traits.redact_eq]
  case sidecar =>
    exact fieldReadsAlike_optionalField (readsAlike_sidecarEntry h).list fun v r => by
      rw [Traits.redact_eq, Traits.redact_eq]
  all_goals
    refine fieldReadsAlike_of_eq (by simp) fun v r => ?_
    rw [Traits.redact_eq, Traits.redact_eq]

end

lemma span_reading (j : Json) : j.reading.span = {} := by
  cases j <;> rfl

/-- **Payloads that differ in the contents of secret data are decoded alike.** -/
theorem readsAlike_traits (n : Nat) : ReadsAlike (SameButData n) Traits.redact Traits.decoder := by
  induction n with
  | zero => exact readsAlike_eq
  | succ n ih =>
      have hdeep : ReadsAlike (SameButData n) Traits.redact fun _ r => .error (tooDeep r) :=
        fun _ _ _ _ => by simp only [tooDeep, span_reading]
      have hroom : ∀ limit, ReadsAlike (SameButData n) Traits.redact
          fun _ => Traits.decoder limit := fun limit _ => ih limit
      intro limit j j' hj
      -- Where the limit leaves no room for a payload inside this one, all of them are refused.
      match limit with
      | 0 | 1 | 2 => exact readsAlike_schema hdeep _ j j' hj
      | limit + 3 => exact readsAlike_schema (hroom limit) (limit + 3) j j' hj

end Schema

namespace Component

/-- Two payloads that are the same but for the contents of the data of their secrets.  Either both
are decoded, whatever encoding they come in, and the traits are the same when these data are
emptied; or both are JSON values, and nothing but texts in these data has been replaced by texts,
whether they are decoded or not. -/
inductive SameButSecretData : Option Json → Option Json → Prop
  | decoded {payload payload' : Option Json} {t? t'? : Option Traits}
      (h : decodePayload payload = .ok t?) (h' : decodePayload payload' = .ok t'?)
      (hsame : t'?.map Traits.redact = t?.map Traits.redact) : SameButSecretData payload payload'
  | value {n : Nat} {j j' : Json} (h : Json.SameButData n j j') :
      SameButSecretData (some j) (some j')

lemma decodePayload_of_sameButData {n : Nat} {j j' : Json} (h : Json.SameButData n j j') :
    (decodePayload (some j')).map (·.map Traits.redact) =
      (decodePayload (some j)).map (·.map Traits.redact) := by
  have hdepth : j.depth = j'.depth := h.depth_eq
  have hread := Schema.readsAlike_traits n j.depth j j' h
  have hofJson : ((Schema.ofJson Traits.decoder j').map some).map (·.map Traits.redact) =
      ((Schema.ofJson Traits.decoder j).map some).map (·.map Traits.redact) := by
    rw [Schema.ofJson, Schema.ofJson, ← hdepth]
    obtain ⟨e, he, he'⟩ | ⟨t, t', ht, ht', hsame⟩ := map_eq_map hread
    · rw [he, he']
    · rw [ht, ht']
      exact congrArg (fun t => Except.ok (some t)) hsame.symm
  cases n with
  | zero => rw [show j = j' from h]
  | succ n =>
      cases h with
      | same => rfl
      | object | array => exact hofJson

/-- Payloads that are the same but for secret data are refused alike or decoded to traits that are
the same without these data. -/
theorem SameButSecretData.decodePayload_eq {payload payload' : Option Json}
    (h : SameButSecretData payload payload') :
    (decodePayload payload').map (·.map Traits.redact) =
      (decodePayload payload).map (·.map Traits.redact) := by
  cases h with
  | decoded h h' hsame =>
      rw [h, h']
      exact congrArg Except.ok hsame
  | value h => exact decodePayload_of_sameButData h

end Component

end WorkloadTraits
