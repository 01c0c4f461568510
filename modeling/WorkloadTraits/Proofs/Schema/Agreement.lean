import WorkloadTraits.Schema.Record
import WorkloadTraits.Proofs.Json.Spelling

/-!
# What decoding depends on

Two readings of one value are decoded to the same, or both refused, whatever their spans and under
any limits that reach as deep as the value is nested (`DecodeAlike`).  The causes of a refusal and
their places may differ, so outcomes are compared by `Agree`, which looks at values only.

Each way to build a decoder has one lemma here, and the one about records carries the rest
(`Record.decodeAlike`).  The decoders of the two sides need not be the same: a payload inside a
payload is decoded by a decoder that depends on the limit itself.
-/

namespace WorkloadTraits.Schema

open Json

/-! ## Outcomes -/

/-- Both refuse, or both accept and the values are related. -/
inductive Agree {α β : Type} (R : α → β → Prop) : Except Misfit α → Except Misfit β → Prop
  | ok {a : α} {b : β} (h : R a b) : Agree R (.ok a) (.ok b)
  | error {e e' : Misfit} : Agree R (.error e) (.error e')

namespace Agree

variable {α α' β β' : Type} {R : α → α' → Prop} {S : β → β' → Prop}

lemma bind {x : Except Misfit α} {x' : Except Misfit α'} {f : α → Except Misfit β}
    {f' : α' → Except Misfit β'} (h : Agree R x x') (hf : ∀ a a', R a a' → Agree S (f a) (f' a')) :
    Agree S (x >>= f) (x' >>= f') := by
  cases h with
  | ok h => exact hf _ _ h
  | error => exact .error

lemma map {x : Except Misfit α} {x' : Except Misfit α'} {f : α → β} {f' : α' → β'}
    (h : Agree R x x') (hf : ∀ a a', R a a' → S (f a) (f' a')) :
    Agree S (x.map f) (x'.map f') := by
  cases h with
  | ok h => exact .ok (hf _ _ h)
  | error => exact .error

lemma of_toOption {x y : Except Misfit α} (h : x.toOption = y.toOption) : Agree Eq x y := by
  cases x with
  | ok a =>
      cases y with
      | ok b => exact .ok (Option.some.inj h)
      | error => exact nomatch h
  | error =>
      cases y with
      | ok b => exact nomatch h
      | error => exact .error

end Agree

/-! ## Scalars, lists and maps -/

/-- The decoders make the same of one value, under limits that reach as deep as it is nested. -/
def DecodeAlike {α : Type} (bound : Nat) (decode decode' : Decoder α) : Prop :=
  ∀ limit limit', bound ≤ limit → bound ≤ limit' → ∀ r r', Alike bound r r' →
    Agree Eq (decode limit r) (decode' limit' r')

lemma agree_text {bound : Nat} {r r' : Reading} (h : Alike bound r r') {limit limit' : Nat} :
    Agree Eq (text limit r) (text limit' r') := by
  cases h with
  | string => exact .ok rfl
  | _ => exact .error

lemma toOption_int32 (limit : Nat) (x : Except Defect Number) (span : Span) :
    (int32 limit (.number x span)).toOption = x.toOption.bind Number.word := by
  match x with
  | .error _ => rfl
  | .ok (.double ..) => rfl
  | .ok (.integer i) =>
    have hword : (Except.ok (.integer i) : Except Defect Number).toOption.bind Number.word =
        Number.word? i := rfl
    rw [hword, int32]
    cases Number.word? i <;> rfl

namespace DecodeAlike

variable {α : Type} {bound : Nat} {decode decode' : Decoder α}

@[simp]
lemma text : DecodeAlike bound Schema.text Schema.text :=
  fun _ _ _ _ _ _ h => agree_text h

@[simp]
lemma boolean : DecodeAlike bound Schema.boolean Schema.boolean := by
  intro _ _ _ _ _ _ h
  cases h with
  | bool => exact .ok rfl
  | _ => exact .error

@[simp]
lemma int32 : DecodeAlike bound Schema.int32 Schema.int32 := by
  intro _ _ _ _ _ _ h
  cases h with
  | number h =>
      refine .of_toOption ?_
      rw [toOption_int32, toOption_int32, h]
  | _ => exact .error

/-- What is made of a decoded value does not matter. -/
lemma then_map (h : DecodeAlike bound decode decode') {β : Type} (f : α → β) :
    DecodeAlike bound (fun limit r => (decode limit r).map f)
      (fun limit r => (decode' limit r).map f) :=
  fun limit limit' hlimit hlimit' r r' halike =>
    (h limit limit' hlimit hlimit' r r' halike).map fun _ _ heq => congrArg f heq

@[simp]
lemma optional (h : DecodeAlike bound decode decode') :
    DecodeAlike bound (optional decode) (optional decode') := by
  intro limit limit' hlimit hlimit' r r' halike
  have hgiven := h.then_map some limit limit' hlimit hlimit' r r' halike
  cases halike with
  | null => exact .ok rfl
  | _ => exact hgiven

lemma readItems {limit limit' : Nat} (h : DecodeAlike bound decode decode')
    (hlimit : bound ≤ limit) (hlimit' : bound ≤ limit') {rs rs' : List Reading}
    (hrs : AlikeItems bound rs rs') :
    Agree Eq (readItems (decode limit) rs) (readItems (decode' limit') rs') := by
  induction rs generalizing rs' with
  | nil =>
      cases hrs
      exact .ok rfl
  | cons r rs ih =>
      cases hrs with
      | cons head tail =>
          refine (h limit limit' hlimit hlimit' _ _ head).bind ?_
          rintro value _ rfl
          refine (ih tail).bind ?_
          rintro values _ rfl
          exact .ok rfl

/-- The items are nested one level less deep than the list. -/
@[simp]
lemma list (h : DecodeAlike (bound - 1) decode decode') :
    DecodeAlike bound (list decode) (list decode') := by
  intro limit limit' hlimit hlimit' r r' halike
  cases halike with
  | array hrs =>
      obtain ⟨deep, rfl⟩ := Nat.exists_eq_add_of_le' hlimit
      obtain ⟨deep', rfl⟩ := Nat.exists_eq_add_of_le' hlimit'
      refine Agree.bind (h.readItems (Nat.le_add_left ..) (Nat.le_add_left ..) hrs) ?_
      rintro values _ rfl
      exact .ok rfl
  | _ => cases limit <;> cases limit' <;> exact .error

lemma readEntries {ms ms' : List (Name × Reading)} (h : AlikeMembers bound ms ms')
    (m : StringMap) : Agree Eq (readEntries m ms) (readEntries m ms') := by
  induction ms generalizing ms' m with
  | nil =>
      cases h
      exact .ok rfl
  | cons e ms ih =>
      cases h with
      | @cons _ _ _ _ r r' _ _ head tail =>
          have hvalue : Agree Eq (Schema.text 0 r) (Schema.text 0 r') := agree_text head
          refine hvalue.bind ?_
          rintro value _ rfl
          exact ih tail _

@[simp]
lemma map : DecodeAlike bound map map := by
  intro limit limit' hlimit hlimit' r r' halike
  cases halike with
  | object hms =>
      obtain ⟨deep, rfl⟩ := Nat.exists_eq_add_of_le' hlimit
      obtain ⟨deep', rfl⟩ := Nat.exists_eq_add_of_le' hlimit'
      refine Agree.bind (readEntries hms .empty) ?_
      rintro m _ rfl
      exact .ok rfl
  | _ => cases limit <;> cases limit' <;> exact .error

end DecodeAlike

/-! ## Values that are passed over -/

/-- Nothing is broken in readings that are alike, so one who passes over them finds no defect. -/
def Passes (bound : Nat) : Prop :=
  ∀ r r', Alike bound r r' → skip r = .ok () ∧ skip r' = .ok ()

lemma skipItems_of_alike {bound : Nat} (h : Passes bound) {rs rs' : List Reading}
    (hrs : AlikeItems bound rs rs') : skipItems rs = .ok () ∧ skipItems rs' = .ok () := by
  induction rs generalizing rs' with
  | nil =>
      cases hrs
      exact ⟨rfl, rfl⟩
  | cons r rs ih =>
      cases hrs with
      | cons head tail =>
          obtain ⟨hhead, hhead'⟩ := h _ _ head
          obtain ⟨htail, htail'⟩ := ih tail
          rw [skipItems, skipItems, hhead, hhead']
          exact ⟨htail, htail'⟩

lemma skipMembers_of_alike {bound : Nat} (h : Passes bound) {ms ms' : List (Name × Reading)}
    (hms : AlikeMembers bound ms ms') : skipMembers ms = .ok () ∧ skipMembers ms' = .ok () := by
  induction ms generalizing ms' with
  | nil =>
      cases hms
      exact ⟨rfl, rfl⟩
  | cons e ms ih =>
      cases hms with
      | cons head tail =>
          obtain ⟨hhead, hhead'⟩ := h _ _ head
          obtain ⟨htail, htail'⟩ := ih tail
          rw [skipMembers, skipMembers, hhead, hhead']
          exact ⟨htail, htail'⟩

/-- The induction is on the bound and not on the readings, which are nested through two kinds of
lists. -/
lemma passes (bound : Nat) : Passes bound := by
  induction bound with
  | zero =>
      intro r r' h
      cases h <;> exact ⟨rfl, rfl⟩
  | succ bound ih =>
      intro r r' h
      cases h with
      | array hrs =>
          obtain ⟨hleft, hright⟩ := skipItems_of_alike ih hrs
          rw [skip, skip, hleft, hright]
          exact ⟨rfl, rfl⟩
      | object hms =>
          obtain ⟨hleft, hright⟩ := skipMembers_of_alike ih hms
          rw [skip, skip, hleft, hright]
          exact ⟨rfl, rfl⟩
      | _ => exact ⟨rfl, rfl⟩

/-! ## Records -/

section

variable {ρ α : Type} {bound : Nat}

/-- The fields are called the same, and what they read is the same. -/
structure FieldAlike (bound : Nat) (f f' : Field ρ) : Prop where
  name : f.name = f'.name
  required : f.required = f'.required
  read : DecodeAlike bound f.read f'.read

@[simp]
lemma fieldAlike_optionalField {name : String} {decode decode' : Decoder α} {set : α → ρ → ρ}
    (h : DecodeAlike bound decode decode') :
    FieldAlike bound (optionalField name decode set) (optionalField name decode' set) :=
  ⟨rfl, rfl, h.then_map set⟩

@[simp]
lemma fieldAlike_requiredField {name : String} {decode decode' : Decoder α} {set : α → ρ → ρ}
    (h : DecodeAlike bound decode decode') :
    FieldAlike bound (requiredField name decode set) (requiredField name decode' set) :=
  ⟨rfl, rfl, h.then_map set⟩

namespace Record

variable {fields fields' : List (Field ρ)} {limit limit' : Nat}

lemma find?_alike (h : List.Forall₂ (FieldAlike bound) fields fields') {p p' : Field ρ → Bool}
    (hp : ∀ f f', FieldAlike bound f f' → p f = p' f') :
    Option.Rel (FieldAlike bound) (fields.find? p) (fields'.find? p') := by
  induction h with
  | nil => exact .none
  | @cons f f' fields fields' hf _ ih =>
      rw [List.find?_cons, List.find?_cons, hp f f' hf]
      cases p' f' with
      | true => exact .some hf
      | false => exact ih

lemma firstRequired_alike (h : List.Forall₂ (FieldAlike bound) fields fields') (count : Nat) :
    firstRequired count fields = firstRequired count fields' := by
  induction h generalizing count with
  | nil => rfl
  | cons hf _ ih => rw [firstRequired, firstRequired, hf.required, ih]

lemma readMembers_alike (h : List.Forall₂ (FieldAlike bound) fields fields')
    (hlimit : bound ≤ limit) (hlimit' : bound ≤ limit') {ms ms' : List (Name × Reading)}
    (hms : AlikeMembers bound ms ms') (record : ρ) (given : List String) :
    Agree Eq (readMembers fields limit record given ms)
      (readMembers fields' limit' record given ms') := by
  induction ms generalizing ms' record given with
  | nil =>
      cases hms
      exact .ok rfl
  | cons e ms ih =>
      cases hms with
      | @cons _ name _ _ r r' _ _ head tail =>
          have hfind : Option.Rel (FieldAlike bound) (fields.find? (·.name == name))
              (fields'.find? (·.name == name)) :=
            find?_alike h fun f f' hf => by rw [hf.name]
          obtain ⟨hskip, hskip'⟩ := passes bound r r' head
          unfold readMembers
          simp only [readName, Except.mapError, bind, Except.bind, hskip, hskip']
          generalize fields.find? (·.name == name) = found at hfind ⊢
          generalize fields'.find? (·.name == name) = found' at hfind ⊢
          cases hfind with
          | none => exact ih tail record given
          | @some f f' hf =>
              dsimp only
              split
              · exact .error
              · refine Agree.bind (hf.read limit limit' hlimit hlimit' r r' head) ?_
                rintro change _ rfl
                exact ih tail (change record) (name :: given)

/-- What two lists of items leave over alike: both readers are at the same field, and both have an
item in hand or neither has. -/
def LeftAlike (bound : Nat) : ρ × Nat × List (Field ρ) × List Reading →
    ρ × Nat × List (Field ρ) × List Reading → Prop
  | (record, count, fields, rs), (record', count', fields', rs') =>
    record = record' ∧ count = count' ∧ List.Forall₂ (FieldAlike bound) fields fields' ∧
      (rs = [] ↔ rs' = [])

lemma readPositions_alike (h : List.Forall₂ (FieldAlike bound) fields fields')
    (hlimit : bound ≤ limit) (hlimit' : bound ≤ limit') {rs rs' : List Reading}
    (hrs : AlikeItems bound rs rs') (record : ρ) (count : Nat) :
    Agree (LeftAlike bound) (readPositions limit record count fields rs)
      (readPositions limit' record count fields' rs') := by
  induction h generalizing rs rs' record count with
  | nil =>
      cases hrs with
      | nil => exact .ok ⟨rfl, rfl, .nil, Iff.rfl⟩
      | cons => exact .ok ⟨rfl, rfl, .nil, by simp⟩
  | @cons f f' fields fields' hf hfields ih =>
      cases hrs with
      | nil => exact .ok ⟨rfl, rfl, .cons hf hfields, Iff.rfl⟩
      | cons head tail =>
          refine Agree.bind (hf.read limit limit' hlimit hlimit' _ _ head) ?_
          rintro change _ rfl
          exact ih tail (change record) (count + 1)

variable {schema schema' : Record ρ}

lemma ofMembers_alike (hblank : schema.blank = schema'.blank)
    (h : List.Forall₂ (FieldAlike bound) schema.fields schema'.fields)
    (hlimit : bound ≤ limit) (hlimit' : bound ≤ limit') {ms ms' : List (Name × Reading)}
    (hms : AlikeMembers bound ms ms') (stop stop' : Nat) :
    Agree Eq (schema.ofMembers limit ms none stop) (schema'.ofMembers limit' ms' none stop') := by
  unfold ofMembers
  rw [hblank]
  refine (readMembers_alike h hlimit hlimit' hms schema'.blank []).bind ?_
  rintro ⟨record, given⟩ _ rfl
  have hfind : Option.Rel (FieldAlike bound)
      (schema.fields.find? fun f => f.required && !given.contains f.name)
      (schema'.fields.find? fun f => f.required && !given.contains f.name) :=
    find?_alike h fun f f' hf => by rw [hf.required, hf.name]
  simp only [readClose, bind, Except.bind]
  generalize schema.fields.find? _ = missing at hfind ⊢
  generalize schema'.fields.find? _ = missing' at hfind ⊢
  cases hfind with
  | none => exact .ok rfl
  | some => exact .error

lemma ofItems_alike (hblank : schema.blank = schema'.blank)
    (h : List.Forall₂ (FieldAlike bound) schema.fields schema'.fields)
    (hlimit : bound ≤ limit) (hlimit' : bound ≤ limit') {rs rs' : List Reading}
    (hrs : AlikeItems bound rs rs') (stop stop' : Nat) :
    Agree Eq (schema.ofItems limit rs none stop) (schema'.ofItems limit' rs' none stop') := by
  unfold ofItems
  rw [hblank]
  refine (readPositions_alike h hlimit hlimit' hrs schema'.blank 0).bind ?_
  rintro ⟨record, count, fields, left⟩ ⟨record', count', fields', left'⟩ ⟨rfl, rfl, hfields, hleft⟩
  cases left with
  | cons r left =>
      obtain ⟨r', left', rfl⟩ := List.exists_cons_of_ne_nil (mt hleft.2 (List.cons_ne_nil r left))
      exact .error
  | nil =>
      obtain rfl := hleft.1 rfl
      have hrequired := firstRequired_alike hfields count
      cases hfields with
      | nil => exact .ok rfl
      | cons hf hfields =>
          simp only [readClose, bind, Except.bind, hrequired]
          split
          · exact .error
          · exact .ok rfl

/-- **Records are decoded alike if their fields are.**  What a field reads is nested one level less
deep than the record. -/
theorem decodeAlike (hblank : schema.blank = schema'.blank)
    (h : List.Forall₂ (FieldAlike (bound - 1)) schema.fields schema'.fields) :
    DecodeAlike bound schema.decoder schema'.decoder := by
  intro limit limit' hlimit hlimit' r r' halike
  cases halike with
  | array hrs =>
      obtain ⟨deep, rfl⟩ := Nat.exists_eq_add_of_le' hlimit
      obtain ⟨deep', rfl⟩ := Nat.exists_eq_add_of_le' hlimit'
      exact ofItems_alike hblank h (Nat.le_add_left ..) (Nat.le_add_left ..) hrs _ _
  | object hms =>
      obtain ⟨deep, rfl⟩ := Nat.exists_eq_add_of_le' hlimit
      obtain ⟨deep', rfl⟩ := Nat.exists_eq_add_of_le' hlimit'
      exact ofMembers_alike hblank h (Nat.le_add_left ..) (Nat.le_add_left ..) hms _ _
  | _ => cases limit <;> cases limit' <;> exact .error

end Record

end

end WorkloadTraits.Schema
