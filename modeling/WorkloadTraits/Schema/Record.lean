import WorkloadTraits.Schema.Cause
import WorkloadTraits.SortedMap

/-!
# Decoding by a schema

A decoder takes a reading to a value or to the first misfit in reading order.  Records
are decoded by a list of fields, each of which knows its name, whether it must be given, and how
its value changes the record.  A record is written as an object, in which unknown fields are
passed over and a known field may stand once, or as a list of its fields in the schema's order.

Every decoder has a limit on the arrays and objects that it may enter one inside the other.  For
a text the limit is part of the rules (`textLimit`), for a value it is the depth of the value
itself, which is never reached.
-/

namespace WorkloadTraits.Schema

open Json (Reading Break Name)

/-- A decoder under a limit of nesting. -/
abbrev Decoder (α : Type) := Nat → Reading → Except Misfit α

/-- How deep arrays and objects of a text may be nested where the schema looks into them. -/
def textLimit : Nat := 127

mutual

/-- Passes over a value that the schema does not know. -/
def skip : Reading → Except Misfit Unit
  | .broken fault => .error (.ofDefect fault.skip)
  | .array items close _ => do
    skipItems items
    skipClose close
  | .object members close _ => do
    skipMembers members
    skipClose close
  | _ => .ok ()

/-- Passes over items. -/
def skipItems : List Reading → Except Misfit Unit
  | [] => .ok ()
  | r :: rest => do
    skip r
    skipItems rest

/-- Passes over members, whose names need not stand for characters. -/
def skipMembers : List (Name × Reading) → Except Misfit Unit
  | [] => .ok ()
  | (_, r) :: rest => do
    skip r
    skipMembers rest

/-- Passes over the end of an array or object. -/
def skipClose : Option Break → Except Misfit Unit
  | some fault => .error (.ofDefect fault.skip)
  | none => .ok ()

end

/-- Reads the end of an array or object. -/
def readClose : Option Break → Except Misfit Unit
  | some fault => .error (.ofDefect fault.read)
  | none => .ok ()

/-- Reads the end of a list in which nothing else can stand. -/
def readFullClose : Option Break → Except Misfit Unit
  | some fault => .error (.ofDefect fault.full)
  | none => .ok ()

/-- Reads a name. -/
def readName (name : Name) : Except Misfit String :=
  name.content.mapError .ofDefect

/-- The misfit of a value that is not what the schema asks for.  A scalar is read by then, an array
or object is not. -/
def mismatch (expected : Expected) : Reading → Misfit
  | .null span => ⟨.wrongType .null expected, span.stop⟩
  | .bool b span => ⟨.wrongType (.bool b) expected, span.stop⟩
  | .number (.ok n) span => ⟨.wrongType (.number n) expected, span.stop⟩
  | .string (.ok s) span => ⟨.wrongType (.string s) expected, span.stop⟩
  | .number (.error defect) _ | .string (.error defect) _ => .ofDefect defect
  | .array _ _ span => ⟨.wrongType .sequence expected, span.start⟩
  | .object _ _ span => ⟨.wrongType .map expected, span.start⟩
  | .broken fault => .ofDefect fault.read

/-! ## Scalars, lists and maps -/

/-- A text. -/
def text : Decoder String
  | _, .string (.ok s) _ => .ok s
  | _, r => .error (mismatch .string r)

/-- A truth value. -/
def boolean : Decoder Bool
  | _, .bool b _ => .ok b
  | _, r => .error (mismatch .boolean r)

/-- An integer of 32 bits with a sign. -/
def int32 : Decoder Int32
  | _, .number (.ok (.integer i)) span =>
    match Json.Number.word? i with
    | some word => .ok word
    | none => .error ⟨.outOfRange i .int32, span.stop⟩
  | _, r => .error (mismatch .int32 r)

/-- An integer of 64 bits without a sign. -/
def natural : Decoder Nat
  | _, .number (.ok (.integer (.ofNat n))) _ => .ok n
  | _, .number (.ok (.integer i)) span => .error ⟨.outOfRange i .natural, span.stop⟩
  | _, r => .error (mismatch .natural r)

/-- Any value that is whole. -/
def anything : Decoder Json
  | _, r =>
    match r.value? with
    | some j => .ok j
    | none => .error ⟨.unreadable .expectedValue, r.span.start⟩

/-- A value that may be null. -/
def optional {α : Type} (decode : Decoder α) : Decoder (Option α)
  | _, .null _ => .ok none
  | limit, r => (decode limit r).map some

/-- The misfit of an array or object that is nested too deep. -/
def tooDeep (r : Reading) : Misfit := ⟨.unreadable .tooDeep, r.span.start + 1⟩

/-- Decodes items one after the other. -/
def readItems {α : Type} (decode : Reading → Except Misfit α) :
    List Reading → Except Misfit (List α)
  | [] => .ok []
  | r :: rest => do return (← decode r) :: (← readItems decode rest)

/-- A list. -/
def list {α : Type} (decode : Decoder α) : Decoder (List α)
  | 0, r@(.array ..) => .error (tooDeep r)
  | limit + 1, .array items close _ => do
    let values ← readItems (decode limit) items
    readClose close
    return values
  | _, r => .error (mismatch .sequence r)

/-- Adds members to a map; a later member replaces an earlier one of its name. -/
def readEntries (m : StringMap) : List (Name × Reading) → Except Misfit StringMap
  | [] => .ok m
  | (name, r) :: rest => do
    let key ← readName name
    readEntries (m.insert key (← text 0 r)) rest

/-- A map from text to text. -/
def map : Decoder StringMap
  | 0, r@(.object ..) => .error (tooDeep r)
  | _ + 1, .object members close _ => do
    let m ← readEntries .empty members
    readClose close
    return m
  | _, r => .error (mismatch .map r)

/-! ## Records -/

/-- A field of a record `ρ`. -/
structure Field (ρ : Type) where
  name : String
  /-- Whether a record without the field is refused. -/
  required : Bool
  /-- Reads the field's value and says how it changes the record. -/
  read : Nat → Reading → Except Misfit (ρ → ρ)

/-- A field that keeps its default when it is not given. -/
def optionalField {ρ α : Type} (name : String) (decode : Decoder α) (set : α → ρ → ρ) : Field ρ :=
  ⟨name, false, fun limit r => (decode limit r).map set⟩

/-- A field that has to be given. -/
def requiredField {ρ α : Type} (name : String) (decode : Decoder α) (set : α → ρ → ρ) : Field ρ :=
  ⟨name, true, fun limit r => (decode limit r).map set⟩

/-- A kind of record: its name, its fields in order, and the record before any is given. -/
structure Record (ρ : Type) where
  name : String
  fields : List (Field ρ)
  blank : ρ

namespace Record

variable {ρ : Type}

/-- Reads the members of an object into a record, remembering the fields that were given. -/
def readMembers (fields : List (Field ρ)) (limit : Nat) (record : ρ) (given : List String) :
    List (Name × Reading) → Except Misfit (ρ × List String)
  | [] => .ok (record, given)
  | (name, r) :: rest => do
    let key ← readName name
    match fields.find? (·.name == key) with
    | none =>
      skip r
      readMembers fields limit record given rest
    | some f =>
      if given.contains key then .error ⟨.duplicateField key, name.stop⟩
      else
        let change ← f.read limit r
        readMembers fields limit (change record) (key :: given) rest

/-- Reads items into a record, each into the next field, and says how many were read and which
fields and items are left. -/
def readPositions (limit : Nat) (record : ρ) (count : Nat) :
    List (Field ρ) → List Reading → Except Misfit (ρ × Nat × List (Field ρ) × List Reading)
  | f :: fields, r :: rest => do
    let change ← f.read limit r
    readPositions limit (change record) (count + 1) fields rest
  | fields, rest => .ok (record, count, fields, rest)

/-- A record written as an object. -/
def ofMembers (schema : Record ρ) (limit : Nat) (members : List (Name × Reading))
    (close : Option Break) (stop : Nat) : Except Misfit ρ := do
  let (record, given) ← readMembers schema.fields limit schema.blank [] members
  readClose close
  match schema.fields.find? fun f => f.required && !given.contains f.name with
  | some f => .error ⟨.missingField f.name, stop⟩
  | none => return record

/-- How many fields are read before a list that ends here lacks one that is required. -/
def firstRequired (count : Nat) : List (Field ρ) → Option Nat
  | [] => none
  | f :: rest => if f.required then some count else firstRequired (count + 1) rest

/-- A record written as a list. -/
def ofItems (schema : Record ρ) (limit : Nat) (items : List Reading)
    (close : Option Break) (stop : Nat) : Except Misfit ρ := do
  let (record, count, fields, rest) ← readPositions limit schema.blank 0 schema.fields items
  match rest, fields with
  | r :: _, _ => .error ⟨.tooMany items.length, r.span.start + 1⟩
  | [], [] =>
    readFullClose close
    return record
  | [], _ :: _ =>
    readClose close
    match firstRequired count fields with
    | some missing => .error ⟨.tooFew missing schema.name schema.fields.length, stop⟩
    | none => return record

/-- The decoder of a kind of record. -/
def decoder (schema : Record ρ) : Decoder ρ
  | 0, r@(.object ..) => .error (tooDeep r)
  | limit + 1, .object members close span => schema.ofMembers limit members close span.stop
  | 0, r@(.array ..) => .error (tooDeep r)
  | limit + 1, .array items close span => schema.ofItems limit items close span.stop
  | _, r => .error (mismatch (.record schema.name) r)

end Record

/-! ## Documents and values -/

/-- Decodes a JSON value. -/
def ofJson {α : Type} (decode : Decoder α) (j : Json) : Except Refusal α :=
  (decode j.depth j.reading).mapError fun misfit => ⟨misfit.cause, {}⟩

/-- Decodes a document, in which nothing may follow the value. -/
def ofDocument {α : Type} (decode : Decoder α) (document : Json.Document) : Except Misfit α := do
  let value ← decode textLimit document.root
  match document.trailing with
  | some defect => .error (.ofDefect defect)
  | none => return value

/-- Decodes a text that holds one JSON value. -/
def ofText {α : Type} (decode : Decoder α) (s : String) : Except Refusal α :=
  (ofDocument decode (.ofText Json.Literal.inSteps s)).mapError fun misfit =>
    ⟨misfit.cause.inText, .ofOffset s misfit.offset⟩

end WorkloadTraits.Schema
