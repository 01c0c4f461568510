import WorkloadTraits.Json.Printer
import WorkloadTraits.Json.Token

/-!
# Readings

A `Reading` is what one sees who reads a JSON document from left to right: a tree of values that
may end in a break.  The fields of an object stand in the order of the document, and a name may
come twice.  A reader who follows the tree in its order meets the same defects in the same order
as one who works on the text itself, so decoding by a schema needs no text of its own.

A reading comes from a text (`Document.ofText`) or from a value (`Json.reading`).  In the second
case nothing is broken, the fields stand in the order of their names, and all offsets are zero.
-/

namespace WorkloadTraits.Json

/-- A name in an object. -/
structure Name where
  /-- The name, or the defect that keeps the string from being a text. -/
  content : Except Defect String
  /-- The offset of one who stops behind the name: at the next token, or behind it when it is the
  closing brace. -/
  stop : Nat

/-- A document as it is seen from left to right. -/
inductive Reading where
  | null (span : Span)
  | bool (value : Bool) (span : Span)
  /-- A number, or the defect that it is too large. -/
  | number (value : Except Defect Number) (span : Span)
  /-- A string, or the defect that keeps it from being a text. -/
  | string (content : Except Defect String) (span : Span)
  /-- The items, and the break in place of what should follow them. -/
  | array (items : List Reading) (close : Option Break) (span : Span)
  /-- The names with their values, and the break in place of what should follow them. -/
  | object (members : List (Name × Reading)) (close : Option Break) (span : Span)
  | broken (fault : Break)

/-- The stretch of the text that a reading comes from. -/
def Reading.span : Reading → Span
  | null span | bool _ span | number _ span | string _ span => span
  | array _ _ span | object _ _ span => span
  | broken fault => ⟨fault.read.offset, fault.read.offset⟩

/-- A document: its value, and the defect of anything that follows the value. -/
structure Document where
  root : Reading
  trailing : Option Defect

/-! ## Readings of values -/

mutual

/-- The reading of a value. -/
def reading : Json → Reading
  | .null => .null {}
  | .bool b => .bool b {}
  | .number n => .number (.ok n) {}
  | .string s => .string (.ok s) {}
  | .array items => .array (readingItems items) none {}
  | .object fields => .object (readingFields fields) none {}

/-- The readings of some items. -/
def readingItems : List Json → List Reading
  | [] => []
  | j :: rest => j.reading :: readingItems rest

/-- The readings of some fields. -/
def readingFields : List (String × Json) → List (Name × Reading)
  | [] => []
  | (name, j) :: rest => (⟨.ok name, 0⟩, j.reading) :: readingFields rest

end

/-! ## Readings of texts -/

/-- What may come next. -/
inductive Expect where
  | value
  | firstItem
  | item
  | itemEnd
  | firstName
  | name
  | colon
  | memberEnd

/-- The break when the text ends where something is expected. -/
def Expect.atEnd (expect : Expect) (size : Nat) : Break :=
  match expect with
  | value => .ofFaults size .valueEnds .valueEnds .valueEnds
  | firstItem | itemEnd => .ofFaults size .listEnds .listEnds .listEnds
  | item => .ofFaults size .valueEnds .valueEnds .trailingCharacters
  | firstName | memberEnd | colon => .ofFaults size .objectEnds .objectEnds .objectEnds
  | name => .ofFaults size .valueEnds .objectEnds .valueEnds

/-- The break at a token that is not what is expected. -/
def Expect.atToken (expect : Expect) (p : Placed) : Break :=
  let i := p.span.start + 1
  match expect, p.token with
  | value, _ => .ofFaults i .expectedValue .expectedValue .expectedValue
  | firstItem, _ => .ofFaults i .expectedValue .expectedValue .trailingCharacters
  | item, .closeArray => .ofFaults i .trailingComma .expectedValue .trailingComma
  | item, _ => .ofFaults i .expectedValue .expectedValue .trailingCharacters
  | itemEnd, _ => .ofFaults i .expectedListEnd .expectedListEnd .trailingCharacters
  | firstName, _ => .ofFaults i .nameNotString .nameNotString .nameNotString
  | name, .closeObject => .ofFaults i .trailingComma .nameNotString .trailingComma
  | name, _ => .ofFaults i .nameNotString .nameNotString .nameNotString
  | colon, _ => .ofFaults i .expectedColon .expectedColon .expectedColon
  | memberEnd, _ => .ofFaults i .expectedObjectEnd .expectedObjectEnd .expectedObjectEnd

/-- An array or object that is still open, with the offset where it starts and its last part
first; an object remembers the name whose value comes next. -/
inductive Frame where
  | array (start : Nat) (items : List Reading)
  | object (start : Nat) (members : List (Name × Reading)) (name : Option Name)

/-- The innermost frame with one more value. -/
def Frame.add (r : Reading) : Frame → Frame
  | .object start members (some name) => .object start ((name, r) :: members) none
  | .object start members none => .object start members none
  | .array start items => .array start (r :: items)

/-- What comes behind a value in a frame. -/
def Frame.next : Frame → Expect
  | .array .. => .itemEnd
  | .object .. => .memberEnd

/-- The reading of a frame that ends at an offset, or in a break. -/
def Frame.close (frame : Frame) (fault : Option Break) (stop : Nat) : Reading :=
  match frame with
  | .array start items => .array items.reverse fault ⟨start, stop⟩
  | .object start members _ => .object members.reverse fault ⟨start, stop⟩

/-- Closes every open array and object around a value that is broken. -/
def abandon (r : Reading) : List Frame → Reading
  | [] => r
  | frame :: up => abandon ((frame.add r).close none 0) up

/-- Closes everything at a break, which stands in place of a member's value when there is a name,
and in place of what should follow otherwise. -/
def breakOff (fault : Break) : List Frame → Document
  | [] => ⟨.broken fault, none⟩
  | .object start members (some name) :: up =>
    ⟨abandon (.broken fault) (.object start members (some name) :: up), none⟩
  | frame :: up => ⟨abandon (frame.close (some fault) 0) up, none⟩

/-- A number of a text; when it is too large, the reader has stopped short of the digits that were
not looked at. -/
def placedNumber (round : Rounding) (l : Literal) (span : Span) : Reading :=
  .number ((l.number round).mapError fun unread => ⟨.numberOutOfRange, span.stop - unread⟩) span

/-- The offset of one who stops in front of some tokens, or behind a closing brace. -/
def stopBefore (size : Nat) : List Placed → Nat
  | [] => size
  | ⟨.closeObject, span⟩ :: _ => span.stop
  | p :: _ => p.span.start

/-- Builds the document from its tokens, which come from a text of the given size. -/
def build (round : Rounding) (size : Nat) (stack : List Frame) (expect : Expect) :
    List Placed → Document
  | [] => breakOff (expect.atEnd size) stack
  | p :: rest =>
    let settle (r : Reading) (stack : List Frame) : Document :=
      match stack with
      | [] =>
        ⟨r, rest.head?.map fun next => ⟨.trailingCharacters, next.span.start + 1⟩⟩
      | frame :: up => build round size (frame.add r :: up) frame.next rest
    let wrong := breakOff (expect.atToken p) stack
    let value (token : Token) : Document :=
      match token with
      | .null => settle (.null p.span) stack
      | .bool b => settle (.bool b p.span) stack
      | .number l => settle (placedNumber round l p.span) stack
      | .string s => settle (.string s p.span) stack
      | .openArray => build round size (.array p.span.start [] :: stack) .firstItem rest
      | .openObject => build round size (.object p.span.start [] none :: stack) .firstName rest
      | .broken read skip | .brokenString read skip =>
        breakOff ⟨read, skip, ⟨.trailingCharacters, p.span.start + 1⟩⟩ stack
      | _ => wrong
    let name (start : Nat) (members : List (Name × Reading)) (up : List Frame) : Document :=
      match p.token with
      | .string s =>
        build round size (.object start members (some ⟨s, stopBefore size rest⟩) :: up) .colon rest
      | .brokenString read skip => breakOff ⟨read, skip, read⟩ stack
      | _ => wrong
    match expect, stack, p.token with
    | .value, _, token | .item, _, token => value token
    | .firstItem, frame :: up, .closeArray | .itemEnd, frame :: up, .closeArray
    | .firstName, frame :: up, .closeObject | .memberEnd, frame :: up, .closeObject =>
      settle (frame.close none p.span.stop) up
    | .firstItem, _, token => value token
    | .itemEnd, _, .comma => build round size stack .item rest
    | .memberEnd, _, .comma => build round size stack .name rest
    | .firstName, .object start members _ :: up, _ | .name, .object start members _ :: up, _ =>
      name start members up
    | .colon, _, .colon => build round size stack .value rest
    | _, _, _ => wrong

/-- The document that a text holds. -/
def Document.ofText (round : Rounding) (s : String) : Document :=
  build round s.utf8ByteSize [] .value (tokens s.toList)

/-! ## Values of readings -/

mutual

/-- The value that a reading stands for, when nothing in it is broken; of two fields with one name
the later counts. -/
def Reading.value? : Reading → Option Json
  | .null _ => some .null
  | .bool b _ => some (.bool b)
  | .number n _ => n.toOption.map .number
  | .string s _ => s.toOption.map .string
  | .array items none _ => (valueItems? items).map .array
  | .object members none _ => (valueMembers? members).map ofFields
  | _ => none

/-- The values of some items. -/
def valueItems? : List Reading → Option (List Json)
  | [] => some []
  | r :: rest => do return (← r.value?) :: (← valueItems? rest)

/-- The values of some members. -/
def valueMembers? : List (Name × Reading) → Option (List (String × Json))
  | [] => some []
  | (name, r) :: rest => do
    return (← name.content.toOption, ← r.value?) :: (← valueMembers? rest)

end

/-- The value of a text that holds exactly one. -/
def parse? (round : Rounding) (s : String) : Option Json :=
  let document := Document.ofText round s
  if document.trailing.isSome then none else document.root.value?

end WorkloadTraits.Json
