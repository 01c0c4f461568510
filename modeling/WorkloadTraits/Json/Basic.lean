import WorkloadTraits.Json.Number

/-!
# JSON values

Components, payloads and manifests are exchanged as JSON.  An object lists its fields in the order
of their names, each name once; `ofFields` brings any list of fields into that form, and `get?`
looks a field up, where a field that is null counts as absent.
-/

namespace WorkloadTraits

/-- A JSON value. -/
inductive Json where
  | null
  | bool (value : Bool)
  | number (value : Json.Number)
  | string (value : String)
  | array (items : List Json)
  | object (fields : List (String × Json))
deriving BEq, Inhabited

namespace Json

/-- An integer as a value. -/
def int (n : Int) : Json := .number (.integer n)

/-- An integer of 32 bits as a value. -/
def int32 (n : Int32) : Json := int n.toInt

/-- Puts a field at its place; a field of the same name is replaced. -/
def insertField (name : String) (value : Json) : List (String × Json) → List (String × Json)
  | [] => [(name, value)]
  | (n, v) :: rest =>
    if name < n then (name, value) :: (n, v) :: rest
    else if name = n then (name, value) :: rest
    else (n, v) :: insertField name value rest

/-- The object of a list of fields; of two fields with one name the later counts. -/
def ofFields (fields : List (String × Json)) : Json :=
  .object (fields.foldl (fun sorted (name, value) => insertField name value sorted) [])

/-- The object of those fields that have a value. -/
def ofGiven (fields : List (String × Option Json)) : Json :=
  ofFields (fields.filterMap fun (name, value?) => value?.map (name, ·))

/-- A field of an object; null and absent are the same. -/
def get? (j : Json) (name : String) : Option Json :=
  match j with
  | .object fields =>
    match fields.lookup name with
    | some .null => none
    | found => found
  | _ => none

mutual

/-- How deep arrays and objects are nested in a value. -/
def depth : Json → Nat
  | .array items => depthOfItems items + 1
  | .object fields => depthOfFields fields + 1
  | _ => 0

/-- The greatest depth of some items. -/
def depthOfItems : List Json → Nat
  | [] => 0
  | j :: rest => max j.depth (depthOfItems rest)

/-- The greatest depth of some fields. -/
def depthOfFields : List (String × Json) → Nat
  | [] => 0
  | (_, j) :: rest => max j.depth (depthOfFields rest)

end

end Json

end WorkloadTraits
