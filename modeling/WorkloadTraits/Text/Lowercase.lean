import WorkloadTraits.Text.CaseTable

/-!
# Lower case

Two lower-casings occur.  Keywords of the payload are compared after `asciiLower`, which touches
`A` to `Z` only; names are formed with `lower`, the full Unicode mapping of a text.  The full
mapping differs from a mapping of characters in two places: the dotted capital I becomes two
characters, and a capital sigma takes its final form at the end of a word.
-/

namespace WorkloadTraits.Text

/-- Whether a code point lies in one of the ranges. -/
def inRanges (ranges : List (Nat × Nat)) (n : Nat) : Bool :=
  ranges.any fun (first, last) => first ≤ n && n ≤ last

/-- A text with `A` to `Z` in lower case and every other character kept. -/
def asciiLower (s : String) : String :=
  String.ofList (s.toList.map Char.toLower)

/-- The lower-case form of one character where that is one character. -/
def lowerChar (c : Char) : Char :=
  if c.toNat < 0x80 then c.toLower
  else
    match CaseTable.lowerRuns.find? fun (first, last, step, _) =>
        first ≤ c.toNat && c.toNat ≤ last && (c.toNat - first) % step == 0 with
    | some (first, _, _, lower) => Char.ofNat (lower + (c.toNat - first))
    | none => c

/-- A letter that has case.  Title-case letters and modifier letters count. -/
def isCased (c : Char) : Bool :=
  if c.toNat < 0x80 then c.isAlpha else inRanges CaseTable.casedRanges c.toNat

/-- A character that is passed over when one looks for the neighbouring letter. -/
def isCaseIgnorable (c : Char) : Bool :=
  if c.toNat < 0x80 then
    c == '\'' || c == '.' || c == ':' || c == '^' || c.toNat == 0x60
  else inRanges CaseTable.ignorableRanges c.toNat

/-- Whether the next character that is not passed over is a cased letter. -/
def meetsCased (cs : List Char) : Bool :=
  match cs.dropWhile isCaseIgnorable with
  | c :: _ => isCased c
  | [] => false

/-- Lower-cases characters, given those before them with the nearest first: a sigma is final when
a letter comes before it and none after it. -/
def lowerChars (before : List Char) : List Char → List Char
  | [] => []
  | c :: rest =>
    let lowered :=
      if c == 'Σ' then [if meetsCased before && !meetsCased rest then 'ς' else 'σ']
      else if c == 'İ' then ['i', '\u0307']
      else [lowerChar c]
    lowered ++ lowerChars (c :: before) rest

/-- A text in lower case. -/
def lower (s : String) : String :=
  String.ofList (lowerChars [] s.toList)

end WorkloadTraits.Text
