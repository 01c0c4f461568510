/-!
# Blank text

Payload fields are free text, and a field that holds nothing but white space counts as not given.
This file fixes which characters are white space (the Unicode property `White_Space`), removes
them from both ends of a text (`trim`), and picks the first of several candidates that says
anything (`firstNonEmpty`).
-/

namespace WorkloadTraits.Text

/-- Unicode white space.  The zero-width space and the byte-order mark are not in the class. -/
def isBlank (c : Char) : Bool :=
  let n := c.toNat
  (0x09 ≤ n && n ≤ 0x0D) || n == 0x20 || n == 0x85 || n == 0xA0 || n == 0x1680 ||
    (0x2000 ≤ n && n ≤ 0x200A) || n == 0x2028 || n == 0x2029 || n == 0x202F || n == 0x205F ||
    n == 0x3000

/-- Characters without the blanks at the end. -/
def dropTrailing (blank : Char → Bool) : List Char → List Char
  | [] => []
  | c :: rest =>
    match dropTrailing blank rest with
    | [] => if blank c then [] else [c]
    | kept => c :: kept

/-- Characters without the blanks at either end. -/
def trimChars (cs : List Char) : List Char :=
  dropTrailing isBlank (cs.dropWhile isBlank)

/-- A text without the blanks at either end. -/
def trim (s : String) : String :=
  String.ofList (trimChars s.toList)

/-- A text of white space only, which counts as not given. -/
def isBlankText (s : String) : Bool :=
  s.toList.all isBlank

/-- A text without the given character at its end, however often it stands there. -/
def dropTrailingChar (c : Char) (s : String) : String :=
  String.ofList (dropTrailing (· == c) s.toList)

/-- The first candidate that is not empty; empty when all are. -/
def firstNonEmpty : List String → String
  | [] => ""
  | s :: rest => if s.isEmpty then firstNonEmpty rest else s

/-- A text, or nothing when it is empty. -/
def given? (s : String) : Option String :=
  if s.isEmpty then none else some s

/-! ## Laws of trimming -/

theorem dropTrailing_eq_nil_iff {blank : Char → Bool} {cs : List Char} :
    dropTrailing blank cs = [] ↔ cs.all blank = true := by
  induction cs with
  | nil => simp [dropTrailing]
  | cons c rest ih =>
    rw [dropTrailing]
    split
    · rename_i h
      by_cases hc : blank c = true <;> simp_all
    · rename_i h
      have : ¬ rest.all blank = true := fun hr => h (ih.2 hr)
      simp_all

theorem all_blank_dropWhile_iff {cs : List Char} :
    (cs.dropWhile isBlank).all isBlank = true ↔ cs.all isBlank = true := by
  induction cs with
  | nil => simp
  | cons c rest ih =>
    by_cases hc : isBlank c = true
    · rw [List.dropWhile_cons_of_pos hc]
      simpa [hc] using ih
    · rw [List.dropWhile_cons_of_neg hc]

/-- A text is blank exactly when trimming leaves nothing of it. -/
theorem trimChars_eq_nil_iff {cs : List Char} : trimChars cs = [] ↔ cs.all isBlank = true := by
  rw [trimChars, dropTrailing_eq_nil_iff, all_blank_dropWhile_iff]

end WorkloadTraits.Text
