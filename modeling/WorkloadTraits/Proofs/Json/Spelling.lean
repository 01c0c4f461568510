import WorkloadTraits.Json.Reading
import WorkloadTraits.Proofs.Json.Numerals

/-!
# Written values are read back

Readings of one value differ in the stretches of text that they come from, and in the doubles that
their numbers are rounded to.  `Alike` is what is left: the words that numbers stand for, and all
the rest.  The main result is that the text of a value holds a reading that is alike to the reading
of the value itself, and nothing behind it (`Document.exists_ofText_compact`).

A reader of a text keeps a stack of the arrays and objects that are open.  The lemmas are about the
step that it takes over one whole value (`Reads`): under any stack, and in any state that waits for
a value, it goes on as if the value were a single token (`settled`).  They follow the printer's own
recursion, which writes the first item of an array apart from the others.
-/

namespace WorkloadTraits.Json

/-! ## Readings of one value -/

mutual

/-- Two readings of one value, which is nested at most so deep. -/
inductive Alike : Nat → Reading → Reading → Prop
  | null {bound : Nat} {span span' : Span} : Alike bound (.null span) (.null span')
  | bool {bound : Nat} {b : Bool} {span span' : Span} : Alike bound (.bool b span) (.bool b span')
  | number {bound : Nat} {x x' : Except Defect Number} {span span' : Span}
      (h : x.toOption.bind Number.word = x'.toOption.bind Number.word) :
      Alike bound (.number x span) (.number x' span')
  | string {bound : Nat} {s : String} {span span' : Span} :
      Alike bound (.string (.ok s) span) (.string (.ok s) span')
  | array {bound : Nat} {rs rs' : List Reading} {span span' : Span} (h : AlikeItems bound rs rs') :
      Alike (bound + 1) (.array rs none span) (.array rs' none span')
  | object {bound : Nat} {ms ms' : List (Name × Reading)} {span span' : Span}
      (h : AlikeMembers bound ms ms') :
      Alike (bound + 1) (.object ms none span) (.object ms' none span')

/-- Readings of the same items. -/
inductive AlikeItems : Nat → List Reading → List Reading → Prop
  | nil {bound : Nat} : AlikeItems bound [] []
  | cons {bound : Nat} {r r' : Reading} {rs rs' : List Reading} (head : Alike bound r r')
      (tail : AlikeItems bound rs rs') : AlikeItems bound (r :: rs) (r' :: rs')

/-- Readings of the same fields. -/
inductive AlikeMembers : Nat → List (Name × Reading) → List (Name × Reading) → Prop
  | nil {bound : Nat} : AlikeMembers bound [] []
  | cons {bound : Nat} {name : String} {stop stop' : Nat} {r r' : Reading}
      {ms ms' : List (Name × Reading)} (head : Alike bound r r')
      (tail : AlikeMembers bound ms ms') :
      AlikeMembers bound ((⟨.ok name, stop⟩, r) :: ms) ((⟨.ok name, stop'⟩, r') :: ms')

end

/-! ## Steps of a reader -/

section

variable (round : Rounding) (size : Nat)

/-- How a reader goes on when a value is behind it. -/
def settled (r : Reading) (ts : List Placed) : List Frame → Document
  | [] => ⟨r, ts.head?.map fun next => ⟨.trailingCharacters, next.span.start + 1⟩⟩
  | frame :: up => build round size (frame.add r :: up) frame.next ts

/-- What is expected is a value. -/
def AwaitsValue (expect : Expect) : Prop :=
  expect = .value ∨ expect = .item ∨ expect = .firstItem

/-- The reading of a token that is a value by itself. -/
def Token.scalar? (span : Span) : Token → Option Reading
  | .null => some (.null span)
  | .bool b => some (.bool b span)
  | .number l => some (placedNumber round l span)
  | .string s => some (.string s span)
  | _ => none

variable {round size}
variable {expect : Expect} {stack : List Frame} {ts : List Placed} {span : Span}

lemma build_scalar {token : Token} {r : Reading} (h : AwaitsValue expect)
    (hr : token.scalar? round span = some r) :
    build round size stack expect (⟨token, span⟩ :: ts) = settled round size r ts stack := by
  rcases h with rfl | rfl | rfl <;> cases token <;> cases stack <;> cases hr <;> rfl

lemma build_openArray (h : AwaitsValue expect) :
    build round size stack expect (⟨.openArray, span⟩ :: ts) =
      build round size (.array span.start [] :: stack) .firstItem ts := by
  rcases h with rfl | rfl | rfl <;> cases stack <;> rfl

lemma build_openObject (h : AwaitsValue expect) :
    build round size stack expect (⟨.openObject, span⟩ :: ts) =
      build round size (.object span.start [] none :: stack) .firstName ts := by
  rcases h with rfl | rfl | rfl <;> cases stack <;> rfl

lemma build_closeArray (frame : Frame) (h : expect = .firstItem ∨ expect = .itemEnd) :
    build round size (frame :: stack) expect (⟨.closeArray, span⟩ :: ts) =
      settled round size (frame.close none span.stop) ts stack := by
  rcases h with rfl | rfl <;> cases stack <;> rfl

lemma build_closeObject (frame : Frame) (h : expect = .firstName ∨ expect = .memberEnd) :
    build round size (frame :: stack) expect (⟨.closeObject, span⟩ :: ts) =
      settled round size (frame.close none span.stop) ts stack := by
  rcases h with rfl | rfl <;> cases stack <;> rfl

lemma build_name {name : String} {start : Nat} {members : List (Name × Reading)}
    (h : expect = .firstName ∨ expect = .name) :
    build round size (.object start members none :: stack) expect
        (⟨.string (.ok name), span⟩ :: ts) =
      build round size (.object start members (some ⟨.ok name, stopBefore size ts⟩) :: stack)
        .colon ts := by
  rcases h with rfl | rfl <;> rfl

/-! ## Whole values -/

lemma endsValue_cons {c : Char} (h : c ∈ [',', ']', '\x7d']) (cs : List Char) :
    EndsValue (c :: cs) := by
  rintro _ ⟨⟩
  exact h

lemma endsValue_compactItems (items : List Json) (rest : List Char) :
    EndsValue (compactItems items ++ rest) := by
  cases items <;> exact endsValue_cons (by decide) _

lemma endsValue_compactFields (fields : List (String × Json)) (rest : List Char) :
    EndsValue (compactFields fields ++ rest) := by
  cases fields <;> exact endsValue_cons (by decide) _

/-- A character that is a token by itself. -/
lemma spells_singleton {c : Char} {token : Token} {rest : List Char}
    (h : ∀ i rest, scanToken i c rest = (token, i + 1, rest)) (hspace : isSpace c = false) :
    Spells [c] token rest :=
  fun i => ⟨c, [], i + 1, rfl, hspace, h i rest⟩

variable (round size)

/-- Over the text of a value the reader takes a single step, to a reading of that value. -/
def Reads (bound : Nat) (j : Json) : Prop :=
  ∀ rest ts, EndsValue rest → Tokenized (compactChars j ++ rest) ts →
    ∃ r ts', Alike bound r j.reading ∧ Tokenized rest ts' ∧
      ∀ stack expect, AwaitsValue expect →
        build round size stack expect ts = settled round size r ts' stack

/-- So it does over the rest of an array behind an item. -/
def ReadsItems (bound : Nat) (items : List Json) : Prop :=
  ∀ rest ts, Tokenized (compactItems items ++ rest) ts →
    ∃ rs stop ts', AlikeItems bound rs (readingItems items) ∧ Tokenized rest ts' ∧
      ∀ start acc stack, build round size (.array start acc :: stack) .itemEnd ts =
        settled round size (.array (acc.reverse ++ rs) none ⟨start, stop⟩) ts' stack

/-- So it does over the rest of an object behind a field. -/
def ReadsFields (bound : Nat) (fields : List (String × Json)) : Prop :=
  ∀ rest ts, Tokenized (compactFields fields ++ rest) ts →
    ∃ ms stop ts', AlikeMembers bound ms (readingFields fields) ∧ Tokenized rest ts' ∧
      ∀ start acc stack, build round size (.object start acc none :: stack) .memberEnd ts =
        settled round size (.object (acc.reverse ++ ms) none ⟨start, stop⟩) ts' stack

variable {round size} {bound : Nat}

/-- A value that is spelled as one token. -/
lemma reads_of_spells {j : Json} (token : Token)
    (hspells : ∀ rest, EndsValue rest → Spells (compactChars j) token rest)
    (halike : ∀ span, ∃ r, token.scalar? round span = some r ∧ Alike bound r j.reading) :
    Reads round size bound j := by
  intro rest ts hrest hts
  obtain ⟨span, ts', rfl, hts'⟩ := hts.of_spells (hspells rest hrest)
  obtain ⟨r, hr, hj⟩ := halike span
  exact ⟨r, ts', hj, hts', fun stack expect h => build_scalar h hr⟩

/-! ### Arrays -/

lemma readsItems_nil : ReadsItems round size bound [] := by
  intro rest ts hts
  obtain ⟨span, ts', rfl, hts'⟩ := hts.of_spells (spells_singleton (fun _ _ => rfl) rfl)
  refine ⟨[], span.stop, ts', .nil, hts', fun start acc stack => ?_⟩
  rw [build_closeArray _ (.inr rfl), Frame.close, List.append_nil]

/-- From an item on, the first or a later one, to the end of the array. -/
lemma build_items {j : Json} {items : List Json} (hj : Reads round size bound j)
    (hitems : ReadsItems round size bound items) {rest : List Char} {ts : List Placed}
    (hts : Tokenized (compactChars j ++ (compactItems items ++ rest)) ts) :
    ∃ rs stop ts', AlikeItems bound rs (readingItems (j :: items)) ∧ Tokenized rest ts' ∧
      ∀ start acc stack expect, AwaitsValue expect →
        build round size (.array start acc :: stack) expect ts =
          settled round size (.array (acc.reverse ++ rs) none ⟨start, stop⟩) ts' stack := by
  -- the readings are named before the stack is, for they do not depend on it
  obtain ⟨r, ts₁, hr, hts₁, hvalue⟩ := hj _ _ (endsValue_compactItems items rest) hts
  obtain ⟨rs, stop, ts₂, hrs, hts₂, hbuild⟩ := hitems _ _ hts₁
  refine ⟨r :: rs, stop, ts₂, .cons hr hrs, hts₂, fun start acc stack expect h => ?_⟩
  calc build round size (.array start acc :: stack) expect ts
      = build round size (.array start (r :: acc) :: stack) .itemEnd ts₁ := hvalue _ _ h
    _ = settled round size (.array ((r :: acc).reverse ++ rs) none ⟨start, stop⟩) ts₂ stack :=
        hbuild start (r :: acc) stack
    _ = settled round size (.array (acc.reverse ++ r :: rs) none ⟨start, stop⟩) ts₂ stack := by
        rw [List.reverse_cons, List.append_assoc, List.singleton_append]

lemma readsItems_cons {j : Json} {items : List Json} (hj : Reads round size bound j)
    (hitems : ReadsItems round size bound items) : ReadsItems round size bound (j :: items) := by
  intro rest ts hts
  have hchars : compactItems (j :: items) ++ rest =
      [','] ++ (compactChars j ++ (compactItems items ++ rest)) := by
    simp [compactItems]
  rw [hchars] at hts
  obtain ⟨span, ts₁, rfl, hts₁⟩ := hts.of_spells (spells_singleton (fun _ _ => rfl) rfl)
  obtain ⟨rs, stop, ts₂, hrs, hts₂, hbuild⟩ := build_items hj hitems hts₁
  exact ⟨rs, stop, ts₂, hrs, hts₂, fun start acc stack =>
    hbuild start acc stack .item (.inr (.inl rfl))⟩

lemma reads_array_nil : Reads round size (bound + 1) (.array []) := by
  intro rest ts _ hts
  have hchars : compactChars (.array []) ++ rest = ['['] ++ ([']'] ++ rest) := rfl
  rw [hchars] at hts
  obtain ⟨span, ts₁, rfl, hts₁⟩ := hts.of_spells (spells_singleton (fun _ _ => rfl) rfl)
  obtain ⟨span', ts₂, rfl, hts₂⟩ := hts₁.of_spells (spells_singleton (fun _ _ => rfl) rfl)
  refine ⟨.array [] none ⟨span.start, span'.stop⟩, ts₂, .array .nil, hts₂, fun stack expect h => ?_⟩
  rw [build_openArray h, build_closeArray _ (.inl rfl)]
  rfl

lemma reads_array_cons {j : Json} {items : List Json} (hj : Reads round size bound j)
    (hitems : ReadsItems round size bound items) :
    Reads round size (bound + 1) (.array (j :: items)) := by
  intro rest ts _ hts
  have hchars : compactChars (.array (j :: items)) ++ rest =
      ['['] ++ (compactChars j ++ (compactItems items ++ rest)) := by
    simp [compactChars]
  rw [hchars] at hts
  obtain ⟨span, ts₁, rfl, hts₁⟩ := hts.of_spells (spells_singleton (fun _ _ => rfl) rfl)
  obtain ⟨rs, stop, ts₂, hrs, hts₂, hbuild⟩ := build_items hj hitems hts₁
  refine ⟨.array rs none ⟨span.start, stop⟩, ts₂, .array hrs, hts₂, fun stack expect h => ?_⟩
  rw [build_openArray h]
  exact hbuild span.start [] stack .firstItem (.inr (.inr rfl))

/-! ### Objects -/

lemma readsFields_nil : ReadsFields round size bound [] := by
  intro rest ts hts
  obtain ⟨span, ts', rfl, hts'⟩ := hts.of_spells (spells_singleton (fun _ _ => rfl) rfl)
  refine ⟨[], span.stop, ts', .nil, hts', fun start acc stack => ?_⟩
  rw [build_closeObject _ (.inr rfl), Frame.close, List.append_nil]

/-- From a name on, the first or a later one, to the end of the object. -/
lemma build_fields {name : String} {j : Json} {fields : List (String × Json)}
    (hj : Reads round size bound j) (hfields : ReadsFields round size bound fields)
    {rest : List Char} {ts : List Placed}
    (hts : Tokenized (stringChars name ++ ([':'] ++ (compactChars j ++
      (compactFields fields ++ rest)))) ts) :
    ∃ ms stop ts', AlikeMembers bound ms (readingFields ((name, j) :: fields)) ∧
      Tokenized rest ts' ∧ ∀ start acc stack expect, expect = .firstName ∨ expect = .name →
        build round size (.object start acc none :: stack) expect ts =
          settled round size (.object (acc.reverse ++ ms) none ⟨start, stop⟩) ts' stack := by
  obtain ⟨span, ts₁, rfl, hts₁⟩ := hts.of_spells (spells_stringChars name _)
  obtain ⟨span', ts₂, rfl, hts₂⟩ := hts₁.of_spells (spells_singleton (fun _ _ => rfl) rfl)
  obtain ⟨r, ts₃, hr, hts₃, hvalue⟩ := hj _ _ (endsValue_compactFields fields rest) hts₂
  obtain ⟨ms, stop, ts₄, hms, hts₄, hbuild⟩ := hfields _ _ hts₃
  let placed : Name := ⟨.ok name, span'.start⟩
  refine ⟨(placed, r) :: ms, stop, ts₄, .cons hr hms, hts₄, fun start acc stack expect h => ?_⟩
  calc build round size (.object start acc none :: stack) expect
        (⟨.string (.ok name), span⟩ :: ⟨.colon, span'⟩ :: ts₂)
      = build round size (.object start acc (some placed) :: stack) .value ts₂ := build_name h
    _ = build round size (.object start ((placed, r) :: acc) none :: stack) .memberEnd ts₃ :=
        hvalue _ .value (.inl rfl)
    _ = settled round size (.object (((placed, r) :: acc).reverse ++ ms) none ⟨start, stop⟩) ts₄
          stack := hbuild start _ stack
    _ = settled round size (.object (acc.reverse ++ (placed, r) :: ms) none ⟨start, stop⟩) ts₄
          stack := by
        rw [List.reverse_cons, List.append_assoc, List.singleton_append]

lemma readsFields_cons {name : String} {j : Json} {fields : List (String × Json)}
    (hj : Reads round size bound j) (hfields : ReadsFields round size bound fields) :
    ReadsFields round size bound ((name, j) :: fields) := by
  intro rest ts hts
  have hchars : compactFields ((name, j) :: fields) ++ rest = [','] ++
      (stringChars name ++ ([':'] ++ (compactChars j ++ (compactFields fields ++ rest)))) := by
    simp [compactFields]
  rw [hchars] at hts
  obtain ⟨span, ts₁, rfl, hts₁⟩ := hts.of_spells (spells_singleton (fun _ _ => rfl) rfl)
  obtain ⟨ms, stop, ts₂, hms, hts₂, hbuild⟩ := build_fields hj hfields hts₁
  exact ⟨ms, stop, ts₂, hms, hts₂, fun start acc stack => hbuild start acc stack .name (.inr rfl)⟩

lemma reads_object_nil : Reads round size (bound + 1) (.object []) := by
  intro rest ts _ hts
  have hchars : compactChars (.object []) ++ rest = ['\x7b'] ++ (['\x7d'] ++ rest) := rfl
  rw [hchars] at hts
  obtain ⟨span, ts₁, rfl, hts₁⟩ := hts.of_spells (spells_singleton (fun _ _ => rfl) rfl)
  obtain ⟨span', ts₂, rfl, hts₂⟩ := hts₁.of_spells (spells_singleton (fun _ _ => rfl) rfl)
  refine ⟨.object [] none ⟨span.start, span'.stop⟩, ts₂, .object .nil, hts₂,
    fun stack expect h => ?_⟩
  rw [build_openObject h, build_closeObject _ (.inl rfl)]
  rfl

lemma reads_object_cons {name : String} {j : Json} {fields : List (String × Json)}
    (hj : Reads round size bound j) (hfields : ReadsFields round size bound fields) :
    Reads round size (bound + 1) (.object ((name, j) :: fields)) := by
  intro rest ts _ hts
  have hchars : compactChars (.object ((name, j) :: fields)) ++ rest = ['\x7b'] ++
      (stringChars name ++ ([':'] ++ (compactChars j ++ (compactFields fields ++ rest)))) := by
    simp [compactChars]
  rw [hchars] at hts
  obtain ⟨span, ts₁, rfl, hts₁⟩ := hts.of_spells (spells_singleton (fun _ _ => rfl) rfl)
  obtain ⟨ms, stop, ts₂, hms, hts₂, hbuild⟩ := build_fields hj hfields hts₁
  refine ⟨.object ms none ⟨span.start, stop⟩, ts₂, .object hms, hts₂, fun stack expect h => ?_⟩
  rw [build_openObject h]
  exact hbuild span.start [] stack .firstName (.inl rfl)

/-! ### All values -/

lemma toOption_mapError {ε ε' α : Type} (f : ε → ε') (x : Except ε α) :
    (x.mapError f).toOption = x.toOption := by
  cases x <;> rfl

mutual

theorem reads_of_depth_le : ∀ (j : Json) (bound : Nat), j.depth ≤ bound → Reads round size bound j
  | .null, _, _ => reads_of_spells .null
      (fun _ _ i => ⟨'n', ['u', 'l', 'l'], i + 4, rfl, rfl, rfl⟩) fun span => ⟨_, rfl, .null⟩
  | .bool true, _, _ => reads_of_spells (.bool true)
      (fun _ _ i => ⟨'t', ['r', 'u', 'e'], i + 4, rfl, rfl, rfl⟩) fun span => ⟨_, rfl, .bool⟩
  | .bool false, _, _ => reads_of_spells (.bool false)
      (fun _ _ i => ⟨'f', ['a', 'l', 's', 'e'], i + 5, rfl, rfl, rfl⟩)
      fun span => ⟨_, rfl, .bool⟩
  | .number n, _, _ => by
      obtain ⟨l, hchars, hwritten, hword⟩ := exists_literal n
      refine reads_of_spells (.number l) (fun rest hrest => ?_) fun span => ⟨_, rfl, .number ?_⟩
      · rw [compactChars, hchars]
        exact Literal.spells_chars hwritten hrest
      · rw [toOption_mapError, hword round]
        rfl
  | .string s, _, _ => reads_of_spells (.string (.ok s)) (fun rest _ => spells_stringChars s rest)
      fun span => ⟨_, rfl, .string⟩
  | .array [], bound + 1, _ => reads_array_nil
  | .array (j :: items), bound + 1, h => by
      obtain ⟨hj, hitems⟩ := Nat.max_le.1 (Nat.le_of_succ_le_succ h)
      exact reads_array_cons (reads_of_depth_le j bound hj)
        (readsItems_of_depth_le items bound hitems)
  | .object [], bound + 1, _ => reads_object_nil
  | .object ((name, j) :: fields), bound + 1, h => by
      obtain ⟨hj, hfields⟩ := Nat.max_le.1 (Nat.le_of_succ_le_succ h)
      exact reads_object_cons (reads_of_depth_le j bound hj)
        (readsFields_of_depth_le fields bound hfields)

theorem readsItems_of_depth_le : ∀ (items : List Json) (bound : Nat),
    depthOfItems items ≤ bound → ReadsItems round size bound items
  | [], _, _ => readsItems_nil
  | j :: items, bound, h => by
      obtain ⟨hj, hitems⟩ := Nat.max_le.1 h
      exact readsItems_cons (reads_of_depth_le j bound hj)
        (readsItems_of_depth_le items bound hitems)

theorem readsFields_of_depth_le : ∀ (fields : List (String × Json)) (bound : Nat),
    depthOfFields fields ≤ bound → ReadsFields round size bound fields
  | [], _, _ => readsFields_nil
  | (_, j) :: fields, bound, h => by
      obtain ⟨hj, hfields⟩ := Nat.max_le.1 h
      exact readsFields_cons (reads_of_depth_le j bound hj)
        (readsFields_of_depth_le fields bound hfields)

end

end

/-- **A written value is read back.**  The text of a value holds a reading that is alike to the one
of the value, and nothing follows it. -/
theorem Document.exists_ofText_compact (round : Rounding) (j : Json) :
    ∃ r, Document.ofText round j.compact = ⟨r, none⟩ ∧ Alike j.depth r j.reading := by
  have htokens : Tokenized (compactChars j ++ []) (tokens j.compact.toList) := by
    rw [List.append_nil, compact, String.toList_ofList]
    exact tokenized_tokens _
  have hreads : Reads round j.compact.utf8ByteSize j.depth j := reads_of_depth_le j j.depth le_rfl
  obtain ⟨r, ts, hr, hts, hbuild⟩ := hreads [] _ (fun _ h => nomatch h) htokens
  refine ⟨r, ?_, hr⟩
  rw [Document.ofText, hbuild [] .value (.inl rfl), hts.eq_nil]
  rfl

end WorkloadTraits.Json
