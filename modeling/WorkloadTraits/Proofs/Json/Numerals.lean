import WorkloadTraits.Proofs.Json.Scanning

/-!
# Written numbers

A number is written as a literal (`Json.exists_literal`), whose characters are read as that literal
again (`Literal.spells_chars`) where nothing follows that could go on with it (`EndsValue`).

The literal need not stand for the number itself: a double is rounded by a reader's own rule, and
may even be too large for it.  What counts is the word of 32 bits that a number may stand for
(`Number.word`).  A double stands for none, and neither does any literal with a point or an
exponent, however it is rounded; and an integer keeps its word.
-/

namespace WorkloadTraits

namespace Json

/-! ## Digits -/

/-- The character of a digit. -/
def digitChar (d : Digit) : Char := Nat.digitChar d

lemma digit?_digitChar : ∀ d : Digit, digit? (digitChar d) = some d := by decide

/-- No digit comes next. -/
def NoDigit (cs : List Char) : Prop := ∀ c ∈ cs.head?, digit? c = none

lemma spanDigits_append (ds : List Digit) {rest : List Char} (h : NoDigit rest) :
    spanDigits (ds.map digitChar ++ rest) = (ds, rest) := by
  induction ds with
  | nil =>
      cases rest with
      | nil => rfl
      | cons c rest =>
          have hc : digit? c = none := h c rfl
          rw [List.map_nil, List.nil_append, spanDigits, hc]
  | cons d ds ih =>
      rw [List.map_cons, List.cons_append, spanDigits, digit?_digitChar, ih]

/-- A number in decimal digits, of which the first is no zero unless the number is one. -/
lemma exists_digits (n : Nat) : ∃ ds : List Digit, Nat.toDigits 10 n = ds.map digitChar ∧
    ofDigits ds = n ∧ ds ≠ [] ∧ (ds.head? = some 0 → n = 0) := by
  induction n using Nat.strongRecOn with
  | ind n ih =>
      have hlast : n % 10 < 10 := Nat.mod_lt _ (by decide)
      rw [Nat.toDigits_eq_if (by decide)]
      by_cases hn : n < 10
      · refine ⟨[⟨n, hn⟩], by rw [if_pos hn]; rfl, ?_, by simp, ?_⟩
        · simp [ofDigits]
        · exact fun hzero => congrArg Fin.val (Option.some.inj hzero)
      · obtain ⟨ds, hchars, hvalue, hne, hhead⟩ := ih (n / 10) (by omega)
        refine ⟨ds ++ [⟨n % 10, hlast⟩], ?_, ?_, by simp, fun hzero => ?_⟩
        · rw [if_neg hn, hchars, List.map_append]
          rfl
        · rw [ofDigits, List.foldl_append]
          show 10 * ofDigits ds + n % 10 = n
          rw [hvalue]
          omega
        · rw [List.head?_append_of_ne_nil _ hne] at hzero
          have hquotient := hhead hzero
          omega

end Json

namespace Decimal.Double

open Json

lemma twoTo_pos (e : Nat) : 0 < twoTo e := Nat.pow_pos (by decide)

lemma tenTo_pos (e : Nat) : 0 < tenTo e := Nat.pow_pos (by decide)

lemma interval_low_pos {x : Double} (hx : x.mantissa ≠ 0) : 0 < x.interval.1 := by
  have hscale : ∀ n, 0 < n → 0 < if 0 ≤ x.exponent then n * twoTo x.exponent.toNat else n := by
    intro n hn
    split
    · exact Nat.mul_pos hn (twoTo_pos _)
    · exact hn
  refine hscale _ ?_
  split <;> omega

/-- The decimals that are considered for a double are not zero. -/
lemma onGrid?_pos {x : Double} (hx : x.mantissa ≠ 0) {size : Nat} {d : Scaled}
    (h : x.onGrid? size = some d) : 0 < d.digits := by
  have hunit : ∀ e : Int, 0 < (if 0 ≤ e then (tenTo e.toNat, 1) else (1, tenTo (-e).toNat)).2 := by
    intro e
    split
    · exact Nat.one_pos
    · exact tenTo_pos _
  simp only [onGrid?] at h
  obtain ⟨c, hfind, rfl⟩ := Option.map_eq_some_iff.1 h
  have hinside := List.find?_some hfind
  refine Nat.pos_of_ne_zero fun hzero => ?_
  obtain rfl : c = 0 := hzero
  -- zero is not inside the rounding interval, whose lower end is positive
  have hlow := Nat.mul_pos (interval_low_pos hx)
    (hunit (magnitude x.interval.2.1 x.interval.2.2.2 - size))
  split at hinside
  · have hbelow := of_decide_eq_true (Bool.and_eq_true_iff.1 hinside).1
    simp only [Nat.zero_mul] at hbelow
    exact absurd hbelow (Nat.not_le.2 hlow)
  · have hbelow := of_decide_eq_true (Bool.and_eq_true_iff.1 hinside).1
    simp only [Nat.zero_mul] at hbelow
    exact absurd hbelow (Nat.not_lt_zero _)

/-- The shortest decimal of a double that is not zero is not zero either, unless none is found. -/
lemma shortest_pos {x : Double} (hx : x.mantissa ≠ 0) :
    0 < x.shortest.digits ∨ x.shortest = ⟨0, 0⟩ := by
  rw [shortest, if_neg hx]
  cases hfind : (List.range 17).findSome? fun n => x.onGrid? (n + 1) with
  | none => exact .inr rfl
  | some d =>
      obtain ⟨n, -, hgrid⟩ := List.exists_of_findSome?_eq_some hfind
      exact .inl (onGrid?_pos hx hgrid)

/-- The written digits of a double do not begin with a zero; if there are none, the point stands
behind the first place. -/
lemma exists_written {x : Double} (hx : x.mantissa ≠ 0) :
    ∃ (ds : List Digit) (place : Int), x.shortest.written = (ds.map digitChar, place) ∧
      (ds = [] ∧ place = 1 ∨ ∃ d rest, ds = d :: rest ∧ d ≠ 0) := by
  rcases shortest_pos hx with hpos | hzero
  · obtain ⟨ds, hchars, -, hne, hhead⟩ := exists_digits x.shortest.digits
    have hprefix : (Nat.toDigits 10 x.shortest.digits).rdropWhile (· == '0') <+:
        ds.map digitChar := hchars ▸ List.rdropWhile_prefix _ _
    rw [List.prefix_iff_eq_take, ← List.map_take] at hprefix
    obtain ⟨d, rest, rfl⟩ := List.exists_cons_of_ne_nil hne
    have hd : d ≠ 0 := fun h => hpos.ne' (hhead (congrArg some h))
    have hkept : (Nat.toDigits 10 x.shortest.digits).rdropWhile (· == '0') ≠ [] := by
      rw [ne_eq, List.rdropWhile_eq_nil_iff, hchars]
      intro hall
      have hzero : ∀ d : Digit, (digitChar d == '0') = true → d = 0 := by decide
      exact hd (hzero d (hall _ List.mem_cons_self))
    generalize hk : ((Nat.toDigits 10 x.shortest.digits).rdropWhile (· == '0')).length = k
      at hprefix
    obtain _ | k := k
    · exact absurd (List.length_eq_zero_iff.1 hk) hkept
    · exact ⟨d :: rest.take k, _, congrArg (·, _) hprefix, .inr ⟨d, _, rfl, hd⟩⟩
  · exact ⟨[], 1, by rw [hzero]; rfl, .inl ⟨rfl, rfl⟩⟩

end Decimal.Double

namespace Json

/-! ## Literals -/

/-- What comes next, if anything, is one of some characters. -/
def StartsIn (allowed cs : List Char) : Prop := ∀ c ∈ cs.head?, c ∈ allowed

/-- What may follow a value. -/
abbrev EndsValue (cs : List Char) : Prop := StartsIn [',', ']', '\x7d'] cs

lemma StartsIn.noDigit {allowed cs : List Char} (h : StartsIn allowed cs)
    (hallowed : ∀ c ∈ allowed, digit? c = none) : NoDigit cs :=
  fun c hc => hallowed c (h c hc)

lemma StartsIn.append {allowed allowed' cs rest : List Char} (h : StartsIn allowed cs)
    (hrest : StartsIn allowed' rest) : StartsIn (allowed ++ allowed') (cs ++ rest) := by
  cases cs with
  | nil => exact fun c hc => List.mem_append_right _ (hrest c hc)
  | cons c cs => exact fun c' hc => List.mem_append_left _ (h c' hc)

/-- The point and the digits behind it, if there are any. -/
def fractionChars : List Digit → List Char
  | [] => []
  | d :: ds => '.' :: (d :: ds).map digitChar

/-- An exponent with its sign, if there is one. -/
def exponentChars : Option Exponent → List Char
  | none => []
  | some e => 'e' :: (if e.negative then '-' else '+') :: e.digits.map digitChar

lemma startsIn_fractionChars (ds : List Digit) : StartsIn ['.'] (fractionChars ds) := by
  cases ds with
  | nil => exact fun _ hc => nomatch hc
  | cons d ds =>
      rintro _ ⟨⟩
      exact List.mem_singleton_self _

lemma startsIn_exponentChars (e? : Option Exponent) : StartsIn ['e'] (exponentChars e?) := by
  cases e? with
  | none => exact fun _ hc => nomatch hc
  | some e =>
      rintro _ ⟨⟩
      exact List.mem_singleton_self _

lemma scanDigits_append {ds : List Digit} (hne : ds ≠ []) {rest : List Char} (h : NoDigit rest)
    (i : Nat) : scanDigits i (ds.map digitChar ++ rest) = .ok (ds, i + ds.length, rest) := by
  rw [scanDigits, spanDigits_append ds h]
  cases ds with
  | nil => exact absurd rfl hne
  | cons d ds => rfl

lemma scanWhole_append {ds : List Digit} (hne : ds ≠ [])
    (hlead : ds.head? = some 0 → ds.length = 1) {rest : List Char} (h : NoDigit rest) (i : Nat) :
    scanWhole i (ds.map digitChar ++ rest) = .ok (ds, i + ds.length, rest) := by
  have hzero : ¬(ds.head? = some 0 ∧ ds.length ≠ 1) := fun ⟨h, hlength⟩ => hlength (hlead h)
  rw [scanWhole, scanDigits_append hne h]
  exact if_neg hzero

lemma scanFraction_append (ds : List Digit) {rest : List Char}
    (h : StartsIn ['e', ',', ']', '\x7d'] rest) (i : Nat) :
    ∃ stop, scanFraction i (fractionChars ds ++ rest) = .ok (ds, stop, rest) := by
  cases ds with
  | nil =>
      refine ⟨i, ?_⟩
      cases rest with
      | nil => rfl
      | cons c rest =>
          have hc : c ≠ '.' := by
            rintro rfl
            exact absurd (h _ rfl) (by decide)
          rw [fractionChars, List.nil_append, scanFraction]
          exact fun _ heq => hc (List.cons.inj heq).1
  | cons d ds =>
      exact ⟨_, scanDigits_append (List.cons_ne_nil d ds) (h.noDigit (by simp [digit?])) (i + 1)⟩

lemma scanExponent_append {e? : Option Exponent} (he : ∀ e, e? = some e → e.digits ≠ [])
    {rest : List Char} (h : EndsValue rest) (i : Nat) :
    ∃ stop, scanExponent i (exponentChars e? ++ rest) = .ok (e?, stop, rest) := by
  cases e? with
  | none =>
      refine ⟨i, ?_⟩
      cases rest with
      | nil => rfl
      | cons c rest =>
          have hc : (c == 'e' || c == 'E') = false := by
            have hletters : ∀ c ∈ [',', ']', '\x7d'], (c == 'e' || c == 'E') = false := by
              simp
            exact hletters c (h c rfl)
          simp [exponentChars, scanExponent, hc]
  | some e =>
      obtain ⟨negative, ds⟩ := e
      have hdigits := scanDigits_append (he _ rfl) (h.noDigit (by simp [digit?])) (i + 2)
      cases negative with
      | false =>
          refine ⟨i + 2 + ds.length, ?_⟩
          show scanExponentDigits false (i + 2) (ds.map digitChar ++ rest) = _
          rw [scanExponentDigits, hdigits]
          rfl
      | true =>
          refine ⟨i + 2 + ds.length, ?_⟩
          show scanExponentDigits true (i + 2) (ds.map digitChar ++ rest) = _
          rw [scanExponentDigits, hdigits]
          rfl

namespace Literal

/-- A literal without its sign. -/
def unsignedChars (l : Literal) : List Char :=
  l.whole.map digitChar ++ (fractionChars l.fraction ++ exponentChars l.exponent)

/-- A literal as it is written. -/
def chars (l : Literal) : List Char :=
  (if l.negative then ['-'] else []) ++ l.unsignedChars

/-- The digits that are needed are there, and a zero in front stands alone. -/
structure IsWritten (l : Literal) : Prop where
  whole : l.whole ≠ []
  lead : l.whole.head? = some 0 → l.whole.length = 1
  exponent : ∀ e, l.exponent = some e → e.digits ≠ []

lemma scanUnsigned_append {l : Literal} (hl : l.IsWritten) {rest : List Char} (h : EndsValue rest)
    (i : Nat) :
    ∃ stop, scanUnsigned l.negative i (l.unsignedChars ++ rest) = .ok (l, stop, rest) := by
  have hexponent := (startsIn_exponentChars l.exponent).append h
  have hfraction := (startsIn_fractionChars l.fraction).append hexponent
  have hwhole := scanWhole_append hl.whole hl.lead (hfraction.noDigit (by simp [digit?])) i
  obtain ⟨stop, hstop⟩ := scanFraction_append l.fraction hexponent (i + l.whole.length)
  obtain ⟨stop', hstop'⟩ := scanExponent_append hl.exponent h stop
  refine ⟨stop', ?_⟩
  rw [unsignedChars, List.append_assoc, List.append_assoc, scanUnsigned, hwhole]
  show (scanFraction _ _ >>= _) = _
  rw [hstop]
  show (scanExponent _ _ >>= _) = _
  rw [hstop']
  rfl

lemma scanNumber_chars {l : Literal} (hl : l.IsWritten) {rest : List Char} (h : EndsValue rest)
    (i : Nat) : ∃ stop, scanNumber i (l.chars ++ rest) = (.number l, stop, rest) := by
  cases hsign : l.negative with
  | true =>
      obtain ⟨stop, hstop⟩ := scanUnsigned_append hl h (i + 1)
      have hchars : l.chars ++ rest = '-' :: (l.unsignedChars ++ rest) := by
        rw [chars, hsign]
        rfl
      rw [hsign] at hstop
      exact ⟨stop, by simp only [hchars, scanNumber, hstop]⟩
  | false =>
      obtain ⟨stop, hstop⟩ := scanUnsigned_append hl h i
      have hchars : l.chars ++ rest = l.unsignedChars ++ rest := by
        rw [chars, hsign]
        rfl
      obtain ⟨d, ds, hwhole⟩ := List.exists_cons_of_ne_nil hl.whole
      have hdigit : ∀ d : Digit, digitChar d ≠ '-' := by decide
      have hfirst : ∀ cs, l.unsignedChars ++ rest ≠ '-' :: cs := by
        intro cs heq
        rw [unsignedChars, hwhole] at heq
        exact hdigit d (List.cons.inj heq).1
      rw [hsign] at hstop
      refine ⟨stop, ?_⟩
      rw [hchars, scanNumber]
      simp only [hstop]
      exact hfirst

/-- A literal that is written is read, whatever ends the value. -/
lemma spells_chars {l : Literal} (hl : l.IsWritten) {rest : List Char} (h : EndsValue rest) :
    Spells l.chars (.number l) rest := by
  intro i
  obtain ⟨stop, hstop⟩ := scanNumber_chars hl h i
  obtain ⟨d, ds, hwhole⟩ := List.exists_cons_of_ne_nil hl.whole
  have hspace : ∀ d : Digit, isSpace (digitChar d) = false := by decide
  have hdigit : ∀ (d : Digit) (cs : List Char),
      scanToken i (digitChar d) cs = scanNumber i (digitChar d :: cs) := by
    intro d cs
    fin_cases d <;> rfl
  cases hsign : l.negative with
  | true =>
      have hchars : l.chars = '-' :: l.unsignedChars := by
        rw [chars, hsign]
        rfl
      rw [hchars] at hstop
      exact ⟨_, _, stop, hchars, rfl, hstop⟩
  | false =>
      have hchars : l.chars = digitChar d :: (ds.map digitChar ++
          (fractionChars l.fraction ++ exponentChars l.exponent)) := by
        rw [chars, hsign, unsignedChars, hwhole]
        rfl
      rw [hchars] at hstop
      exact ⟨_, _, stop, hchars, hspace d, (hdigit d _).trans hstop⟩

end Literal

/-! ## Numbers -/

/-- The word that a number stands for, if it does. -/
def Number.word (n : Number) : Option Int32 := n.integer?.bind word?

namespace Literal

variable {l : Literal}

/-- A literal that is no integer stands for no word, however it is rounded. -/
lemma word_number_of_integer?_eq_none (h : l.integer? = none) (round : Rounding) :
    (l.number round).toOption.bind Number.word = none := by
  rw [number, h]
  cases round l <;> rfl

lemma integer?_eq_none (h : l.fraction ≠ [] ∨ l.exponent.isSome = true) : l.integer? = none :=
  if_pos h

/-- An integer outside 64 bits is no word of 32 bits either. -/
lemma word_number_of_integer {i : Int} {ds : List Digit} (hvalue : ofDigits ds = i.natAbs)
    (round : Rounding) :
    ((⟨i < 0, ds, [], none⟩ : Literal).number round).toOption.bind Number.word =
      Number.word (.integer i) := by
  have hlow : Decimal.twoTo 63 = 9223372036854775808 := rfl
  have hhigh : Decimal.twoTo 64 = 18446744073709551616 := rfl
  have hword : ¬(-9223372036854775808 ≤ i ∧ i < 18446744073709551616) →
      Number.word (.integer i) = none := by
    intro hout
    show Number.word? i = none
    rw [Number.word?, if_neg (by omega)]
  have hinteger : (⟨i < 0, ds, [], none⟩ : Literal).integer? =
      if -9223372036854775808 ≤ i ∧ i < 18446744073709551616 then some i else none := by
    have hplain : ¬(([] : List Digit) ≠ [] ∨ (none : Option Exponent).isSome = true) := by simp
    by_cases hneg : i < 0
    · have hsign : decide (i < 0) = true := decide_eq_true hneg
      have hback : (-(i.natAbs : Int)) = i := by omega
      simp only [integer?, if_neg hplain, hsign, if_true, hvalue, hlow, hback]
      by_cases hrange : -9223372036854775808 ≤ i
      · rw [if_neg (by omega), if_pos (by omega)]
      · rw [if_pos (by omega), if_neg (by omega)]
    · have hsign : decide (i < 0) = false := decide_eq_false hneg
      have hback : (i.natAbs : Int) = i := by omega
      simp only [integer?, if_neg hplain, hsign, Bool.false_eq_true, if_false, hvalue, hhigh, hback]
      by_cases hrange : i < 18446744073709551616
      · rw [if_pos (by omega), if_pos (by omega)]
      · rw [if_neg (by omega), if_neg (by omega)]
  by_cases hrange : -9223372036854775808 ≤ i ∧ i < 18446744073709551616
  · rw [if_pos hrange] at hinteger
    rw [number, hinteger]
    rfl
  · rw [if_neg hrange] at hinteger
    rw [word_number_of_integer?_eq_none hinteger, hword hrange]

end Literal

lemma fractionChars_of_ne_nil {ds : List Digit} (h : ds ≠ []) :
    fractionChars ds = '.' :: ds.map digitChar := by
  cases ds with
  | nil => exact absurd rfl h
  | cons d ds => rfl

lemma map_replicate_zero (n : Nat) :
    (List.replicate n (0 : Digit)).map digitChar = List.replicate n '0' :=
  List.map_replicate

/-- Digits with a point are a literal with a fraction. -/
lemma exists_pointed {ds : List Digit} {place : Int}
    (hds : ds = [] ∧ place = 1 ∨ ∃ d rest, ds = d :: rest ∧ d ≠ 0) :
    ∃ whole fraction, Number.pointed (ds.map digitChar) place =
        whole.map digitChar ++ fractionChars fraction ∧
      whole ≠ [] ∧ (whole.head? = some 0 → whole.length = 1) ∧ fraction ≠ [] := by
  by_cases hplace : place ≤ 0
  · obtain ⟨d, rest, rfl, hd⟩ := hds.resolve_left fun ⟨_, h⟩ => by omega
    have hne : List.replicate (-place).toNat 0 ++ d :: rest ≠ [] := by simp
    refine ⟨[0], List.replicate (-place).toNat 0 ++ d :: rest, ?_, by simp, fun _ => rfl, hne⟩
    rw [Number.pointed, if_pos hplace, fractionChars_of_ne_nil hne, List.map_append,
      map_replicate_zero]
    rfl
  · obtain ⟨size, hsize⟩ : ∃ size, place.toNat = size + 1 := ⟨place.toNat - 1, by omega⟩
    let padded := ds ++ List.replicate (place.toNat - ds.length) 0
    have hpadded : ds.map digitChar ++
        List.replicate (place.toNat - (ds.map digitChar).length) '0' = padded.map digitChar := by
      rw [List.map_append, map_replicate_zero, List.length_map]
    have hlength : place.toNat ≤ padded.length := by
      simp only [padded, List.length_append, List.length_replicate]
      omega
    have htake : (padded.take place.toNat).length = place.toNat := List.length_take_of_le hlength
    refine ⟨padded.take place.toNat,
      if padded.drop place.toNat = [] then [0] else padded.drop place.toNat, ?_, ?_, ?_, ?_⟩
    · rw [Number.pointed, if_neg hplace]
      simp only [hpadded, ← List.map_drop, ← List.map_take, List.map_eq_nil_iff]
      split
      · rw [List.append_assoc]
        rfl
      · rename_i hafter
        rw [fractionChars_of_ne_nil hafter, List.append_assoc]
        rfl
    · exact List.ne_nil_of_length_pos (by omega)
    · intro hzero
      rcases hds with ⟨-, rfl⟩ | ⟨d, rest, rfl, hd⟩
      · exact htake
      · rw [hsize] at hzero
        exact absurd (Option.some.inj hzero) hd
    · split
      · simp
      · assumption

/-- Digits with an exponent are a literal with an exponent. -/
lemma exists_exponential (d : Digit) (rest : List Digit) (place : Int) :
    ∃ e : Exponent, e.digits ≠ [] ∧ Number.exponential ((d :: rest).map digitChar) place =
      [digitChar d] ++ (fractionChars rest ++ exponentChars (some e)) := by
  obtain ⟨es, hes, -, hne, -⟩ := exists_digits (place - 1).natAbs
  refine ⟨⟨place - 1 < 0, es⟩, hne, ?_⟩
  simp only [Number.exponential, hes]
  cases rest with
  | nil => simp [fractionChars, exponentChars]
  | cons d' rest => simp [fractionChars, exponentChars]

/-- The size of a double is written with a point or an exponent. -/
lemma exists_sizeChars (x : Decimal.Double) : ∃ whole fraction exponent, ∀ negative,
    Number.sizeChars x = (⟨negative, whole, fraction, exponent⟩ : Literal).unsignedChars ∧
      (⟨negative, whole, fraction, exponent⟩ : Literal).IsWritten ∧
      (⟨negative, whole, fraction, exponent⟩ : Literal).integer? = none := by
  by_cases hx : x.mantissa = 0
  · refine ⟨[0], [0], none, fun negative => ⟨?_, ⟨by simp, fun _ => rfl, nofun⟩, ?_⟩⟩
    · rw [Number.sizeChars, if_pos hx]
      rfl
    · exact Literal.integer?_eq_none (.inl (by simp))
  · obtain ⟨ds, place, hwritten, hds⟩ := Decimal.Double.exists_written hx
    by_cases hnear : -5 < place ∧ place ≤ 16
    · obtain ⟨whole, fraction, hchars, hwhole, hlead, hfraction⟩ := exists_pointed hds
      refine ⟨whole, fraction, none, fun negative => ⟨?_, ⟨hwhole, hlead, nofun⟩, ?_⟩⟩
      · rw [Number.sizeChars, if_neg hx, hwritten]
        simp only [if_pos hnear, hchars]
        rw [Literal.unsignedChars, exponentChars, List.append_nil]
      · exact Literal.integer?_eq_none (.inl hfraction)
    · obtain ⟨d, rest, rfl, hd⟩ := hds.resolve_left fun ⟨_, h⟩ => hnear (by omega)
      obtain ⟨e, he, hchars⟩ := exists_exponential d rest place
      refine ⟨[d], rest, some e, fun negative => ⟨?_, ⟨by simp, fun _ => rfl, ?_⟩, ?_⟩⟩
      · rw [Number.sizeChars, if_neg hx, hwritten]
        simp only [if_neg hnear, hchars]
        rfl
      · rintro _ ⟨⟩
        exact he
      · exact Literal.integer?_eq_none (.inr rfl)

/-- Every number is written as a literal, from which the same word is read, if it is one. -/
theorem exists_literal (n : Number) : ∃ l : Literal, n.chars = l.chars ∧ l.IsWritten ∧
    ∀ round, (l.number round).toOption.bind Number.word = n.word := by
  cases n with
  | integer i =>
      obtain ⟨ds, hchars, hvalue, hne, hhead⟩ := exists_digits i.natAbs
      have hlead : ds.head? = some 0 → ds.length = 1 := by
        intro hzero
        have hsize := congrArg List.length hchars
        rw [hhead hzero, List.length_map] at hsize
        exact hsize.symm
      refine ⟨⟨i < 0, ds, [], none⟩, ?_, ⟨hne, hlead, nofun⟩, fun round => ?_⟩
      · simp [Number.chars, Literal.chars, Literal.unsignedChars, hchars, fractionChars,
          exponentChars]
      · exact Literal.word_number_of_integer hvalue round
  | double negative size =>
      obtain ⟨whole, fraction, exponent, h⟩ := exists_sizeChars size
      obtain ⟨hchars, hwritten, hinteger⟩ := h negative
      refine ⟨_, ?_, hwritten, Literal.word_number_of_integer?_eq_none hinteger⟩
      rw [Number.chars, hchars]
      rfl

end Json

end WorkloadTraits
