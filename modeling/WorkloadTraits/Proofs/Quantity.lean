import WorkloadTraits.Builtin.Field
import WorkloadTraits.Proofs.Dispatch.Outcome
import WorkloadTraits.Proofs.Text.Trimming

/-!
# The grammar of quantities

Which texts are quantities, said by a grammar: an optional plus sign, a number, and a unit or a
decimal exponent (`IsQuantity`).  A text is read exactly if a quantity is left of it without the
blanks around it, and this is what is read (`readQuantity_grammar`).

The text is cut where the first character stands that is neither a digit nor a point, and the two
parts are judged apart from each other.  This loses nothing: neither a unit nor an exponent begins
with a digit or a point, so there is only one place where a quantity can be cut (`IsScale.head`).
The letter `E` is a unit by itself and begins an exponent as well; what follows it decides.
-/

namespace WorkloadTraits

namespace Quantity

/-- Digits with at most one point among them, and at least one digit. -/
def IsNumber (cs : List Char) : Prop :=
  ∃ whole fraction, (∀ c ∈ whole ++ fraction, isDigit c = true) ∧ whole ++ fraction ≠ [] ∧
    (cs = whole ++ fraction ∨ cs = whole ++ '.' :: fraction)

/-- The names of the units: milli, decimal multiples, powers of 1024. -/
def unitNames : List String :=
  ["m", "k", "M", "G", "T", "P", "E", "Ki", "Mi", "Gi", "Ti", "Pi", "Ei"]

/-- What can stand behind a number: a unit, a decimal exponent, or nothing. -/
inductive IsScale : List Char → Prop
  | nothing : IsScale []
  | name {unit : String} (h : unit ∈ unitNames) : IsScale unit.toList
  | exponent {mark : Char} {sign digits : List Char} (hmark : mark = 'e' ∨ mark = 'E')
      (hsign : sign = [] ∨ sign = ['+'] ∨ sign = ['-']) (hne : digits ≠ [])
      (hdigits : ∀ c ∈ digits, isDigit c = true) : IsScale (mark :: (sign ++ digits))

/-- A number with what stands behind it. -/
def IsUnsigned (cs : List Char) : Prop :=
  ∃ number scale, cs = number ++ scale ∧ IsNumber number ∧ IsScale scale

/-- A quantity, with a plus sign or without one. -/
def IsQuantity (cs : List Char) : Prop :=
  IsUnsigned cs ∨ ∃ rest, cs = '+' :: rest ∧ IsUnsigned rest

/-! ## Numbers -/

lemma isNumeral_iff {c : Char} : isNumeral c = true ↔ isDigit c = true ∨ c = '.' := by
  rw [isNumeral, Bool.or_eq_true, beq_iff_eq]

lemma point_not_mem {cs : List Char} (h : ∀ c ∈ cs, isDigit c = true) : '.' ∉ cs := by
  intro hmem
  exact absurd (h '.' hmem) (by decide)

/-- A number consists of what can stand in a number. -/
lemma IsNumber.numerals {cs : List Char} (h : IsNumber cs) : ∀ c ∈ cs, isNumeral c = true := by
  obtain ⟨whole, fraction, hdigits, -, rfl | rfl⟩ := h
  · exact fun c hc => isNumeral_iff.2 (.inl (hdigits c hc))
  · intro c hc
    rw [isNumeral_iff]
    rcases List.mem_append.1 hc with hc | hc
    · exact .inl (hdigits c (List.mem_append_left _ hc))
    · exact (List.mem_cons.1 hc).symm.imp_left fun hc => hdigits c (List.mem_append_right _ hc)

lemma checkNumber_eq_ok {cs : List Char} (hcs : ∀ c ∈ cs, isNumeral c = true) :
    checkNumber cs = .ok () ↔ IsNumber cs := by
  have hcheck : checkNumber cs = .ok () ↔ cs ≠ [] ∧ cs ≠ ['.'] ∧ cs.count '.' ≤ 1 := by
    rw [checkNumber]
    split
    · rename_i h
      rcases h with h | h <;> simp [h]
    · rename_i h
      rw [not_or] at h
      simp [h]
  rw [hcheck]
  constructor
  · rintro ⟨hne, hpoint, hcount⟩
    by_cases hmem : '.' ∈ cs
    · -- All that is not the one point is a digit.
      obtain ⟨whole, fraction, rfl⟩ := List.append_of_mem hmem
      rw [List.count_append, List.count_cons_self] at hcount
      have hwhole : '.' ∉ whole := List.count_eq_zero.1 (by omega)
      have hfraction : '.' ∉ fraction := List.count_eq_zero.1 (by omega)
      refine ⟨whole, fraction, fun c hc => ?_, fun hnil => hpoint ?_, .inr rfl⟩
      · rcases List.mem_append.1 hc with hc | hc
        · exact (isNumeral_iff.1 (hcs c (by simp [hc]))).resolve_right fun h => hwhole (h ▸ hc)
        · exact (isNumeral_iff.1 (hcs c (by simp [hc]))).resolve_right fun h => hfraction (h ▸ hc)
      · obtain ⟨rfl, rfl⟩ := List.append_eq_nil_iff.1 hnil
        rfl
    · refine ⟨cs, [], fun c hc => ?_, ?_, .inl (List.append_nil cs).symm⟩
      · rw [List.append_nil] at hc
        exact (isNumeral_iff.1 (hcs c hc)).resolve_right fun h => hmem (h ▸ hc)
      · rwa [List.append_nil]
  · rintro ⟨whole, fraction, hdigits, hne, rfl | rfl⟩
    · have hno := point_not_mem hdigits
      refine ⟨hne, fun h => hno (h ▸ List.mem_singleton_self _), ?_⟩
      rw [List.count_eq_zero.2 hno]
      exact Nat.zero_le 1
    · have hno := point_not_mem hdigits
      rw [List.mem_append, not_or] at hno
      refine ⟨by simp, fun h => hne ?_, ?_⟩
      · simpa [List.append_eq_singleton_iff] using h
      · rw [List.count_append, List.count_cons_self, List.count_eq_zero.2 hno.1,
          List.count_eq_zero.2 hno.2]

/-! ## Units -/

/-- No unit begins with what can stand in a number. -/
lemma IsScale.head {cs : List Char} (h : IsScale cs) :
    ∀ c, cs.head? = some c → isNumeral c = false := by
  cases h with
  | nothing => exact fun c hc => nomatch hc
  | @name unit h =>
      have hnames : ∀ unit ∈ unitNames, ∀ c, unit.toList.head? = some c → isNumeral c = false := by
        simp [unitNames, isNumeral, isDigit]
      exact hnames unit h
  | exponent hmark =>
      intro c hc
      obtain rfl := Option.some.inj hc
      rcases hmark with rfl | rfl <;> decide

lemma exists_sign (cs : List Char) :
    ∃ sign, (sign = [] ∨ sign = ['+'] ∨ sign = ['-']) ∧ cs = sign ++ dropSign cs := by
  unfold dropSign
  split
  · exact ⟨['+'], by simp, rfl⟩
  · exact ⟨['-'], by simp, rfl⟩
  · exact ⟨[], by simp, rfl⟩

lemma dropSign_append {sign digits : List Char}
    (hsign : sign = [] ∨ sign = ['+'] ∨ sign = ['-']) (hdigits : ∀ c ∈ digits, isDigit c = true) :
    dropSign (sign ++ digits) = digits := by
  rcases hsign with rfl | rfl | rfl
  · rw [List.nil_append]
    unfold dropSign
    split
    · exact absurd (hdigits '+' List.mem_cons_self) (by decide)
    · exact absurd (hdigits '-' List.mem_cons_self) (by decide)
    · rfl
  · rfl
  · rfl

lemma mem_units {unit : String} : unit ∈ units ↔ unit = "" ∨ unit ∈ unitNames := by
  have hperm : units.Perm ("" :: unitNames) := by decide
  rw [hperm.mem_iff, List.mem_cons]

lemma isScale_of_isExponent {cs : List Char} (h : isExponent cs = true) : IsScale cs := by
  cases cs with
  | nil => cases h
  | cons mark rest =>
      rw [isExponent, Bool.and_eq_true, Bool.and_eq_true, Bool.or_eq_true, beq_iff_eq, beq_iff_eq,
        Bool.not_eq_true', List.all_eq_true] at h
      obtain ⟨⟨hmark, hgiven⟩, hdigits⟩ := h
      obtain ⟨sign, hsign, hrest⟩ := exists_sign rest
      rw [hrest]
      exact .exponent hmark hsign (List.isEmpty_eq_false_iff.1 hgiven) hdigits

lemma checkUnit_eq_ok {cs : List Char} : checkUnit cs = .ok () ↔ IsScale cs := by
  have hcheck : checkUnit cs = .ok () ↔
      (∃ unit ∈ units, unit.toList = cs) ∨ isExponent cs = true := by
    rw [checkUnit]
    split
    · rename_i h
      rw [Bool.or_eq_true, List.any_eq_true] at h
      simpa using h
    · rename_i h
      rw [Bool.or_eq_true, List.any_eq_true] at h
      simpa using h
  rw [hcheck]
  constructor
  · rintro (⟨unit, hunit, rfl⟩ | hexponent)
    · rcases mem_units.1 hunit with rfl | hname
      · rw [String.toList_empty]
        exact .nothing
      · exact .name hname
    · exact isScale_of_isExponent hexponent
  · intro h
    cases h with
    | nothing => exact .inl ⟨"", mem_units.2 (.inl rfl), String.toList_empty⟩
    | name h => exact .inl ⟨_, mem_units.2 (.inr h), rfl⟩
    | exponent hmark hsign hne hdigits =>
        right
        rw [isExponent, dropSign_append hsign hdigits, Bool.and_eq_true, Bool.and_eq_true,
          Bool.or_eq_true, beq_iff_eq, beq_iff_eq, Bool.not_eq_true', List.all_eq_true]
        exact ⟨⟨hmark, List.isEmpty_eq_false_iff.2 hne⟩, hdigits⟩

/-! ## Quantities -/

/-- There is only one place where a quantity can be cut. -/
lemma takeWhile_number {number scale : List Char} (hnumber : IsNumber number)
    (hscale : IsScale scale) :
    (number ++ scale).takeWhile isNumeral = number ∧
      (number ++ scale).dropWhile isNumeral = scale := by
  rw [List.takeWhile_append_of_pos hnumber.numerals, List.dropWhile_append_of_pos hnumber.numerals]
  cases scale with
  | nil => simp
  | cons c rest =>
      have hc : ¬ isNumeral c = true := by
        rw [hscale.head c rfl]
        exact Bool.false_ne_true
      rw [List.takeWhile_cons_of_neg hc, List.dropWhile_cons_of_neg hc, List.append_nil]
      exact ⟨rfl, rfl⟩

lemma checkUnsigned_eq_ok {cs : List Char} : checkUnsigned cs = .ok () ↔ IsUnsigned cs := by
  have hnumeral : ∀ c ∈ cs.takeWhile isNumeral, isNumeral c = true :=
    fun c hc => List.mem_takeWhile_imp hc
  have hcheck : checkUnsigned cs = .ok () ↔
      IsNumber (cs.takeWhile isNumeral) ∧ IsScale (cs.dropWhile isNumeral) := by
    rw [checkUnsigned, bind_eq_ok, ← checkNumber_eq_ok hnumeral, ← checkUnit_eq_ok]
    exact ⟨fun ⟨_, hnumber, hscale⟩ => ⟨hnumber, hscale⟩,
      fun ⟨hnumber, hscale⟩ => ⟨(), hnumber, hscale⟩⟩
  rw [hcheck]
  constructor
  · rintro ⟨hnumber, hscale⟩
    exact ⟨_, _, List.takeWhile_append_dropWhile.symm, hnumber, hscale⟩
  · rintro ⟨number, scale, rfl, hnumber, hscale⟩
    obtain ⟨htake, hdrop⟩ := takeWhile_number hnumber hscale
    rw [htake, hdrop]
    exact ⟨hnumber, hscale⟩

/-- A quantity without a sign begins with a digit or a point. -/
lemma IsUnsigned.head {c : Char} {rest : List Char} (h : IsUnsigned (c :: rest)) :
    isNumeral c = true := by
  obtain ⟨number, scale, hcs, hnumber, -⟩ := h
  cases number with
  | nil =>
      obtain ⟨whole, fraction, -, hne, hnil | hpoint⟩ := hnumber
      · exact absurd hnil.symm hne
      · simp at hpoint
  | cons c' number =>
      obtain rfl := (List.cons.inj hcs).1
      exact hnumber.numerals c List.mem_cons_self

/-- The check accepts what the grammar allows. -/
theorem check_eq_ok {cs : List Char} : check cs = .ok () ↔ IsQuantity cs := by
  unfold check
  split
  · -- There is nothing, and so no number.
    refine iff_of_false (fun h => nomatch h) ?_
    rintro (hunsigned | ⟨rest, hcs, -⟩)
    · exact nomatch checkUnsigned_eq_ok.2 hunsigned
    · cases hcs
  · refine iff_of_false (fun h => nomatch h) ?_
    rintro (hunsigned | ⟨rest, hcs, -⟩)
    · exact absurd hunsigned.head (by decide)
    · cases hcs
  · rename_i rest
    rw [checkUnsigned_eq_ok]
    constructor
    · exact fun hrest => .inr ⟨rest, rfl, hrest⟩
    · rintro (hunsigned | ⟨rest', hcs, hrest⟩)
      · exact absurd hunsigned.head (by decide)
      · rwa [(List.cons.inj hcs).2]
  · rename_i hplus
    rw [checkUnsigned_eq_ok]
    exact ⟨.inl, fun h => h.resolve_right fun ⟨rest, hcs, _⟩ => hplus rest hcs⟩

lemma read_eq_ok {raw q : String} :
    read raw = .ok q ↔ Text.Trimmed raw q ∧ IsQuantity q.toList := by
  have hchars : (Text.trim raw).toList = Text.trimChars raw.toList := String.toList_ofList
  rw [read, bind_eq_ok, ← Text.trim_eq_iff]
  constructor
  · rintro ⟨_, hcheck, hq⟩
    obtain rfl := Except.ok.inj hq
    rw [hchars]
    exact ⟨rfl, check_eq_ok.1 hcheck⟩
  · rintro ⟨rfl, hquantity⟩
    rw [hchars] at hquantity
    exact ⟨(), check_eq_ok.2 hquantity, rfl⟩

end Quantity

/-- **Which quantities are read.**  A text is read if it is a quantity between blanks, and then the
quantity is what is read; read once more, wherever it stands, it stays the same.  Any other text is
refused under the name of its field and as it was written. -/
theorem readQuantity_grammar (field raw : String) :
    (∀ q, readQuantity field raw = .ok q ↔
      Text.Trimmed raw q ∧ Quantity.IsQuantity q.toList) ∧
    (∀ q, readQuantity field raw = .ok q → ∀ field', readQuantity field' q = .ok q) ∧
    ∀ failure, readQuantity field raw = .error failure →
      ∃ reason, failure = .invalidQuantity field raw reason := by
  have hread : ∀ field raw q, readQuantity field raw = .ok q ↔
      Text.Trimmed raw q ∧ Quantity.IsQuantity q.toList := by
    intro field raw q
    rw [readQuantity, mapError_eq_ok, Quantity.read_eq_ok]
  refine ⟨hread field raw, fun q hq field' => ?_, fun failure hfailure => ?_⟩
  · obtain ⟨htrimmed, hquantity⟩ := (hread field raw q).1 hq
    have hself := Text.trim_eq_self htrimmed.first htrimmed.last
    exact (hread field' q q).2 ⟨Text.trim_eq_iff.1 hself, hquantity⟩
  · obtain ⟨fault, -, hfault⟩ := mapError_eq_error.1 hfailure
    exact ⟨fault.reason, hfault.symm⟩

/-- A plus sign, a point in front, the `E` of an exponent, and blanks that are not of ASCII. -/
theorem readQuantity_grammar_exponent :
    readQuantity "cpu" "\u00a0+.5E-3\u3000" = .ok "+.5E-3" ∧
      readQuantity "size" "+.5E-3" = .ok "+.5E-3" ∧
      ∃ reason, readQuantity "size" " 5E-" = .error (.invalidQuantity "size" " 5E-" reason) := by
  have htrimmed : Text.Trimmed "\u00a0+.5E-3\u3000" "+.5E-3" := Text.trim_eq_iff.1 (by cbv)
  have hnumber : Quantity.IsNumber ['.', '5'] :=
    ⟨[], ['5'], List.forall_mem_singleton.2 rfl, List.cons_ne_nil _ _, .inr rfl⟩
  have hscale : Quantity.IsScale ('E' :: (['-'] ++ ['3'])) :=
    .exponent (.inr rfl) (.inr (.inr rfl)) (List.cons_ne_nil _ _) (List.forall_mem_singleton.2 rfl)
  have hquantity : Quantity.IsQuantity "+.5E-3".toList :=
    .inr ⟨_, rfl, ['.', '5'], ['E', '-', '3'], rfl, hnumber, hscale⟩
  obtain ⟨hiff, hagain, -⟩ := readQuantity_grammar "cpu" "\u00a0+.5E-3\u3000"
  have hread := (hiff "+.5E-3").2 ⟨htrimmed, hquantity⟩
  have hrefused : readQuantity "size" " 5E-" = .error _ := rfl
  obtain ⟨reason, hreason⟩ := (readQuantity_grammar "size" " 5E-").2.2 _ hrefused
  exact ⟨hread, hagain _ hread "size", reason, hrefused.trans (congrArg Except.error hreason)⟩

end WorkloadTraits
