import Mathlib
import WorkloadTraits.Json.Printer
import WorkloadTraits.Json.Token

/-!
# Tokens of written text

Some characters spell a token (`Spells`) if whoever finds them in front of some others reads the
token and stops behind them.  So the tokens of a text are found one by one from its front
(`Tokenized.of_spells`), wherever the text begins and however many rounds are left.

The longest part is about strings (`spells_stringChars`).  A printer escapes in three ways
(`escape_cases`), and a reader knows many more, halves of surrogate pairs among them.  None of
these is ever written, so the state of the reader stays one that waits for nothing
(`StringState.plain`), and each escape adds its own character to it.
-/

namespace WorkloadTraits.Json

/-! ## Tokens one by one -/

/-- The characters are read as a token when they stand in front of others. -/
def Spells (chars : List Char) (token : Token) (rest : List Char) : Prop :=
  ∀ i, ∃ c cs stop, chars = c :: cs ∧ isSpace c = false ∧
    scanToken i c (cs ++ rest) = (token, stop, rest)

/-- The tokens of some characters, from any offset on. -/
def Tokenized (cs : List Char) (ts : List Placed) : Prop :=
  ∃ i rounds, cs.length ≤ rounds ∧ tokensWithin rounds i cs = ts

lemma tokenized_tokens (cs : List Char) : Tokenized cs (tokens cs) :=
  ⟨0, cs.length, le_rfl, rfl⟩

lemma Tokenized.eq_nil {ts : List Placed} (h : Tokenized [] ts) : ts = [] := by
  obtain ⟨_, rounds, -, rfl⟩ := h
  cases rounds <;> rfl

/-- What is spelled first is the first token. -/
lemma Tokenized.of_spells {chars rest : List Char} {token : Token} {ts : List Placed}
    (h : Tokenized (chars ++ rest) ts) (hspells : Spells chars token rest) :
    ∃ span ts', ts = ⟨token, span⟩ :: ts' ∧ Tokenized rest ts' := by
  obtain ⟨i, rounds, hrounds, rfl⟩ := h
  obtain ⟨c, cs, stop, rfl, hspace, hscan⟩ := hspells i
  obtain _ | rounds := rounds
  · exact absurd hrounds (Nat.not_succ_le_zero _)
  have hlength : rest.length ≤ rounds := by
    simp only [List.cons_append, List.length_cons, List.length_append] at hrounds
    omega
  refine ⟨⟨i, stop⟩, tokensWithin rounds stop rest, ?_, stop, rounds, hlength, rfl⟩
  rw [List.cons_append, tokensWithin, hspace, hscan]
  rfl

/-! ## One character of a string -/

/-- The state that has read some characters and waits for nothing. -/
def StringState.plain (content : List Char) : StringState := ⟨content, none, none⟩

/-- A character is written with a short escape, by its number, or as it is. -/
lemma escape_cases (c : Char) :
    (∃ e, escape c = ['\\', e] ∧ e ≠ 'u' ∧ shortEscape? e = some c) ∨
    (c.toNat < 0x20 ∧ escape c =
      ['\\', 'u', '0', '0', Nat.digitChar (c.toNat / 16), Nat.digitChar (c.toNat % 16)]) ∨
    (escape c = [c] ∧ c ≠ '"' ∧ c ≠ '\\' ∧ 0x20 ≤ c.toNat) := by
  have hnumber : ∀ d : Char, c.toNat = d.toNat → d = c := fun d h =>
    Char.toNat_inj.1 h.symm
  unfold escape
  split_ifs with hquote hslash hline hreturn htab hback hfeed hcontrol
  · exact .inl ⟨'"', rfl, by decide, congrArg some (eq_of_beq hquote).symm⟩
  · exact .inl ⟨'\\', rfl, by decide, congrArg some (eq_of_beq hslash).symm⟩
  · exact .inl ⟨'n', rfl, by decide, congrArg some (eq_of_beq hline).symm⟩
  · exact .inl ⟨'r', rfl, by decide, congrArg some (eq_of_beq hreturn).symm⟩
  · exact .inl ⟨'t', rfl, by decide, congrArg some (eq_of_beq htab).symm⟩
  · exact .inl ⟨'b', rfl, by decide, congrArg some (hnumber '\x08' (eq_of_beq hback))⟩
  · exact .inl ⟨'f', rfl, by decide, congrArg some (hnumber '\x0c' (eq_of_beq hfeed))⟩
  · exact .inr (.inl ⟨hcontrol, rfl⟩)
  · exact .inr (.inr ⟨rfl, by simpa using hquote, by simpa using hslash, Nat.not_lt.1 hcontrol⟩)

/-- Four hexadecimal digits give a control character's number. -/
lemma unit?_control : ∀ n : Fin 32,
    unit? '0' '0' (Nat.digitChar (n / 16)) (Nat.digitChar (n % 16)) = some n.val := by
  decide

variable (content : List Char) (i : Nat) (rest : List Char)

lemma scanString_short {e c : Char} (he : e ≠ 'u') (hshort : shortEscape? e = some c) :
    scanString (.plain content) i ('\\' :: e :: rest) =
      scanString (.plain (c :: content)) (i + 2) rest := by
  rw [scanString, hshort]
  · rfl
  · exact fun _ _ _ _ _ hu => absurd hu he
  · exact fun hu => absurd hu he

lemma scanString_control {c : Char} (hc : c.toNat < 0x20) :
    scanString (.plain content) i
        ('\\' :: 'u' :: '0' :: '0' :: Nat.digitChar (c.toNat / 16) ::
          Nat.digitChar (c.toNat % 16) :: rest) =
      scanString (.plain (c :: content)) (i + 6) rest := by
  have hunit : unit? '0' '0' (Nat.digitChar (c.toNat / 16)) (Nat.digitChar (c.toNat % 16)) =
      some c.toNat := unit?_control ⟨c.toNat, hc⟩
  have hpush : (StringState.plain content).pushUnit c.toNat (i + 6) = .plain (c :: content) := by
    have hlow : ¬(0xDC00 ≤ c.toNat ∧ c.toNat ≤ 0xDFFF) := by omega
    have hhigh : ¬(0xD800 ≤ c.toNat ∧ c.toNat ≤ 0xDBFF) := by omega
    rw [StringState.pushUnit, if_neg hlow]
    dsimp only
    rw [if_neg hhigh, Char.ofNat_toNat]
    rfl
  rw [scanString, hunit]
  dsimp only
  rw [hpush]

lemma scanString_unescaped {c : Char} (hquote : c ≠ '"') (hslash : c ≠ '\\')
    (hcontrol : 0x20 ≤ c.toNat) :
    scanString (.plain content) i (c :: rest) =
      scanString (.plain (c :: content)) (i + c.utf8Size) rest := by
  rw [scanString]
  · exact if_neg (Nat.not_lt.2 hcontrol)
  · exact hquote
  · exact fun h _ => hslash h
  · exact fun _ _ _ _ _ h _ => hslash h
  · exact fun _ h _ => hslash h
  · exact fun _ _ h _ => hslash h

lemma scanString_escape (c : Char) :
    ∃ stop, scanString (.plain content) i (escape c ++ rest) =
      scanString (.plain (c :: content)) stop rest := by
  rcases escape_cases c with ⟨e, heq, he, hshort⟩ | ⟨hc, heq⟩ | ⟨heq, hquote, hslash, hcontrol⟩
  · exact ⟨i + 2, by rw [heq]; exact scanString_short content i rest he hshort⟩
  · exact ⟨i + 6, by rw [heq]; exact scanString_control content i rest hc⟩
  · refine ⟨i + c.utf8Size, ?_⟩
    rw [heq]
    exact scanString_unescaped content i rest hquote hslash hcontrol

/-! ## Strings -/

lemma scanString_flatMap (cs content : List Char) (i : Nat) (rest : List Char) :
    ∃ stop, scanString (.plain content) i (cs.flatMap escape ++ '"' :: rest) =
      (.string (.ok (String.ofList (content.reverse ++ cs))), stop, rest) := by
  induction cs generalizing content i with
  | nil =>
      refine ⟨i + 1, ?_⟩
      rw [List.append_nil]
      rfl
  | cons c cs ih =>
      obtain ⟨stop, hstop⟩ := scanString_escape content i (cs.flatMap escape ++ '"' :: rest) c
      obtain ⟨stop', hstop'⟩ := ih (c :: content) stop
      refine ⟨stop', ?_⟩
      rw [List.flatMap_cons, List.append_assoc, hstop, hstop', List.reverse_cons,
        List.append_assoc, List.singleton_append]

/-- **A written string is read back**, whatever follows it. -/
theorem spells_stringChars (s : String) (rest : List Char) :
    Spells (stringChars s) (.string (.ok s)) rest := by
  intro i
  obtain ⟨stop, hstop⟩ := scanString_flatMap s.toList [] (i + 1) rest
  refine ⟨'"', s.toList.flatMap escape ++ ['"'], stop, rfl, rfl, ?_⟩
  rw [List.reverse_nil, List.nil_append, String.ofList_toList] at hstop
  rw [List.append_assoc, List.singleton_append]
  exact hstop

end WorkloadTraits.Json
