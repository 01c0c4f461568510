import WorkloadTraits.Proofs.Payload.RoundTrip
import WorkloadTraits.Proofs.Schema.Agreement

/-!
# The two encodings of a payload

A component keeps its traits as a JSON value or as a text that holds one.  The main result is that
both mean the same (`Component.readTraits_compact`): whatever array or object a payload is, fitting
the schema or not, its text is read to the very same traits, or neither is read.  The one condition
is that it is not nested deeper than a text may be.

Most of it is the schema's part.  Every record of the schema is decoded alike from readings of one
value, which takes one line for each and no look at its fields.  For the payload inside a payload
the two sides have different limits left, so the last step is an induction on how deep the value
is nested (`Traits.decodeAlike`).
-/

namespace WorkloadTraits

open Schema
open Json (Alike Reading)

/-! ## Records -/

section

variable {bound : Nat}

@[simp]
lemma StorageEntry.decodeAlike :
    DecodeAlike bound StorageEntry.schema.decoder StorageEntry.schema.decoder :=
  Record.decodeAlike rfl (by simp [StorageEntry.schema])

@[simp]
lemma SecretEntry.decodeAlike :
    DecodeAlike bound SecretEntry.schema.decoder SecretEntry.schema.decoder :=
  Record.decodeAlike rfl (by simp [SecretEntry.schema])

@[simp]
lemma EnvSourceEntry.decodeAlike :
    DecodeAlike bound EnvSourceEntry.schema.decoder EnvSourceEntry.schema.decoder :=
  Record.decodeAlike rfl (by simp [EnvSourceEntry.schema])

@[simp]
lemma KeySelector.decodeAlike :
    DecodeAlike bound KeySelector.schema.decoder KeySelector.schema.decoder :=
  Record.decodeAlike rfl (by simp [KeySelector.schema])

@[simp]
lemma ValueSource.decodeAlike :
    DecodeAlike bound ValueSource.schema.decoder ValueSource.schema.decoder :=
  Record.decodeAlike rfl (by simp [ValueSource.schema])

@[simp]
lemma EnvEntry.decodeAlike :
    DecodeAlike bound EnvEntry.schema.decoder EnvEntry.schema.decoder :=
  Record.decodeAlike rfl (by simp [EnvEntry.schema])

@[simp]
lemma ExecCheck.decodeAlike :
    DecodeAlike bound ExecCheck.schema.decoder ExecCheck.schema.decoder :=
  Record.decodeAlike rfl (by simp [ExecCheck.schema])

@[simp]
lemma HttpCheck.decodeAlike :
    DecodeAlike bound HttpCheck.schema.decoder HttpCheck.schema.decoder :=
  Record.decodeAlike rfl (by simp [HttpCheck.schema])

@[simp]
lemma TcpCheck.decodeAlike :
    DecodeAlike bound TcpCheck.schema.decoder TcpCheck.schema.decoder :=
  Record.decodeAlike rfl (by simp [TcpCheck.schema])

@[simp]
lemma ProbeEntry.decodeAlike :
    DecodeAlike bound ProbeEntry.schema.decoder ProbeEntry.schema.decoder :=
  Record.decodeAlike rfl (by simp [ProbeEntry.schema])

@[simp]
lemma ResourceEntry.decodeAlike :
    DecodeAlike bound ResourceEntry.schema.decoder ResourceEntry.schema.decoder :=
  Record.decodeAlike rfl (by simp [ResourceEntry.schema])

@[simp]
lemma AccessRule.decodeAlike :
    DecodeAlike bound AccessRule.schema.decoder AccessRule.schema.decoder :=
  Record.decodeAlike rfl (by simp [AccessRule.schema])

@[simp]
lemma AccessPolicy.decodeAlike :
    DecodeAlike bound AccessPolicy.schema.decoder AccessPolicy.schema.decoder :=
  Record.decodeAlike rfl (by simp [AccessPolicy.schema])

@[simp]
lemma RouteBackend.decodeAlike :
    DecodeAlike bound RouteBackend.schema.decoder RouteBackend.schema.decoder :=
  Record.decodeAlike rfl (by simp [RouteBackend.schema])

@[simp]
lemma PathChange.decodeAlike :
    DecodeAlike bound PathChange.schema.decoder PathChange.schema.decoder :=
  Record.decodeAlike rfl (by simp [PathChange.schema])

@[simp]
lemma Route.decodeAlike :
    DecodeAlike bound Route.schema.decoder Route.schema.decoder :=
  Record.decodeAlike rfl (by simp [Route.schema])

@[simp]
lemma Certificate.decodeAlike :
    DecodeAlike bound Certificate.schema.decoder Certificate.schema.decoder :=
  Record.decodeAlike rfl (by simp [Certificate.schema])

@[simp]
lemma IngressEntry.decodeAlike :
    DecodeAlike bound IngressEntry.schema.decoder IngressEntry.schema.decoder :=
  Record.decodeAlike rfl (by simp [IngressEntry.schema])

@[simp]
lemma InitProperties.decodeAlike :
    DecodeAlike bound InitProperties.schema.decoder InitProperties.schema.decoder :=
  Record.decodeAlike rfl (by simp [InitProperties.schema])

lemma InitEntry.decodeAlike {nested nested' : Decoder Traits}
    (h : DecodeAlike (bound - 1) nested nested') :
    DecodeAlike bound (InitEntry.schema {} nested).decoder (InitEntry.schema {} nested').decoder :=
  Record.decodeAlike rfl (by simp [InitEntry.schema, h])

lemma SidecarEntry.decodeAlike {nested nested' : Decoder Traits}
    (h : DecodeAlike (bound - 1) nested nested') :
    DecodeAlike bound (SidecarEntry.schema {} nested).decoder
      (SidecarEntry.schema {} nested').decoder :=
  Record.decodeAlike rfl (by simp [SidecarEntry.schema, h])

end

/-! ## Payloads -/

namespace Traits

/-- Three arrays or objects down, payloads are decoded by the decoder that the schema is given. -/
lemma decodeAlike_schema {bound : Nat} {nested nested' : Decoder Traits}
    (h : DecodeAlike (bound - 3) nested nested') :
    DecodeAlike bound (schema nested).decoder (schema nested').decoder := by
  have hinit : DecodeAlike (bound - 2) (InitEntry.schema {} nested).decoder
      (InitEntry.schema {} nested').decoder := InitEntry.decodeAlike h
  have hsidecar : DecodeAlike (bound - 2) (SidecarEntry.schema {} nested).decoder
      (SidecarEntry.schema {} nested').decoder := SidecarEntry.decodeAlike h
  have hingress : DecodeAlike (bound - 2) (optional IngressEntry.schema.decoder)
      (optional IngressEntry.schema.decoder) := IngressEntry.decodeAlike.optional
  exact Record.decodeAlike rfl (by simp [schema, Nat.sub_sub, hinit, hsidecar, hingress])

/-- A scalar is no payload, whatever the limit. -/
lemma inner_scalar {r r' : Reading} (h : Alike 0 r r') (limit deep : Nat) :
    (∃ e, inner limit deep r = .error e) ∧ ∃ e, inner limit deep r' = .error e := by
  have hrefused : ∀ limit,
      (∃ e, decoder limit r = .error e) ∧ ∃ e, decoder limit r' = .error e := by
    intro limit
    rw [decoder_eq]
    cases h <;> cases limit <;> exact ⟨⟨_, rfl⟩, ⟨_, rfl⟩⟩
  match limit with
  | limit + 3 => exact hrefused limit
  | 0 | 1 | 2 => exact ⟨⟨_, rfl⟩, ⟨_, rfl⟩⟩

/-- Payloads are decoded alike under all limits that reach as deep as they are nested. -/
theorem decodeAlike (bound : Nat) : DecodeAlike bound decoder decoder := by
  induction bound using Nat.strongRecOn with
  | ind bound ih =>
      intro limit limit' hlimit hlimit' r r' halike
      have hinner : DecodeAlike (bound - 3) (inner limit) (inner limit') := by
        intro deep deep' _ _ r r' halike
        by_cases hbound : 3 ≤ bound
        · obtain ⟨limit, rfl⟩ := Nat.exists_eq_add_of_le' (hbound.trans hlimit)
          obtain ⟨limit', rfl⟩ := Nat.exists_eq_add_of_le' (hbound.trans hlimit')
          exact ih (bound - 3) (by omega) limit limit' (by omega) (by omega) r r' halike
        · -- so near the bottom all that can stand in place of the inner payload is a scalar
          have hzero : bound - 3 = 0 := by omega
          rw [hzero] at halike
          obtain ⟨⟨e, he⟩, -⟩ := inner_scalar halike limit deep
          obtain ⟨-, ⟨e', he'⟩⟩ := inner_scalar halike limit' deep'
          rw [he, he']
          exact .error
      rw [decoder_eq limit, decoder_eq limit']
      exact decodeAlike_schema hinner limit limit' hlimit hlimit' r r' halike

end Traits

/-! ## Components -/

namespace Component

/-- The text of an array or object is not blank: it begins with a bracket. -/
lemma isBlankText_compact {v : Json}
    (hshape : (∃ items, v = .array items) ∨ ∃ fields, v = .object fields) :
    Text.isBlankText v.compact = false := by
  have hfirst : ∀ (c : Char) (cs : List Char), Text.isBlank c = false →
      v.compactChars = c :: cs → Text.isBlankText v.compact = false := by
    intro c cs hc hchars
    rw [Text.isBlankText, Json.compact, String.toList_ofList, hchars, List.all_cons, hc,
      Bool.false_and]
  rcases hshape with ⟨_ | ⟨j, items⟩, rfl⟩ | ⟨_ | ⟨⟨name, j⟩, fields⟩, rfl⟩
  · exact hfirst '[' _ (by decide) rfl
  · exact hfirst '[' _ (by decide) rfl
  · exact hfirst '\x7b' _ (by decide) rfl
  · exact hfirst '\x7b' _ (by decide) rfl

/-- **Both encodings of a payload mean the same.**  For any array or object that is nested less than
128 levels deep, a component reads the same traits from the value and from its text, or none from
both because they say nothing, or it refuses both, and the failure names the component. -/
theorem readTraits_compact (c : Component) {v : Json}
    (hshape : (∃ items, v = .array items) ∨ ∃ fields, v = .object fields) (hdepth : v.depth < 128) :
    (∃ t?, { c with traits := some v }.readTraits = .ok t? ∧
      { c with traits := some (.string v.compact) }.readTraits = .ok t?) ∨
    ∃ refusal refusal',
      { c with traits := some v }.readTraits = .error (.malformedTraits c.name refusal) ∧
      { c with traits := some (.string v.compact) }.readTraits =
        .error (.malformedTraits c.name refusal') := by
  obtain ⟨r, htext, halike⟩ := Json.Document.exists_ofText_compact Json.Literal.inSteps v
  have hagree : Agree Eq (Traits.decoder textLimit r) (Traits.decoder v.depth v.reading) :=
    Traits.decodeAlike v.depth textLimit v.depth (Nat.le_of_lt_succ hdepth) le_rfl r _ halike
  have hvalue : decodePayload (some v) = (Schema.ofJson Traits.decoder v).map some := by
    rcases hshape with ⟨items, rfl⟩ | ⟨fields, rfl⟩ <;> rfl
  have hstring : decodePayload (some (.string v.compact)) =
      (Schema.ofText Traits.decoder v.compact).map some := by
    rw [decodePayload, isBlankText_compact hshape]
    rfl
  unfold readTraits
  dsimp only
  rw [hvalue, hstring, Schema.ofJson, Schema.ofText, htext, ofDocument]
  generalize Traits.decoder v.depth v.reading = fromValue at hagree ⊢
  generalize Traits.decoder textLimit r = fromText at hagree ⊢
  cases hagree with
  | @ok t _ h =>
      obtain rfl := h
      exact .inl ⟨_, rfl, rfl⟩
  | error => exact .inr ⟨_, _, rfl, rfl⟩

/-- A payload with a payload inside it, texts to be escaped, a negative port, and a field that
nobody asks for and that holds a double. -/
def nestedPayload : Json := .object [
  ("init", .array [.object [
    ("name", .string "wait"),
    ("properties", .object [("command", .array [.string "sh", .string "-c\t\"sleep\""])]),
    ("traits", .object [("probes", .array [.object [
      ("periodSeconds", .int 30),
      ("tcpSocket", .object [("host", .string ""), ("port", .int (-1))])]])])]]),
  ("unknown \x01", .array [.number (.double true ⟨3, -1⟩), .null])]

theorem readTraits_compact_nested :
    ((∃ items, nestedPayload = .array items) ∨ ∃ fields, nestedPayload = .object fields) ∧
      nestedPayload.depth < 128 ∧
      ∃ t, { name := "web", traits := some nestedPayload : Component }.readTraits = .ok (some t) ∧
        { name := "web", traits := some (.string nestedPayload.compact) : Component }.readTraits =
          .ok (some t) ∧
        t.init.map (·.properties.command) = [["sh", "-c\t\"sleep\""]] := by
  have hshape : (∃ items, nestedPayload = .array items) ∨
      ∃ fields, nestedPayload = .object fields := .inr ⟨_, rfl⟩
  have hdepth : nestedPayload.depth < 128 := by decide
  have hread : ∃ t, { name := "web", traits := some nestedPayload : Component }.readTraits =
      .ok (some t) ∧ t.init.map (·.properties.command) = [["sh", "-c\t\"sleep\""]] := ⟨_, rfl, rfl⟩
  obtain ⟨t, hvalue, hcommand⟩ := hread
  obtain ⟨t?, hvalue', htext⟩ | ⟨refusal, _, hrefused, -⟩ :=
    readTraits_compact { name := "web" } hshape hdepth
  · obtain rfl : some t = t? := Except.ok.inj (hvalue.symm.trans hvalue')
    exact ⟨hshape, hdepth, t, hvalue, htext, hcommand⟩
  · exact absurd (hvalue.symm.trans hrefused) nofun

end Component

end WorkloadTraits
