import HearingSync.Proofs.Json.Reading
import HearingSync.Proofs.Time.Digits
import HearingSync.Vocabulary.Word
/-!
Writing and reading again. A type of documents rereads if whatever was read of it, in any of the
forms that its reader takes, is read again from the one form that it is written in. Main statements:
the plain types reread, lists of what rereads reread, and so does a record that writes a member for
each of its fields.
-/

namespace HearingSync

variable {α β : Type}

namespace Json

/-- What was read is read again from what it is written as. -/
structure Rereads (decode : Decoder α) (encode : α → Json) : Prop where
  again : ∀ {j : Json} {a : α}, decode j = .ok a → decode (encode a) = .ok a
  whole : ∀ {j : Json} {a : α}, decode j = .ok a → ∀ f, encode a ≠ .fault f

namespace Rereads

variable {decode : Decoder α} {encode : α → Json}

theorem string : Rereads decodeString Json.string := ⟨fun _ => rfl, fun _ => nofun⟩

theorem eq_string_of_decode {j : Json} {s : String} (h : decodeString j = .ok s) :
    j = .string s := by
  cases j <;> cases h
  rfl

section Verbatim

variable {word : α → String} {ofWord : String → α}

/-- A type that keeps every text word for word gives back the text that it was read from. -/
theorem eq_string_of_verbatim (hword : ∀ s, word (ofWord s) = s) {j : Json} {a : α}
    (h : (decodeString j).map ofWord = .ok a) : j = .string (word a) := by
  obtain ⟨s, hs, rfl⟩ := exists_of_map_eq_ok h
  rw [hword]
  exact eq_string_of_decode hs

theorem verbatim (hword : ∀ s, word (ofWord s) = s) :
    Rereads (fun j => (decodeString j).map ofWord) fun a => .string (word a) where
  again h := by
    have hj := eq_string_of_verbatim hword h
    rwa [hj] at h
  whole _ := nofun

end Verbatim

theorem identifier {k : IdentifierKind} :
    Rereads (decodeIdentifier k) fun a => .string a.text where
  again {_ a} _ := by
    simp only [decodeIdentifier, Identifier.ofText?_text]
  whole _ := nofun

theorem digitsValue?_toString (n : Nat) : digitsValue? (toString n) = some n := by
  have hlist : (toString n).toList = Nat.toDigits 10 n := String.toList_ofList
  have hdigits : ∀ c ∈ Nat.toDigits 10 n, c.isDigit = true := fun c =>
    Nat.isDigit_of_mem_toDigits (by decide) (by decide)
  have hsome : Nat.toDigits 10 n ≠ [] := List.length_pos_iff.mp Nat.length_toDigits_pos
  have hvalue : Timestamp.digitsValue (Nat.toDigits 10 n) = n := by
    rw [Timestamp.digitsValue_eq, Nat.ofDigitChars_ten_toDigits]
  unfold digitsValue?
  rw [hlist]
  refine (if_neg ?_).trans (congrArg some hvalue)
  simpa [hsome] using hdigits

theorem nat64 : Rereads decodeNat64 Json.ofNat where
  again {j n} h := by
    have hlt : n < 18446744073709551616 := by
      unfold decodeNat64 at h
      split at h
      · split at h
        · split at h
          · cases h
            assumption
          · cases h
        · cases h
      · cases h
    unfold ofNat decodeNat64
    simp only [digitsValue?_toString]
    exact if_pos hlt
  whole _ := nofun

theorem decodeItems_map (h : Rereads decode encode) {js : List Json} {as : List α}
    (hread : decodeItems decode js = .ok as) : decodeItems decode (as.map encode) = .ok as := by
  induction js generalizing as with
  | nil =>
    cases hread
    rfl
  | cons j js ih =>
    obtain ⟨a, ha, hread⟩ := exists_of_bind_eq_ok hread
    obtain ⟨rest, hrest, hread⟩ := exists_of_bind_eq_ok hread
    cases hread
    rw [List.map_cons, decodeItems, h.again ha, ih hrest]
    rfl

theorem list (h : Rereads decode encode) : Rereads (decodeList decode) (ofList encode) where
  again {j _} hread := by
    cases j with
    | array items => exact h.decodeItems_map hread
    | _ => cases hread
  whole _ := nofun

theorem option_cases {j : Json} {a : Option α} (h : decodeOption decode j = .ok a) :
    (j = .null ∧ a = none) ∨ ∃ b, decode j = .ok b ∧ a = some b := by
  unfold decodeOption at h
  split at h
  · cases h
    exact .inl ⟨rfl, rfl⟩
  · obtain ⟨b, hb, rfl⟩ := exists_of_map_eq_ok h
    exact .inr ⟨b, hb, rfl⟩

/-- Nothing else is written as null. -/
theorem option (h : Rereads decode encode) (hnull : decode .null = .error .malformed) :
    Rereads (decodeOption decode) (ofOption encode) where
  again {j a} hread := by
    rcases option_cases hread with ⟨-, rfl⟩ | ⟨b, hb, rfl⟩
    · rfl
    · have hencode : encode b ≠ .null := by
        intro hb'
        have hagain := h.again hb
        rw [hb', hnull] at hagain
        cases hagain
      change decodeOption decode (encode b) = .ok (some b)
      unfold decodeOption
      split
      · exact absurd ‹_› hencode
      · rw [h.again hb]
        rfl
  whole {j a} hread := by
    rcases option_cases hread with ⟨-, rfl⟩ | ⟨b, hb, rfl⟩
    · exact nofun
    · exact h.whole hb

theorem exists_of_decodeWord {ofWord? : String → Option α} {j : Json} {a : α}
    (h : decodeWord ofWord? j = .ok a) : ∃ s, ofWord? s = some a := by
  have hfound {s : String} (h : (ofWord? s).elim (.error .malformed) .ok =
      (.ok a : Except DecodeError α)) : ofWord? s = some a := by
    cases hs : ofWord? s with
    | none =>
      rw [hs] at h
      cases h
    | some b =>
      rw [hs] at h
      cases h
      rfl
  unfold decodeWord at h
  split at h
  · exact ⟨_, hfound h⟩
  · exact ⟨_, hfound h⟩
  · cases h

end Rereads

end Json

namespace Vocabulary

variable [Vocabulary α]

theorem word_of_ofWord? {s : String} {a : α} (h : ofWord? s = some a) : word a = s :=
  beq_iff_eq.mp (List.find?_some (p := fun b => word b == s) h)

theorem rereads : Json.Rereads (decode : Decoder α) encode where
  again h := by
    obtain ⟨s, hs⟩ := Json.Rereads.exists_of_decodeWord h
    change (ofWord? (word _)).elim _ _ = _
    rw [word_of_ofWord? hs, hs]
    rfl
  whole _ := nofun

/-- The member that stands for all other words has to have a word of its own. -/
theorem rereads_or {other : α} (hother : ofWord? (word other) = some other) :
    Json.Rereads (decodeOr other) encode where
  again {_ a} h := by
    obtain ⟨s, hs⟩ := Json.Rereads.exists_of_decodeWord h
    have hword : (ofWord? (word a)).getD other = a := by
      cases hfound : (ofWord? s : Option α) with
      | none =>
        have ha : other = a := by simpa [hfound] using hs
        rw [← ha, hother]
        rfl
      | some b =>
        have hb : b = a := by simpa [hfound] using hs
        rw [← hb, word_of_ofWord? hfound, hfound]
        rfl
    change Except.ok ((ofWord? (word a)).getD other) = .ok a
    rw [hword]
  whole _ := nofun

end Vocabulary

namespace Record

variable {r : Record α} {a : α} {members : List (String × Json)}

/-- Members that are the whole of a value: there is one for each field, each passes the check of its
field, and the value is built from them wherever else they stand. -/
structure WrittenAs (r : Record α) (a : α) (members : List (String × Json)) : Prop where
  names : members.map (·.1) = r.fields.map (·.1)
  checks : ∀ m ∈ members, ∃ check, (m.1, check) ∈ r.fields ∧ check m.2 = .ok ()
  whole : ∀ m ∈ members, ∀ f, m.2 ≠ .fault f
  built : ∀ look, (∀ m ∈ members, look m.1 = some m.2) → r.build look = .ok a

/-- What the members of a value are read as. -/
theorem WrittenAs.decode_eq (h : r.WrittenAs a members) (hr : (r.fields.map (·.1)).Nodup) :
    r.decode (.object members) = .ok a := by
  have hnodup : (members.map (·.1)).Nodup := h.names ▸ hr
  have hreads : r.Reads (lookup members) a := by
    refine ⟨fun f hf j hj => ?_, h.built _ fun m hm => find?_of_nodup hnodup hm⟩
    obtain ⟨check, hcheck, hpass⟩ := h.checks (f.1, j) (mem_of_find? hj)
    have hfound := find?_of_nodup hr hcheck
    have hsame : check = f.2 := Option.some.inj (hfound.symm.trans (find?_of_nodup hr hf))
    exact hsame ▸ hpass
  refine hreads.decode_eq (.of_nodup (fun m hm => h.whole m hm _) hnodup) fun m hm hname => ?_
  exact absurd (h.names ▸ List.mem_map_of_mem hm) hname

structure Yields (r : Record α) (written : α → List (String × Json) → Prop) : Prop where
  members : ∀ {look a}, r.build look = .ok a →
    ∃ members, r.WrittenAs a members ∧ written a members

structure FieldRereads (x : Record α) (name : String) (encode : α → Json) : Prop where
  writtenAs : ∀ {look a}, x.build look = .ok a → x.WrittenAs a [(name, encode a)]

theorem Yields.const {written : α → List (String × Json) → Prop} (h : written a []) :
    (const a).Yields written where
  members hb := by
    cases hb
    exact ⟨[], ⟨rfl, by simp, by simp, fun _ _ => rfl⟩, h⟩

theorem WrittenAs.app {f : Record (α → β)} {g : α → β} (hf : f.WrittenAs g members) {x : Record α}
    {name : String} {j : Json} (hx : x.WrittenAs a [(name, j)]) :
    (f.app x).WrittenAs (g a) (members ++ [(name, j)]) where
  names := by
    rw [List.map_append, hf.names, hx.names]
    exact List.map_append.symm
  checks m hm := by
    rcases List.mem_append.mp hm with hm | hm
    · obtain ⟨check, hcheck, hpass⟩ := hf.checks m hm
      exact ⟨check, List.mem_append_left _ hcheck, hpass⟩
    · obtain ⟨check, hcheck, hpass⟩ := hx.checks m hm
      exact ⟨check, List.mem_append_right _ hcheck, hpass⟩
  whole m hm := by
    rcases List.mem_append.mp hm with hm | hm
    · exact hf.whole m hm
    · exact hx.whole m hm
  built look hlook := by
    have hg := hf.built look fun m hm => hlook m (List.mem_append_left _ hm)
    have ha := hx.built look fun m hm => hlook m (List.mem_append_right _ hm)
    change (f.build look >>= fun g => x.build look >>= fun a => pure (g a)) = _
    rw [hg, ha]
    rfl

theorem Yields.app {f : Record (α → β)} {x : Record α} {name : String} {encode : α → Json}
    {written : β → List (String × Json) → Prop} (hx : x.FieldRereads name encode)
    (hf : f.Yields fun g members => ∀ a, written (g a) (members ++ [(name, encode a)])) :
    (f.app x).Yields written where
  members hb := by
    obtain ⟨g, a, hg, ha, rfl⟩ := exists_of_app_build hb
    obtain ⟨members, hmembers, hwritten⟩ := hf.members hg
    exact ⟨members ++ [(name, encode a)], hmembers.app (hx.writtenAs ha), hwritten a⟩

section Fields

variable {decode : Decoder α} {encode : α → Json} {name : String}

theorem writtenAs_field {x : Record α} {j : Json} (hfields : x.fields = [(name, Json.check decode)])
    (hbuild : ∀ look, look name = some j → x.build look = decode j) (hread : decode j = .ok a)
    (hwhole : ∀ f, j ≠ .fault f) : x.WrittenAs a [(name, j)] where
  names := by
    rw [hfields]
    rfl
  checks m hm := by
    rw [List.mem_singleton.mp hm, hfields]
    refine ⟨Json.check decode, List.mem_singleton_self _, ?_⟩
    change (decode j).map (fun _ => ()) = _
    rw [hread]
    rfl
  whole m hm := by
    rw [List.mem_singleton.mp hm]
    exact hwhole
  built look hlook := (hbuild look (hlook _ (List.mem_singleton_self _))).trans hread

theorem required_build_congr {look look' : String → Option Json} (h : look' name = look name) :
    (required name decode).build look' = (required name decode).build look := by
  dsimp only [required]
  rw [h]

theorem defaulted_build_congr {look look' : String → Option Json} {default : α}
    (h : look' name = look name) :
    (defaulted name decode default).build look' = (defaulted name decode default).build look := by
  dsimp only [defaulted]
  rw [h]

theorem FieldRereads.required (h : Json.Rereads decode encode) :
    (required name decode).FieldRereads name encode where
  writtenAs {_ a} hbuild := by
    obtain ⟨j, -, hread⟩ := exists_of_required hbuild
    refine writtenAs_field rfl (fun look hlook => ?_) (h.again hread) (h.whole hread)
    dsimp only [Record.required]
    rw [hlook]

/-- The value for documents without the field has to be one that the field can have. -/
theorem FieldRereads.defaulted {default : α} (h : Json.Rereads decode encode) {j : Json}
    (hdefault : decode j = .ok default) :
    (defaulted name decode default).FieldRereads name encode where
  writtenAs {_ a} hbuild := by
    obtain ⟨j, hread⟩ : ∃ j, decode j = .ok a := by
      rcases cases_of_defaulted hbuild with ⟨j, -, hread⟩ | ⟨-, rfl⟩
      · exact ⟨j, hread⟩
      · exact ⟨j, hdefault⟩
    refine writtenAs_field rfl (fun look hlook => ?_) (h.again hread) (h.whole hread)
    dsimp only [Record.defaulted]
    rw [hlook]

theorem FieldRereads.optional (h : Json.Rereads decode encode)
    (hnull : decode .null = .error .malformed) :
    (optional name decode).FieldRereads name (Json.ofOption encode) :=
  .defaulted (h.option hnull) (j := .null) rfl

theorem FieldRereads.nullable (h : Json.Rereads decode encode)
    (hnull : decode .null = .error .malformed) :
    (nullable name decode).FieldRereads name (Json.ofOption encode) where
  writtenAs hbuild :=
    have hoptional := (optional h hnull).writtenAs hbuild
    ⟨hoptional.names, hoptional.checks, hoptional.whole, hoptional.built⟩

end Fields

def valueIn (r : Record α) : Json → String → Option Json
  | .object members => lookup members
  | .array items => lookup ((r.fields.map (·.1)).zip items)
  | _ => fun _ => none

theorem build_of_decode {j : Json} (h : r.decode j = .ok a) : r.build (r.valueIn j) = .ok a := by
  cases j with
  | object members =>
    obtain ⟨-, -, h⟩ := exists_of_bind_eq_ok h
    exact h
  | array items =>
    obtain ⟨-, -, h⟩ := exists_of_bind_eq_ok h
    exact h
  | _ => cases h

section Members

variable {encode : α → Json}

/-- What is built from any look-up is read from what it is written as. -/
theorem Yields.decode_encode (h : r.Yields fun a members => encode a = .object members)
    (hr : (r.fields.map (·.1)).Nodup) {look : String → Option Json} (ha : r.build look = .ok a) :
    r.decode (encode a) = .ok a := by
  obtain ⟨members, hmembers, hencode⟩ := h.members ha
  rw [hencode]
  exact hmembers.decode_eq hr

/-- A record rereads if it writes a member for each of its fields. -/
theorem rereads (hr : (r.fields.map (·.1)).Nodup)
    (h : r.Yields fun a members => encode a = .object members) :
    Json.Rereads r.decode encode where
  again hread := h.decode_encode hr (build_of_decode hread)
  whole hread f := by
    obtain ⟨members, -, hencode⟩ := h.members (build_of_decode hread)
    rw [hencode]
    exact nofun

end Members

end Record

end HearingSync
