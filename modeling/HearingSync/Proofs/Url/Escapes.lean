import HearingSync.Url.Parse
import Mathlib.Data.List.Basic
/-!
Percent-encoding, read back. Main statements: escaping does not change what a text stands for, and a
text stands for itself exactly when it holds no escape; otherwise it stands for fewer bytes than its
own.
-/

namespace HearingSync.Url

def utf8 (cs : List Char) : List UInt8 := cs.flatMap String.utf8EncodeChar

def hexPair? : List Char → Option UInt8
  | high :: low :: _ =>
    match Text.digitValue? high.toNat, Text.digitValue? low.toNat with
    | some h, some l => some (UInt8.ofNat (16 * h + l))
    | _, _ => none
  | _ => none

/-- The bytes that a text with escapes stands for. -/
def meaning : List Char → List UInt8
  | [] => []
  | c :: rest =>
    if c = '%' then
      match hexPair? rest with
      | some byte => byte :: meaning (rest.drop 2)
      | none => 0x25 :: meaning rest
    else String.utf8EncodeChar c ++ meaning rest
termination_by cs => cs.length
decreasing_by all_goals simp only [List.length_cons, List.length_drop]; omega

def HoldsEscape (cs : List Char) : Prop :=
  ∃ before high low after, cs = before ++ '%' :: high :: low :: after ∧
    Text.isHex high = true ∧ Text.isHex low = true

variable {c d : Char} {cs ds rest : List Char} {b : UInt8} {bytes : List UInt8}

section Bytes

theorem utf8_cons (c : Char) (cs : List Char) :
    utf8 (c :: cs) = String.utf8EncodeChar c ++ utf8 cs :=
  List.flatMap_cons

theorem utf8_percent (cs : List Char) : utf8 ('%' :: cs) = 0x25 :: utf8 cs := by
  rw [utf8_cons]
  rfl

theorem utf8EncodeChar_of_lt (h : c.toNat < 0x80) :
    String.utf8EncodeChar c = [UInt8.ofNat c.toNat] := by
  unfold String.utf8EncodeChar
  exact if_pos (Nat.le_of_lt_succ h)

theorem le_of_mem_utf8EncodeChar (hc : 0x80 ≤ c.toNat) (h : b ∈ String.utf8EncodeChar c) :
    0x80 ≤ b.toNat := by
  have hv : ¬c.val.toNat ≤ 127 := by
    have : c.toNat = c.val.toNat := rfl
    omega
  unfold String.utf8EncodeChar at h
  simp only [if_neg hv] at h
  split at h
  · rcases List.mem_pair.mp h with rfl | rfl <;> simp <;> omega
  split at h
  · simp only [List.mem_cons, List.not_mem_nil, or_false] at h
    rcases h with rfl | rfl | rfl <;> simp <;> omega
  · simp only [List.mem_cons, List.not_mem_nil, or_false] at h
    rcases h with rfl | rfl | rfl | rfl <;> simp <;> omega

theorem utf8EncodeChar_ne_nil (c : Char) : String.utf8EncodeChar c ≠ [] := by
  unfold String.utf8EncodeChar
  simp only
  split
  · simp
  · split
    · simp
    · split <;> simp

theorem utf8_inj : utf8 cs = utf8 ds ↔ cs = ds := by
  refine ⟨fun h => ?_, fun h => congrArg utf8 h⟩
  have hbytes : (String.ofList cs).toByteArray = (String.ofList ds).toByteArray := by
    rw [String.toByteArray_ofList, String.toByteArray_ofList]
    exact congrArg List.toByteArray h
  have hof := congrArg String.toList (String.toByteArray_inj.mp hbytes)
  simpa using hof

theorem digitValue?_of_le {n : Nat} (h : 0x80 ≤ n) : Text.digitValue? n = none := by
  unfold Text.digitValue?
  rw [if_neg (by omega), if_neg (by omega), if_neg (by omega)]

theorem lt_of_digitValue? {n v : Nat} (h : Text.digitValue? n = some v) : n < 0x80 := by
  by_contra hn
  rw [digitValue?_of_le (by omega)] at h
  cases h

/-- The first byte of a character is a digit where the character is one. -/
theorem exists_head_utf8EncodeChar (c : Char) : ∃ b bytes, String.utf8EncodeChar c = b :: bytes ∧
    Text.digitValue? b.toNat = Text.digitValue? c.toNat := by
  by_cases hc : c.toNat < 0x80
  · refine ⟨_, [], utf8EncodeChar_of_lt hc, ?_⟩
    rw [UInt8.toNat_ofNat', Nat.mod_eq_of_lt (by omega)]
  · obtain ⟨b, bytes, hb⟩ := List.exists_cons_of_ne_nil (utf8EncodeChar_ne_nil c)
    refine ⟨b, bytes, hb, ?_⟩
    have hle : 0x80 ≤ b.toNat := by
      apply le_of_mem_utf8EncodeChar (c := c) (by omega)
      rw [hb]
      exact List.mem_cons_self
    rw [digitValue?_of_le hle, digitValue?_of_le (by omega)]

end Bytes

section Unescape

theorem escapedByte?_of_ne (h : b ≠ 0x25) : escapedByte? (b :: bytes) = none := by
  unfold escapedByte?
  split
  · rename_i heq
    cases heq
    exact absurd rfl h
  · rfl

theorem unescape_append (h : ∀ b ∈ bytes, b ≠ 0x25) (more : List UInt8) :
    unescape 0 (bytes ++ more) = bytes ++ unescape 0 more := by
  induction bytes with
  | nil => rfl
  | cons b bytes ih =>
    rw [List.cons_append, unescape, escapedByte?_of_ne (h b List.mem_cons_self)]
    rw [ih fun x hx => h x (List.mem_cons_of_mem b hx)]
    rfl

theorem ne_percent_of_mem (hc : c ≠ '%') (h : b ∈ String.utf8EncodeChar c) : b ≠ 0x25 := by
  rintro rfl
  by_cases hlt : c.toNat < 0x80
  · rw [utf8EncodeChar_of_lt hlt, List.mem_singleton] at h
    have hnat := congrArg UInt8.toNat h
    rw [UInt8.toNat_ofNat', Nat.mod_eq_of_lt (by omega)] at hnat
    exact hc (Char.toNat_inj.mp hnat.symm)
  · exact absurd (le_of_mem_utf8EncodeChar (by omega) h) (by decide)

/-- Whether the bytes of a text go on with an escape can be seen from its characters. -/
theorem escapedByte?_utf8 (cs : List Char) : escapedByte? (0x25 :: utf8 cs) = hexPair? cs := by
  match cs with
  | [] => rfl
  | [c] =>
    obtain ⟨b, bytes, hb, hdigit⟩ := exists_head_utf8EncodeChar c
    rw [utf8_cons, hb]
    match bytes, hb with
    | [], _ => rfl
    | low :: more, hb =>
      have hc : Text.digitValue? c.toNat = none := by
        by_contra hne
        obtain ⟨v, hv⟩ := Option.ne_none_iff_exists'.mp hne
        rw [utf8EncodeChar_of_lt (lt_of_digitValue? hv)] at hb
        cases hb
      simp [escapedByte?, hexPair?, hdigit, hc]
  | high :: low :: rest =>
    obtain ⟨b, bytes, hb, hhigh⟩ := exists_head_utf8EncodeChar high
    cases hv : Text.digitValue? high.toNat with
    | none =>
      rw [utf8_cons, hb]
      have hpair : hexPair? (high :: low :: rest) = none := by simp [hexPair?, hv]
      rw [hpair]
      cases hm : bytes ++ utf8 (low :: rest) with
      | nil => rw [List.cons_append, hm]; rfl
      | cons x more => simp [List.cons_append, hm, escapedByte?, hhigh, hv]
    | some v =>
      obtain ⟨b', bytes', hb', hlow⟩ := exists_head_utf8EncodeChar low
      have hone := utf8EncodeChar_of_lt (lt_of_digitValue? hv)
      obtain rfl : bytes = [] := by
        rw [hone] at hb
        exact (List.cons.inj hb).2.symm
      rw [utf8_cons, hb, utf8_cons, hb']
      cases hw : Text.digitValue? low.toNat <;>
        simp [escapedByte?, hexPair?, hhigh, hlow, hv, hw]

/-- A byte is read off two digits. -/
theorem exists_digits_of_hexPair? (h : hexPair? cs = some b) : ∃ high low rest v w,
    cs = high :: low :: rest ∧ Text.digitValue? high.toNat = some v ∧
      Text.digitValue? low.toNat = some w := by
  match cs with
  | [] => cases h
  | [c] => cases h
  | high :: low :: rest =>
    cases hh : Text.digitValue? high.toNat with
    | none => simp [hexPair?, hh] at h
    | some v =>
      cases hl : Text.digitValue? low.toNat with
      | none => simp [hexPair?, hl] at h
      | some w => exact ⟨high, low, rest, v, w, rfl, hh, hl⟩

theorem utf8_drop_of_hexPair? (h : hexPair? cs = some b) :
    ∃ high low, utf8 cs = high :: low :: utf8 (cs.drop 2) := by
  obtain ⟨high, low, rest, v, w, rfl, hh, hl⟩ := exists_digits_of_hexPair? h
  rw [utf8_cons, utf8EncodeChar_of_lt (lt_of_digitValue? hh), utf8_cons,
    utf8EncodeChar_of_lt (lt_of_digitValue? hl)]
  exact ⟨_, _, rfl⟩

theorem unescape_utf8 (cs : List Char) : unescape 0 (utf8 cs) = meaning cs := by
  fun_induction meaning cs with
  | case1 => rfl
  | case2 rest byte hpair ih =>
    obtain ⟨high, low, hutf8⟩ := utf8_drop_of_hexPair? hpair
    rw [utf8_percent, unescape, escapedByte?_utf8, hpair, hutf8, ← ih]
    rfl
  | case3 rest hpair ih =>
    rw [utf8_percent, unescape, escapedByte?_utf8, hpair, ← ih]
  | case4 c rest hc ih =>
    rw [utf8_cons, unescape_append fun b hb => ne_percent_of_mem hc hb, ih]

theorem toList_loop (bytes : ByteArray) (i : Nat) (acc : List UInt8) :
    ByteArray.toList.loop bytes i acc = acc.reverse ++ bytes.data.toList.drop i := by
  fun_induction ByteArray.toList.loop bytes i acc with
  | case1 i acc h ih =>
    have hi : i < bytes.data.toList.length := by simpa using h
    rw [ih, List.drop_eq_getElem_cons hi]
    simp [ByteArray.get!, h]
  | case2 i acc h =>
    rw [List.drop_eq_nil_of_le (by simpa using Nat.le_of_not_lt h), List.append_nil]

theorem toUTF8_toList (cs : List Char) : (String.ofList cs).toUTF8.toList = utf8 cs := by
  rw [String.toUTF8, String.toByteArray_ofList, ByteArray.toList, toList_loop, List.utf8Encode,
    List.data_toByteArray]
  rfl

/-- Which text a text with escapes stands for. -/
theorem unescaped?_eq_some_iff {t : String} :
    unescaped? (String.ofList cs) = some t ↔ meaning cs = utf8 t.toList := by
  have ht : t.toByteArray = ⟨(utf8 t.toList).toArray⟩ := by
    conv_lhs => rw [← String.ofList_toList (s := t), String.toByteArray_ofList]
    exact ByteArray.ext List.data_toByteArray
  rw [unescaped?, toUTF8_toList, unescape_utf8, String.fromUTF8?]
  constructor
  · intro h
    split at h
    · have harray := congrArg String.toByteArray (Option.some.inj h)
      rw [ht] at harray
      simpa [String.fromUTF8] using harray
    · cases h
  · intro h
    rw [h, ← ht, dif_pos t.isValidUTF8]
    rfl

end Unescape

section Sets

def SparesEscapes (escaped : Char → Bool) : Prop :=
  ∀ c, escaped c = true → c ≠ '%' ∧ Text.digitValue? c.toNat = none

variable {escaped : Char → Bool}

theorem range_of_digitValue? {v : Nat} (h : Text.digitValue? c.toNat = some v) :
    0x30 ≤ c.toNat ∧ c.toNat ≤ 0x39 ∨ 0x41 ≤ c.toNat ∧ c.toNat ≤ 0x46 ∨
      0x61 ≤ c.toNat ∧ c.toNat ≤ 0x66 := by
  unfold Text.digitValue? at h
  split at h
  · omega
  split at h
  · omega
  split at h
  · omega
  · cases h

theorem sparesEscapes_path : SparesEscapes escapedInPath := by
  have hset {c : Char} (hc : escapedInPath c = true) : (c.toNat < 0x20 ∨ 0x7F ≤ c.toNat) ∨
      c ∈ [' ', '"', '<', '>', '\x60', '#', '?', '\x7b', '\x7d'] := by
    simp only [escapedInPath, escapedInFragment, isControlOrWide, Bool.or_eq_true,
      decide_eq_true_eq, List.contains_eq_mem] at hc
    simp only [List.mem_cons, List.not_mem_nil, or_false] at hc ⊢
    tauto
  intro c hc
  rcases hset hc with hwide | hlist
  · refine ⟨?_, ?_⟩
    · rintro rfl
      revert hwide
      decide
    · cases hv : Text.digitValue? c.toNat with
      | none => rfl
      | some v =>
        have := range_of_digitValue? hv
        omega
  · simp only [List.mem_cons, List.not_mem_nil, or_false] at hlist
    rcases hlist with rfl | rfl | rfl | rfl | rfl | rfl | rfl | rfl | rfl <;> decide

theorem hexDigit_spec {n : Nat} (h : n < 16) :
    Text.digitValue? (hexDigit n).toNat = some n := by
  revert n
  decide

theorem isHex_of_mem_escapeByte (h : c ∈ escapeByte b) :
    c = '%' ∨ ∃ v, Text.digitValue? c.toNat = some v := by
  have hb := b.toNat_lt
  simp only [escapeByte, List.mem_cons, List.not_mem_nil, or_false] at h
  rcases h with rfl | rfl | rfl
  · exact .inl rfl
  · exact .inr ⟨_, hexDigit_spec (by omega)⟩
  · exact .inr ⟨_, hexDigit_spec (by omega)⟩

theorem escape_cons_of_pos (h : escaped c = true) : escape escaped (c :: cs) =
    (String.utf8EncodeChar c).flatMap escapeByte ++ escape escaped cs := by
  simp [escape, h]

theorem escape_cons_of_neg (h : escaped c = false) :
    escape escaped (c :: cs) = c :: escape escaped cs := by
  simp [escape, h]

theorem mem_escape (h : c ∈ escape escaped cs) : escaped c = false ∧ c ∈ cs ∨ c = '%' ∨
    ∃ v, Text.digitValue? c.toNat = some v := by
  obtain ⟨d, hd, hc⟩ := List.mem_flatMap.mp h
  by_cases hs : escaped d = true
  · rw [if_pos hs] at hc
    obtain ⟨b, -, hb⟩ := List.mem_flatMap.mp hc
    exact .inr (isHex_of_mem_escapeByte hb)
  · rw [if_neg hs, List.mem_singleton] at hc
    subst hc
    exact .inl ⟨by simpa using hs, hd⟩

theorem escape_of_forall (h : ∀ c ∈ cs, escaped c = false) : escape escaped cs = cs := by
  induction cs with
  | nil => rfl
  | cons c cs ih =>
    rw [escape_cons_of_neg (h c List.mem_cons_self), ih fun d hd => h d (List.mem_cons_of_mem c hd)]

theorem not_escaped_of_mem_escape (hs : SparesEscapes escaped) (h : c ∈ escape escaped cs) :
    escaped c = false := by
  by_contra hc
  obtain ⟨hpercent, hdigit⟩ := hs c (by simpa using hc)
  rcases mem_escape h with ⟨hno, -⟩ | rfl | ⟨v, hv⟩
  · exact hc hno
  · exact hpercent rfl
  · rw [hdigit] at hv
    cases hv

theorem meaning_nil : meaning [] = [] := by rw [meaning]

theorem meaning_percent (cs : List Char) : meaning ('%' :: cs) =
    match hexPair? cs with
    | some byte => byte :: meaning (cs.drop 2)
    | none => 0x25 :: meaning cs := by
  rw [meaning, if_pos rfl]

theorem meaning_cons (h : c ≠ '%') : meaning (c :: cs) = String.utf8EncodeChar c ++ meaning cs := by
  rw [meaning, if_neg h]

theorem meaning_escapeByte (b : UInt8) (cs : List Char) :
    meaning (escapeByte b ++ cs) = b :: meaning cs := by
  have hb := b.toNat_lt
  have hpair : hexPair? (hexDigit (b.toNat / 16) :: hexDigit (b.toNat % 16) :: cs) = some b := by
    rw [hexPair?, hexDigit_spec (by omega), hexDigit_spec (by omega)]
    simp [Nat.div_add_mod]
  rw [escapeByte, List.cons_append, meaning_percent, List.cons_append, List.cons_append,
    List.nil_append, hpair]
  rfl

theorem meaning_flatMap_escapeByte (bytes : List UInt8) (cs : List Char) :
    meaning (bytes.flatMap escapeByte ++ cs) = bytes ++ meaning cs := by
  induction bytes with
  | nil => rfl
  | cons b bytes ih =>
    rw [List.flatMap_cons, List.append_assoc, meaning_escapeByte, ih]
    rfl

theorem hexPair?_of_not_digit (h : Text.digitValue? c.toNat = none) :
    hexPair? (c :: cs) = none := by
  cases cs with
  | nil => rfl
  | cons d cs => simp [hexPair?, h]

theorem hexPair?_of_not_digit_second (h : Text.digitValue? d.toNat = none) :
    hexPair? (c :: d :: cs) = none := by
  rw [hexPair?, h]
  cases Text.digitValue? c.toNat <;> rfl

/-- Escaping makes no two digits out of what is not two digits. -/
theorem hexPair?_escape (hs : SparesEscapes escaped) (cs : List Char) :
    hexPair? (escape escaped cs) = hexPair? cs := by
  have hpercent (ds : List Char) : hexPair? ('%' :: ds) = none := hexPair?_of_not_digit rfl
  have hfirst {c : Char} (hc : escaped c = true) (ds : List Char) :
      ∃ more, escape escaped (c :: ds) = '%' :: more := by
    obtain ⟨b, bytes, hb⟩ := List.exists_cons_of_ne_nil (utf8EncodeChar_ne_nil c)
    rw [escape_cons_of_pos hc, hb]
    exact ⟨_, rfl⟩
  match cs with
  | [] => rfl
  | c :: ds =>
    by_cases hc : escaped c = true
    · obtain ⟨more, hmore⟩ := hfirst hc ds
      rw [hmore, hpercent, hexPair?_of_not_digit (hs c hc).2]
    have hc : escaped c = false := by simpa using hc
    rw [escape_cons_of_neg hc]
    match ds with
    | [] => rfl
    | d :: es =>
      by_cases hd : escaped d = true
      · obtain ⟨more, hmore⟩ := hfirst hd es
        rw [hmore, hexPair?_of_not_digit_second rfl, hexPair?_of_not_digit_second (hs d hd).2]
      · rw [escape_cons_of_neg (by simpa using hd)]
        rfl

theorem escape_drop_of_hexPair? (hs : SparesEscapes escaped) (h : hexPair? cs = some b) :
    (escape escaped cs).drop 2 = escape escaped (cs.drop 2) := by
  have hno {c : Char} {v : Nat} (hv : Text.digitValue? c.toNat = some v) : escaped c = false := by
    by_contra hc
    rw [(hs c (by simpa using hc)).2] at hv
    cases hv
  obtain ⟨high, low, rest, v, w, rfl, hh, hl⟩ := exists_digits_of_hexPair? h
  rw [escape_cons_of_neg (hno hh), escape_cons_of_neg (hno hl)]
  rfl

/-- Escaping does not change what a text stands for. -/
theorem meaning_escape (hs : SparesEscapes escaped) (cs : List Char) :
    meaning (escape escaped cs) = meaning cs := by
  have hpercent : escaped '%' = false := by
    by_contra h
    exact (hs '%' (by simpa using h)).1 rfl
  fun_induction meaning cs with
  | case1 => rw [escape, List.flatMap_nil, meaning_nil]
  | case2 rest byte hpair ih =>
    rw [escape_cons_of_neg hpercent, meaning_percent, hexPair?_escape hs, hpair,
      escape_drop_of_hexPair? hs hpair]
    exact congrArg (byte :: ·) ih
  | case3 rest hpair ih =>
    rw [escape_cons_of_neg hpercent, meaning_percent, hexPair?_escape hs, hpair]
    exact congrArg (0x25 :: ·) ih
  | case4 c rest hc ih =>
    by_cases hesc : escaped c = true
    · rw [escape_cons_of_pos hesc, meaning_flatMap_escapeByte, ih]
    · rw [escape_cons_of_neg (by simpa using hesc), meaning_cons hc, ih]

end Sets

section Lengths

theorem HoldsEscape.cons (h : HoldsEscape cs) (c : Char) : HoldsEscape (c :: cs) := by
  obtain ⟨before, high, low, after, rfl, hh, hl⟩ := h
  exact ⟨c :: before, high, low, after, rfl, hh, hl⟩

theorem HoldsEscape.of_cons (h : HoldsEscape (c :: cs)) :
    (c = '%' ∧ ∃ b, hexPair? cs = some b) ∨ HoldsEscape cs := by
  obtain ⟨before, high, low, after, hcs, hh, hl⟩ := h
  cases before with
  | nil =>
    obtain ⟨rfl, rfl⟩ := List.cons.inj hcs
    obtain ⟨v, hv⟩ := Option.isSome_iff_exists.mp hh
    obtain ⟨w, hw⟩ := Option.isSome_iff_exists.mp hl
    exact .inl ⟨rfl, _, by rw [hexPair?, hv, hw]⟩
  | cons x before =>
    obtain ⟨-, rfl⟩ := List.cons.inj hcs
    exact .inr ⟨before, high, low, after, rfl, hh, hl⟩

theorem holdsEscape_of_hexPair? (h : hexPair? cs = some b) : HoldsEscape ('%' :: cs) := by
  obtain ⟨high, low, rest, v, w, rfl, hh, hl⟩ := exists_digits_of_hexPair? h
  refine ⟨[], high, low, rest, rfl, ?_, ?_⟩
  · rw [Text.isHex, hh]
    rfl
  · rw [Text.isHex, hl]
    rfl

theorem holdsEscape_cons_iff :
    HoldsEscape (c :: cs) ↔ (c = '%' ∧ (hexPair? cs).isSome = true) ∨ HoldsEscape cs := by
  constructor
  · intro h
    rcases h.of_cons with ⟨rfl, b, hb⟩ | h
    · exact .inl ⟨rfl, by rw [hb]; rfl⟩
    · exact .inr h
  · rintro (⟨rfl, hpair⟩ | h)
    · obtain ⟨b, hb⟩ := Option.isSome_iff_exists.mp hpair
      exact holdsEscape_of_hexPair? hb
    · exact h.cons c

theorem not_holdsEscape_nil : ¬HoldsEscape [] := by
  rintro ⟨before, high, low, after, hcs, -, -⟩
  simp at hcs

instance decidableHoldsEscape : (cs : List Char) → Decidable (HoldsEscape cs)
  | [] => isFalse not_holdsEscape_nil
  | _ :: cs =>
    have := decidableHoldsEscape cs
    decidable_of_iff _ holdsEscape_cons_iff.symm

/-- A text without escapes stands for itself. -/
theorem meaning_of_not_holdsEscape (h : ¬HoldsEscape cs) : meaning cs = utf8 cs := by
  fun_induction meaning cs with
  | case1 => rfl
  | case2 rest byte hpair _ => exact absurd (holdsEscape_of_hexPair? hpair) h
  | case3 rest hpair ih =>
    rw [ih fun hrest => h (hrest.cons '%'), utf8_percent]
  | case4 c rest hc ih => rw [ih fun hrest => h (hrest.cons c), utf8_cons]

theorem length_utf8_of_hexPair? (h : hexPair? cs = some b) :
    (utf8 ('%' :: cs)).length = (utf8 (cs.drop 2)).length + 3 := by
  obtain ⟨high, low, hutf8⟩ := utf8_drop_of_hexPair? h
  rw [utf8_percent, hutf8]
  rfl

theorem length_meaning_le (cs : List Char) : (meaning cs).length ≤ (utf8 cs).length := by
  fun_induction meaning cs with
  | case1 => exact Nat.le_refl 0
  | case2 rest byte hpair ih =>
    rw [length_utf8_of_hexPair? hpair, List.length_cons]
    omega
  | case3 rest hpair ih =>
    rw [utf8_percent, List.length_cons, List.length_cons]
    omega
  | case4 c rest hc ih =>
    rw [utf8_cons, List.length_append, List.length_append]
    omega

/-- An escape stands for fewer bytes than it takes. -/
theorem length_meaning_lt (h : HoldsEscape cs) : (meaning cs).length < (utf8 cs).length := by
  fun_induction meaning cs with
  | case1 => exact absurd h not_holdsEscape_nil
  | case2 rest byte hpair _ =>
    have hle := length_meaning_le (rest.drop 2)
    rw [length_utf8_of_hexPair? hpair, List.length_cons]
    omega
  | case3 rest hpair ih =>
    have hrest : HoldsEscape rest := by
      rcases h.of_cons with ⟨-, b, hb⟩ | hrest
      · rw [hpair] at hb
        cases hb
      · exact hrest
    have hlt := ih hrest
    rw [utf8_percent, List.length_cons, List.length_cons]
    omega
  | case4 c rest hc ih =>
    have hrest : HoldsEscape rest := by
      rcases h.of_cons with ⟨hpercent, -⟩ | hrest
      · exact absurd hpercent hc
      · exact hrest
    have hlt := ih hrest
    rw [utf8_cons, List.length_append, List.length_append]
    omega

theorem length_utf8_le_of_sublist (h : ds.Sublist cs) : (utf8 ds).length ≤ (utf8 cs).length := by
  induction h with
  | slnil => exact Nat.le_refl 0
  | cons c _ ih =>
    rw [utf8_cons, List.length_append]
    omega
  | cons_cons c _ ih =>
    rw [utf8_cons, utf8_cons, List.length_append, List.length_append]
    omega

theorem eq_of_sublist_of_length_utf8 (h : ds.Sublist cs)
    (hlength : (utf8 cs).length ≤ (utf8 ds).length) : ds = cs := by
  induction h with
  | slnil => rfl
  | cons c hsub _ =>
    have hle := length_utf8_le_of_sublist hsub
    have hpos := List.length_pos_of_ne_nil (utf8EncodeChar_ne_nil c)
    rw [utf8_cons, List.length_append] at hlength
    omega
  | cons_cons c _ ih =>
    rw [utf8_cons, utf8_cons, List.length_append, List.length_append] at hlength
    rw [ih (by omega)]

/-- A part of a text that stands for the text is all of it, and holds no escape. -/
theorem eq_of_meaning_eq (h : ds.Sublist cs) (hmeaning : meaning ds = utf8 cs) :
    ds = cs ∧ ¬HoldsEscape cs := by
  have hle := length_meaning_le ds
  rw [hmeaning] at hle
  obtain rfl := eq_of_sublist_of_length_utf8 h hle
  refine ⟨rfl, fun hescape => ?_⟩
  have hlt := length_meaning_lt hescape
  rw [hmeaning] at hlt
  omega

end Lengths

section Dots

open Parse (isDot isDoubleDot)

def IsStop (cs : List Char) : Prop :=
  cs.map Char.toLower = ['.'] ∨ cs.map Char.toLower = ['%', '2', 'e']

theorem toNat_toLower (c : Char) :
    c.toLower.toNat = if 0x41 ≤ c.toNat ∧ c.toNat ≤ 0x5A then c.toNat + 0x20 else c.toNat := by
  have hiff : c.val ≥ 'A'.val ∧ c.val ≤ 'Z'.val ↔ 0x41 ≤ c.toNat ∧ c.toNat ≤ 0x5A := Iff.rfl
  unfold Char.toLower
  by_cases h : c.val ≥ 'A'.val ∧ c.val ≤ 'Z'.val
  · obtain ⟨hlow, hhigh⟩ := hiff.mp h
    have hval : c.toNat = c.val.toNat := rfl
    rw [dif_pos h, if_pos ⟨hlow, hhigh⟩]
    change (c.val + ('a'.val - 'A'.val)).toNat = _
    rw [UInt32.toNat_add]
    have hstep : ('a'.val - 'A'.val).toNat = 0x20 := rfl
    omega
  · rw [dif_neg h, if_neg fun hn => h (hiff.mpr hn)]

theorem eq_of_toLower (h : c.toLower = d) (hd : ¬(0x61 ≤ d.toNat ∧ d.toNat ≤ 0x7A)) : c = d := by
  have hnat := toNat_toLower c
  rw [h] at hnat
  apply Char.toNat_inj.mp
  split at hnat <;> omega

theorem meaning_of_isStop (h : IsStop cs) (ds : List Char) :
    meaning (cs ++ ds) = 0x2E :: meaning ds := by
  rcases h with h | h
  · obtain ⟨c, rfl, hc⟩ := List.map_eq_singleton_iff.mp h
    obtain rfl := eq_of_toLower hc (by decide)
    exact meaning_cons (by decide)
  obtain ⟨percent, rest, rfl, hpercent, h⟩ := List.map_eq_cons_iff.mp h
  obtain ⟨two, rest, rfl, htwo, h⟩ := List.map_eq_cons_iff.mp h
  obtain ⟨e, rfl, he⟩ := List.map_eq_singleton_iff.mp h
  obtain rfl := eq_of_toLower hpercent (by decide)
  obtain rfl := eq_of_toLower htwo (by decide)
  have hpair : hexPair? ('2' :: e :: ds) = some 0x2E := by
    have hnat := toNat_toLower e
    rw [he] at hnat
    have hletter : e.toNat = 'E'.toNat ∨ e.toNat = 'e'.toNat := by
      have hlower : 'e'.toNat = 0x65 := rfl
      have hupper : 'E'.toNat = 0x45 := rfl
      split at hnat <;> omega
    rcases hletter with hletter | hletter
    · obtain rfl := Char.toNat_inj.mp hletter
      rfl
    · obtain rfl := Char.toNat_inj.mp hletter
      rfl
  rw [List.cons_append, meaning_percent, List.cons_append, List.singleton_append, hpair]
  rfl

/-- What counts as one dot stands for one. -/
theorem meaning_of_isDot (h : isDot (String.ofList cs) = true) : meaning cs = utf8 ['.'] := by
  have hstop : IsStop cs := by
    simp only [isDot, Text.asciiLower, String.toList_ofList, List.contains_eq_mem,
      decide_eq_true_eq, List.mem_cons, List.not_mem_nil, or_false] at h
    rcases h with h | h
    · exact .inl (by simpa using congrArg String.toList h)
    · exact .inr (by simpa using congrArg String.toList h)
  rw [← List.append_nil cs, meaning_of_isStop hstop, meaning_nil]
  rfl

/-- What counts as two dots stands for two. -/
theorem meaning_of_isDoubleDot (h : isDoubleDot (String.ofList cs) = true) :
    meaning cs = utf8 ['.', '.'] := by
  have hlower : ∃ first second : List Char, cs.map Char.toLower = first ++ second ∧
      (first = ['.'] ∨ first = ['%', '2', 'e']) ∧ (second = ['.'] ∨ second = ['%', '2', 'e']) := by
    simp only [isDoubleDot, Text.asciiLower, String.toList_ofList, List.contains_eq_mem,
      decide_eq_true_eq, List.mem_cons, List.not_mem_nil, or_false] at h
    rcases h with h | h | h | h
    · exact ⟨['.'], ['.'], by simpa using congrArg String.toList h, .inl rfl, .inl rfl⟩
    · exact ⟨['.'], ['%', '2', 'e'], by simpa using congrArg String.toList h, .inl rfl, .inr rfl⟩
    · exact ⟨['%', '2', 'e'], ['.'], by simpa using congrArg String.toList h, .inr rfl, .inl rfl⟩
    · exact ⟨['%', '2', 'e'], ['%', '2', 'e'], by simpa using congrArg String.toList h, .inr rfl,
        .inr rfl⟩
  obtain ⟨first, second, hmap, hfirst, hsecond⟩ := hlower
  obtain ⟨l, r, rfl, rfl, rfl⟩ := List.map_eq_append_iff.mp hmap
  rw [meaning_of_isStop hfirst, ← List.append_nil r, meaning_of_isStop hsecond,
    meaning_nil]
  rfl

end Dots

end HearingSync.Url
