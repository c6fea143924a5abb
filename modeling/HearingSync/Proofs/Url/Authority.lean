import HearingSync.Proofs.Url.Segments
/-!
What stands between the scheme and the path of a web URL. Main statement: the text of an authority
that was read is not empty, and holds no white space and nothing that ends an authority.
-/

namespace HearingSync.Url

/-- A character that neither ends the authority of a web URL nor is left out of a URL's text. -/
def IsSolid (c : Char) : Prop :=
  0x20 < c.toNat ∧ c ≠ '/' ∧ c ≠ '\\' ∧ c ≠ '?' ∧ c ≠ '#'

instance (c : Char) : Decidable (IsSolid c) := inferInstanceAs (Decidable (_ ∧ _ ∧ _ ∧ _ ∧ _))

variable {c : Char} {cs : List Char}

theorem IsSolid.ne_marks (h : IsSolid c) : c ≠ '#' ∧ c ≠ '?' := by
  obtain ⟨-, -, -, hmark, hhash⟩ := h
  exact ⟨hhash, hmark⟩

theorem isSolid_of_ne (hcontrol : ¬c.toNat < 0x20) (hblank : c ≠ ' ') (hslash : c ≠ '/')
    (hback : c ≠ '\\') (hmark : c ≠ '?') (hhash : c ≠ '#') : IsSolid c := by
  have hne : c.toNat ≠ 0x20 := fun hc => hblank (Char.toNat_inj.mp hc)
  exact ⟨by omega, hslash, hback, hmark, hhash⟩

/-- What stands as it is in a path, and is no slash, is solid. -/
theorem isSolid_of_not_escapedInPath (h : escapedInPath c = false)
    (hslash : SchemeKind.web.isSlash c = false) : IsSolid c := by
  have hweb : SchemeKind.web.isSpecial = true := rfl
  simp only [escapedInPath, escapedInFragment, isControlOrWide, Bool.or_eq_false_iff,
    decide_eq_false_iff_not, List.contains_eq_mem, List.mem_cons, List.not_mem_nil, or_false,
    not_or] at h
  simp only [SchemeKind.isSlash, hweb, Bool.true_and, Bool.or_eq_false_iff,
    beq_eq_false_iff_ne] at hslash
  obtain ⟨⟨hcontrol, hblank, -⟩, hhash, hmark, -⟩ := h
  exact isSolid_of_ne hcontrol.1 hblank hslash.1 hslash.2 hmark hhash

theorem isSolid_of_digit {v : Nat} (h : Text.digitValue? c.toNat = some v) : IsSolid c := by
  have hrange := range_of_digitValue? h
  refine ⟨by omega, ?_, ?_, ?_, ?_⟩ <;>
  · rintro rfl
    cases h

theorem isSolid_digitChar (n : Nat) : IsSolid (Nat.digitChar n) := by
  by_cases hn : n < 16
  · revert n
    decide
  · have hstar : Nat.digitChar n = '*' := by
      unfold Nat.digitChar
      repeat rw [if_neg (by omega)]
    rw [hstar]
    decide

theorem isSolid_of_mem_toDigits {b n : Nat} (h : c ∈ Nat.toDigits b n) : IsSolid c := by
  have hcore (fuel n : Nat) (ds : List Char) (h : c ∈ Nat.toDigitsCore b fuel n ds) :
      c ∈ ds ∨ IsSolid c := by
    induction fuel generalizing n ds with
    | zero => exact .inl h
    | succ fuel ih =>
      have hdigit {ds : List Char} (h : c ∈ (n % b).digitChar :: ds) : c ∈ ds ∨ IsSolid c := by
        rcases List.mem_cons.mp h with rfl | h
        · exact .inr (isSolid_digitChar _)
        · exact .inl h
      rw [Nat.toDigitsCore] at h
      split at h
      · exact hdigit h
      · rcases ih _ _ h with h | h
        · exact hdigit h
        · exact .inr h
  exact (hcore _ _ _ h).resolve_left (by simp)

theorem mem_intercalate {separator : List Char} {parts : List (List Char)}
    (h : c ∈ separator.intercalate parts) : c ∈ separator ∨ ∃ part ∈ parts, c ∈ part := by
  induction parts with
  | nil => cases h
  | cons part rest ih =>
    cases rest with
    | nil => exact .inr ⟨part, List.mem_singleton_self part, by simpa [List.intercalate] using h⟩
    | cons next rest =>
      have happend : separator.intercalate (part :: next :: rest) =
          part ++ (separator ++ separator.intercalate (next :: rest)) := by
        simp [List.intercalate]
      rw [happend, List.mem_append, List.mem_append] at h
      rcases h with h | h | h
      · exact .inr ⟨part, List.mem_cons_self, h⟩
      · exact .inl h
      · rcases ih h with h | ⟨other, hother, h⟩
        · exact .inl h
        · exact .inr ⟨other, List.mem_cons_of_mem part hother, h⟩

/-- Credentials are escaped where they hold what is not solid. -/
theorem isSolid_of_mem_escape (h : c ∈ escape escapedInCredentials cs) : IsSolid c := by
  rcases mem_escape h with ⟨hno, -⟩ | rfl | ⟨v, hv⟩
  · rw [escapedInCredentials, Bool.or_eq_false_iff] at hno
    apply isSolid_of_not_escapedInPath hno.1
    simp only [List.contains_eq_mem, decide_eq_false_iff_not, List.mem_cons, List.not_mem_nil,
      or_false, not_or] at hno
    obtain ⟨-, hslash, -, -, -, -, -, hback, -⟩ := hno
    simp [SchemeKind.isSlash, hslash, hback]
  · decide
  · exact isSolid_of_digit hv

namespace Parse

theorem of_unless {ε α : Type} {p : Prop} [Decidable p] {e : ε} {x : Except ε α} {a : α}
    (h : (if p then do throw e; x else x) = .ok a) : ¬p ∧ x = .ok a := by
  by_cases hp : p
  · rw [if_pos hp] at h
    cases h
  · rw [if_neg hp] at h
    exact ⟨hp, h⟩

theorem of_bind {ε α β : Type} {x : Except ε α} {f : α → Except ε β} {b : β}
    (h : x >>= f = .ok b) : ∃ a, x = .ok a ∧ f a = .ok b := by
  cases x with
  | error e => cases h
  | ok a => exact ⟨a, rfl, h⟩

end Parse

namespace Host

theorem isSolid_of_mem_ipv4Text {address : Nat} (h : c ∈ (ipv4Text address).toList) :
    IsSolid c := by
  rw [ipv4Text, String.toList_intercalate] at h
  rcases mem_intercalate h with h | ⟨part, hpart, h⟩
  · obtain rfl := List.mem_singleton.mp h
    decide
  · simp only [List.map_map, List.mem_map] at hpart
    obtain ⟨i, -, rfl⟩ := hpart
    exact isSolid_of_mem_toDigits (by simpa [Nat.toList_repr] using h)

theorem isSolid_of_mem_piecesText {pieces : List Nat} (h : c ∈ (piecesText pieces).toList) :
    IsSolid c := by
  rw [piecesText, String.toList_intercalate] at h
  rcases mem_intercalate h with h | ⟨part, hpart, h⟩
  · obtain rfl := List.mem_singleton.mp h
    decide
  · simp only [List.map_map, List.mem_map] at hpart
    obtain ⟨n, -, rfl⟩ := hpart
    exact isSolid_of_mem_toDigits (by simpa using h)

theorem isSolid_of_mem_ipv6Text {pieces : List Nat} (h : c ∈ (ipv6Text pieces).toList) :
    IsSolid c := by
  unfold ipv6Text at h
  simp only at h
  split at h
  · exact isSolid_of_mem_piecesText h
  · rw [String.toList_append, String.toList_append, List.mem_append, List.mem_append] at h
    rcases h with (h | h) | h
    · exact isSolid_of_mem_piecesText h
    · have hcolon : c = ':' := by simpa using h
      rw [hcolon]
      decide
    · exact isSolid_of_mem_piecesText h

theorem isSolid_of_asciiName {s : String} {name : List Char} (h : asciiName s = .ok name)
    (hc : c ∈ name) : IsSolid c := by
  unfold asciiName at h
  split at h
  · cases h
  · split at h
    · cases h
    · rename_i hany
      cases h
      have hno : ¬((isForbidden c || c == '%' || c.toNat < 0x20 || c.toNat = 0x7F) = true) :=
        fun hyes => hany (List.any_eq_true.mpr ⟨c, hc, hyes⟩)
      simp only [isForbidden, Bool.not_eq_true, Bool.or_eq_false_iff, decide_eq_false_iff_not,
        List.contains_eq_mem, List.mem_cons, List.not_mem_nil, or_false, not_or] at hno
      obtain ⟨⟨⟨⟨-, -, -, -, hblank, hhash, hslash, -, -, -, hmark, -, -, hback, -⟩, -⟩, hcontrol⟩,
        -⟩ := hno
      exact isSolid_of_ne hcontrol hblank hslash hback hmark hhash

theorem text_of_parse {host : Host} (h : parse cs = .ok host) :
    host.text.toList ≠ [] ∧ ∀ c ∈ host.text.toList, IsSolid c := by
  have hipv6 {pieces : List Nat} : (Host.ipv6 pieces).text.toList ≠ [] ∧
      ∀ c ∈ (Host.ipv6 pieces).text.toList, IsSolid c := by
    rw [text, String.toList_append, String.toList_append]
    refine ⟨by simp, ?_⟩
    intro c hc
    rw [List.mem_append, List.mem_append] at hc
    rcases hc with (hc | hc) | hc
    · obtain rfl := List.mem_singleton.mp hc
      decide
    · exact isSolid_of_mem_ipv6Text hc
    · obtain rfl := List.mem_singleton.mp hc
      decide
  unfold parse at h
  cases hb : bracketed? cs with
  | some result =>
    rw [hb] at h
    obtain rfl : result = .ok host := h
    unfold bracketed? at hb
    split at hb
    · split at hb
      · cases hp : parseIpv6 _ with
        | error e => rw [hp] at hb; cases hb
        | ok pieces => rw [hp] at hb; cases hb; exact hipv6
      · cases hb
    · cases hb
  | none =>
    rw [hb] at h
    obtain ⟨decoded, -, h⟩ := Parse.of_bind h
    obtain ⟨name, hname, h⟩ := Parse.of_bind h
    by_cases hempty : name.isEmpty = true
    · rw [if_pos hempty] at h
      cases h
    rw [if_neg hempty] at h
    by_cases hnumber : endsInNumber name = true
    · rw [if_pos hnumber] at h
      cases hp : parseIpv4 name with
      | error e => rw [hp] at h; cases h
      | ok address =>
        rw [hp] at h
        cases h
        refine ⟨?_, fun c => isSolid_of_mem_ipv4Text⟩
        simp [text, ipv4Text]
    · rw [if_neg hnumber] at h
      cases h
      rw [text, String.toList_ofList]
      exact ⟨by simpa using hempty, fun c => isSolid_of_asciiName hname⟩

end Host

namespace Parse

variable {scheme : String} {followed : Bool} {a : Authority} {kept : List Char}

theorem splitHost_append (inBrackets : Bool) (cs : List Char) :
    (splitHost inBrackets cs).1 ++ (splitHost inBrackets cs).2 = cs := by
  induction cs generalizing inBrackets with
  | nil => rfl
  | cons c cs ih =>
    rw [splitHost]
    by_cases hc : (c == ':' && !inBrackets) = true
    · rw [if_pos hc]
      rfl
    · rw [if_neg hc]
      exact congrArg (c :: ·) (ih _)

theorem mem_of_mem_splitAtSign (h : c ∈ (splitAtSign cs).2) : c ∈ cs := by
  unfold splitAtSign at h
  by_cases hat : cs.contains '@' = true
  · rw [if_pos hat] at h
    exact List.mem_reverse.mp ((List.takeWhile_sublist _).subset (List.mem_reverse.mp h))
  · rw [if_neg hat] at h
    exact h

/-- What an authority on the web is made of, and what is left of its text. -/
theorem authority_web (h : authority scheme .web cs followed = .ok (a, kept)) :
    ∃ user host digits, a.credentials = credentials user ∧ Host.parse host = .ok a.host ∧
      port scheme digits = .ok a.port ∧ ((∀ c ∈ cs, c ≠ '\\') → kept = []) := by
  have hweb : SchemeKind.web.isSpecial = true := rfl
  unfold authority at h
  simp only [] at h
  obtain ⟨-, h⟩ := of_unless h
  obtain ⟨-, h⟩ := of_unless h
  rw [if_pos hweb] at h
  obtain ⟨host, hhost, h⟩ := of_bind h
  obtain ⟨port, hport, h⟩ := of_bind h
  obtain ⟨-, h⟩ := of_unless h
  cases h
  refine ⟨_, _, _, rfl, hhost, hport, ?_⟩
  intro hcs
  rw [List.dropWhile_eq_nil_iff]
  intro c hc
  have hmem : c ∈ (splitAtSign cs).2 := by
    rw [← splitHost_append false (splitAtSign cs).2]
    exact List.mem_append_right _ hc
  simpa using hcs c (mem_of_mem_splitAtSign hmem)

theorem isSolid_of_mem_credentials (h : c ∈ (credentials cs).text.toList) : IsSolid c := by
  unfold Credentials.text at h
  split at h
  · cases h
  · rw [String.toList_append, String.toList_append, List.mem_append, List.mem_append] at h
    rcases h with (h | h) | h
    · exact isSolid_of_mem_escape (by simpa [credentials] using h)
    · simp only [credentials] at h
      split at h
      · cases h
      · simp only [Option.elim_some, String.toList_append, String.toList_ofList,
          List.mem_append] at h
        rcases h with h | h
        · obtain rfl := List.mem_singleton.mp h
          decide
        · exact isSolid_of_mem_escape h
    · obtain rfl := List.mem_singleton.mp h
      decide

theorem text_of_authority_web (h : authority scheme .web cs followed = .ok (a, kept)) :
    a.text.toList ≠ [] ∧ ∀ c ∈ a.text.toList, IsSolid c := by
  obtain ⟨user, host, digits, hcredentials, hhost, hport, -⟩ := authority_web h
  obtain ⟨hne, hsolid⟩ := Host.text_of_parse hhost
  rw [Authority.text, String.toList_append, String.toList_append]
  refine ⟨by simp [hne], ?_⟩
  intro c hc
  rw [List.mem_append, List.mem_append] at hc
  rcases hc with (hc | hc) | hc
  · exact isSolid_of_mem_credentials (hcredentials ▸ hc)
  · exact hsolid c hc
  · cases hp : a.port with
    | none => simp [hp] at hc
    | some n =>
      simp only [hp, Option.elim_some, String.toList_append, List.mem_append] at hc
      rcases hc with hc | hc
      · obtain rfl := List.mem_singleton.mp hc
        decide
      · exact isSolid_of_mem_toDigits (by simpa [Nat.toList_repr] using hc)

end Parse

end HearingSync.Url
