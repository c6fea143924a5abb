import HearingSync.Proofs.Url.Authority
/-!
A web URL with a path put behind it, read. Main statement: the result has the authority that the
URL's own text has, and the segments of the path are read on top of those that the URL has, without
the empty ones at their end.
-/

namespace HearingSync.Url

open Parse (clean scheme? splitTail isDropped IsNamed)
open Text (splitOn)

variable {u : Url} {s scheme : String} {cs ds front : List Char} {c : Char} {segments : List String}

section Cleaning

theorem rdropWhile_append {α : Type} {p : α → Bool} {xs : List α} (h : xs.rdropWhile p = xs)
    (ys : List α) : (xs ++ ys).rdropWhile p = xs ++ ys.rdropWhile p := by
  have hrev : xs.reverse.dropWhile p = xs.reverse := by
    rw [← h, List.rdropWhile, List.reverse_reverse, List.dropWhile_idempotent]
  rw [List.rdropWhile, List.rdropWhile, List.reverse_append, List.dropWhile_append, hrev]
  split
  · rename_i hys
    rw [List.isEmpty_iff.mp hys]
    simp
  · simp

def cleanEnd (cs : List Char) : List Char :=
  (cs.rdropWhile fun c => c.toNat ≤ 0x20).filter fun c => !isDropped c

theorem not_isDropped (h : 0x20 < c.toNat) : isDropped c = false := by
  simp only [isDropped, Bool.or_eq_false_iff, beq_eq_false_iff_ne]
  refine ⟨⟨?_, ?_⟩, ?_⟩ <;>
  · rintro rfl
    exact absurd h (by decide)

theorem rdropWhile_of_visible (h : ∀ c ∈ front, 0x20 < c.toNat) :
    (front.rdropWhile fun c => c.toNat ≤ 0x20) = front := by
  rw [List.rdropWhile_eq_self_iff]
  intro hne
  have hlast := h _ (List.getLast_mem hne)
  simpa using hlast

theorem cleanEnd_append (h : ∀ c ∈ front, 0x20 < c.toNat) (cs : List Char) :
    cleanEnd (front ++ cs) = front ++ cleanEnd cs := by
  rw [cleanEnd, rdropWhile_append (rdropWhile_of_visible h), List.filter_append, cleanEnd]
  congr 1
  rw [List.filter_eq_self]
  intro c hc
  rw [not_isDropped (h c hc)]
  rfl

/-- A head without white space is kept as it is. -/
theorem clean_append (hne : front ≠ []) (h : ∀ c ∈ front, 0x20 < c.toNat) (cs : List Char) :
    clean (front ++ cs) = front ++ cleanEnd cs := by
  obtain ⟨c, rest, rfl⟩ := List.exists_cons_of_ne_nil hne
  have hc : ¬c.toNat ≤ 0x20 := by
    have := h c List.mem_cons_self
    omega
  have hhead : ((c :: rest) ++ cs).dropWhile (fun c => decide (c.toNat ≤ 0x20)) =
      (c :: rest) ++ cs := by
    rw [List.cons_append, List.dropWhile_cons_of_neg (by simpa using hc)]
  rw [← cleanEnd_append h, clean]
  simp only [hhead]
  rfl

end Cleaning

section Scheme

structure IsScheme (scheme : String) : Prop where
  first : ∃ c rest, scheme.toList = c :: rest ∧ c.isAlpha = true
  chars : ∀ c ∈ scheme.toList, Parse.isSchemeChar c = true ∧ c.toLower = c

theorem isAlpha_iff : c.isAlpha = true ↔
    0x41 ≤ c.toNat ∧ c.toNat ≤ 0x5A ∨ 0x61 ≤ c.toNat ∧ c.toNat ≤ 0x7A := by
  change (decide (c.val ≥ 'A'.val ∧ c.val ≤ 'Z'.val) ||
    (decide (c.val ≥ 'a'.val) && decide (c.val ≤ 'z'.val))) = true ↔ _
  rw [Bool.or_eq_true, Bool.and_eq_true, decide_eq_true_eq, decide_eq_true_eq, decide_eq_true_eq]
  exact Iff.rfl

theorem isAlpha_toLower (h : c.isAlpha = true) : c.toLower.isAlpha = true := by
  rw [isAlpha_iff] at h ⊢
  rw [toNat_toLower]
  split <;> omega

theorem isSchemeChar_of_isAlpha (h : c.isAlpha = true) : Parse.isSchemeChar c = true := by
  simp [Parse.isSchemeChar, Char.isAlphanum, h]

theorem isSchemeChar_toLower (h : Parse.isSchemeChar c = true) :
    Parse.isSchemeChar c.toLower = true ∧ c.toLower.toLower = c.toLower := by
  refine ⟨?_, ?_⟩
  · by_cases hc : c.isAlpha = true
    · exact isSchemeChar_of_isAlpha (isAlpha_toLower hc)
    · have hsame : c.toLower = c := by
        rw [isAlpha_iff] at hc
        apply Char.toNat_inj.mp
        rw [toNat_toLower, if_neg (by omega)]
      rwa [hsame]
  · apply Char.toNat_inj.mp
    have hcases := toNat_toLower c
    rw [toNat_toLower c.toLower]
    split at hcases
    · rw [if_neg (by omega)]
    · rw [hcases, if_neg (by omega)]

theorem isScheme_of_scheme? (h : scheme? cs = some (scheme, ds)) : IsScheme scheme := by
  unfold scheme? at h
  split at h
  · cases h
  · rename_i c rest
    split at h
    · split at h
      · rename_i hc
        cases h
        refine ⟨?_, ?_⟩
        · rw [String.toList_ofList, List.takeWhile_cons_of_pos (isSchemeChar_of_isAlpha hc)]
          exact ⟨_, _, rfl, isAlpha_toLower hc⟩
        · intro d hd
          rw [String.toList_ofList] at hd
          obtain ⟨x, hx, rfl⟩ := List.mem_map.mp hd
          exact isSchemeChar_toLower (List.mem_takeWhile_imp hx)
      · cases h
    · cases h

theorem IsScheme.visible (h : IsScheme scheme) : ∀ c ∈ scheme.toList, 0x20 < c.toNat := by
  intro c hc
  have hchar := (h.chars c hc).1
  simp only [Parse.isSchemeChar, Char.isAlphanum, Bool.or_eq_true, isAlpha_iff, Char.isDigit,
    Bool.and_eq_true, decide_eq_true_eq, UInt32.le_iff_toNat_le, beq_iff_eq] at hchar
  rcases hchar with (((halpha | hdigit) | rfl) | rfl) | rfl
  · omega
  · have hlow : 0x30 ≤ c.toNat := hdigit.1
    omega
  · decide
  · decide
  · decide

theorem IsScheme.scheme? (h : IsScheme scheme) (cs : List Char) :
    Parse.scheme? (scheme.toList ++ ':' :: cs) = some (scheme, cs) := by
  obtain ⟨c, rest, hfirst, halpha⟩ := h.first
  have hchars : ∀ d ∈ scheme.toList, Parse.isSchemeChar d = true := fun d hd => (h.chars d hd).1
  have htake : (scheme.toList ++ ':' :: cs).takeWhile Parse.isSchemeChar = scheme.toList := by
    rw [List.takeWhile_append_of_pos hchars, List.takeWhile_cons_of_neg (by decide),
      List.append_nil]
  have hdrop : (scheme.toList ++ ':' :: cs).dropWhile Parse.isSchemeChar = ':' :: cs := by
    rw [List.dropWhile_append_of_pos hchars, List.dropWhile_cons_of_neg (by decide)]
  have hlower : scheme.toList.map Char.toLower = scheme.toList := by
    conv_rhs => rw [← List.map_id scheme.toList]
    exact List.map_congr_left fun d hd => (h.chars d hd).2
  unfold Parse.scheme?
  split
  · rename_i hnil
    simp at hnil
  · rename_i d rest' hcons
    rw [hdrop, htake, hlower]
    obtain rfl : c = d := by
      rw [hfirst, List.cons_append] at hcons
      exact (List.cons.inj hcons).1
    simp only
    rw [if_pos halpha, String.ofList_toList]

theorem isScheme_web (h : scheme = "http" ∨ scheme = "https") : IsScheme scheme := by
  have hchars : (scheme.toList.all fun c => Parse.isSchemeChar c && c.toLower == c) = true := by
    rcases h with rfl | rfl <;> decide
  refine ⟨?_, by simpa [List.all_eq_true] using hchars⟩
  rcases h with rfl | rfl <;> exact ⟨'h', _, rfl, rfl⟩

theorem scheme_of_parse (h : parse s = .ok u) :
    ∃ rest, scheme? (clean s.toList) = some (u.scheme, rest) := by
  unfold parse at h
  cases hs : scheme? (clean s.toList) with
  | none => rw [hs] at h; cases h
  | some p =>
    obtain ⟨scheme, rest⟩ := p
    rw [hs] at h
    have hfinish {a : Option Authority} {tail : Option (List Char) × Option (List Char)}
        {path : Path} (h : Parse.finish scheme a tail path = u) :
        ∃ rest', some (scheme, rest) = some (u.scheme, rest') := ⟨rest, by rw [← h]; rfl⟩
    cases hk : schemeKind scheme with
    | web =>
      simp only [hk] at h
      obtain ⟨p, -, h⟩ := Parse.of_bind h
      exact hfinish (Except.ok.inj h)
    | file =>
      simp only [hk] at h
      obtain ⟨p, -, h⟩ := Parse.of_bind h
      exact hfinish (Except.ok.inj h)
    | other =>
      simp only [hk] at h
      split at h
      · obtain ⟨p, -, h⟩ := Parse.of_bind h
        exact hfinish (Except.ok.inj h)
      · split at h
        · exact hfinish (Except.ok.inj h)
        · exact hfinish (Except.ok.inj h)

end Scheme

section Web

/-- A segment as the reading of a web URL leaves it, which is read again as it is. -/
structure IsRead (segment : String) : Prop where
  solid : ∀ c ∈ segment.toList, IsSolid c
  plain : ∀ c ∈ segment.toList, escapedInPath c = false
  named : IsNamed segment

theorem isSlash_of_isSolid (h : IsSolid c) : SchemeKind.web.isSlash c = false := by
  simp [SchemeKind.isSlash, h.2.1, h.2.2.1]

def asSegment (part : List Char) : String := String.ofList (escape escapedInPath part)

theorem segments_eq (cs : List Char) : Parse.segments .web cs =
    Parse.addSegments .web [] ((splitOn SchemeKind.web.isSlash cs).map asSegment) := rfl

theorem isRead_of_all {x : String}
    (h : (x.toList.all fun c => decide (IsSolid c) && !escapedInPath c) = true)
    (hdot : Parse.isDot x = false) (hdouble : Parse.isDoubleDot x = false) : IsRead x := by
  have hchars : ∀ c ∈ x.toList, IsSolid c ∧ escapedInPath c = false := by
    simpa [List.all_eq_true] using h
  exact ⟨fun c hc => (hchars c hc).1, fun c hc => (hchars c hc).2, hdot, hdouble⟩

theorem isRead_asSegment {part : List Char}
    (h : ∀ c ∈ part, SchemeKind.web.isSlash c = false) (hn : IsNamed (asSegment part)) :
    IsRead (asSegment part) where
  solid := by
    intro c hc
    rw [asSegment, String.toList_ofList] at hc
    rcases mem_escape hc with ⟨hno, hmem⟩ | rfl | ⟨v, hv⟩
    · exact isSolid_of_not_escapedInPath hno (h c hmem)
    · decide
    · exact isSolid_of_digit hv
  plain := by
    intro c hc
    rw [asSegment, String.toList_ofList] at hc
    exact not_escaped_of_mem_escape sparesEscapes_path hc
  named := hn

theorem isRead_segments (cs : List Char) : ∀ x ∈ Parse.segments .web cs, IsRead x := by
  have hempty : IsRead "" := isRead_of_all rfl (by decide) (by decide)
  have hall : ∀ x ∈ (Parse.segments .web cs).drop 0, IsRead x := by
    rw [segments_eq]
    apply Parse.addSegments_forall (by decide) (fun x hx => by cases hx) hempty
    intro x hx hn
    obtain ⟨part, hpart, rfl⟩ := List.mem_map.mp hx
    exact isRead_asSegment (Text.of_mem_splitOn hpart).2 hn
  exact hall

theorem segments_ne_nil (cs : List Char) : Parse.segments .web cs ≠ [] := by
  have hparts : (splitOn SchemeKind.web.isSlash cs).map asSegment ≠ [] := by
    simpa using Text.splitOn_ne_nil _ cs
  obtain ⟨init, last, hlast⟩ := (List.eq_nil_or_concat' _).resolve_left hparts
  rw [segments_eq, hlast, Parse.addSegments_concat]
  exact Parse.addSegment_last_ne_nil _ _ _

/-- A URL on the web: an authority that was read, and segments that were. -/
structure IsWeb (u : Url) (a : Authority) (segments : List String) : Prop where
  scheme : u.scheme = "http" ∨ u.scheme = "https"
  authority : u.authority = some a
  authority_ne_nil : a.text.toList ≠ []
  authority_solid : ∀ c ∈ a.text.toList, IsSolid c
  path : u.path = .rooted segments
  segments_ne_nil : segments ≠ []
  segments_read : ∀ x ∈ segments, IsRead x

theorem isWeb_of_parse (h : parse s = .ok u) (hscheme : u.scheme = "http" ∨ u.scheme = "https") :
    ∃ a segments, IsWeb u a segments := by
  have hkind : schemeKind u.scheme = .web := by rcases hscheme with hs | hs <;> rw [hs] <;> rfl
  obtain ⟨rest, hrest⟩ := scheme_of_parse h
  unfold parse at h
  rw [hrest] at h
  simp only [hkind] at h
  obtain ⟨⟨a, after⟩, hafter, h⟩ := Parse.of_bind h
  have hu := Except.ok.inj h
  unfold Parse.afterSlashes at hafter
  obtain ⟨⟨a', kept⟩, hauthority, hafter⟩ := Parse.of_bind hafter
  cases hafter
  obtain ⟨hne, hsolid⟩ := Parse.text_of_authority_web hauthority
  refine ⟨a, _, hscheme, by rw [← hu]; rfl, hne, hsolid, by rw [← hu]; rfl, segments_ne_nil _,
    isRead_segments _⟩

end Web

section Paths

variable {a : Authority}

def pathChars (segments : List String) : List Char := segments.flatMap fun x => '/' :: x.toList

/-- The segments without the empty ones at their end. -/
def stem (segments : List String) : List String := segments.rdropWhile (· == "")

theorem pathChars_concat (segments : List String) (x : String) :
    pathChars (segments ++ [x]) = pathChars segments ++ '/' :: x.toList := by
  simp [pathChars]

theorem isRead_of_mem_stem (h : ∀ x ∈ segments, IsRead x) : ∀ x ∈ stem segments, IsRead x :=
  fun x hx => h x ((List.rdropWhile_prefix _ _).subset hx)

/-- Slashes at the end of a path are its empty segments. -/
theorem rdropWhile_pathChars (h : ∀ x ∈ segments, IsRead x) :
    (pathChars segments).rdropWhile (· == '/') = pathChars (stem segments) := by
  induction segments using List.reverseRecOn with
  | nil => rfl
  | append_singleton segments x ih =>
    have hrest : ∀ y ∈ segments, IsRead y := fun y hy => h y (List.mem_append_left [x] hy)
    by_cases hx : x = ""
    · subst hx
      have hchars : pathChars (segments ++ [""]) = pathChars segments ++ ['/'] :=
        pathChars_concat segments ""
      rw [hchars, List.rdropWhile_concat_pos _ _ _ (by rfl), ih hrest, stem, stem,
        List.rdropWhile_concat_pos _ _ _ (by rfl)]
    · have hread : IsRead x := h x (List.mem_append_right segments (List.mem_singleton_self x))
      have hne : x.toList ≠ [] := by simpa using hx
      have hlast : x.toList.getLast hne ≠ '/' := (hread.solid _ (List.getLast_mem hne)).2.1
      rw [stem, List.rdropWhile_concat_neg _ _ _ (by simpa using hx), List.rdropWhile_eq_self_iff]
      intro hne'
      simp only [pathChars_concat]
      rw [List.getLast_append_of_ne_nil _ (by simp), List.getLast_cons hne]
      simpa using hlast

theorem IsWeb.toList_text (h : IsWeb u a segments) (hquery : u.query = none)
    (hfragment : u.fragment = none) :
    u.text.toList =
      u.scheme.toList ++ ':' :: '/' :: '/' :: (a.text.toList ++ pathChars segments) := by
  have hpath : u.path.text.toList = pathChars segments := by
    simp [h.path, Path.text, pathChars, String.toList_join, List.flatMap_map]
  simp [text, target, h.authority, hquery, hfragment, hpath]

/-- The base as far as its last segment that is not empty, and the path. -/
theorem IsWeb.toList_join (h : IsWeb u a segments) (hquery : u.query = none)
    (hfragment : u.fragment = none) (path : String) :
    (join u path).toList = u.scheme.toList ++ ':' :: '/' :: '/' :: (a.text.toList ++
      (pathChars (stem segments) ++ '/' :: path.toList.dropWhile (· == '/'))) := by
  have hlast : (a.text.toList.rdropWhile (· == '/')) = a.text.toList := by
    rw [List.rdropWhile_eq_self_iff]
    intro hne
    have hlast := (h.authority_solid _ (List.getLast_mem hne)).2.1
    simpa using hlast
  have hhead : (u.scheme.toList ++ ':' :: '/' :: '/' :: a.text.toList).rdropWhile (· == '/') =
      u.scheme.toList ++ ':' :: '/' :: '/' :: a.text.toList := by
    rw [List.rdropWhile_eq_self_iff] at hlast ⊢
    intro hne
    rw [List.getLast_append_of_ne_nil _ (by simp), List.getLast_cons (by simp),
      List.getLast_cons (by simp), List.getLast_cons h.authority_ne_nil]
    exact hlast h.authority_ne_nil
  have hfront : u.text.toList.rdropWhile (· == '/') =
      u.scheme.toList ++ ':' :: '/' :: '/' :: (a.text.toList ++ pathChars (stem segments)) := by
    have happend := rdropWhile_append hhead (pathChars segments)
    rw [rdropWhile_pathChars h.segments_read] at happend
    rw [h.toList_text hquery hfragment]
    simpa using happend
  rw [join, String.toList_ofList]
  change u.text.toList.rdropWhile (· == '/') ++ _ = _
  rw [hfront]
  simp

theorem IsRead.splitOn {x : String} (h : IsRead x) :
    splitOn SchemeKind.web.isSlash x.toList = [x.toList] :=
  Text.splitOn_of_forall fun c hc => isSlash_of_isSolid (h.solid c hc)

theorem IsRead.asSegment {x : String} (h : IsRead x) : asSegment x.toList = x := by
  rw [Url.asSegment, escape_of_forall h.plain, String.ofList_toList]

theorem map_asSegment (h : ∀ x ∈ segments, IsRead x) :
    (segments.map String.toList).map asSegment = segments := by
  rw [List.map_map]
  conv_rhs => rw [← List.map_id segments]
  exact List.map_congr_left fun x hx => (h x hx).asSegment

/-- Segments that were read are read again, and the rest of the path on top of them. -/
theorem splitOn_pathChars (h : ∀ x ∈ segments, IsRead x) (cs : List Char) :
    ∃ rest, pathChars segments ++ '/' :: cs = '/' :: rest ∧
      splitOn SchemeKind.web.isSlash rest =
        segments.map String.toList ++ splitOn SchemeKind.web.isSlash cs := by
  induction segments with
  | nil => exact ⟨cs, rfl, rfl⟩
  | cons x segments ih =>
    obtain ⟨rest, hrest, hsplit⟩ := ih fun y hy => h y (List.mem_cons_of_mem x hy)
    refine ⟨x.toList ++ '/' :: rest, ?_, ?_⟩
    · rw [← hrest]
      simp [pathChars]
    · rw [Text.splitOn_append (by rfl), (h x List.mem_cons_self).splitOn, hsplit]
      rfl

theorem segments_pathChars (h : ∀ x ∈ segments, IsRead x) (cs : List Char) :
    Parse.segments .web (Parse.dropSlash .web (pathChars segments ++ '/' :: cs)) =
      Parse.addSegments .web segments ((splitOn SchemeKind.web.isSlash cs).map asSegment) := by
  obtain ⟨rest, hrest, hsplit⟩ := splitOn_pathChars h cs
  have hdrop : Parse.dropSlash .web ('/' :: rest) = rest := rfl
  rw [hrest, hdrop, segments_eq, hsplit, List.map_append, map_asSegment h]
  exact Parse.addSegments_append (by decide) (fun x hx => (h x hx).named)
    (by simpa using Text.splitOn_ne_nil _ cs)

theorem splitTail_append (h : ∀ c ∈ front, c ≠ '#' ∧ c ≠ '?') (cs : List Char) :
    splitTail (front ++ cs) = (front ++ (splitTail cs).1, (splitTail cs).2) := by
  have hhash : ∀ c ∈ front, (c != '#') = true := fun c hc => by simpa using (h c hc).1
  have hmark : ∀ c ∈ front, (c != '?') = true := fun c hc => by simpa using (h c hc).2
  simp only [splitTail, List.takeWhile_append_of_pos hhash, List.dropWhile_append_of_pos hhash,
    List.takeWhile_append_of_pos hmark, List.dropWhile_append_of_pos hmark]

theorem splitTail_of_forall (h : ∀ c ∈ cs, c ≠ '#' ∧ c ≠ '?') :
    splitTail cs = (cs, none, none) := by
  have happend := splitTail_append h []
  have hempty : splitTail [] = ([], none, none) := rfl
  rwa [hempty, List.append_nil] at happend

theorem ends_pathChars (h : ∀ x ∈ segments, IsRead x) :
    ∀ c ∈ pathChars segments ++ ['/'], 0x20 < c.toNat ∧ c ≠ '#' ∧ c ≠ '?' := by
  intro c hc
  have hslash : 0x20 < '/'.toNat ∧ '/' ≠ '#' ∧ '/' ≠ '?' := by decide
  rcases List.mem_append.mp hc with hc | hc
  · obtain ⟨x, hx, hc⟩ := List.mem_flatMap.mp hc
    rcases List.mem_cons.mp hc with rfl | hc
    · exact hslash
    · have hsolid := (h x hx).solid c hc
      exact ⟨hsolid.1, hsolid.ne_marks⟩
  · obtain rfl := List.mem_singleton.mp hc
    exact hslash

def below (scheme : String) (authority : List Char) (segments : List String) (cs : List Char) :
    Except UrlError Url :=
  (Parse.authority scheme .web authority true).map fun p =>
    Parse.finish scheme (some p.1) (splitTail cs).2 (.rooted (Parse.addSegments .web segments
      ((splitOn SchemeKind.web.isSlash (splitTail cs).1).map asSegment)))

/-- The text of an authority ends at the path, and all of it belongs to the authority. -/
theorem afterSlashes_eq {authority : List Char} (h : ∀ c ∈ authority, IsSolid c) (cs : List Char) :
    Parse.afterSlashes scheme .web (authority ++ '/' :: cs) =
      (Parse.authority scheme .web authority true).map fun p => (p.1, '/' :: cs) := by
  have hend : ∀ c ∈ authority, (!(SchemeKind.web.isSlash c || c == '?' || c == '#')) = true := by
    intro c hc
    have hsolid := h c hc
    rw [isSlash_of_isSolid hsolid]
    simp [hsolid.2.2.2.1, hsolid.2.2.2.2]
  unfold Parse.afterSlashes
  simp only [List.takeWhile_append_of_pos hend, List.dropWhile_append_of_pos hend]
  rw [List.takeWhile_cons_of_neg (by decide), List.dropWhile_cons_of_neg (by decide),
    List.append_nil]
  cases ha : Parse.authority scheme .web authority true with
  | error e =>
    simp only [List.isEmpty_cons, Bool.not_false, ha]
    rfl
  | ok p =>
    obtain ⟨a, kept⟩ := p
    obtain ⟨-, -, -, -, -, -, hkept⟩ := Parse.authority_web ha
    obtain rfl := hkept fun c hc => (h c hc).2.2.1
    simp only [List.isEmpty_cons, Bool.not_false, ha]
    rfl

theorem parse_of_clean (hscheme : scheme = "http" ∨ scheme = "https") {authority : List Char}
    (hne : authority ≠ []) (hauthority : ∀ c ∈ authority, IsSolid c)
    (hsegments : ∀ x ∈ segments, IsRead x)
    (hs : clean s.toList =
      scheme.toList ++ ':' :: '/' :: '/' :: (authority ++ (pathChars segments ++ '/' :: cs))) :
    parse s = below scheme authority segments cs := by
  have hread : scheme? (clean s.toList) =
      some (scheme, '/' :: '/' :: (authority ++ (pathChars segments ++ '/' :: cs))) := by
    rw [hs, (isScheme_web hscheme).scheme?]
  have hkind : schemeKind scheme = .web := by rcases hscheme with rfl | rfl <;> rfl
  obtain ⟨c, more, hmore⟩ := List.exists_cons_of_ne_nil hne
  have hslashes : ('/' :: '/' :: (authority ++ (pathChars segments ++ '/' :: cs))).dropWhile
      SchemeKind.web.isSlash = authority ++ (pathChars segments ++ '/' :: cs) := by
    have hc := isSlash_of_isSolid (hauthority c (hmore ▸ List.mem_cons_self))
    rw [List.dropWhile_cons_of_pos (by rfl), List.dropWhile_cons_of_pos (by rfl), hmore,
      List.cons_append, List.dropWhile_cons_of_neg (by simp [hc])]
  obtain ⟨rest, hrest, -⟩ := splitOn_pathChars hsegments cs
  have hends := fun c hc => (ends_pathChars hsegments c hc).2
  have htail : splitTail (pathChars segments ++ '/' :: cs) =
      (pathChars segments ++ '/' :: (splitTail cs).1, (splitTail cs).2) := by
    have happend := splitTail_append hends cs
    simpa using happend
  unfold parse below
  rw [hread]
  simp only [hkind, hslashes]
  rw [hrest, afterSlashes_eq hauthority, ← hrest]
  cases Parse.authority scheme .web authority true with
  | error e => rfl
  | ok p =>
    change Except.ok (Parse.finish _ _ (splitTail (pathChars segments ++ '/' :: cs)).2 (.rooted
      (Parse.segments .web (Parse.dropSlash .web
        (splitTail (pathChars segments ++ '/' :: cs)).1)))) = _
    rw [htail, segments_pathChars hsegments]
    rfl

theorem visible_front (hscheme : IsScheme scheme) {authority : List Char}
    (hauthority : ∀ c ∈ authority, IsSolid c) (hsegments : ∀ x ∈ segments, IsRead x) :
    ∀ c ∈ scheme.toList ++ ':' :: '/' :: '/' :: (authority ++ (pathChars segments ++ ['/'])),
      0x20 < c.toNat := by
  intro c hc
  simp only [List.mem_append, List.mem_cons] at hc
  rcases hc with hc | rfl | rfl | rfl | hc | hc
  · exact hscheme.visible c hc
  · decide
  · decide
  · decide
  · exact (hauthority c hc).1
  · exact (ends_pathChars hsegments c (by simpa using hc)).1

/-- A path put behind a base is read on top of the segments of the base. -/
theorem IsWeb.parse_join (h : IsWeb u a segments) (hquery : u.query = none)
    (hfragment : u.fragment = none) (path : String) : parse (join u path) =
      below u.scheme a.text.toList (stem segments)
        (cleanEnd (path.toList.dropWhile (· == '/'))) := by
  apply parse_of_clean h.scheme h.authority_ne_nil h.authority_solid
    (isRead_of_mem_stem h.segments_read)
  rw [h.toList_join hquery hfragment]
  have hvisible := visible_front (isScheme_web h.scheme) h.authority_solid
    (isRead_of_mem_stem h.segments_read)
  have hclean := clean_append (by simp) hvisible (path.toList.dropWhile (· == '/'))
  simpa using hclean

/-- The base is read again with the authority that its own text has. -/
theorem IsWeb.parse_text (h : IsWeb u a segments) (hquery : u.query = none)
    (hfragment : u.fragment = none) : parse u.text =
      (Parse.authority u.scheme .web a.text.toList true).map fun p =>
        Parse.finish u.scheme (some p.1) (none, none) (.rooted segments) := by
  obtain ⟨init, last, rfl⟩ := (List.eq_nil_or_concat' segments).resolve_left h.segments_ne_nil
  have hinit : ∀ x ∈ init, IsRead x :=
    fun x hx => h.segments_read x (List.mem_append_left [last] hx)
  have hlast : IsRead last :=
    h.segments_read last (List.mem_append_right init (List.mem_singleton_self last))
  have hclean : clean u.text.toList = u.scheme.toList ++ ':' :: '/' :: '/' ::
      (a.text.toList ++ (pathChars init ++ '/' :: last.toList)) := by
    have hvisible : ∀ c ∈ u.text.toList, 0x20 < c.toNat := by
      intro c hc
      apply visible_front (isScheme_web h.scheme) h.authority_solid h.segments_read c
      rw [h.toList_text hquery hfragment] at hc
      have hmore := List.mem_append_left ['/'] hc
      simpa using hmore
    have hne : u.text.toList ≠ [] := by
      rw [h.toList_text hquery hfragment]
      simp
    have hself := clean_append hne hvisible []
    have hempty : cleanEnd [] = [] := rfl
    rw [hempty, List.append_nil] at hself
    rw [hself, h.toList_text hquery hfragment, pathChars_concat]
  have htail : splitTail last.toList = (last.toList, none, none) := by
    apply splitTail_of_forall
    intro c hc
    exact (hlast.solid c hc).ne_marks
  have hparts : (splitOn SchemeKind.web.isSlash last.toList).map asSegment = [last] := by
    rw [hlast.splitOn, List.map_singleton, hlast.asSegment]
  have hadd : Parse.addSegments .web init [last] = init ++ [last] :=
    Parse.addSegments_of_isNamed (by decide) fun x hx => List.mem_singleton.mp hx ▸ hlast.named
  rw [parse_of_clean h.scheme h.authority_ne_nil h.authority_solid hinit hclean, below, htail,
    hparts, hadd]

end Paths

section Scheme

theorem scheme_of_parse_join (h : parse s = .ok u) {v : Url} {path : String}
    (hjoin : parse (join u path) = .ok v) : v.scheme = u.scheme := by
  obtain ⟨rest, hrest⟩ := scheme_of_parse h
  have hscheme := isScheme_of_scheme? hrest
  obtain ⟨more, hmore⟩ : ∃ more, u.text.toList = (u.scheme.toList ++ [':']) ++ more :=
    ⟨_, by rw [text, String.append_assoc, String.append_assoc, String.append_assoc,
      String.toList_append, String.toList_append, List.append_assoc]; rfl⟩
  have hhead : (u.scheme.toList ++ [':']).rdropWhile (· == '/') = u.scheme.toList ++ [':'] :=
    List.rdropWhile_concat_neg _ _ _ (by decide)
  have hvisible : ∀ c ∈ u.scheme.toList ++ [':'], 0x20 < c.toNat := by
    intro c hc
    rcases List.mem_append.mp hc with hc | hc
    · exact hscheme.visible c hc
    · obtain rfl := List.mem_singleton.mp hc
      decide
  obtain ⟨rest', hrest'⟩ := scheme_of_parse hjoin
  have hclean : clean (join u path).toList = u.scheme.toList ++ ':' ::
      cleanEnd (more.rdropWhile (· == '/') ++ '/' :: path.toList.dropWhile (· == '/')) := by
    rw [join, String.toList_ofList]
    change clean (u.text.toList.rdropWhile (· == '/') ++ _) = _
    rw [hmore, rdropWhile_append hhead, List.append_assoc, clean_append (by simp) hvisible]
    simp
  rw [hclean, hscheme.scheme?] at hrest'
  exact (Prod.mk.inj (Option.some.inj hrest')).1.symm

end Scheme

end HearingSync.Url
