import HearingSync.Proofs.Url.Joining
/-!
A text in the path of a URL, between slashes or at its end. Main statement: it comes to be one
segment that stands for it, and nothing else of the URL changes, exactly when it holds no separator,
no escape and no line end, is not one or two dots, and, where it ends the URL, does not end in a
control character.
-/

namespace HearingSync.Url

open Parse (clean splitTail isDropped IsNamed)
open Text (splitOn)

/-- A text that stands for itself as a segment before those of `rest`. -/
structure IsOwnSegment (cs : List Char) (rest : List String) : Prop where
  separators : ∀ c ∈ cs, c ∉ ['/', '\\', '?', '#', '\t', '\n', '\r']
  escapes : ¬HoldsEscape cs
  dots : cs ≠ ['.'] ∧ cs ≠ ['.', '.']
  visible : rest = [] → ∀ c ∈ cs.getLast?, 0x20 < c.toNat

instance (cs : List Char) (rest : List String) : Decidable (IsOwnSegment cs rest) :=
  decidable_of_iff ((cs.all fun c => c ∉ ['/', '\\', '?', '#', '\t', '\n', '\r']) = true ∧
      ¬HoldsEscape cs ∧ (cs ≠ ['.'] ∧ cs ≠ ['.', '.']) ∧
      (rest = [] → (cs.getLast?.all fun c => 0x20 < c.toNat) = true)) <| by
    have hall : (cs.all fun c => c ∉ ['/', '\\', '?', '#', '\t', '\n', '\r']) = true ↔
        ∀ c ∈ cs, c ∉ ['/', '\\', '?', '#', '\t', '\n', '\r'] := by
      simp only [List.all_eq_true, decide_eq_true_eq]
    have hlast : (cs.getLast?.all fun c => 0x20 < c.toNat) = true ↔
        ∀ c ∈ cs.getLast?, 0x20 < c.toNat := by
      simp only [Option.all_eq_true, decide_eq_true_eq, Option.mem_def]
    rw [hall, hlast]
    exact ⟨fun h => ⟨h.1, h.2.1, h.2.2.1, h.2.2.2⟩, fun h => ⟨h.1, h.2, h.3, h.4⟩⟩

/-- Below those segments stand a segment that stands for the text, and the rest, and no more. -/
def Holds (u : Url) (segments : List String) (text : String) (rest : List String) : Prop :=
  ∃ segment, u.path = .rooted (segments ++ segment :: rest) ∧ unescaped? segment = some text ∧
    u.query = none ∧ u.fragment = none

variable {cs tidied : List Char} {rest segments : List String} {c : Char}

section Tidied

structure IsTidied (cs : List Char) (rest : List String) (tidied : List Char) : Prop where
  sublist : tidied.Sublist cs
  eq_iff : tidied = cs ↔ (∀ c ∈ cs, isDropped c = false) ∧
    (rest = [] → ∀ c ∈ cs.getLast?, 0x20 < c.toNat)

theorem exists_tidied (h : ∀ x ∈ rest, IsRead x) (cs : List Char) :
    ∃ tidied, cleanEnd (cs ++ pathChars rest) = tidied ++ pathChars rest ∧
      IsTidied cs rest tidied := by
  have hfilter : cs.filter (fun c => !isDropped c) = cs ↔ ∀ c ∈ cs, isDropped c = false := by
    simp
  by_cases hnil : rest = []
  · subst hnil
    refine ⟨cleanEnd cs, by simp [pathChars], ?_, ?_⟩
    · exact List.filter_sublist.trans (List.rdropWhile_prefix _ _).sublist
    have hlast : (cs.rdropWhile fun c => c.toNat ≤ 0x20) = cs ↔
        ∀ c ∈ cs.getLast?, 0x20 < c.toNat := by
      rcases List.eq_nil_or_concat' cs with rfl | ⟨init, last, rfl⟩
      · simp
      · simp [List.rdropWhile_eq_self_iff]
    constructor
    · intro h
      have hkept : (cs.rdropWhile fun c => c.toNat ≤ 0x20) = cs := by
        apply (List.rdropWhile_prefix _ _).sublist.antisymm
        conv_lhs => rw [← h]
        exact List.filter_sublist
      rw [cleanEnd, hkept] at h
      exact ⟨hfilter.mp h, fun _ => hlast.mp hkept⟩
    · rintro ⟨hdropped, hvisible⟩
      rw [cleanEnd, hlast.mpr (hvisible rfl), hfilter.mpr hdropped]
  · have hvisible : ∀ c ∈ pathChars rest, 0x20 < c.toNat :=
      fun c hc => (ends_pathChars h c (List.mem_append_left _ hc)).1
    refine ⟨cs.filter fun c => !isDropped c, ?_, List.filter_sublist, ?_⟩
    · obtain ⟨init, last, hlast⟩ : ∃ init last, pathChars rest = init ++ [last] := by
        obtain ⟨x, more, rfl⟩ := List.exists_cons_of_ne_nil hnil
        exact (List.eq_nil_or_concat' _).resolve_left (by simp [pathChars])
      have hkept : ((cs ++ pathChars rest).rdropWhile fun c => c.toNat ≤ 0x20) =
          cs ++ pathChars rest := by
        have hc := hvisible last (by simp [hlast])
        rw [hlast, ← List.append_assoc]
        exact List.rdropWhile_concat_neg _ _ _ (by simpa using hc)
      have hrest : (pathChars rest).filter (fun c => !isDropped c) = pathChars rest :=
        List.filter_eq_self.mpr fun c hc => by rw [not_isDropped (hvisible c hc)]; rfl
      rw [cleanEnd, hkept, List.filter_append, hrest]
    · rw [hfilter]
      exact ⟨fun h => ⟨h, fun hrest => absurd hrest hnil⟩, And.left⟩

end Tidied

section Tail

theorem tail?_dropWhile_eq_none {p : Char → Bool} (h : (cs.dropWhile p).tail? = none) :
    ∀ c ∈ cs, p c = true := by
  have hnil : cs.dropWhile p = [] := by
    cases hd : cs.dropWhile p with
    | nil => rfl
    | cons c rest => rw [hd] at h; cases h
  exact List.dropWhile_eq_nil_iff.mp hnil

/-- Without a query and a fragment there is no mark of one. -/
theorem of_splitTail_eq_none (hquery : (splitTail cs).2.1 = none)
    (hfragment : (splitTail cs).2.2 = none) : ∀ c ∈ cs, c ≠ '#' ∧ c ≠ '?' := by
  have hhash : ∀ c ∈ cs, (c != '#') = true := tail?_dropWhile_eq_none hfragment
  have hfront : cs.takeWhile (· != '#') = cs := List.takeWhile_eq_self_iff.mpr hhash
  have hmark : ∀ c ∈ cs, (c != '?') = true := by
    apply tail?_dropWhile_eq_none
    have hquery : ((cs.takeWhile (· != '#')).dropWhile (· != '?')).tail? = none := hquery
    rwa [hfront] at hquery
  intro c hc
  exact ⟨by simpa using hhash c hc, by simpa using hmark c hc⟩

end Tail

theorem splitOn_append_pathChars (h : ∀ x ∈ rest, IsRead x) (cs : List Char) :
    splitOn SchemeKind.web.isSlash (cs ++ pathChars rest) =
      splitOn SchemeKind.web.isSlash cs ++ rest.map String.toList := by
  induction rest generalizing cs with
  | nil => simp [pathChars]
  | cons x rest ih =>
    have hcons : pathChars (x :: rest) = '/' :: (x.toList ++ pathChars rest) := rfl
    rw [hcons, Text.splitOn_append (by rfl), ih fun y hy => h y (List.mem_cons_of_mem x hy),
      (h x List.mem_cons_self).splitOn, List.map_cons]
    rfl

/-- The path `cs` and the segments `rest`, on top of those that are there. -/
theorem addSegments_text (hrest : ∀ x ∈ rest, IsRead x) {segments : List String} (cs : List Char) :
    Parse.addSegments .web segments
        ((splitOn SchemeKind.web.isSlash (cs ++ pathChars rest)).map asSegment) =
      Parse.addSegments .web segments
        ((splitOn SchemeKind.web.isSlash cs).map asSegment ++ rest) := by
  rw [splitOn_append_pathChars hrest, List.map_append, map_asSegment hrest]

/-- A segment that comes of a text and stands for it: the text was one part, with no escape and not
dots. -/
theorem of_addSegments_eq (hrest : ∀ x ∈ rest, IsNamed x) (hne : cs ≠ []) {tidied : List Char}
    (htidied : tidied.Sublist cs) {segment : String}
    (h : Parse.addSegments .web segments
      ((splitOn SchemeKind.web.isSlash tidied).map asSegment ++ rest) = segments ++ segment :: rest)
    (hmeaning : unescaped? segment = some (String.ofList cs)) :
    tidied = cs ∧ (∀ c ∈ cs, SchemeKind.web.isSlash c = false) ∧ ¬HoldsEscape cs ∧
      IsNamed (asSegment cs) := by
  have hnew : segment = "" ∨ ∃ part ∈ splitOn SchemeKind.web.isSlash tidied,
      segment = asSegment part ∧ IsNamed segment := by
    have hparts : ∀ x ∈ (splitOn SchemeKind.web.isSlash tidied).map asSegment, IsNamed x →
        x = "" ∨ ∃ part ∈ splitOn SchemeKind.web.isSlash tidied,
          x = asSegment part ∧ IsNamed x := by
      intro x hx hn
      obtain ⟨part, hpart, rfl⟩ := List.mem_map.mp hx
      exact .inr ⟨part, hpart, rfl, hn⟩
    have hstart : ∀ x ∈ segments.drop segments.length, x = "" ∨
        ∃ part ∈ splitOn SchemeKind.web.isSlash tidied, x = asSegment part ∧ IsNamed x := by
      simp
    have hmem : segment ∈ (segments ++ [segment]).drop segments.length := by simp
    by_cases hnil : rest = []
    · subst hnil
      rw [List.append_nil] at h
      rw [← h] at hmem
      exact Parse.addSegments_forall (by decide) hstart (.inl rfl) hparts segment hmem
    · have hthrough : Parse.through .web segments
          ((splitOn SchemeKind.web.isSlash tidied).map asSegment) = segments ++ [segment] := by
        rw [Parse.addSegments_append_of_isNamed (by decide) hrest hnil, ← List.singleton_append,
          ← List.append_assoc] at h
        exact List.append_cancel_right h
      rw [← hthrough] at hmem
      exact Parse.through_forall (by decide) hstart (.inl rfl) hparts segment hmem
  rcases hnew with rfl | ⟨part, hpart, rfl, hnamed⟩
  · have hempty : unescaped? (String.ofList []) = some (String.ofList cs) := hmeaning
    rw [unescaped?_eq_some_iff, meaning_nil, String.toList_ofList] at hempty
    have hnil : utf8 [] = utf8 cs := hempty
    exact absurd (utf8_inj.mp hnil).symm hne
  · obtain ⟨hsub, hslash⟩ := Text.of_mem_splitOn hpart
    rw [asSegment, unescaped?_eq_some_iff, meaning_escape sparesEscapes_path,
      String.toList_ofList] at hmeaning
    obtain ⟨rfl, hescape⟩ := eq_of_meaning_eq (hsub.trans htidied) hmeaning
    exact ⟨htidied.antisymm hsub, hslash, hescape, hnamed⟩

variable {scheme root : String} {authority : List Char} {u : Url}

theorem below_eq_ok (h : below scheme authority segments cs = .ok u) :
    ∃ p, Parse.authority scheme .web authority true = .ok p ∧
      Parse.finish scheme (some p.1) (splitTail cs).2 (.rooted (Parse.addSegments .web segments
        ((splitOn SchemeKind.web.isSlash (splitTail cs).1).map asSegment))) = u := by
  unfold below at h
  cases hp : Parse.authority scheme .web authority true with
  | error e => rw [hp] at h; cases h
  | ok p =>
    rw [hp] at h
    exact ⟨p, rfl, Except.ok.inj h⟩

/-- Without marks of a query or a fragment all of a path is read, segment by segment. -/
theorem addSegments_path (hroot : IsRead root) (hrest : ∀ x ∈ rest, IsRead x) (cs : List Char) :
    Parse.addSegments .web segments ((splitOn SchemeKind.web.isSlash
        (root.toList ++ '/' :: (cs ++ pathChars rest))).map asSegment) =
      Parse.addSegments .web (segments ++ [root])
        ((splitOn SchemeKind.web.isSlash cs).map asSegment ++ rest) := by
  have hnamed : ∀ x ∈ [root], IsNamed x := fun x hx => List.mem_singleton.mp hx ▸ hroot.named
  have hne : (splitOn SchemeKind.web.isSlash (cs ++ pathChars rest)).map asSegment ≠ [] := by
    simpa using Text.splitOn_ne_nil _ _
  rw [Text.splitOn_append (by rfl), hroot.splitOn, List.map_append, List.map_singleton,
    hroot.asSegment, Parse.addSegments_append (by decide) hnamed hne, addSegments_text hrest]

theorem isNamed_asSegment (hescape : ¬HoldsEscape cs) (hdots : cs ≠ ['.'] ∧ cs ≠ ['.', '.']) :
    IsNamed (asSegment cs) := by
  have hmeaning : meaning (escape escapedInPath cs) = utf8 cs := by
    rw [meaning_escape sparesEscapes_path, meaning_of_not_holdsEscape hescape]
  refine ⟨?_, ?_⟩
  · by_contra hdot
    have hone := meaning_of_isDot (by simpa [asSegment] using hdot)
    rw [hmeaning] at hone
    exact hdots.1 (utf8_inj.mp hone)
  · by_contra hdot
    have htwo := meaning_of_isDoubleDot (by simpa [asSegment] using hdot)
    rw [hmeaning] at htwo
    exact hdots.2 (utf8_inj.mp htwo)

/-- Separators are what splits a path, ends it or is left out of it. -/
theorem not_mem_separators_iff : c ∉ ['/', '\\', '?', '#', '\t', '\n', '\r'] ↔
    SchemeKind.web.isSlash c = false ∧ (c ≠ '#' ∧ c ≠ '?') ∧ isDropped c = false := by
  have hweb : SchemeKind.web.isSpecial = true := rfl
  simp only [List.mem_cons, List.not_mem_nil, or_false, not_or, SchemeKind.isSlash, hweb,
    Bool.true_and, isDropped, Bool.or_eq_false_iff, beq_eq_false_iff_ne, ne_eq]
  tauto

/-- The text is a segment of its own exactly when nothing in it is read as anything else. -/
theorem holds_iff (hroot : IsRead root) (hrest : ∀ x ∈ rest, IsRead x) (hne : cs ≠ [])
    (h : below scheme authority segments
      (cleanEnd (root.toList ++ '/' :: (cs ++ pathChars rest))) = .ok u) :
    Holds u (segments ++ [root]) (String.ofList cs) rest ↔ IsOwnSegment cs rest := by
  obtain ⟨tidied, hclean, htidied⟩ := exists_tidied hrest cs
  have hfront : ∀ c ∈ root.toList ++ ['/'], 0x20 < c.toNat ∧ c ≠ '#' ∧ c ≠ '?' := by
    intro c hc
    rcases List.mem_append.mp hc with hc | hc
    · have hsolid := hroot.solid c hc
      exact ⟨hsolid.1, hsolid.ne_marks⟩
    · obtain rfl := List.mem_singleton.mp hc
      decide
  have hpath : cleanEnd (root.toList ++ '/' :: (cs ++ pathChars rest)) =
      root.toList ++ '/' :: (tidied ++ pathChars rest) := by
    have happend := cleanEnd_append (fun c hc => (hfront c hc).1) (cs ++ pathChars rest)
    rw [hclean] at happend
    simpa using happend
  rw [hpath] at h
  obtain ⟨p, -, hu⟩ := below_eq_ok h
  constructor
  · rintro ⟨segment, hsegments, hmeaning, hquery, hfragment⟩
    rw [← hu] at hsegments hquery hfragment
    have hmarks := of_splitTail_eq_none (Option.map_eq_none_iff.mp hquery)
      (Option.map_eq_none_iff.mp hfragment)
    have hsegments := Path.rooted.inj hsegments
    rw [splitTail_of_forall hmarks, addSegments_path hroot hrest] at hsegments
    obtain ⟨rfl, hslash, hescape, hnamed⟩ := of_addSegments_eq (fun x hx => (hrest x hx).named) hne
      htidied.sublist hsegments hmeaning
    obtain ⟨hdropped, hvisible⟩ := htidied.eq_iff.mp rfl
    refine ⟨?_, hescape, ?_, hvisible⟩
    · intro c hc
      exact not_mem_separators_iff.mpr
        ⟨hslash c hc, hmarks c (by simp [hc]), hdropped c hc⟩
    · refine ⟨?_, ?_⟩
      · rintro rfl
        cases hnamed.1
      · rintro rfl
        cases hnamed.2
  · intro hown
    have hplain := fun c hc => not_mem_separators_iff.mp (hown.separators c hc)
    obtain rfl : tidied = cs := htidied.eq_iff.mpr ⟨fun c hc => (hplain c hc).2.2, hown.visible⟩
    have hmarks : ∀ c ∈ root.toList ++ '/' :: (tidied ++ pathChars rest), c ≠ '#' ∧ c ≠ '?' := by
      intro c hc
      have hc : c ∈ (root.toList ++ ['/']) ++ (tidied ++ pathChars rest) := by simpa using hc
      rcases List.mem_append.mp hc with hc | hc
      · exact (hfront c hc).2
      rcases List.mem_append.mp hc with hc | hc
      · exact (hplain c hc).2.1
      · exact (ends_pathChars hrest c (List.mem_append_left _ hc)).2
    have hnamed := isNamed_asSegment hown.escapes hown.dots
    have hparts : (splitOn SchemeKind.web.isSlash tidied).map asSegment = [asSegment tidied] := by
      rw [Text.splitOn_of_forall fun c hc => (hplain c hc).1, List.map_singleton]
    have hadd : Parse.addSegments .web (segments ++ [root]) ([asSegment tidied] ++ rest) =
        segments ++ [root] ++ asSegment tidied :: rest := by
      apply Parse.addSegments_of_isNamed (by decide)
      intro x hx
      rcases List.mem_cons.mp hx with rfl | hx
      · exact hnamed
      · exact (hrest x hx).named
    rw [splitTail_of_forall hmarks, addSegments_path hroot hrest, hparts, hadd] at hu
    refine ⟨asSegment tidied, by rw [← hu]; rfl, ?_, by rw [← hu]; rfl, by rw [← hu]; rfl⟩
    rw [asSegment, unescaped?_eq_some_iff, meaning_escape sparesEscapes_path,
      meaning_of_not_holdsEscape hown.escapes, String.toList_ofList]

end HearingSync.Url
