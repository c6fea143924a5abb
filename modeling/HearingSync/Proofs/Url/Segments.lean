import HearingSync.Proofs.Url.Escapes
import Mathlib.Data.List.DropRight
/-!
Paths of segments. Main statements: a segment that is no dot is put behind those before it, whatever
else a path does only takes segments away or ends it, and so each segment that is new in a path is
empty or one of those that were read. Segments that were read once are read again as they are.
-/

namespace HearingSync

namespace Text

variable {isSeparator : Char → Bool} {cs ds part : List Char} {c : Char}

theorem splitOn_of_forall (h : ∀ c ∈ cs, isSeparator c = false) :
    splitOn isSeparator cs = [cs] := by
  induction cs with
  | nil => rfl
  | cons c cs ih =>
    rw [splitOn, ih fun d hd => h d (List.mem_cons_of_mem c hd), h c List.mem_cons_self]
    rfl

/-- A separator splits a text, whatever stands around it. -/
theorem splitOn_append (hc : isSeparator c = true) (cs ds : List Char) :
    splitOn isSeparator (cs ++ c :: ds) = splitOn isSeparator cs ++ splitOn isSeparator ds := by
  induction cs with
  | nil =>
    rw [List.nil_append, splitOn]
    exact if_pos hc
  | cons d cs ih =>
    obtain ⟨first, rest, hparts⟩ := List.exists_cons_of_ne_nil (splitOn_ne_nil isSeparator cs)
    rw [List.cons_append, splitOn, splitOn, ih, hparts]
    by_cases hd : isSeparator d = true
    · rw [if_pos hd, if_pos hd]
      rfl
    · rw [if_neg hd, if_neg hd]
      rfl

theorem of_mem_splitOn (h : part ∈ splitOn isSeparator cs) :
    part.Sublist cs ∧ ∀ c ∈ part, isSeparator c = false := by
  induction cs generalizing part with
  | nil =>
    obtain rfl := List.mem_singleton.mp h
    exact ⟨.slnil, fun _ hc => by cases hc⟩
  | cons c cs ih =>
    rw [splitOn] at h
    by_cases hc : isSeparator c = true
    · rw [if_pos hc] at h
      rcases List.mem_cons.mp h with rfl | h
      · exact ⟨List.nil_sublist _, fun _ hd => by cases hd⟩
      · exact ⟨(ih h).1.cons c, (ih h).2⟩
    · rw [if_neg hc] at h
      obtain ⟨first, rest, hparts⟩ := List.exists_cons_of_ne_nil (splitOn_ne_nil isSeparator cs)
      rw [hparts] at h ih
      rcases List.mem_cons.mp h with rfl | h
      · obtain ⟨hsub, hsep⟩ := ih List.mem_cons_self
        refine ⟨hsub.cons_cons c, ?_⟩
        intro d hd
        rcases List.mem_cons.mp hd with rfl | hd
        · simpa using hc
        · exact hsep d hd
      · obtain ⟨hsub, hsep⟩ := ih (List.mem_cons_of_mem first h)
        exact ⟨hsub.cons c, hsep⟩

end Text

namespace Url.Parse

open Text (splitOn)

def IsNamed (segment : String) : Prop := isDot segment = false ∧ isDoubleDot segment = false

variable {k : SchemeKind} {path : List String} {segment : String} {isLast : Bool}
  {segments : List String} {P : String → Prop} {n : Nat}

theorem addSegment_of_isNamed (hk : k ≠ .file) (h : IsNamed segment) :
    addSegment k path segment isLast = path ++ [segment] := by
  simp [addSegment, h.1, h.2, hk]

theorem dropLastSegment_prefix (path : List String) : dropLastSegment path <+: path := by
  unfold dropLastSegment
  cases path.getLast? with
  | none => exact List.nil_prefix
  | some segment =>
    simp only
    split
    · exact List.prefix_refl path
    · exact List.dropLast_prefix path

/-- What is true of the segments after the first `n`, of an empty one and of the new one, is true of
those after the first `n` from then on. -/
theorem addSegment_forall (hk : k ≠ .file) (hpath : ∀ x ∈ path.drop n, P x) (hempty : P "")
    (hnew : IsNamed segment → P segment) :
    ∀ x ∈ (addSegment k path segment isLast).drop n, P x := by
  have happend {path : List String} (hpath : ∀ x ∈ path.drop n, P x) {segment : String}
      (hs : P segment) : ∀ x ∈ (path ++ [segment]).drop n, P x := by
    intro x hx
    rw [List.drop_append] at hx
    rcases List.mem_append.mp hx with hx | hx
    · exact hpath x hx
    · exact List.mem_singleton.mp (List.mem_of_mem_drop hx) ▸ hs
  have hdrop : ∀ x ∈ (dropLastSegment path).drop n, P x := by
    obtain ⟨rest, hrest⟩ := dropLastSegment_prefix path
    intro x hx
    apply hpath
    rw [← hrest, List.drop_append]
    exact List.mem_append_left _ hx
  unfold addSegment
  by_cases hdd : isDoubleDot segment = true
  · rw [if_pos hdd]
    cases isLast with
    | false => exact hdrop
    | true => exact happend hdrop hempty
  rw [if_neg hdd]
  by_cases hd : isDot segment = true
  · rw [if_pos hd]
    cases isLast with
    | false => exact hpath
    | true => exact happend hpath hempty
  rw [if_neg hd, if_neg fun h => hk h.1]
  exact happend hpath (hnew ⟨by simpa using hd, by simpa using hdd⟩)

theorem addSegment_last_ne_nil (k : SchemeKind) (path : List String) (segment : String) :
    addSegment k path segment true ≠ [] := by
  have happend (path : List String) (x : String) : path ++ [x] ≠ [] := by simp
  unfold addSegment
  split
  · exact happend _ _
  split
  · exact happend _ _
  split
  · simp
  · exact happend _ _

/-- The path after segments of which none is the last. -/
def through (k : SchemeKind) (path segments : List String) : List String :=
  segments.foldl (fun path segment => addSegment k path segment false) path

theorem addSegments_concat (k : SchemeKind) (path segments : List String) (last : String) :
    addSegments k path (segments ++ [last]) = addSegment k (through k path segments) last true := by
  induction segments generalizing path with
  | nil => rfl
  | cons segment segments ih =>
    obtain ⟨next, rest, hrest⟩ : ∃ next rest, segments ++ [last] = next :: rest :=
      List.exists_cons_of_ne_nil (by simp)
    have hstep : addSegments k path (segment :: (segments ++ [last])) =
        addSegments k (addSegment k path segment false) (segments ++ [last]) := by
      rw [hrest]
      rfl
    rw [List.cons_append, hstep, ih]
    rfl

theorem through_of_isNamed (hk : k ≠ .file) (h : ∀ x ∈ segments, IsNamed x) :
    through k path segments = path ++ segments := by
  induction segments generalizing path with
  | nil => exact (List.append_nil path).symm
  | cons segment segments ih =>
    rw [through, List.foldl_cons, addSegment_of_isNamed hk (h segment List.mem_cons_self)]
    rw [← through, ih fun x hx => h x (List.mem_cons_of_mem segment hx), List.append_assoc]
    rfl

theorem through_append (k : SchemeKind) (path first second : List String) :
    through k path (first ++ second) = through k (through k path first) second := List.foldl_append

/-- Named segments at the end stay there. -/
theorem addSegments_append_of_isNamed (hk : k ≠ .file) (h : ∀ x ∈ segments, IsNamed x)
    (hne : segments ≠ []) (path first : List String) :
    addSegments k path (first ++ segments) = through k path first ++ segments := by
  obtain ⟨init, last, rfl⟩ := (List.eq_nil_or_concat' segments).resolve_left hne
  have hinit : ∀ x ∈ init, IsNamed x := fun x hx => h x (List.mem_append_left [last] hx)
  have hlast : IsNamed last := h last (List.mem_append_right init (List.mem_singleton_self last))
  rw [← List.append_assoc, addSegments_concat, through_append, through_of_isNamed hk hinit,
    addSegment_of_isNamed hk hlast, List.append_assoc]

theorem addSegments_of_isNamed (hk : k ≠ .file) (h : ∀ x ∈ segments, IsNamed x) :
    addSegments k path segments = path ++ segments := by
  by_cases hne : segments = []
  · rw [hne]
    exact (List.append_nil path).symm
  · exact addSegments_append_of_isNamed hk h hne path []

/-- Named segments at the head are taken one by one. -/
theorem addSegments_append (hk : k ≠ .file) (h : ∀ x ∈ segments, IsNamed x) {rest : List String}
    (hrest : rest ≠ []) : addSegments k path (segments ++ rest) =
      addSegments k (path ++ segments) rest := by
  obtain ⟨init, last, rfl⟩ := (List.eq_nil_or_concat' rest).resolve_left hrest
  rw [← List.append_assoc, addSegments_concat, addSegments_concat, ← through_of_isNamed hk h,
    through_append]

theorem through_forall (hk : k ≠ .file) (hpath : ∀ x ∈ path.drop n, P x) (hempty : P "")
    (hnew : ∀ x ∈ segments, IsNamed x → P x) : ∀ x ∈ (through k path segments).drop n, P x := by
  induction segments generalizing path with
  | nil => exact hpath
  | cons segment segments ih =>
    apply ih
    · exact addSegment_forall hk hpath hempty (hnew segment List.mem_cons_self)
    · exact fun x hx => hnew x (List.mem_cons_of_mem segment hx)

/-- Each segment after the first `n` was there before, or is empty, or was read and is no dot. -/
theorem addSegments_forall (hk : k ≠ .file) (hpath : ∀ x ∈ path.drop n, P x) (hempty : P "")
    (hnew : ∀ x ∈ segments, IsNamed x → P x) :
    ∀ x ∈ (addSegments k path segments).drop n, P x := by
  rcases List.eq_nil_or_concat' segments with rfl | ⟨init, last, rfl⟩
  · exact hpath
  · rw [addSegments_concat]
    have hinit := through_forall hk hpath hempty fun x hx => hnew x (List.mem_append_left [last] hx)
    exact addSegment_forall hk hinit hempty
      (hnew last (List.mem_append_right init (List.mem_singleton_self last)))

end Url.Parse

end HearingSync
