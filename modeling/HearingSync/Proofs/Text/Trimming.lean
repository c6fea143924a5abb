import HearingSync.Text.Blank
import Mathlib.Data.List.DropRight
/-!
Texts with white space around them. Main statements: a text is what trimming leaves of it, with
white space around; what is left starts and ends with other characters, if anything is left, and is
the only such text; and two texts are left with the same exactly when they differ in the white space
around them.
-/

namespace HearingSync.Text

variable {s t core : String} {cs before after : List Char}

def AreBlank (cs : List Char) : Prop := ∀ c ∈ cs, isBlank c = true

def Pads (s core : String) : Prop :=
  ∃ before after, AreBlank before ∧ AreBlank after ∧ s.toList = before ++ core.toList ++ after

def SameWithin (s t : String) : Prop := ∃ core, Pads s core ∧ Pads t core

/-- The text starts and ends with characters that are no white space. -/
structure IsTight (t : String) : Prop where
  first : ∃ c, t.toList.head? = some c ∧ isBlank c = false
  last : ∃ c, t.toList.getLast? = some c ∧ isBlank c = false

theorem dropTrailingBlanks_eq (cs : List Char) :
    dropTrailingBlanks cs = cs.rdropWhile isBlank := by
  induction cs with
  | nil => rfl
  | cons c cs ih =>
    have hcons : (c :: cs).rdropWhile isBlank =
        if cs.rdropWhile isBlank = [] then (if isBlank c then [] else [c])
        else c :: cs.rdropWhile isBlank := by
      simp only [List.rdropWhile, List.reverse_cons, List.dropWhile_append]
      by_cases hrest : List.dropWhile isBlank cs.reverse = []
      · by_cases hc : isBlank c = true <;> simp [hrest, hc]
      · simp [hrest]
    rw [hcons, dropTrailingBlanks, ih]
    cases cs.rdropWhile isBlank <;> rfl

theorem trimChars_eq (cs : List Char) :
    trimChars cs = (cs.dropWhile isBlank).rdropWhile isBlank := dropTrailingBlanks_eq _

theorem rdropWhile_append_blank (h : AreBlank after) :
    (cs ++ after).rdropWhile isBlank = cs.rdropWhile isBlank := by
  rw [List.rdropWhile, List.reverse_append, List.dropWhile_append_of_pos, List.rdropWhile]
  intro c hc
  exact h c (List.mem_reverse.mp hc)

theorem trimChars_of_areBlank (h : AreBlank cs) : trimChars cs = [] := by
  rw [trimChars_eq, List.dropWhile_eq_nil_iff.mpr h]
  rfl

/-- White space around the characters leaves no trace. -/
theorem trimChars_append (hbefore : AreBlank before) (hafter : AreBlank after) :
    trimChars (before ++ cs ++ after) = trimChars cs := by
  by_cases hcs : AreBlank cs
  · rw [trimChars_of_areBlank hcs, trimChars_of_areBlank]
    intro c hc
    simp only [List.mem_append] at hc
    rcases hc with (hc | hc) | hc
    · exact hbefore c hc
    · exact hcs c hc
    · exact hafter c hc
  · have hsome : cs.dropWhile isBlank ≠ [] := fun hnil => hcs (List.dropWhile_eq_nil_iff.mp hnil)
    rw [trimChars_eq, trimChars_eq, List.append_assoc, List.dropWhile_append_of_pos hbefore,
      List.dropWhile_append, if_neg (by simpa using hsome), rdropWhile_append_blank hafter]

theorem pads_trim (s : String) : Pads s (trim s) := by
  refine ⟨s.toList.takeWhile isBlank, (s.toList.dropWhile isBlank).rtakeWhile isBlank,
    fun c => List.mem_takeWhile_imp, fun c => List.mem_rtakeWhile_imp, ?_⟩
  rw [toList_trim, trimChars_eq, List.append_assoc, List.rdropWhile_append_rtakeWhile,
    List.takeWhile_append_dropWhile]

theorem trim_of_pads (h : Pads s core) : trim s = trim core := by
  obtain ⟨before, after, hbefore, hafter, hs⟩ := h
  rw [trim, hs, trimChars_append hbefore hafter]
  rfl

theorem isTight_trim (h : trim s ≠ "") : IsTight (trim s) := by
  have hsome : (trim s).toList ≠ [] := fun hnil => h (String.toList_eq_nil_iff.mp hnil)
  constructor
  · obtain ⟨c, hc⟩ := Option.ne_none_iff_exists'.mp (mt List.head?_eq_none_iff.mp hsome)
    have hdrop : (trim s).toList.dropWhile isBlank = (trim s).toList := by
      rw [toList_trim]
      exact dropBlanks_dropTrailingBlanks (dropBlanks_idem _)
    have hfirst := List.head?_dropWhile_not isBlank (trim s).toList
    rw [hdrop, hc] at hfirst
    exact ⟨c, hc, by simpa using hfirst⟩
  · have hdrop : (trim s).toList.rdropWhile isBlank = (trim s).toList := by
      rw [toList_trim, trimChars_eq, List.rdropWhile_idempotent]
    have hlast := List.rdropWhile_eq_self_iff.mp hdrop hsome
    exact ⟨_, List.getLast?_eq_some_getLast hsome, by simpa using hlast⟩

theorem trim_of_isTight (h : IsTight t) : trim t = t := by
  obtain ⟨c, hc, hfirst⟩ := h.first
  obtain ⟨d, hd, hlast⟩ := h.last
  have hkept : trimChars t.toList = t.toList := by
    have hdrop : t.toList.dropWhile isBlank = t.toList := by
      obtain ⟨rest, hrest⟩ := List.head?_eq_some_iff.mp hc
      rw [hrest, List.dropWhile_cons_of_neg (by simp [hfirst])]
    obtain ⟨front, hfront⟩ := List.getLast?_eq_some_iff.mp hd
    rw [trimChars_eq, hdrop, hfront, List.rdropWhile_concat_neg _ _ _ (by simp [hlast])]
  rw [trim, hkept, String.ofList_toList]

/-- What trimming leaves is the only tight text that the text pads. -/
theorem trim_eq_iff (ht : IsTight t) : trim s = t ↔ Pads s t := by
  constructor
  · rintro rfl
    exact pads_trim s
  · intro h
    rw [trim_of_pads h, trim_of_isTight ht]

theorem isAllBlank_iff : isAllBlank s = true ↔ AreBlank s.toList := List.all_eq_true

theorem trim_eq_empty_iff : trim s = "" ↔ isAllBlank s = true := by
  rw [isAllBlank_iff]
  constructor
  · intro h
    obtain ⟨before, after, hbefore, hafter, hs⟩ := pads_trim s
    rw [hs, h]
    intro c hc
    simp only [String.toList_empty, List.append_nil, List.mem_append] at hc
    exact hc.elim (hbefore c) (hafter c)
  · intro h
    rw [trim, trimChars_of_areBlank h]

theorem sameWithin_iff : SameWithin s t ↔ trim s = trim t := by
  constructor
  · rintro ⟨core, hs, ht⟩
    rw [trim_of_pads hs, trim_of_pads ht]
  · intro h
    exact ⟨trim s, pads_trim s, h ▸ pads_trim t⟩

instance (s t : String) : Decidable (SameWithin s t) := decidable_of_iff _ sameWithin_iff.symm

end HearingSync.Text
