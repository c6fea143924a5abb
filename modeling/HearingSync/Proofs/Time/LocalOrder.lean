import Mathlib.Data.Int.Init
import Mathlib.Data.List.Chain
import HearingSync.Proofs.Time.Calendar
import HearingSync.Time.London
/-!
The order of clock readings. Readings in London of two instants have the order of the instants,
unless the clocks go back in between. Main statements: how much later an instant has to be for its
reading not to be earlier, and that an hour is always enough.
-/

namespace HearingSync

namespace WallClock

variable {a b : WallClock}

theorem lt_iff : a < b ↔
    a.epochSecond < b.epochSecond ∨ a.epochSecond = b.epochSecond ∧ a.nano < b.nano := by
  have ha := a.second_lt
  have hb := b.second_lt
  have hunfold : a < b ↔ a.isBefore b = true := Iff.rfl
  simp only [hunfold, isBefore, epochSecond, Bool.or_eq_true, Bool.and_eq_true, decide_eq_true_eq,
    beq_iff_eq]
  omega

theorem epochSecond_addSeconds (w : WallClock) (seconds : Int) :
    (w.addSeconds seconds).epochSecond = w.epochSecond + seconds := by
  simp only [epochSecond, addSeconds]
  omega

theorem nano_addSeconds (w : WallClock) (seconds : Int) :
    (w.addSeconds seconds).nano = w.nano := rfl

theorem eq_of_epochSecond_eq (h : a.epochSecond = b.epochSecond) (hnano : a.nano = b.nano) :
    a = b := by
  obtain ⟨date, second, nano, hsecond, hnano_lt⟩ := a
  obtain ⟨date', second', nano', hsecond', hnano_lt'⟩ := b
  unfold epochSecond at h
  dsimp only at h hnano
  obtain rfl : second = second' := by omega
  obtain rfl : date = date' := Date.ext_number (by omega)
  subst hnano
  rfl

theorem addSeconds_zero (w : WallClock) : w.addSeconds 0 = w :=
  eq_of_epochSecond_eq ((epochSecond_addSeconds w 0).trans (Int.add_zero _)) rfl

theorem addSeconds_addSeconds (w : WallClock) (j k : Int) :
    (w.addSeconds j).addSeconds k = w.addSeconds (j + k) :=
  eq_of_epochSecond_eq (by simp only [epochSecond_addSeconds, Int.add_assoc]) rfl

theorem addSeconds_lt_addSeconds {j k : Int} :
    a.addSeconds j < b.addSeconds k ↔ a < b.addSeconds (k - j) := by
  simp only [lt_iff, epochSecond_addSeconds, nano_addSeconds]
  omega

theorem lt_of_lt_addSeconds {k : Int} (h : a < b.addSeconds k) (hk : k ≤ 0) : a < b := by
  simp only [lt_iff, epochSecond_addSeconds, nano_addSeconds] at h ⊢
  omega

theorem lt_addSeconds_of_le {j k : Int} (h : a < b.addSeconds j) (hjk : j ≤ k) :
    a < b.addSeconds k := by
  simp only [lt_iff, epochSecond_addSeconds, nano_addSeconds] at h ⊢
  omega

theorem epochSecond_le_of_lt (h : a < b) : a.epochSecond ≤ b.epochSecond := by
  have hcases := lt_iff.mp h
  omega

theorem epochSecond_le_of_not_lt (h : ¬b < a) : a.epochSecond ≤ b.epochSecond := by
  rw [lt_iff, not_or] at h
  omega

end WallClock

namespace London

/-- Seconds by which the clocks are further back at a later instant. -/
def setBack (s t : Int) : Int := offsetAt s - offsetAt t

/-- The clocks go back after `s` and not after `t`. -/
def GoBackWithin (s t : Int) : Prop :=
  ∃ change, s < change ∧ change ≤ t ∧ offsetAt change < offsetAt (change - 1)

theorem goBackWithin_of_setBack {s t : Int} (hst : s ≤ t) (h : 0 < setBack s t) :
    GoBackWithin s t := by
  unfold setBack at h
  induction t, hst using Int.leInduction with
  | base => omega
  | succ t hst ih =>
    by_cases hlast : offsetAt (t + 1) < offsetAt t
    · refine ⟨t + 1, by omega, Int.le_refl (t + 1), ?_⟩
      rw [Int.add_sub_cancel]
      exact hlast
    · obtain ⟨change, hs, ht, hfall⟩ := ih (by omega)
      exact ⟨change, hs, by omega, hfall⟩

section Table

def IsDayApart (change later : Int × Int) : Prop := change.1 + 86400 < later.1

instance (change later : Int × Int) : Decidable (IsDayApart change later) :=
  inferInstanceAs (Decidable (change.1 + 86400 < later.1))

instance : Trans IsDayApart IsDayApart IsDayApart where
  trans h k := by
    unfold IsDayApart at *
    omega

def FallsByAnHour (before : Int) (table : List (Int × Int)) : Prop :=
  (before :: table.map Prod.snd).IsChain fun offset next => offset - next ≤ 3600

variable {table : List (Int × Int)} {before s t : Int}

theorem offsetFrom_cons (change : Int × Int) (table : List (Int × Int)) (before t : Int) :
    offsetFrom (change :: table) before t =
      offsetFrom table (if change.1 ≤ t then change.2 else before) t := rfl

theorem offsetFrom_of_before (h : ∀ change ∈ table, t < change.1) :
    offsetFrom table before t = before := by
  induction table with
  | nil => rfl
  | cons change table ih =>
    have hchange : ¬change.1 ≤ t := Int.not_le.mpr (h change List.mem_cons_self)
    rw [offsetFrom_cons, if_neg hchange]
    exact ih fun later hmem => h later (List.mem_cons_of_mem change hmem)

/-- An offset is the one before all changes or that of one of them. -/
theorem offsetFrom_within {P : Int → Prop} (hbefore : P before)
    (h : ∀ change ∈ table, P change.2) : P (offsetFrom table before t) := by
  induction table generalizing before with
  | nil => exact hbefore
  | cons change table ih =>
    rw [offsetFrom_cons]
    have hrest : ∀ later ∈ table, P later.2 :=
      fun later hmem => h later (List.mem_cons_of_mem change hmem)
    by_cases hchange : change.1 ≤ t
    · rw [if_pos hchange]
      exact ih (h change List.mem_cons_self) hrest
    · rw [if_neg hchange]
      exact ih hbefore hrest

/-- Within a day the clocks go back once at most, and by an hour at most. -/
theorem offsetFrom_sub_le (hapart : table.Pairwise IsDayApart) (hfalls : FallsByAnHour before table)
    (hst : s ≤ t) (hday : t ≤ s + 86400) :
    offsetFrom table before s - offsetFrom table before t ≤ 3600 := by
  induction table generalizing before with
  | nil => simp [offsetFrom]
  | cons change table ih =>
    obtain ⟨hlater, hrest⟩ := List.pairwise_cons.mp hapart
    obtain ⟨hfall, hfalls⟩ := List.isChain_cons_cons.mp hfalls
    rw [offsetFrom_cons, offsetFrom_cons]
    by_cases hs : change.1 ≤ s
    · have ht : change.1 ≤ t := by omega
      rw [if_pos hs, if_pos ht]
      exact ih hrest hfalls
    -- The changes that follow come after both instants.
    · have hafter : ∀ later ∈ table, t < later.1 ∧ s < later.1 := by
        intro later hmem
        have hgap : change.1 + 86400 < later.1 := hlater later hmem
        omega
      rw [if_neg hs, offsetFrom_of_before fun later hmem => (hafter later hmem).1,
        offsetFrom_of_before fun later hmem => (hafter later hmem).2]
      by_cases ht : change.1 ≤ t
      · rw [if_pos ht]
        exact hfall
      · rw [if_neg ht]
        omega

end Table

theorem transitions_areDaysApart : transitions.Pairwise IsDayApart := by
  have hchain : transitions.IsChain IsDayApart := by decide +kernel
  exact hchain.pairwise

theorem transitions_fallByAnHour : FallsByAnHour localMeanOffset transitions := by
  unfold FallsByAnHour
  decide +kernel

theorem offsetAt_within (t : Int) : localMeanOffset ≤ offsetAt t ∧ offsetAt t ≤ 7200 := by
  have htable : ∀ change ∈ transitions, localMeanOffset ≤ change.2 ∧ change.2 ≤ 7200 := by
    decide +kernel
  exact offsetFrom_within (P := fun offset => localMeanOffset ≤ offset ∧ offset ≤ 7200)
    (by decide) htable

theorem setBack_le {s t : Int} (hst : s ≤ t) (hday : t ≤ s + 86400) : setBack s t ≤ 3600 :=
  offsetFrom_sub_le transitions_areDaysApart transitions_fallByAnHour hst hday

end London

namespace Instant

variable {s t : Instant}

/-- A reading is earlier where the instant comes by less later than the clocks go back. -/
theorem toLondon_lt_toLondon : t.toLondon < s.toLondon ↔
    t.utc < s.utc.addSeconds (London.setBack s.epochSecond t.epochSecond) :=
  WallClock.addSeconds_lt_addSeconds

/-- Readings in the wrong order are of one night in which the clocks go back: they do so in between,
and the instants are less than an hour apart. -/
theorem goBackWithin_of_toLondon_lt (hst : ¬t < s) (h : t.toLondon < s.toLondon) :
    London.GoBackWithin s.epochSecond t.epochSecond ∧ t.utc < s.utc.addSeconds 3600 := by
  have hlt := toLondon_lt_toLondon.mp h
  have hle : s.epochSecond ≤ t.epochSecond := WallClock.epochSecond_le_of_not_lt hst
  have hseconds : t.epochSecond ≤
      s.epochSecond + London.setBack s.epochSecond t.epochSecond := by
    have hadd := WallClock.epochSecond_le_of_lt hlt
    rwa [WallClock.epochSecond_addSeconds] at hadd
  have hpositive : 0 < London.setBack s.epochSecond t.epochSecond := by
    by_contra hnot
    exact hst (WallClock.lt_of_lt_addSeconds hlt (by omega))
  have hday : t.epochSecond ≤ s.epochSecond + 86400 := by
    have hs := London.offsetAt_within s.epochSecond
    have ht := London.offsetAt_within t.epochSecond
    unfold London.setBack London.localMeanOffset at *
    omega
  exact ⟨London.goBackWithin_of_setBack hle hpositive,
    WallClock.lt_addSeconds_of_le hlt (London.setBack_le hle hday)⟩

end Instant

end HearingSync
