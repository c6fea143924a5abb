import Mathlib.Algebra.Group.Nat.Defs
import HearingSync.Time.Render
import HearingSync.Time.Timestamp
/-!
Decimal digits. Main statements: the value of a number's digits is the number, whatever zeros are in
front, a scan takes the digits that stand there and leaves the rest, and a fraction of any length is
read by its first nine digits.
-/

namespace HearingSync

namespace Timestamp

theorem digitsValue_eq (ds : List Char) : digitsValue ds = Nat.ofDigitChars 10 ds 0 := by
  rw [Nat.ofDigitChars_eq_foldl]
  unfold digitsValue
  congr 1
  funext n c
  rw [Nat.mul_comm]
  rfl

/-- Zeros behind the digits are places of the number. -/
theorem digitsValue_append_zeros (ds : List Char) (n : Nat) :
    digitsValue (ds ++ List.replicate n '0') = 10 ^ n * digitsValue ds := by
  rw [digitsValue_eq, digitsValue_eq, Nat.ofDigitChars_append, Nat.ofDigitChars_replicate_zero]

theorem toNat_of_isDigit {c : Char} (h : c.isDigit = true) : 48 ≤ c.toNat ∧ c.toNat ≤ 57 := by
  simp only [Char.isDigit, Bool.and_eq_true, decide_eq_true_eq] at h
  exact h

theorem digitsValue_lt {ds : List Char} (h : ∀ c ∈ ds, c.isDigit = true) :
    digitsValue ds < 10 ^ ds.length := by
  rw [digitsValue_eq]
  induction ds with
  | nil => simp
  | cons c ds ih =>
    have hzero : '0'.toNat = 48 := rfl
    have hc : c.toNat - '0'.toNat ≤ 9 := by
      have hdigit := toNat_of_isDigit (h c (List.mem_cons_self ..))
      omega
    have hrest := ih fun d hd => h d (List.mem_cons_of_mem _ hd)
    have hplace := Nat.mul_le_mul_left (10 ^ ds.length) hc
    rw [Nat.ofDigitChars_cons, Nat.ofDigitChars_eq_ofDigitChars_zero, List.length_cons,
      Nat.pow_succ, Nat.mul_zero, Nat.zero_add]
    omega

end Timestamp

open Timestamp (digitsValue)

theorem digitsValue_paddedDigits (width n : Nat) : digitsValue (paddedDigits width n) = n := by
  rw [Timestamp.digitsValue_eq, paddedDigits, Nat.ofDigitChars_append,
    Nat.ofDigitChars_replicate_zero, Nat.mul_zero, Nat.ofDigitChars_ten_toDigits]

theorem isDigit_of_mem_paddedDigits (width n : Nat) :
    ∀ c ∈ paddedDigits width n, c.isDigit = true := by
  intro c h
  rcases List.mem_append.mp h with h | h
  · rw [List.eq_of_mem_replicate h]
    rfl
  · exact Nat.isDigit_of_mem_toDigits (by decide) (by decide) h

theorem length_paddedDigits {width n : Nat} (hw : 0 < width) (h : n < 10 ^ width) :
    (paddedDigits width n).length = width := by
  have hlength := (Nat.length_toDigits_le_iff (b := 10) (by decide) hw).mpr h
  simp only [paddedDigits, List.length_append, List.length_replicate]
  omega

theorem width_le_length_paddedDigits (width n : Nat) : width ≤ (paddedDigits width n).length := by
  simp only [paddedDigits, List.length_append, List.length_replicate]
  omega

namespace Timestamp

/-- A scan takes as many digits as it may, or all that there are. -/
theorem scanDigits_append (least : Nat) (most : Option Nat) {ds : List Char} (rest : List Char)
    (hds : ∀ c ∈ ds, c.isDigit = true) (hleast : least ≤ ds.length)
    (hmost : most = some ds.length ∨
      (rest.takeWhile Char.isDigit = [] ∧ ∀ n ∈ most, ds.length ≤ n))
    (hvalue : digitsValue ds < 9223372036854775808) :
    scanDigits least most (ds ++ rest) = .ok (digitsValue ds, rest) := by
  have hall : (ds ++ rest).takeWhile Char.isDigit = ds ++ rest.takeWhile Char.isDigit :=
    List.takeWhile_append_of_pos hds
  have hends {taken : List Char} (htaken : taken = ds) :
      (if taken.length < least then
        .error (if (ds ++ rest).length < least then .prematureEnd else .invalidCharacter)
      else if 9223372036854775808 ≤ digitsValue taken then .error .outOfRange
      else .ok (digitsValue taken, (ds ++ rest).drop taken.length) :
        Except TimestampFault (Nat × List Char)) = .ok (digitsValue ds, rest) := by
    rw [htaken, if_neg (by omega), if_neg (by omega), List.drop_left]
  unfold scanDigits
  cases most with
  | none =>
    obtain ⟨hstop, -⟩ := hmost.resolve_left nofun
    exact hends (by rw [hall, hstop, List.append_nil])
  | some n =>
    refine hends ?_
    rw [hall]
    rcases hmost with hn | ⟨hstop, hle⟩
    · obtain rfl := Option.some.inj hn
      exact List.take_left
    · rw [hstop, List.append_nil]
      exact List.take_of_length_le (hle n rfl)

def Stops (rest : List Char) : Prop := rest.takeWhile Char.isDigit = []

theorem dropWhile_of_stops {rest : List Char} (hstop : Stops rest) :
    rest.dropWhile Char.isDigit = rest := by
  have hsplit := List.takeWhile_append_dropWhile (p := Char.isDigit) (l := rest)
  rwa [hstop, List.nil_append] at hsplit

/-- The nanoseconds that the digits of a fraction stand for: those after the ninth are left out. -/
def nanoOf (ds : List Char) : Nat :=
  Nat.ofDigitChars 10 ((ds ++ List.replicate 9 '0').take 9) 0

theorem nanoOf_eq (ds : List Char) :
    nanoOf ds = digitsValue (ds.take 9 ++ List.replicate (9 - (ds.take 9).length) '0') := by
  have hfill : (ds ++ List.replicate 9 '0').take 9 =
      ds.take 9 ++ List.replicate (9 - (ds.take 9).length) '0' := by
    rw [List.take_append, List.take_replicate, List.length_take]
    congr 2
    omega
  rw [nanoOf, hfill, digitsValue_eq]

theorem nanoOf_paddedDigits {width n : Nat} (hwidth : 0 < width ∧ width ≤ 9)
    (hn : n < 10 ^ width) : nanoOf (paddedDigits width n) = 10 ^ (9 - width) * n := by
  have hlength := length_paddedDigits hwidth.1 hn
  have htake : (paddedDigits width n).take 9 = paddedDigits width n :=
    List.take_of_length_le (by omega)
  rw [nanoOf_eq, htake, digitsValue_append_zeros, digitsValue_paddedDigits, hlength]

/-- Digits after the ninth are passed over. -/
theorem scanFraction_digits {ds rest : List Char} (hds : ∀ c ∈ ds, c.isDigit = true) (hne : ds ≠ [])
    (hstop : Stops rest) : scanFraction (ds ++ rest) = .ok (nanoOf ds, rest) := by
  have hfirst : ∀ c ∈ ds.take 9, c.isDigit = true := fun c hc => hds c (List.mem_of_mem_take hc)
  have hsome : 1 ≤ (ds.take 9).length := by
    have hpos := List.length_pos_iff.mpr hne
    rw [List.length_take]
    omega
  have hmost : some 9 = some (ds.take 9).length ∨ ((ds.drop 9 ++ rest).takeWhile Char.isDigit = [] ∧
      ∀ n ∈ some 9, (ds.take 9).length ≤ n) := by
    by_cases hlong : 9 ≤ ds.length
    · exact .inl (by rw [List.length_take, Nat.min_eq_left hlong])
    · refine .inr ⟨?_, fun n hn => ?_⟩
      · rw [List.drop_eq_nil_of_le (by omega)]
        exact hstop
      · cases hn
        exact List.length_take_le 9 ds
  have hvalue : digitsValue (ds.take 9) < 9223372036854775808 := by
    have hlt := digitsValue_lt hfirst
    have hpow : 10 ^ (ds.take 9).length ≤ 10 ^ 9 :=
      Nat.pow_le_pow_right (by decide) (List.length_take_le 9 ds)
    omega
  have hscan := scanDigits_append 1 (some 9) (ds.drop 9 ++ rest) hfirst hsome hmost hvalue
  have htaken : (ds.take 9 ++ (ds.drop 9 ++ rest)).take
      ((ds.take 9 ++ (ds.drop 9 ++ rest)).length - (ds.drop 9 ++ rest).length) = ds.take 9 := by
    rw [List.length_append, Nat.add_sub_cancel]
    exact List.take_left
  have hrest : (ds.drop 9 ++ rest).dropWhile Char.isDigit = rest := by
    rw [List.dropWhile_append_of_pos fun c hc => hds c (List.mem_of_mem_drop hc)]
    exact dropWhile_of_stops hstop
  have hsplit : ds ++ rest = ds.take 9 ++ (ds.drop 9 ++ rest) := by
    rw [← List.append_assoc, List.take_append_drop]
  unfold scanFraction
  rw [hsplit, hscan]
  change Except.ok (_, _) = _
  rw [htaken, hrest, nanoOf_eq]

end Timestamp

end HearingSync
