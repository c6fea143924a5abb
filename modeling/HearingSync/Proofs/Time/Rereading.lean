import HearingSync.Proofs.Json.Rereading
import HearingSync.Proofs.Time.LocalOrder
import HearingSync.Time.Stored
/-!
Stored dates, clock readings and instants. Main statements: whatever was read from a stored text, of
any year and to the nanosecond, leap seconds included, is read again from the text that it is
written as.
-/

namespace HearingSync

namespace Timestamp

theorem dropBlanks_digits {ds rest : List Char} (hds : ∀ c ∈ ds, c.isDigit = true) (hne : ds ≠ []) :
    Text.dropBlanks (ds ++ rest) = ds ++ rest := by
  cases ds with
  | nil => exact absurd rfl hne
  | cons c ds =>
    have hc := toNat_of_isDigit (hds c (List.mem_cons_self ..))
    have hblank : Text.isBlank c = false := by
      simp only [Text.isBlank, Bool.or_eq_false_iff, Bool.and_eq_false_iff, decide_eq_false_iff_not,
        beq_eq_false_iff_ne]
      omega
    exact List.dropWhile_cons_of_neg (by simp [hblank])

theorem scanLoose_digits {p : Part} {ds : List Char} (hds : ∀ c ∈ ds, c.isDigit = true)
    (hlength : ds.length = p.width) (hvalue : digitsValue ds < 9223372036854775808)
    (rest : List Char) : scanLoose p (ds ++ rest) = .ok ((digitsValue ds : Int), rest) := by
  have hwidth : 1 ≤ p.width := by cases p <;> decide
  have hne : ds ≠ [] := by
    rintro rfl
    rw [List.length_nil] at hlength
    omega
  have hscan := scanDigits_append 1 (some p.width) rest hds (by omega)
    (.inl (by rw [hlength])) hvalue
  have hhead {c : Char} {cs : List Char} (h : ds ++ rest = c :: cs) : c.isDigit = true := by
    cases ds with
    | nil => exact absurd rfl hne
    | cons d ds => cases h; exact hds _ (List.mem_cons_self ..)
  unfold scanLoose
  rw [dropBlanks_digits hds hne]
  dsimp only
  split
  · rename_i h
    cases hhead h
  · rename_i h
    cases hhead h
  · rw [hscan]
    rfl

theorem scanLoose_number (p : Part) {n : Nat} (h : n < 10 ^ p.width) (rest : List Char) :
    scanLoose p (paddedDigits p.width n ++ rest) = .ok ((n : Int), rest) := by
  have hwidth : 0 < p.width ∧ 10 ^ p.width ≤ 10000 := by cases p <;> decide
  have hscan := scanLoose_digits (p := p) (isDigit_of_mem_paddedDigits p.width n)
    (length_paddedDigits hwidth.1 h) (by rw [digitsValue_paddedDigits]; omega) rest
  rwa [digitsValue_paddedDigits] at hscan

/-- A year of any size, with its sign where it has one. -/
theorem scanLoose_year {y : Int} (h : -2147483648 ≤ y ∧ y ≤ 2147483647) {rest : List Char}
    (hstop : Stops rest) : scanLoose .year (yearText y ++ rest) = .ok (y, rest) := by
  have hsigned := scanDigits_append 1 none rest
    (isDigit_of_mem_paddedDigits 4 y.natAbs)
    ((width_le_length_paddedDigits 4 y.natAbs).trans' (by decide)) (.inr ⟨hstop, nofun⟩)
    (by rw [digitsValue_paddedDigits]; omega)
  rw [digitsValue_paddedDigits] at hsigned
  unfold yearText
  by_cases hplain : 0 ≤ y ∧ y ≤ 9999
  · have hnat : y.toNat < 10 ^ Part.year.width := by
      have hwidth : 10 ^ Part.year.width = 10000 := rfl
      omega
    rw [if_pos hplain]
    refine (scanLoose_number .year hnat rest).trans ?_
    rw [Int.toNat_of_nonneg hplain.1]
  · rw [if_neg hplain]
    by_cases hneg : y < 0
    · rw [if_pos hneg]
      have hminus : -(y.natAbs : Int) = y := by omega
      have hscan : scanLoose .year ('-' :: paddedDigits 4 y.natAbs ++ rest) =
          .ok (-(y.natAbs : Int), rest) := by
        change (scanDigits 1 none (paddedDigits 4 y.natAbs ++ rest) >>= _) = _
        rw [hsigned]
        rfl
      rw [hscan, hminus]
    · rw [if_neg hneg]
      have hplus : (y.natAbs : Int) = y := by omega
      have hscan : scanLoose .year ('+' :: paddedDigits 4 y.natAbs ++ rest) =
          .ok ((y.natAbs : Int), rest) := by
        change (scanDigits 1 none (paddedDigits 4 y.natAbs ++ rest) >>= _) = _
        rw [hsigned]
        rfl
      rw [hscan, hplus]

section Items

variable {f g : Parts} {cs rest : List Char} {items : List Item}

theorem scanItems_cons {item : Item} (h : item.scan f cs = .ok (g, rest)) :
    scanItems (item :: items) f cs = scanItems items g rest := by
  change (item.scan f cs >>= fun x => scanItems items x.1 x.2) = _
  rw [h]
  rfl

theorem scanItems_loose {p : Part} {v : Int} (hscan : scanLoose p cs = .ok (v, rest))
    (hset : f.set p v = .ok g) : scanItems (.loose p :: items) f cs = scanItems items g rest := by
  refine scanItems_cons ?_
  change (scanLoose p cs >>= fun x => f.set p x.1 >>= fun g => pure (g, x.2)) = _
  rw [hscan]
  change (f.set p v >>= fun g => pure (g, rest)) = _
  rw [hset]
  rfl

theorem scanItems_number {p : Part} {n : Nat} (h : n < 10 ^ p.width) (hset : f.set p n = .ok g) :
    scanItems (.loose p :: items) f (paddedDigits p.width n ++ rest) = scanItems items g rest :=
  scanItems_loose (scanLoose_number p h rest) hset

theorem scanItems_mark (c : Char) :
    scanItems (.mark c :: items) f (c :: rest) = scanItems items f rest :=
  scanItems_cons (if_pos (beq_self_eq_true c))

theorem scanItems_blanks (h : Text.dropBlanks cs = cs) :
    scanItems (.blanks :: items) f cs = scanItems items f cs :=
  scanItems_cons (congrArg (fun ds => Except.ok (f, ds)) h)

end Items

theorem year_bounds {c : CivilDate} (h : c.isValid = true) :
    -2147483648 ≤ c.year ∧ c.year ≤ 2147483647 := by
  have hyear := (CivilDate.isValid_iff.mp h).1
  simp only [CivilDate.isRepresentable, Bool.and_eq_true, decide_eq_true_eq] at hyear
  omega

/-- The items of a date read a date that was written. -/
theorem scanItems_date {c : CivilDate} (hc : c.isValid = true) (f : Parts) (items : List Item)
    (rest : List Char) : scanItems (dateItems ++ items) f (c.text ++ rest) =
      scanItems items { f with year := c.year, month := c.month, day := c.day } rest := by
  obtain ⟨-, hm, hm', hd, hd'⟩ := CivilDate.isValid_iff.mp hc
  have hday : c.day ≤ 31 := hd'.trans (CivilDate.daysInMonth_le _ _)
  have hrange := year_bounds hc
  simp only [CivilDate.text, List.append_assoc, List.cons_append]
  calc scanItems (dateItems ++ items) f (yearText c.year ++
          '-' :: (paddedDigits 2 c.month ++ '-' :: (paddedDigits 2 c.day ++ rest)))
      = scanItems (dateItems.drop 1 ++ items) { f with year := c.year }
          ('-' :: (paddedDigits 2 c.month ++ '-' :: (paddedDigits 2 c.day ++ rest))) :=
        scanItems_loose (scanLoose_year hrange rfl) (if_pos hrange)
    _ = scanItems (dateItems.drop 3 ++ items) { f with year := c.year }
          (paddedDigits 2 c.month ++ '-' :: (paddedDigits 2 c.day ++ rest)) :=
        (scanItems_blanks rfl).trans (scanItems_mark '-')
    _ = scanItems (dateItems.drop 4 ++ items)
          { f with year := c.year, month := c.month }
          ('-' :: (paddedDigits 2 c.day ++ rest)) :=
        scanItems_number (p := .month) (by change _ < 100; omega) (if_pos (by omega))
    _ = scanItems (.loose .day :: items) { f with year := c.year, month := c.month }
          (paddedDigits 2 c.day ++ rest) :=
        (scanItems_blanks rfl).trans (scanItems_mark '-')
    _ = scanItems items { f with year := c.year, month := c.month, day := c.day } rest :=
        scanItems_number (p := .day) (by change _ < 100; omega) (if_pos (by omega))

def pointed (ds : List Char) : List Char :=
  if ds = [] then [] else '.' :: ds

def Parts.withFraction (f : Parts) (ds : List Char) : Parts :=
  if ds = [] then f else { f with nano := nanoOf ds }

theorem Parts.withFraction_of_nano {f : Parts} (h : f.nano = 0) (ds : List Char) :
    f.withFraction ds = { f with nano := nanoOf ds } := by
  unfold withFraction
  split
  · rename_i hnone
    rw [hnone]
    exact congrArg (fun nano => { f with nano }) h
  · rfl

/-- A fraction ends with the text, or at what is neither a digit nor a point. -/
structure EndsFraction (rest : List Char) : Prop where
  stops : Stops rest
  noPoint : ∀ cs, rest ≠ '.' :: cs

theorem scanItems_pointed {f : Parts} {items : List Item} {ds rest : List Char}
    (hds : ∀ c ∈ ds, c.isDigit = true) (hrest : EndsFraction rest) :
    scanItems (.fraction :: items) f (pointed ds ++ rest) =
      scanItems items (f.withFraction ds) rest := by
  refine scanItems_cons ?_
  unfold pointed Parts.withFraction
  by_cases hnone : ds = []
  · rw [if_pos hnone, if_pos hnone, List.nil_append]
    simp only [Item.scan]
    split
    · exact absurd rfl (hrest.noPoint _)
    · rfl
  · rw [if_neg hnone, if_neg hnone]
    change (scanFraction (ds ++ rest) >>= fun x => pure ({ f with nano := x.1 }, x.2)) = _
    rw [scanFraction_digits hds hnone hrest.stops]
    rfl

/-- The fewest digits that lose nothing of a fraction stand for that fraction. -/
theorem fractionText_eq_pointed {nano : Nat} (h : nano < 1000000000) :
    ∃ ds, (∀ c ∈ ds, c.isDigit = true) ∧ nanoOf ds = nano ∧
      WallClock.fractionText nano = pointed ds := by
  have hdigits {width n : Nat} (hwidth : 0 < width ∧ width ≤ 9) (hn : n < 10 ^ width)
      (hnano : 10 ^ (9 - width) * n = nano) : ∃ ds, (∀ c ∈ ds, c.isDigit = true) ∧
        nanoOf ds = nano ∧ '.' :: paddedDigits width n = pointed ds := by
    have hlength := length_paddedDigits hwidth.1 hn
    have hsome : paddedDigits width n ≠ [] := List.ne_nil_of_length_pos (by omega)
    exact ⟨_, isDigit_of_mem_paddedDigits width n, (nanoOf_paddedDigits hwidth hn).trans hnano,
      (if_neg hsome).symm⟩
  unfold WallClock.fractionText
  by_cases hnone : nano = 0
  · rw [if_pos hnone]
    exact ⟨[], nofun, hnone.symm, rfl⟩
  rw [if_neg hnone]
  by_cases hmilli : nano % 1000000 = 0
  · rw [if_pos hmilli]
    exact hdigits (by decide) (by change _ < 1000; omega) (by change 1000000 * _ = _; omega)
  rw [if_neg hmilli]
  by_cases hmicro : nano % 1000 = 0
  · rw [if_pos hmicro]
    exact hdigits (by decide) (by change _ < 1000000; omega) (by change 1000 * _ = _; omega)
  · rw [if_neg hmicro]
    exact hdigits (by decide) h (Nat.one_mul nano)

theorem scanItems_fraction {f : Parts} {nano : Nat} (hf : f.nano = 0) (hn : nano < 1000000000)
    (items : List Item) {rest : List Char} (hrest : EndsFraction rest) :
    scanItems (.fraction :: items) f (WallClock.fractionText nano ++ rest) =
      scanItems items { f with nano := nano } rest := by
  obtain ⟨ds, hds, hnano, htext⟩ := fractionText_eq_pointed hn
  rw [htext, scanItems_pointed hds hrest, Parts.withFraction_of_nano hf, hnano]

structure Closes (rest : List Char) : Prop extends EndsFraction rest where
  noBlank : Text.dropBlanks rest = rest

end Timestamp

namespace WallClock

theorem hour_lt (w : WallClock) : w.hour < 24 := by
  have h := w.second_lt
  unfold hour
  omega

theorem minute_lt (w : WallClock) : w.minute < 60 := Nat.mod_lt _ (by decide)

end WallClock

namespace Timestamp

/-- The items of a time read a time that was written. -/
theorem scanItems_time (w : WallClock) {f : Parts} (rest : List Char) (hf : f.nano = 0)
    (hsecond : w.shownSecond ≤ 60) (hrest : Closes rest) :
    scanItems timeItems f (w.exactTimeText ++ rest) =
      .ok ({ f with hour := w.hour, minute := w.minute, second := w.shownSecond,
                    nano := w.shownNano }, rest) := by
  have hhour := w.hour_lt
  have hminute := w.minute_lt
  have hnano : w.shownNano < 1000000000 := Nat.mod_lt _ (by decide)
  simp only [WallClock.exactTimeText, WallClock.secondText, WallClock.minuteText, List.append_assoc,
    List.cons_append]
  calc scanItems timeItems f (paddedDigits 2 w.hour ++ ':' :: (paddedDigits 2 w.minute ++
          ':' :: (paddedDigits 2 w.shownSecond ++ (WallClock.fractionText w.shownNano ++ rest))))
      = scanItems (timeItems.drop 1) { f with hour := w.hour } (':' :: (paddedDigits 2 w.minute ++
          ':' :: (paddedDigits 2 w.shownSecond ++
            (WallClock.fractionText w.shownNano ++ rest)))) :=
        scanItems_number (p := .hour) (by change _ < 100; omega) (if_pos (by omega))
    _ = scanItems (timeItems.drop 3) { f with hour := w.hour } (paddedDigits 2 w.minute ++
          ':' :: (paddedDigits 2 w.shownSecond ++ (WallClock.fractionText w.shownNano ++ rest))) :=
        (scanItems_blanks rfl).trans (scanItems_mark ':')
    _ = scanItems (timeItems.drop 4) { f with hour := w.hour, minute := w.minute }
          (':' :: (paddedDigits 2 w.shownSecond ++
            (WallClock.fractionText w.shownNano ++ rest))) :=
        scanItems_number (p := .minute) (by change _ < 100; omega) (if_pos (by omega))
    _ = scanItems (timeItems.drop 6) { f with hour := w.hour, minute := w.minute }
          (paddedDigits 2 w.shownSecond ++ (WallClock.fractionText w.shownNano ++ rest)) :=
        (scanItems_blanks rfl).trans (scanItems_mark ':')
    _ = scanItems (timeItems.drop 7)
          { f with hour := w.hour, minute := w.minute, second := w.shownSecond }
          (WallClock.fractionText w.shownNano ++ rest) :=
        scanItems_number (p := .second) (by change _ < 100; omega) (if_pos (by omega))
    _ = scanItems [.blanks] { f with hour := w.hour, minute := w.minute, second := w.shownSecond,
                                     nano := w.shownNano } rest :=
        scanItems_fraction (by exact hf) hnano [.blanks] hrest.toEndsFraction
    _ = _ := scanItems_blanks hrest.noBlank

end Timestamp

/-- A clock reading that a text can tell: its date is one of the calendar's, and only the last
second of a minute may be a leap second. -/
structure WallClock.IsCivil (w : WallClock) : Prop where
  representable : w.date.isRepresentable = true
  leap : 1000000000 ≤ w.nano → w.second % 60 = 59

theorem WallClock.IsCivil.shownSecond_le {w : WallClock} (h : w.IsCivil) : w.shownSecond ≤ 60 := by
  have hnano := w.nano_lt
  have hleap := h.leap
  unfold WallClock.shownSecond
  omega

namespace Timestamp

def Parts.ofDate (d : Date) : Parts :=
  { year := d.civil.year, month := d.civil.month, day := d.civil.day }

def Parts.of (w : WallClock) : Parts :=
  { Parts.ofDate w.date with
    hour := w.hour, minute := w.minute, second := w.shownSecond, nano := w.shownNano }

theorem date_of {d : Date} (h : d.isRepresentable = true) {f : Parts}
    (hyear : f.year = d.civil.year) (hmonth : f.month = d.civil.month)
    (hday : f.day = d.civil.day) :
    f.date = .ok d := by
  have hcivil : ({ year := f.year, month := f.month, day := f.day } : CivilDate) = d.civil := by
    rw [hyear, hmonth, hday]
  unfold Parts.date
  rw [hcivil]
  exact (if_pos (Date.civil_isValid h)).trans (congrArg Except.ok (Date.civil_spec d).1)

theorem wallClock_of {w : WallClock} (h : w.IsCivil) : (Parts.of w).wallClock = .ok w := by
  have hsecond_lt := w.second_lt
  have hnano_lt := w.nano_lt
  have hleap := h.leap
  have hparts : (if (Parts.of w).second = 60 then 1 else 0) = w.nano / 1000000000 := by
    change (if w.shownSecond = 60 then 1 else 0) = _
    unfold WallClock.shownSecond
    split <;> omega
  have hsecond : (Parts.of w).hour * 3600 + (Parts.of w).minute * 60 + (Parts.of w).second -
      w.nano / 1000000000 = w.second := by
    change w.hour * 3600 + w.minute * 60 + w.shownSecond - _ = _
    unfold WallClock.hour WallClock.minute WallClock.shownSecond
    omega
  have hnano : (Parts.of w).nano + w.nano / 1000000000 * 1000000000 = w.nano := by
    change w.shownNano + _ = _
    unfold WallClock.shownNano
    omega
  unfold Parts.wallClock
  rw [date_of h.representable rfl rfl rfl]
  simp only [hparts, hsecond, hnano]
  exact dif_pos ⟨hsecond_lt, hnano_lt⟩

theorem endsFraction_nil : EndsFraction [] := ⟨rfl, nofun⟩

theorem closes_nil : Closes [] := ⟨endsFraction_nil, rfl⟩

theorem closes_universal : Closes ['Z'] := ⟨⟨rfl, by simp⟩, rfl⟩

/-- The text of a date is read as its parts, whatever comes after it. -/
theorem scanItems_dateText {d : Date} (h : d.isRepresentable = true) (items : List Item)
    (rest : List Char) :
    scanItems (dateItems ++ items) {} (d.text ++ rest) = scanItems items (Parts.ofDate d) rest :=
  scanItems_date (Date.civil_isValid h) {} items rest

theorem readStoredDate?_text {d : Date} (h : d.isRepresentable = true) :
    readStoredDate? (String.ofList d.text) = some d := by
  have hscan : scanItems (dateItems ++ [.blanks]) {} d.text = .ok (Parts.ofDate d, []) := by
    have hdate := scanItems_dateText h [.blanks] []
    rw [List.append_nil] at hdate
    exact hdate.trans (scanItems_blanks rfl)
  unfold readStoredDate? readAll
  rw [String.toList_ofList, hscan]
  change okToOption (Parts.ofDate d).date = _
  rw [date_of h rfl rfl rfl]
  rfl

theorem readStoredWallClock?_text {w : WallClock} (h : w.IsCivil) :
    readStoredWallClock? w.text = some w := by
  have htime :
      scanItems timeItems (Parts.ofDate w.date) w.exactTimeText = .ok (Parts.of w, []) := by
    have hscan := scanItems_time w (f := Parts.ofDate w.date) [] rfl h.shownSecond_le closes_nil
    rwa [List.append_nil] at hscan
  have hscan : scanItems (dateItems ++ [.blanks, .mark 'T'] ++ timeItems) {}
      (w.date.text ++ 'T' :: w.exactTimeText) = .ok (Parts.of w, []) := by
    rw [List.append_assoc, scanItems_dateText h.representable]
    exact (scanItems_blanks rfl).trans ((scanItems_mark 'T').trans htime)
  unfold readStoredWallClock? readAll
  rw [WallClock.text, String.toList_ofList, hscan]
  change okToOption (Parts.of w).wallClock = _
  rw [wallClock_of h]
  rfl

theorem atOffset_zero {w : WallClock} (h : w.date.isRepresentable = true) :
    atOffset w 0 = some ⟨w⟩ := by
  unfold atOffset
  rw [if_pos (by decide), Int.neg_zero, WallClock.addSeconds_zero]
  exact if_pos h

theorem readStoredInstant?_text {t : Instant} (h : t.utc.IsCivil) :
    readStoredInstant? t.text = some t := by
  have htext : t.text.toList = t.utc.date.text ++ 'T' :: (t.utc.exactTimeText ++ ['Z']) := by
    simp [Instant.text]
  have hdate : scanItems dateItems {} (t.utc.date.text ++ 'T' :: (t.utc.exactTimeText ++ ['Z'])) =
      .ok (Parts.ofDate t.utc.date, 'T' :: (t.utc.exactTimeText ++ ['Z'])) := by
    have hscan := scanItems_dateText h.representable [] ('T' :: (t.utc.exactTimeText ++ ['Z']))
    rwa [List.append_nil] at hscan
  have htime : scanItems (.separator :: timeItems) (Parts.ofDate t.utc.date)
      ('T' :: (t.utc.exactTimeText ++ ['Z'])) = .ok (Parts.of t.utc, ['Z']) :=
    (scanItems_cons rfl).trans
      (scanItems_time t.utc ['Z'] rfl h.shownSecond_le closes_universal)
  unfold readStoredInstant?
  simp only [htext, hdate, htime, okToOption, wallClock_of h, Option.bind_eq_bind,
    Option.bind_some]
  exact atOffset_zero h.representable

/-! What was read is civil. -/

theorem nano_of_set {f g : Parts} {p : Part} {v : Int} (h : f.set p v = .ok g) :
    g.nano = f.nano := by
  cases p <;> (simp only [Parts.set] at h; split at h) <;> cases h <;> rfl

/-- Nine digits make less than a thousand million. -/
theorem scanFraction_lt {cs rest : List Char} {n : Nat} (h : scanFraction cs = .ok (n, rest)) :
    n < 1000000000 := by
  obtain ⟨⟨v, after⟩, hscan, h⟩ := exists_of_bind_eq_ok h
  cases h
  have hprefix : (cs.takeWhile Char.isDigit).take 9 <+: cs :=
    (List.take_prefix _ _).trans (List.takeWhile_prefix _)
  have hlength : cs.length - after.length = ((cs.takeWhile Char.isDigit).take 9).length := by
    unfold scanDigits at hscan
    dsimp only at hscan
    split at hscan
    · cases hscan
    split at hscan
    · cases hscan
    · cases hscan
      have hle := hprefix.length_le
      rw [List.length_drop]
      omega
  rw [hlength, ← List.prefix_iff_eq_take.mp hprefix]
  generalize hds : (cs.takeWhile Char.isDigit).take 9 = ds
  have hdigits : ∀ c ∈ ds ++ List.replicate (9 - ds.length) '0', c.isDigit = true := by
    intro c hc
    rcases List.mem_append.mp hc with hc | hc
    · exact List.all_eq_true.mp List.all_takeWhile c (List.mem_of_mem_take (hds ▸ hc))
    · rw [List.eq_of_mem_replicate hc]
      rfl
  have hnine : (ds ++ List.replicate (9 - ds.length) '0').length = 9 := by
    have : ds.length ≤ 9 := hds ▸ List.length_take_le ..
    simp only [List.length_append, List.length_replicate]
    omega
  have h := digitsValue_lt hdigits
  rwa [hnine] at h

theorem nano_of_scan {item : Item} {f g : Parts} {cs rest : List Char}
    (h : item.scan f cs = .ok (g, rest)) (hf : f.nano < 1000000000) : g.nano < 1000000000 := by
  cases item with
  | exact p =>
    obtain ⟨⟨n, ds⟩, -, h⟩ := exists_of_bind_eq_ok h
    obtain ⟨f', hset, h⟩ := exists_of_bind_eq_ok h
    cases h
    rwa [nano_of_set hset]
  | loose p =>
    obtain ⟨⟨n, ds⟩, -, h⟩ := exists_of_bind_eq_ok h
    obtain ⟨f', hset, h⟩ := exists_of_bind_eq_ok h
    cases h
    rwa [nano_of_set hset]
  | mark c =>
    simp only [Item.scan] at h
    split at h
    · cases h
    · split at h <;> cases h
      exact hf
  | separator =>
    simp only [Item.scan] at h
    split at h
    · cases h
    · split at h <;> cases h
      exact hf
  | blanks =>
    cases h
    exact hf
  | fraction =>
    simp only [Item.scan] at h
    split at h
    · obtain ⟨⟨n, ds⟩, hscan, h⟩ := exists_of_bind_eq_ok h
      cases h
      exact scanFraction_lt hscan
    · cases h
      exact hf

theorem nano_of_scanItems {items : List Item} {f g : Parts} {cs rest : List Char}
    (h : scanItems items f cs = .ok (g, rest)) (hf : f.nano < 1000000000) :
    g.nano < 1000000000 := by
  induction items generalizing f cs with
  | nil =>
    cases h
    exact hf
  | cons item items ih =>
    obtain ⟨⟨f', ds⟩, hitem, hrest⟩ := exists_of_bind_eq_ok h
    exact ih hrest (nano_of_scan hitem hf)

theorem isRepresentable_of_date {f : Parts} {d : Date} (h : f.date = .ok d) :
    d.isRepresentable = true := by
  unfold Parts.date at h
  dsimp only at h
  split at h
  · rename_i hvalid
    cases h
    exact CivilDate.toDate_isRepresentable hvalid
  · cases h

theorem isCivil_of_wallClock {f : Parts} {w : WallClock} (hf : f.nano < 1000000000)
    (h : f.wallClock = .ok w) : w.IsCivil := by
  obtain ⟨d, hdate, h⟩ := exists_of_bind_eq_ok h
  have hd := isRepresentable_of_date hdate
  by_cases h60 : f.second = 60
  · simp only [if_pos h60] at h
    split at h
    · cases h
      exact ⟨hd, fun _ => by dsimp only; omega⟩
    · cases h
  · simp only [if_neg h60] at h
    split at h
    · cases h
      exact ⟨hd, fun hleap => by dsimp only at hleap; omega⟩
    · cases h

theorem eq_ok_of_okToOption {ε α : Type} {x : Except ε α} {a : α} (h : okToOption x = some a) :
    x = .ok a := by
  cases x with
  | error e => cases h
  | ok b => cases h; rfl

theorem isRepresentable_of_read {s : String} {d : Date} (h : readStoredDate? s = some d) :
    d.isRepresentable = true := by
  obtain ⟨⟨f, rest⟩, -, h⟩ := exists_of_bind_eq_ok (eq_ok_of_okToOption h)
  dsimp only at h
  split at h
  · exact isRepresentable_of_date h
  · cases h

theorem isCivil_of_read {s : String} {w : WallClock} (h : readStoredWallClock? s = some w) :
    w.IsCivil := by
  obtain ⟨⟨f, rest⟩, hscan, h⟩ := exists_of_bind_eq_ok (eq_ok_of_okToOption h)
  dsimp only at h
  split at h
  · exact isCivil_of_wallClock (nano_of_scanItems hscan (by decide)) h
  · cases h

/-- An offset is of whole minutes, so that a leap second stays the last of its minute. -/
theorem dvd_of_scanOffset {style : OffsetStyle} {cs rest : List Char} {offset : Int}
    (h : scanOffset style cs = some (offset, rest)) : 60 ∣ offset := by
  unfold scanOffset at h
  split at h
  · cases h
    exact Int.dvd_zero 60
  · cases h
    exact Int.dvd_zero 60
  · obtain ⟨⟨sign, signed⟩, -, h⟩ := Option.bind_eq_some_iff.mp h
    obtain ⟨⟨hours, behind⟩, -, h⟩ := Option.bind_eq_some_iff.mp h
    obtain ⟨set, -, h⟩ := Option.bind_eq_some_iff.mp h
    obtain ⟨⟨minutes, last⟩, -, h⟩ := Option.bind_eq_some_iff.mp h
    dsimp only at h
    split at h
    · cases h
      exact Int.dvd_mul_of_dvd_right (by omega)
    · cases h

theorem isCivil_of_atOffset {w : WallClock} {offset : Int} {t : Instant} (hw : w.IsCivil)
    (hoffset : 60 ∣ offset) (h : atOffset w offset = some t) : t.utc.IsCivil := by
  unfold atOffset at h
  dsimp only at h
  split at h
  · split at h
    · rename_i hrange
      cases h
      refine ⟨hrange, fun hleap => ?_⟩
      have hsecond := hw.leap hleap
      change ((w.second + -offset) % 86400).toNat % 60 = 59
      omega
    · cases h
  · cases h

theorem isCivil_of_readInstant {s : String} {t : Instant} (h : readStoredInstant? s = some t) :
    t.utc.IsCivil := by
  obtain ⟨⟨f, behindDate⟩, hdate, h⟩ := Option.bind_eq_some_iff.mp h
  obtain ⟨⟨g, behindTime⟩, htime, h⟩ := Option.bind_eq_some_iff.mp h
  have hnano := nano_of_scanItems (eq_ok_of_okToOption htime)
    (nano_of_scanItems (eq_ok_of_okToOption hdate) (by decide))
  have hend {offset : Int} {rest : List Char} (hdvd : 60 ∣ offset)
      (h : (okToOption g.wallClock >>= fun w =>
        if (Text.dropBlanks rest).isEmpty then atOffset w offset else none) = some t) :
      t.utc.IsCivil := by
    obtain ⟨w, hw, h⟩ := Option.bind_eq_some_iff.mp h
    split at h
    · exact isCivil_of_atOffset (isCivil_of_wallClock hnano (eq_ok_of_okToOption hw)) hdvd h
    · cases h
  dsimp only at h
  split at h
  · split at h
    · exact hend (Int.dvd_zero 60) h
    · obtain ⟨⟨offset, rest⟩, hoffset, h⟩ := Option.bind_eq_some_iff.mp h
      exact hend (dvd_of_scanOffset hoffset) h
  · obtain ⟨⟨offset, rest⟩, hoffset, h⟩ := Option.bind_eq_some_iff.mp h
    exact hend (dvd_of_scanOffset hoffset) h

end Timestamp

theorem decodeStored_rereads {α : Type} {read? : String → Option α} {text : α → String}
    (h : ∀ {s a}, read? s = some a → read? (text a) = some a) :
    Json.Rereads (decodeStored read?) fun a => .string (text a) where
  again {j a} hread := by
    have hagain : read? (text a) = some a := by
      unfold decodeStored at hread
      split at hread
      · rename_i s
        cases hs : read? s with
        | none =>
          rw [hs] at hread
          cases hread
        | some b =>
          rw [hs] at hread
          cases hread
          exact h hs
      · cases hread
    change (read? (text a)).elim _ _ = _
    rw [hagain]
    rfl
  whole _ := nofun

theorem Date.rereads : Json.Rereads Date.decode Date.encode :=
  decodeStored_rereads fun h => Timestamp.readStoredDate?_text (Timestamp.isRepresentable_of_read h)

theorem WallClock.rereads : Json.Rereads WallClock.decode WallClock.encode :=
  decodeStored_rereads fun h => Timestamp.readStoredWallClock?_text (Timestamp.isCivil_of_read h)

theorem Instant.rereads : Json.Rereads Instant.decode Instant.encode :=
  decodeStored_rereads fun h =>
    Timestamp.readStoredInstant?_text (Timestamp.isCivil_of_readInstant h)

end HearingSync
