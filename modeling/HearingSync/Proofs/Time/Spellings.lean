import HearingSync.Proofs.Time.Rereading
/-!
Spellings of one instant. The notation with an offset and the one without read dates and times of
four-digit years in the same way. Main statement: a clock reading in universal time, with the mark
of universal time or without it, and the reading ahead of it or behind it with its offset, are all
read as that instant, whatever number of digits its fraction has.
-/

namespace HearingSync

namespace Timestamp

/-- What stands behind the year of a timestamp: numbers of two digits, in range or not, and the
digits of the fraction. -/
structure Fields where
  month : Nat
  day : Nat
  hour : Nat
  minute : Nat
  second : Nat
  fraction : List Char
  month_lt : month < 100 := by omega
  day_lt : day < 100 := by omega
  hour_lt : hour < 100 := by omega
  minute_lt : minute < 100 := by omega
  second_lt : second < 100 := by omega
  fraction_digits : ∀ c ∈ fraction, c.isDigit = true

namespace Fields

def text (s : Fields) : List Char :=
  '-' :: (paddedDigits 2 s.month ++ '-' :: (paddedDigits 2 s.day ++ 'T' ::
    (paddedDigits 2 s.hour ++ ':' :: (paddedDigits 2 s.minute ++ ':' ::
      (paddedDigits 2 s.second ++ pointed s.fraction)))))

def setOn (s : Fields) (f : Parts) : Except TimestampFault Parts := do
  let f ← f.set .month s.month
  let f ← f.set .day s.day
  let f ← f.set .hour s.hour
  let f ← f.set .minute s.minute
  let f ← f.set .second s.second
  return f.withFraction s.fraction

end Fields

def itemsBehindYear (number : Part → Item) (gap : Item) : List Item :=
  [.mark '-', number .month, .mark '-', number .day, gap, number .hour, .mark ':',
   number .minute, .mark ':', number .second, .fraction]

theorem strictItems_eq : strictItems = .exact .year :: itemsBehindYear .exact .separator := rfl

theorem zonelessItems_eq : zonelessItems = .loose .year :: itemsBehindYear .loose (.mark 'T') := rfl

/-- The items read a number that has all its digits, and the separator that is written. -/
structure Reads (number : Part → Item) (gap : Item) : Prop where
  numbers : ∀ (p : Part) {n : Nat} (f : Parts) (rest : List Char), n < 10 ^ p.width →
    (number p).scan f (paddedDigits p.width n ++ rest) = (f.set p n).map fun g => (g, rest)
  gaps : ∀ (f : Parts) (rest : List Char), gap.scan f ('T' :: rest) = .ok (f, rest)

theorem reads_exact : Reads .exact .separator where
  numbers p n f rest h := by
    have hwidth : 0 < p.width ∧ 10 ^ p.width ≤ 10000 := by cases p <;> decide
    have hlength := length_paddedDigits hwidth.1 h
    have hscan := scanDigits_append p.width (some p.width) rest
      (isDigit_of_mem_paddedDigits p.width n) (Nat.le_of_eq hlength.symm)
      (.inl (congrArg some hlength.symm)) (by rw [digitsValue_paddedDigits]; omega)
    rw [digitsValue_paddedDigits] at hscan
    change (scanDigits p.width (some p.width) (paddedDigits p.width n ++ rest) >>= _) = _
    rw [hscan]
    change (f.set p n >>= _) = _
    cases f.set p n <;> rfl
  gaps f rest := rfl

theorem reads_loose : Reads .loose (.mark 'T') where
  numbers p n f rest h := by
    change (scanLoose p (paddedDigits p.width n ++ rest) >>= _) = _
    rw [scanLoose_number p h rest]
    change (f.set p n >>= _) = _
    cases f.set p n <;> rfl
  gaps f rest := rfl

variable {number : Part → Item} {gap : Item} {f : Parts} {rest : List Char}
  {items : List Item}

theorem Reads.scanItems_number (h : Reads number gap) (p : Part) (hp : p.width = 2) {n : Nat}
    (hn : n < 100) : scanItems (number p :: items) f (paddedDigits 2 n ++ rest) =
      (f.set p n >>= fun g => scanItems items g rest) := by
  have hscan := h.numbers p f rest (show n < 10 ^ p.width by rw [hp]; exact hn)
  rw [hp] at hscan
  change ((number p).scan f (paddedDigits 2 n ++ rest) >>= fun x => scanItems items x.1 x.2) = _
  rw [hscan]
  cases f.set p n <;> rfl

theorem Reads.scanItems_gap (h : Reads number gap) :
    scanItems (gap :: items) f ('T' :: rest) = scanItems items f rest :=
  scanItems_cons (h.gaps f rest)

theorem Reads.scanItems_fields (h : Reads number gap) (s : Fields) (hrest : EndsFraction rest) :
    scanItems (itemsBehindYear number gap) f (s.text ++ rest) =
      (s.setOn f).map fun g => (g, rest) := by
  simp only [itemsBehindYear, Fields.text, List.cons_append, List.append_assoc, scanItems_mark,
    h.scanItems_gap, h.scanItems_number .month rfl s.month_lt, h.scanItems_number .day rfl s.day_lt,
    h.scanItems_number .hour rfl s.hour_lt, h.scanItems_number .minute rfl s.minute_lt,
    h.scanItems_number .second rfl s.second_lt, scanItems_pointed s.fraction_digits hrest]
  change _ = (fun g => (g, rest)) <$> s.setOn f
  simp only [Fields.setOn, map_bind, map_pure]
  rfl

structure Fields.InRange (s : Fields) : Prop where
  month : 1 ≤ s.month ∧ s.month ≤ 12
  day : 1 ≤ s.day ∧ s.day ≤ 31
  hour : s.hour ≤ 23
  minute : s.minute ≤ 59
  second : s.second ≤ 60

theorem Fields.InRange.setOn {s : Fields} (h : s.InRange) (hnano : f.nano = 0) : s.setOn f =
    .ok { f with month := s.month, day := s.day, hour := s.hour, minute := s.minute
                 second := s.second, nano := nanoOf s.fraction } := by
  have hmonth : 1 ≤ (s.month : Int) ∧ (s.month : Int) ≤ 12 := by have := h.month; omega
  have hday : 1 ≤ (s.day : Int) ∧ (s.day : Int) ≤ 31 := by have := h.day; omega
  have hhour : 0 ≤ (s.hour : Int) ∧ (s.hour : Int) ≤ 23 := by have := h.hour; omega
  have hminute : 0 ≤ (s.minute : Int) ∧ (s.minute : Int) ≤ 59 := by have := h.minute; omega
  have hsecond : 0 ≤ (s.second : Int) ∧ (s.second : Int) ≤ 60 := by have := h.second; omega
  simp only [Fields.setOn, Parts.set, Int.toNat_natCast, if_pos hmonth, if_pos hday, if_pos hhour,
    if_pos hminute, if_pos hsecond]
  exact congrArg Except.ok (Parts.withFraction_of_nano (by exact hnano) s.fraction)

def Fields.of (w : WallClock) (ds : List Char) (hds : ∀ c ∈ ds, c.isDigit = true) : Fields where
  month := w.date.civil.month
  day := w.date.civil.day
  hour := w.hour
  minute := w.minute
  second := w.shownSecond
  fraction := ds
  month_lt := (CivilDate.civil_inCalendar w.date).month_le.trans_lt (by decide)
  day_lt := (CivilDate.civil_inCalendar w.date).day_le_last.trans_lt (by decide)
  hour_lt := w.hour_lt.trans (by decide)
  minute_lt := w.minute_lt.trans (by decide)
  second_lt := by have h := w.nano_lt; unfold WallClock.shownSecond; omega
  fraction_digits := hds

/-- A clock reading with a fraction of one's own. -/
def spelling (w : WallClock) (ds : List Char) : List Char :=
  w.date.text ++ 'T' :: (w.secondText ++ pointed ds)

variable {w : WallClock} {ds : List Char} {hds : ∀ c ∈ ds, c.isDigit = true}

theorem spelling_eq (hds : ∀ c ∈ ds, c.isDigit = true) :
    spelling w ds = yearText w.date.civil.year ++ (Fields.of w ds hds).text := by
  simp only [spelling, Fields.text, Fields.of, Date.text, CivilDate.text, WallClock.secondText,
    WallClock.minuteText, List.append_assoc, List.cons_append]

theorem inRange_of (hw : w.IsCivil) : (Fields.of w ds hds).InRange where
  month := ⟨(CivilDate.civil_inCalendar w.date).one_le_month,
    (CivilDate.civil_inCalendar w.date).month_le⟩
  day := ⟨(CivilDate.civil_inCalendar w.date).one_le_day,
    (CivilDate.civil_inCalendar w.date).day_le_last⟩
  hour := Nat.le_of_lt_succ w.hour_lt
  minute := Nat.le_of_lt_succ w.minute_lt
  second := hw.shownSecond_le

theorem setOn_of (hw : w.IsCivil) (hfraction : nanoOf ds = w.shownNano) :
    (Fields.of w ds hds).setOn { year := w.date.civil.year } = .ok (Parts.of w) := by
  rw [(inRange_of hw).setOn rfl]
  unfold Parts.of
  rw [← hfraction]
  rfl

structure Stamp extends Fields where
  year : Nat
  year_lt : year < 10000 := by omega

namespace Stamp

def text (s : Stamp) : List Char := paddedDigits 4 s.year ++ s.toFields.text

def parts (s : Stamp) : Except TimestampFault Parts := s.toFields.setOn { year := s.year }

end Stamp

/-- Both notations read the same from a date and time whose year has four digits. -/
theorem Reads.scanItems_stamp (h : Reads number gap) (s : Stamp) (hrest : EndsFraction rest) :
    scanItems (number .year :: itemsBehindYear number gap) {} (s.text ++ rest) =
      s.parts.map fun g => (g, rest) := by
  have hyear : -2147483648 ≤ (s.year : Int) ∧ (s.year : Int) ≤ 2147483647 := by
    have hlt := s.year_lt
    omega
  have hscan : (number .year).scan {} (paddedDigits 4 s.year ++ (s.toFields.text ++ rest)) =
      .ok ({ year := s.year }, s.toFields.text ++ rest) := by
    have hnumber := h.numbers .year {} (s.toFields.text ++ rest) s.year_lt
    rw [show Parts.set {} .year s.year = .ok { year := s.year } from if_pos hyear] at hnumber
    exact hnumber
  rw [Stamp.text, List.append_assoc, scanItems_cons hscan]
  exact h.scanItems_fields s.toFields hrest

section Reading

variable {cs : List Char} {g : Parts} {u : WallClock} {t : Instant} {offset : Int}

/-- Where nothing is left for it there is no offset. -/
theorem readStrict?_eq_none
    (h : ∀ f rest, scanItems strictItems {} cs = .ok (f, rest) → rest = []) :
    readStrict? cs = none := by
  unfold readStrict?
  cases hscan : scanItems strictItems {} cs with
  | error fault => rfl
  | ok scanned =>
    obtain ⟨f, rest⟩ := scanned
    obtain rfl := h f rest hscan
    rfl

theorem readInstant_of_zoneless (hstrict : readStrict? cs = none)
    (hscan : scanItems zonelessItems {} cs = .ok (g, [])) (hclock : g.wallClock = .ok u) :
    readInstant (String.ofList cs) = .ok ⟨u⟩ := by
  have hall : readAll zonelessItems Parts.wallClock cs = .ok u := by
    unfold readAll
    rw [hscan]
    exact hclock
  unfold readInstant
  rw [String.toList_ofList, hstrict, hall]

theorem zoneless_of_readInstant (hstrict : readStrict? cs = none)
    (h : readInstant (String.ofList cs) = .ok t) :
    ∃ g, scanItems zonelessItems {} cs = .ok (g, []) ∧ g.wallClock = .ok t.utc := by
  unfold readInstant at h
  rw [String.toList_ofList, hstrict] at h
  cases hall : readAll zonelessItems Parts.wallClock cs with
  | error fault =>
    rw [hall] at h
    cases h
  | ok u =>
    rw [hall] at h
    cases h
    obtain ⟨⟨g, rest⟩, hscan, hfinish⟩ := exists_of_bind_eq_ok hall
    cases rest with
    | nil => exact ⟨g, hscan, hfinish⟩
    | cons c rest => cases hfinish

theorem readInstant_of_offset (hscan : scanItems strictItems {} cs = .ok (g, rest))
    (hoffset : scanOffset .colon rest = some (offset, [])) (hclock : g.wallClock = .ok u)
    (hinstant : atOffset u offset = some t) : readInstant (String.ofList cs) = .ok t := by
  have hstrict : readStrict? cs = some t := by
    unfold readStrict?
    rw [hscan]
    change (scanOffset .colon rest >>= _) = _
    rw [hoffset]
    change (okToOption g.wallClock >>= _) = _
    rw [hclock]
    exact hinstant
  unfold readInstant
  rw [String.toList_ofList, hstrict]

end Reading

/-- A year with a sign is not read in the notation with an offset. -/
theorem scanItems_signed {c : Char} (hc : c.isDigit = false) (cs : List Char) (f : Parts)
    (rest : List Char) : scanItems strictItems {} (c :: cs) ≠ .ok (f, rest) := by
  have hnone : (c :: cs).takeWhile Char.isDigit = [] :=
    List.takeWhile_cons_of_neg (by rw [hc]; decide)
  have hscan : scanDigits 4 (some 4) (c :: cs) =
      .error (if (c :: cs).length < 4 then .prematureEnd else .invalidCharacter) := by
    unfold scanDigits
    rw [hnone]
    rfl
  change ((scanDigits 4 (some 4) (c :: cs) >>= fun x => _) >>= fun x => _) ≠ _
  rw [hscan]
  nofun

def InEra (w : WallClock) : Prop := 0 ≤ w.date.civil.year ∧ w.date.civil.year ≤ 9999

instance (w : WallClock) : Decidable (InEra w) :=
  inferInstanceAs (Decidable (_ ∧ _))

theorem yearText_of_inEra (h : InEra w) :
    yearText w.date.civil.year = paddedDigits 4 w.date.civil.year.toNat := if_pos h

theorem yearText_signed (h : ¬InEra w) : ∃ sign : Char, sign.isDigit = false ∧
    yearText w.date.civil.year = sign :: paddedDigits 4 w.date.civil.year.natAbs :=
  ⟨if w.date.civil.year < 0 then '-' else '+', by split <;> rfl, if_neg h⟩

def Stamp.of (w : WallClock) (ds : List Char) (hds : ∀ c ∈ ds, c.isDigit = true)
    (h : InEra w) : Stamp :=
  { Fields.of w ds hds with
    year := w.date.civil.year.toNat
    year_lt := by unfold InEra at h; omega }

theorem text_stamp (hds : ∀ c ∈ ds, c.isDigit = true) (hera : InEra w) :
    (Stamp.of w ds hds hera).text = spelling w ds := by
  rw [spelling_eq hds, yearText_of_inEra hera]
  rfl

theorem parts_stamp (hera : InEra w) (hw : w.IsCivil) (hfraction : nanoOf ds = w.shownNano) :
    (Stamp.of w ds hds hera).parts = .ok (Parts.of w) := by
  have hyear : (w.date.civil.year.toNat : Int) = w.date.civil.year := Int.toNat_of_nonneg hera.1
  unfold Stamp.parts
  rw [show (Stamp.of w ds hds hera).year = w.date.civil.year.toNat from rfl, hyear]
  exact setOn_of hw hfraction

theorem scanItems_spelling (hera : InEra w) (hw : w.IsCivil) (hds : ∀ c ∈ ds, c.isDigit = true)
    (hfraction : nanoOf ds = w.shownNano) (hrest : EndsFraction rest) :
    scanItems strictItems {} (spelling w ds ++ rest) = .ok (Parts.of w, rest) := by
  rw [← text_stamp hds hera, strictItems_eq, reads_exact.scanItems_stamp _ hrest,
    parts_stamp hera hw hfraction]
  rfl

/-- Without an offset a clock reading of any year is the instant that it is of. -/
theorem readInstant_spelling (hw : w.IsCivil) (hds : ∀ c ∈ ds, c.isDigit = true)
    (hfraction : nanoOf ds = w.shownNano) :
    readInstant (String.ofList (spelling w ds)) = .ok ⟨w⟩ := by
  have hyear := year_bounds (Date.civil_isValid hw.representable)
  have hloose : scanItems zonelessItems {} (spelling w ds) = .ok (Parts.of w, []) := by
    have hscan := reads_loose.scanItems_fields (f := { year := w.date.civil.year })
      (Fields.of w ds hds) endsFraction_nil
    rw [List.append_nil, setOn_of hw hfraction] at hscan
    have hstop : Stops (Fields.of w ds hds).text := rfl
    rw [spelling_eq hds, zonelessItems_eq,
      scanItems_loose (scanLoose_year hyear hstop) (if_pos hyear)]
    exact hscan
  -- with four digits of a year all is read and the offset is missing, with a sign not even the year
  have hstrict : readStrict? (spelling w ds) = none := by
    refine readStrict?_eq_none fun f rest hscan => ?_
    by_cases hera : InEra w
    · have hall := scanItems_spelling hera hw hds hfraction endsFraction_nil
      rw [List.append_nil, hscan] at hall
      cases hall
      rfl
    · obtain ⟨sign, hsign, htext⟩ := yearText_signed hera
      rw [spelling_eq hds, htext] at hscan
      exact absurd hscan (scanItems_signed hsign _ f rest)
  exact readInstant_of_zoneless hstrict hloose (wallClock_of hw)

theorem twoDigits_paddedDigits {n : Nat} (h : n < 100) (rest : List Char) :
    twoDigits (paddedDigits 2 n ++ rest) = some (n, rest) := by
  have hlength := length_paddedDigits (by decide : 0 < 2) h
  have hdigits := isDigit_of_mem_paddedDigits 2 n
  have hvalue := digitsValue_paddedDigits 2 n
  match hds : paddedDigits 2 n with
  | [a, b] =>
    rw [hds] at hdigits hvalue
    have ha := hdigits a (by simp)
    have hb := hdigits b (by simp)
    simp [twoDigits, ha, hb, hvalue]
  | [] | [_] | _ :: _ :: _ :: _ =>
    rw [hds] at hlength
    simp at hlength

def offsetText (sign : Char) (minutes : Nat) : List Char :=
  sign :: (paddedDigits 2 (minutes / 60) ++ ':' :: paddedDigits 2 (minutes % 60))

/-- Minutes ahead of universal time have a plus, minutes behind it a minus, and none either. -/
def IsSignOf (sign : Char) (minutes : Int) : Prop :=
  sign = '+' ∧ 0 ≤ minutes ∨ sign = '-' ∧ minutes ≤ 0

theorem endsFraction_offset {sign : Char} {minutes : Int} (h : IsSignOf sign minutes) :
    EndsFraction (offsetText sign minutes.natAbs) := by
  rcases h with ⟨rfl, -⟩ | ⟨rfl, -⟩
  · exact ⟨rfl, nofun⟩
  · exact ⟨rfl, nofun⟩

theorem scanOffset_offsetText {sign : Char} {minutes : Int} (hsign : IsSignOf sign minutes)
    (hday : minutes.natAbs < 1440) :
    scanOffset .colon (offsetText sign minutes.natAbs) = some (60 * minutes, []) := by
  have hhours : minutes.natAbs / 60 < 100 := by omega
  have hsecond : minutes.natAbs % 60 < 60 := Nat.mod_lt _ (by decide)
  have hminutes : twoDigits (paddedDigits 2 (minutes.natAbs % 60)) =
      some (minutes.natAbs % 60, []) := by
    have h := twoDigits_paddedDigits (n := minutes.natAbs % 60) (by omega) []
    rwa [List.append_nil] at h
  have hbehind (factor : Int) :
      (twoDigits (paddedDigits 2 (minutes.natAbs / 60) ++
          ':' :: paddedDigits 2 (minutes.natAbs % 60)) >>= fun hours =>
        OffsetStyle.colon.skip hours.2 >>= fun cs => twoDigits cs >>= fun minutes =>
          if minutes.1 < 60 then some (factor * (hours.1 * 3600 + minutes.1 * 60), minutes.2)
          else none) =
      some (factor * (60 * minutes.natAbs), ([] : List Char)) := by
    rw [twoDigits_paddedDigits hhours]
    change (twoDigits (paddedDigits 2 (minutes.natAbs % 60)) >>= _) = _
    rw [hminutes]
    refine (if_pos hsecond).trans (congrArg (fun n => some (factor * n, [])) ?_)
    omega
  rcases hsign with ⟨rfl, hahead⟩ | ⟨rfl, hbehindZero⟩
  · refine (hbehind 1).trans (congrArg (fun n => some (n, [])) ?_)
    omega
  · refine (hbehind (-1)).trans (congrArg (fun n => some (n, [])) ?_)
    omega

theorem isRepresentable_of_inEra (h : InEra w) : w.date.isRepresentable = true := by
  unfold InEra at h
  rw [Date.isRepresentable_eq]
  simp only [CivilDate.isRepresentable, Bool.and_eq_true, decide_eq_true_eq]
  omega

theorem isCivil_of_nano (hdate : w.date.isRepresentable = true) (hnano : w.nano < 1000000000) :
    w.IsCivil :=
  ⟨hdate, fun hleap => absurd hnano (Nat.not_lt.mpr hleap)⟩

/-- The clock reading ahead of an instant by an offset is of that instant. -/
theorem atOffset_addSeconds {offset : Int} (hday : -86400 < offset ∧ offset < 86400)
    (h : w.date.isRepresentable = true) : atOffset (w.addSeconds offset) offset = some ⟨w⟩ := by
  unfold atOffset
  rw [if_pos hday, WallClock.addSeconds_addSeconds, Int.add_right_neg, WallClock.addSeconds_zero]
  exact if_pos h

/-- An accepted date and time stays the same instant with the mark of universal time behind it. -/
theorem readInstant_universal (s : Stamp) {t : Instant}
    (h : readInstant (String.ofList s.text) = .ok t) :
    readInstant (String.ofList (s.text ++ ['Z'])) = .ok t := by
  have hstrict {rest : List Char} (hrest : EndsFraction rest) :
      scanItems strictItems {} (s.text ++ rest) = s.parts.map fun g => (g, rest) :=
    reads_exact.scanItems_stamp s hrest
  have hloose : scanItems zonelessItems {} (s.text ++ []) = s.parts.map fun g => (g, []) :=
    reads_loose.scanItems_stamp s endsFraction_nil
  have hnone : readStrict? s.text = none := by
    refine readStrict?_eq_none fun f rest hscan => ?_
    have hall := hstrict endsFraction_nil
    rw [List.append_nil, hscan] at hall
    obtain ⟨g, -, hrest⟩ := exists_of_map_eq_ok hall.symm
    exact (Prod.mk.inj hrest).2.symm
  obtain ⟨g, hscan, hclock⟩ := zoneless_of_readInstant hnone h
  have hparts : s.parts = .ok g := by
    rw [List.append_nil, hscan] at hloose
    obtain ⟨g', hparts, hg⟩ := exists_of_map_eq_ok hloose.symm
    rw [hparts, (Prod.mk.inj hg).1]
  have hcivil := isCivil_of_wallClock (nano_of_scanItems hscan (by decide)) hclock
  have hmarked := hstrict closes_universal.toEndsFraction
  rw [hparts] at hmarked
  exact readInstant_of_offset hmarked rfl hclock (atOffset_zero hcivil.representable)

theorem shownNano_of_nano (h : w.nano < 1000000000) : w.shownNano = w.nano := Nat.mod_eq_of_lt h

/-- A clock reading ahead of an instant or behind it is read, with its offset, as that instant. -/
theorem readInstant_ahead {t : Instant} {minutes : Int} {sign : Char}
    (hnano : t.utc.nano < 1000000000) (hds : ∀ c ∈ ds, c.isDigit = true)
    (hfraction : nanoOf ds = t.utc.nano) (hday : minutes.natAbs < 1440) (hera : InEra t.utc)
    (hlocal : InEra (t.utc.addSeconds (60 * minutes))) (hsign : IsSignOf sign minutes) :
    readInstant (String.ofList (spelling (t.utc.addSeconds (60 * minutes)) ds ++
      offsetText sign minutes.natAbs)) = .ok t := by
  have hcivil := isCivil_of_nano (isRepresentable_of_inEra hlocal) hnano
  have hscan := scanItems_spelling hlocal hcivil hds
    (hfraction.trans (shownNano_of_nano hnano).symm) (endsFraction_offset hsign)
  have hseconds : -86400 < 60 * minutes ∧ 60 * minutes < 86400 := by omega
  exact readInstant_of_offset hscan (scanOffset_offsetText hsign hday) (wallClock_of hcivil)
    (atOffset_addSeconds hseconds (isRepresentable_of_inEra hera))

/-- All spellings of an instant are read as that instant: in universal time without a mark and with
it, and at any offset of whole minutes under a day; the digits of the fraction are the same in all,
and may be any number. A date and time that is accepted stays the same instant with the mark of
universal time behind it. -/
theorem spellings_agree :
    (∀ (t : Instant) (ds : List Char) (minutes : Int), t.utc.nano < 1000000000 →
      (∀ c ∈ ds, c.isDigit = true) → nanoOf ds = t.utc.nano → minutes.natAbs < 1440 →
      InEra t.utc → InEra (t.utc.addSeconds (60 * minutes)) →
      readInstant (String.ofList (spelling t.utc ds)) = .ok t ∧
      readInstant (String.ofList (spelling t.utc ds ++ ['Z'])) = .ok t ∧
      ∀ sign, IsSignOf sign minutes →
        readInstant (String.ofList (spelling (t.utc.addSeconds (60 * minutes)) ds ++
          offsetText sign minutes.natAbs)) = .ok t) ∧
    ∀ (s : Stamp) (t : Instant), readInstant (String.ofList s.text) = .ok t →
      readInstant (String.ofList (s.text ++ ['Z'])) = .ok t := by
  refine ⟨?_, fun s t h => readInstant_universal s h⟩
  intro t ds minutes hnano hds hfraction hday hera hlocal
  have hdate := isRepresentable_of_inEra hera
  have hcivil := isCivil_of_nano hdate hnano
  have hshown : nanoOf ds = t.utc.shownNano := hfraction.trans (shownNano_of_nano hnano).symm
  have hscan := scanItems_spelling hera hcivil hds hshown closes_universal.toEndsFraction
  refine ⟨readInstant_spelling hcivil hds hshown, ?_, fun sign hsign => ?_⟩
  · exact readInstant_of_offset hscan rfl (wallClock_of hcivil) (atOffset_zero hdate)
  · exact readInstant_ahead hnano hds hfraction hday hera hlocal hsign

def newYearsEve : Instant := ⟨{ date := ⟨10956⟩, second := 84600, nano := 7 }⟩

def leapSecond : Instant := ⟨{ date := ⟨10591⟩, second := 86399, nano := 1000000000 }⟩

def leapStamp : Stamp where
  month := 12
  day := 31
  hour := 23
  minute := 59
  second := 60
  fraction := []
  fraction_digits := nofun
  year := 1998

/-- An hour ahead it is the next day, month and year; the fraction has thirteen digits. -/
theorem spellings_agree_newYear :
    readInstant "1999-12-31T23:30:00.0000000071234" = .ok newYearsEve ∧
    readInstant "1999-12-31T23:30:00.0000000071234Z" = .ok newYearsEve ∧
    readInstant "2000-01-01T00:30:00.0000000071234+01:00" = .ok newYearsEve ∧
    readInstant "1998-12-31T23:59:60" = .ok leapSecond ∧
    readInstant "1998-12-31T23:59:60Z" = .ok leapSecond := by
  have hdigits := isDigit_of_mem_paddedDigits 13 71234
  have hfraction : nanoOf (paddedDigits 13 71234) = newYearsEve.utc.nano := rfl
  obtain ⟨hzoneless, hmarked, hahead⟩ := spellings_agree.1 newYearsEve (paddedDigits 13 71234) 60
    (by decide) hdigits hfraction (by decide) (by decide) (by decide)
  have hleap : readInstant "1998-12-31T23:59:60" = .ok leapSecond := by decide +kernel
  exact ⟨hzoneless, hmarked, hahead '+' (.inl ⟨rfl, by decide⟩), hleap,
    spellings_agree.2 leapStamp leapSecond hleap⟩

end Timestamp

end HearingSync
