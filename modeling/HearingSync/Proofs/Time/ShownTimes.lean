import HearingSync.Proofs.Time.Spellings
/-!
The date and the time of day that a case shows. Main statement: set side by side they are read as
the clock reading that they show, cut to milliseconds, in whatever year; so readings that show the
same are less than a millisecond apart.
-/

namespace HearingSync

namespace WallClock

open Timestamp

variable {w : WallClock}

def epochNano (w : WallClock) : Int := w.epochSecond * 1000000000 + w.nano

def toMilli (w : WallClock) : WallClock where
  date := w.date
  second := w.second
  nano := w.nano / 1000000 * 1000000
  second_lt := w.second_lt
  nano_lt := by have h := w.nano_lt; omega

/-- The part cut off is less than a millisecond. -/
theorem epochNano_toMilli (w : WallClock) :
    w.toMilli.epochNano ≤ w.epochNano ∧ w.epochNano < w.toMilli.epochNano + 1000000 := by
  simp only [epochNano, epochSecond, toMilli]
  omega

/-- The date and the time of day as shown are a spelling of the reading cut to milliseconds. -/
theorem spelling_toMilli (hnano : w.nano < 1000000000) :
    w.hearingDateText ++ "T" ++ w.hearingTimeText =
      String.ofList (spelling w.toMilli (paddedDigits 3 (w.shownNano / 1000000))) := by
  have hsecond : w.toMilli.shownSecond = w.shownSecond := by
    simp only [shownSecond, toMilli]
    omega
  have hsome : paddedDigits 3 (w.shownNano / 1000000) ≠ [] := by
    have hlength := width_le_length_paddedDigits 3 (w.shownNano / 1000000)
    exact List.ne_nil_of_length_pos (by omega)
  have htext : w.toMilli.secondText = w.secondText := by
    unfold secondText minuteText
    rw [hsecond]
    rfl
  unfold hearingDateText hearingTimeText spelling
  rw [htext, pointed, if_neg hsome, show ("T" : String) = String.ofList ['T'] from rfl]
  simp only [← String.ofList_append, List.append_assoc]
  rfl

theorem readInstant_shown (hdate : w.date.isRepresentable = true) (hnano : w.nano < 1000000000) :
    readInstant (w.hearingDateText ++ "T" ++ w.hearingTimeText) = .ok ⟨w.toMilli⟩ := by
  have hmilli : w.shownNano / 1000000 < 10 ^ 3 := by
    unfold shownNano
    omega
  have hcivil : w.toMilli.IsCivil := isCivil_of_nano hdate (by dsimp only [toMilli]; omega)
  have hfraction : nanoOf (paddedDigits 3 (w.shownNano / 1000000)) = w.toMilli.shownNano := by
    rw [nanoOf_paddedDigits (by decide) hmilli]
    simp only [shownNano, toMilli]
    omega
  rw [spelling_toMilli hnano]
  exact readInstant_spelling hcivil (isDigit_of_mem_paddedDigits 3 _) hfraction

theorem length_minuteText (w : WallClock) : w.minuteText.length = 5 := by
  have hhour : w.hour < 10 ^ 2 := w.hour_lt.trans (by decide)
  have hminute : w.minute < 10 ^ 2 := w.minute_lt.trans (by decide)
  rw [minuteText, List.length_append, List.length_cons, length_paddedDigits (by decide) hhour,
    length_paddedDigits (by decide) hminute]

/-- The stamp shows the date and the first five characters of the time of day. -/
theorem issuedText_eq (w : WallClock) :
    w.issuedText = w.hearingDateText ++ " " ++ String.ofList (w.hearingTimeText.toList.take 5) := by
  have hminutes : w.hearingTimeText.toList.take 5 = w.minuteText := by
    unfold hearingTimeText secondText
    rw [String.toList_ofList, List.append_assoc, ← length_minuteText w, List.take_left]
  rw [hminutes, hearingDateText, issuedText, show (" " : String) = String.ofList [' '] from rfl]
  simp only [← String.ofList_append, List.append_assoc]
  rfl

/-- The date and the time of day that are shown can be read back, to the millisecond. -/
theorem shown_times_reread (hdate : w.date.isRepresentable = true) (hnano : w.nano < 1000000000) :
    readInstant (w.hearingDateText ++ "T" ++ w.hearingTimeText) = .ok ⟨w.toMilli⟩ ∧
    w.issuedText = w.hearingDateText ++ " " ++ String.ofList (w.hearingTimeText.toList.take 5) ∧
    ∀ v : WallClock, v.date.isRepresentable = true → v.nano < 1000000000 →
      v.hearingDateText = w.hearingDateText → v.hearingTimeText = w.hearingTimeText →
      (v.epochNano - w.epochNano).natAbs < 1000000 := by
  have hread := readInstant_shown hdate hnano
  refine ⟨hread, issuedText_eq w, fun v hdate' hnano' hsameDate hsameTime => ?_⟩
  have hread' := readInstant_shown hdate' hnano'
  rw [hsameDate, hsameTime, hread] at hread'
  have hsame : w.toMilli = v.toMilli := congrArg Instant.utc (Except.ok.inj hread')
  have hv := epochNano_toMilli v
  have hw := epochNano_toMilli w
  rw [hsame] at hw
  omega

def lastNano : WallClock := { date := ⟨-719529⟩, second := 86400 - 1, nano := 1000000000 - 1 }

def lastMilli : WallClock := { date := ⟨-719529⟩, second := 86400 - 1, nano := 999000000 }

def farLeapDay : WallClock := { date := ⟨3672207⟩, second := 32767, nano := 5999999 }

/-- Years with a sign and with five digits, and a fraction that would be rounded up. -/
theorem shown_times_reread_signed :
    readInstant "-0001-12-31T23:59:59.999" = .ok ⟨lastMilli⟩ ∧
    lastNano.issuedText = "-0001-12-31" ++ " " ++ "23:59" ∧
    (lastMilli.epochNano - lastNano.epochNano).natAbs < 1000000 ∧
    readInstant "+12024-02-29T09:06:07.005" = .ok ⟨farLeapDay.toMilli⟩ := by
  obtain ⟨hread, hissued, hclose⟩ := shown_times_reread (w := lastNano) (by decide) (by decide)
  obtain ⟨hread', -, -⟩ := shown_times_reread (w := farLeapDay) (by decide) (by decide)
  have hdate : lastMilli.hearingDateText = lastNano.hearingDateText := rfl
  have htime : lastMilli.hearingTimeText = lastNano.hearingTimeText := by decide +kernel
  exact ⟨hread, hissued, hclose lastMilli (by decide) (by decide) hdate htime, hread'⟩

end WallClock

end HearingSync
