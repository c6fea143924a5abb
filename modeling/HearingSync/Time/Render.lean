import HearingSync.Time.WallClock
/-!
Dates and times as texts: the fields that a case shows, the stored forms, and the form in messages.
-/

namespace HearingSync

def paddedDigits (width n : Nat) : List Char :=
  let ds := Nat.toDigits 10 n
  List.replicate (width - ds.length) '0' ++ ds

/-- Four digits at least; a year before 0 or after 9999 has a sign. -/
def yearText (y : Int) : List Char :=
  if 0 ≤ y ∧ y ≤ 9999 then paddedDigits 4 y.toNat
  else (if y < 0 then '-' else '+') :: paddedDigits 4 y.natAbs

def CivilDate.text (c : CivilDate) : List Char :=
  yearText c.year ++ '-' :: paddedDigits 2 c.month ++ '-' :: paddedDigits 2 c.day

def Date.text (d : Date) : List Char := d.civil.text

namespace WallClock

def minuteText (w : WallClock) : List Char :=
  paddedDigits 2 w.hour ++ ':' :: paddedDigits 2 w.minute

def secondText (w : WallClock) : List Char :=
  w.minuteText ++ ':' :: paddedDigits 2 w.shownSecond

/-- Nothing, milliseconds, microseconds or nanoseconds: the fewest digits that lose nothing. -/
def fractionText (nano : Nat) : List Char :=
  if nano = 0 then []
  else if nano % 1000000 = 0 then '.' :: paddedDigits 3 (nano / 1000000)
  else if nano % 1000 = 0 then '.' :: paddedDigits 6 (nano / 1000)
  else '.' :: paddedDigits 9 nano

def exactTimeText (w : WallClock) : List Char :=
  w.secondText ++ fractionText w.shownNano

def hearingDateText (w : WallClock) : String :=
  String.ofList w.date.text

/-- The time of day that a case shows, cut to milliseconds. -/
def hearingTimeText (w : WallClock) : String :=
  String.ofList (w.secondText ++ '.' :: paddedDigits 3 (w.shownNano / 1000000))

/-- The stamp of the work basket, cut to minutes. -/
def issuedText (w : WallClock) : String :=
  String.ofList (w.date.text ++ ' ' :: w.minuteText)

def text (w : WallClock) : String :=
  String.ofList (w.date.text ++ 'T' :: w.exactTimeText)

end WallClock

def Instant.text (t : Instant) : String :=
  String.ofList (t.utc.date.text ++ 'T' :: t.utc.exactTimeText ++ ['Z'])

def Instant.message (t : Instant) : String :=
  String.ofList (t.utc.date.text ++ ' ' :: t.utc.exactTimeText) ++ " UTC"

end HearingSync
