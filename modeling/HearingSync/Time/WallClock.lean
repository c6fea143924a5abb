import HearingSync.Time.Civil
/-!
Clock readings to the nanosecond and instants of universal time. A second may be a leap second:
the one before it then has a nanosecond field of a thousand million or more.
-/

namespace HearingSync

structure WallClock where
  date : Date
  second : Nat
  nano : Nat
  second_lt : second < 86400 := by omega
  nano_lt : nano < 2000000000 := by omega
  deriving DecidableEq, Repr

namespace WallClock

theorem zero_nano_lt : 0 < 2000000000 := by decide

def isBefore (a b : WallClock) : Bool :=
  a.date.number < b.date.number ||
    (a.date.number == b.date.number &&
      (a.second < b.second || (a.second == b.second && a.nano < b.nano)))

instance : LT WallClock := ⟨fun a b => a.isBefore b = true⟩

instance (a b : WallClock) : Decidable (a < b) :=
  inferInstanceAs (Decidable (a.isBefore b = true))

def epochSecond (w : WallClock) : Int :=
  w.date.number * 86400 + w.second

def addSeconds (w : WallClock) (seconds : Int) : WallClock :=
  let total := w.second + seconds
  { date := ⟨w.date.number + total / 86400⟩
    second := (total % 86400).toNat
    nano := w.nano
    second_lt := by omega
    nano_lt := w.nano_lt }

def hour (w : WallClock) : Nat := w.second / 3600

def minute (w : WallClock) : Nat := w.second / 60 % 60

/-- The second of the minute as shown: a leap second is one more. -/
def shownSecond (w : WallClock) : Nat := w.second % 60 + w.nano / 1000000000

def shownNano (w : WallClock) : Nat := w.nano % 1000000000

end WallClock

/-- A point in time, by its clock reading in universal time. -/
structure Instant where
  utc : WallClock
  deriving DecidableEq, Repr

namespace Instant

def epochSecond (t : Instant) : Int := t.utc.epochSecond

instance : LT Instant := ⟨fun a b => a.utc < b.utc⟩

instance (a b : Instant) : Decidable (a < b) :=
  inferInstanceAs (Decidable (a.utc < b.utc))

end Instant

end HearingSync
