import Compliance.Calendar.Moment
import Compliance.Number.Exact

/-!
# Instants and the clock

An instant is a count of microseconds. The clock (`utcnow`) has two hands: the wall time, which may
be set back and forth, and the time spent waiting, which only grows and is exact. It counts the
waits as well, so that what comes in a wait that takes no time can be told from what comes before
and after.
-/
namespace Compliance.Calendar

/-- Microseconds since 1970-01-01 in universal time. -/
structure Instant where
  micros : Int
  deriving DecidableEq

instance : LT Instant := ⟨fun a b => a.micros < b.micros⟩
instance : LE Instant := ⟨fun a b => a.micros ≤ b.micros⟩
instance (a b : Instant) : Decidable (a < b) := inferInstanceAs (Decidable (a.micros < b.micros))
instance (a b : Instant) : Decidable (a ≤ b) := inferInstanceAs (Decidable (a.micros ≤ b.micros))

theorem Instant.lt_iff {a b : Instant} : a < b ↔ a.micros < b.micros := Iff.rfl

theorem Instant.le_iff {a b : Instant} : a ≤ b ↔ a.micros ≤ b.micros := Iff.rfl

/-- The instant so many microseconds later. -/
def Instant.later (t : Instant) (micros : Int) : Instant := ⟨t.micros + micros⟩

/-- An instant as a date and time in universal time. -/
def Instant.toMoment (t : Instant) : Moment :=
  let seconds := t.micros.fdiv 1000000
  let day := (seconds.fmod 86400).toNat
  ⟨Date.ofDays (seconds.fdiv 86400), day / 3600, day / 60 % 60, day % 60,
    (t.micros.fmod 1000000).toNat, some 0⟩

/-- An instant in the form used for records. -/
def Instant.iso (t : Instant) : String := t.toMoment.iso

/-- The instant of a moment; one without an offset is taken in universal time. -/
def Moment.instant (m : Moment) : Instant :=
  let seconds := m.date.toDays * 86400 + m.hour * 3600 + m.minute * 60 + m.second
  ⟨seconds * 1000000 + m.micro - m.offset.getD 0⟩

structure Clock where
  /-- The wall time, less the time spent waiting. -/
  wall : Instant
  /-- Seconds spent waiting. -/
  waited : Rat
  /-- The number of waits, those that took no time included. -/
  waits : Nat

/-- The present instant. -/
def Clock.now (c : Clock) : Instant := c.wall.later (Number.roundHalfEven (c.waited * 1000000))

/-- Moves the wall time, forwards or backwards. -/
def Clock.shift (c : Clock) (micros : Int) : Clock :=
  { c with wall := c.wall.later micros }

/-- The clock after one more wait, with which `waited` seconds have been spent in all. -/
def Clock.waitUntil (c : Clock) (waited : Rat) : Clock := { c with waited, waits := c.waits + 1 }

/-- An instant after `previous`: the present one if it is later, otherwise the next microsecond
(`advance`). -/
def advance (now previous : Instant) : Instant :=
  if previous < now then now else previous.later 1

theorem lt_advance (now previous : Instant) : previous < advance now previous := by
  unfold advance
  split
  · assumption
  · simp only [Instant.lt_iff, Instant.later]; omega

theorem le_advance (now previous : Instant) : now ≤ advance now previous := by
  unfold advance
  split
  · simp [Instant.le_iff]
  · simp_all [Instant.lt_iff, Instant.le_iff, Instant.later]; omega

end Compliance.Calendar
